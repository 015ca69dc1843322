import Mathlib.Data.List.Forall2
import Switchboard.Proofs.Dispatch
import Switchboard.Proofs.Template.Canonical
import Switchboard.Proofs.Text.Encoding

/-!
Paths made from values, and values read from paths. A template is filled with a value for each
parameter and the pieces of its wildcard; whatever spelling each piece has and however many slashes
stand between them, a match gives the filling back, and only such paths match.
-/

namespace Switchboard

/-- Pieces with slashes between them, and any number of slashes before, between and after. -/
inductive Slashed : List (List Char) → List Char → Prop where
  | nil : Slashed [] []
  | slash {pieces : List (List Char)} {path : List Char} (rest : Slashed pieces path) :
      Slashed pieces ('/' :: path)
  | piece {piece : List Char} {pieces : List (List Char)} {path : List Char}
      (stops : ∀ c ∈ path.head?, c = '/') (rest : Slashed pieces path) :
      Slashed (piece :: pieces) (piece ++ path)

theorem pathPieces_append_slash (front back : List Char) :
    pathPieces (front ++ '/' :: back) = pathPieces front ++ pathPieces back := by
  rw [pathPieces, List.splitOn_append_cons_self, List.filter_append]
  rfl

theorem pathPieces_slash (path : List Char) : pathPieces ('/' :: path) = pathPieces path :=
  pathPieces_append_slash [] path

theorem pathPieces_of_isPiece {piece : List Char} (isPiece : IsPiece piece) :
    pathPieces piece = [piece] := by
  rw [pathPieces, List.splitOn_eq_singleton isPiece.2]
  simp [isPiece.1]

namespace Slashed

variable {pieces : List (List Char)} {path : List Char}

theorem pathPieces_eq (slashed : Slashed pieces path) (each : ∀ piece ∈ pieces, IsPiece piece) :
    pathPieces path = pieces := by
  induction slashed with
  | nil => rfl
  | slash rest ih => rw [pathPieces_slash, ih each]
  | @piece piece pieces path stops rest ih =>
      have front : pathPieces piece = [piece] := pathPieces_of_isPiece (each piece (by simp))
      have back : pathPieces path = pieces := ih fun other member => each other (by simp [member])
      cases path with
      | nil =>
          rw [List.append_nil, front, ← back]
          rfl
      | cons c path =>
          obtain rfl : c = '/' := stops c rfl
          rw [pathPieces_append_slash, front, ← back, pathPieces_slash]
          rfl

theorem prepend (piece : List Char) (stops : ∀ c ∈ path.head?, c = '/')
    (rest : Slashed pieces path) :
    Slashed ([piece].filter (fun piece => !piece.isEmpty) ++ pieces) (piece ++ path) := by
  cases piece with
  | nil => exact rest
  | cons c piece => exact .piece stops rest

theorem intercalate (pieces : List (List Char)) :
    Slashed (pieces.filter fun piece => !piece.isEmpty) (['/'].intercalate pieces) := by
  induction pieces with
  | nil => exact .nil
  | cons piece pieces ih =>
      cases pieces with
      | nil =>
          have alone := prepend piece (by simp) nil
          rw [List.append_nil, List.append_nil] at alone
          simpa using alone
      | cons next pieces =>
          have joined := prepend piece (by simp) (slash ih)
          rw [← List.filter_append, List.singleton_append] at joined
          simpa using joined

theorem intercalate_of_each (each : ∀ piece ∈ pieces, IsPiece piece) :
    Slashed pieces (['/'].intercalate pieces) := by
  have kept : pieces.filter (fun piece => !piece.isEmpty) = pieces := by
    rw [List.filter_eq_self]
    intro piece member
    simpa using (each piece member).1
  have slashed := intercalate pieces
  rwa [kept] at slashed

end Slashed

theorem slashed_pathPieces (path : List Char) : Slashed (pathPieces path) path := by
  have slashed := Slashed.intercalate (path.splitOn '/')
  rwa [List.intercalate_splitOn] at slashed

/-! Spellings -/

/-- A text without slashes that decodes to the bytes of a value. -/
structure Spells (spelling : List Char) (value : String) : Prop where
  slashless : '/' ∉ spelling
  decoded : Text.percentDecode (Text.utf8 spelling) = Text.utf8 value.toList

namespace Spells

variable {spelling : List Char} {value : String}

theorem ofList_percentDecoded (spells : Spells spelling value) :
    String.ofList (Text.percentDecoded spelling) = value := by
  rw [Text.percentDecoded, spells.decoded, Text.decodeLossy_utf8, String.ofList_toList]

theorem isPiece (spells : Spells spelling value) (nonempty : value ≠ "") : IsPiece spelling := by
  refine ⟨?_, spells.slashless⟩
  rintro rfl
  exact nonempty spells.ofList_percentDecoded.symm

theorem percentEncoded (value : String) : Spells (Text.percentEncoded value.toList) value :=
  ⟨Text.slash_not_mem_percentEncoded _, Text.percentDecode_encoded _⟩

theorem of_forall₂ {spellings : List (List Char)} {values : List String}
    (spelled : List.Forall₂ Spells spellings values) (nonempty : ∀ value ∈ values, value ≠ "") :
    (∀ spelling ∈ spellings, IsPiece spelling) ∧
      spellings.map (fun spelling => String.ofList (Text.percentDecoded spelling)) = values := by
  induction spelled with
  | nil => simp
  | cons spells _ ih =>
      obtain ⟨first, rest⟩ := List.forall_mem_cons.mp nonempty
      obtain ⟨each, decoded⟩ := ih rest
      refine ⟨List.forall_mem_cons.mpr ⟨spells.isPiece first, each⟩, ?_⟩
      rw [List.map_cons, spells.ofList_percentDecoded, decoded]

end Spells

namespace Template

/-- The segments with a value in place of each parameter. -/
def fill : List Segment → List String → List String
  | [], _ => []
  | .literal text :: segments, values => text :: fill segments values
  | .parameter _ :: _, [] => []
  | .parameter _ :: segments, value :: values => value :: fill segments values

def parameterNames (segments : List Segment) : List String := segments.filterMap parameterName?

@[simp]
theorem parameterNames_literal (text : String) (segments : List Segment) :
    parameterNames (.literal text :: segments) = parameterNames segments := rfl

@[simp]
theorem parameterNames_parameter (name : String) (segments : List Segment) :
    parameterNames (.parameter name :: segments) = name :: parameterNames segments := rfl

theorem mem_fill {segments : List Segment} {values : List String}
    (length : values.length = (parameterNames segments).length) {piece : String} :
    piece ∈ fill segments values ↔ .literal piece ∈ segments ∨ piece ∈ values := by
  fun_induction fill segments values with
  | case1 values =>
      obtain rfl : values = [] := List.length_eq_zero_iff.mp length
      simp
  | case2 text segments values ih => simp [ih length, or_assoc]
  | case3 => simp at length
  | case4 name segments value values ih => simp [ih (by simpa using length), or_left_comm]

theorem fill_append {segments : List Segment} {values : List String}
    (length : values.length = (parameterNames segments).length) (more : List String) :
    fill segments (values ++ more) = fill segments values := by
  fun_induction fill segments values with
  | case1 => simp [fill]
  | case2 text segments values ih => rw [fill, ih length]
  | case3 => simp at length
  | case4 name segments value values ih => rw [List.cons_append, fill, ih (by simpa using length)]

theorem capture?_parameter_eq_some_iff {name piece : String} {segments : List Segment}
    {pieces rest : List String} {captures : Captures} :
    capture? (.parameter name :: segments) (piece :: pieces) = some (captures, rest) ↔
      ∃ later, captures = (name, piece) :: later ∧
        capture? segments pieces = some (later, rest) := by
  rw [capture?, Option.map_eq_some_iff]
  constructor
  · rintro ⟨⟨later, left⟩, inner, same⟩
    obtain ⟨rfl, rfl⟩ := Prod.mk.inj same
    exact ⟨later, rfl, inner⟩
  · rintro ⟨later, rfl, inner⟩
    exact ⟨(later, rest), inner, rfl⟩

theorem capture?_eq_some_iff {segments : List Segment} {pieces rest : List String}
    {captures : Captures} :
    capture? segments pieces = some (captures, rest) ↔
      captures.map Prod.fst = parameterNames segments ∧
        pieces = fill segments (captures.map Prod.snd) ++ rest := by
  induction segments generalizing pieces captures with
  | nil =>
      rw [capture?, Option.some.injEq, Prod.mk.injEq, eq_comm (b := captures)]
      simp [fill, parameterNames]
  | cons segment segments ih =>
      cases segment with
      | literal text =>
          cases pieces with
          | nil => simp [capture?, fill]
          | cons piece pieces =>
              simp only [capture?, fill, parameterNames_literal, List.cons_append, List.cons.injEq,
                eq_comm (a := text)]
              split
              next same => simp [ih, same]
              next different => simp [different]
      | parameter name =>
          cases captures with
          | nil => cases pieces <;> simp [capture?]
          | cons capture captures =>
              obtain ⟨other, value⟩ := capture
              cases pieces with
              | nil => simp [capture?, fill]
              | cons piece pieces =>
                  simp only [capture?_parameter_eq_some_iff, List.map_cons, fill,
                    parameterNames_parameter, List.cons_append, List.cons.injEq]
                  constructor
                  · rintro ⟨later, ⟨⟨⟩, rfl⟩, inner⟩
                    obtain ⟨names, left⟩ := ih.mp inner
                    exact ⟨⟨rfl, names⟩, rfl, left⟩
                  · rintro ⟨⟨rfl, names⟩, rfl, left⟩
                    exact ⟨captures, ⟨rfl, rfl⟩, ih.mpr ⟨names, left⟩⟩

/-- A value for each parameter, and the pieces that are left to a wildcard. -/
structure Filling (template : Template) where
  values : List String
  tail : List String
  length : values.length = (parameterNames template.segments).length
  nonempty : ∀ value ∈ values ++ tail, value ≠ ""
  closed : template.wildcard = false → tail = []

namespace Filling

variable {template : Template} (filling : template.Filling)

def pieces : List String := fill template.segments filling.values ++ filling.tail

def captures : Captures :=
  (parameterNames template.segments).zip filling.values ++
    if template.wildcard then [("*", "/".intercalate filling.tail)] else []

theorem pieces_ne_empty (wellFormed : template.WellFormed) :
    ∀ piece ∈ filling.pieces, piece ≠ "" := by
  intro piece member
  rcases List.mem_append.mp member with inside | left
  · rcases (mem_fill filling.length).mp inside with literal | value
    · have sound : piece.toList ≠ [] := (wellFormed _ literal).1.1
      simpa using sound
    · exact filling.nonempty piece (List.mem_append_left _ value)
  · exact filling.nonempty piece (List.mem_append_right _ left)

theorem captures?_eq {path : String} (decoded : decodedPieces path = filling.pieces) :
    template.captures? path = some filling.captures := by
  have enough : (parameterNames template.segments).length ≤ filling.values.length :=
    filling.length.ge
  have found : capture? template.segments (decodedPieces path) =
      some ((parameterNames template.segments).zip filling.values, filling.tail) := by
    rw [capture?_eq_some_iff, List.map_fst_zip enough, List.map_snd_zip filling.length.le]
    exact ⟨rfl, decoded⟩
  exact captures?_eq_some_iff.mpr ⟨_, _, found, filling.closed, rfl⟩

end Filling

theorem decodedPieces_ne_empty {path piece : String} (member : piece ∈ decodedPieces path) :
    piece ≠ "" := by
  obtain ⟨spelling, inside, rfl⟩ := List.mem_map.mp member
  simpa using Text.percentDecoded_ne_nil (isPiece_of_mem_pathPieces inside).1

theorem exists_filling {template : Template} {path : String} {captures : Captures}
    (found : template.captures? path = some captures) :
    ∃ filling : template.Filling,
      decodedPieces path = filling.pieces ∧ captures = filling.captures := by
  obtain ⟨inner, rest, read, closed, rfl⟩ := captures?_eq_some_iff.mp found
  obtain ⟨names, pieces⟩ := capture?_eq_some_iff.mp read
  have length : (inner.map Prod.snd).length = (parameterNames template.segments).length := by
    rw [← names, List.length_map, List.length_map]
  have nonempty : ∀ value ∈ inner.map Prod.snd ++ rest, value ≠ "" := by
    intro value member
    apply decodedPieces_ne_empty
    rw [pieces]
    rcases List.mem_append.mp member with inside | left
    · exact List.mem_append_left _ ((mem_fill length).mpr (.inr inside))
    · exact List.mem_append_right _ left
  have zipped : (parameterNames template.segments).zip (inner.map Prod.snd) = inner := by
    rw [← names, ← List.unzip_fst, ← List.unzip_snd, List.zip_unzip]
  refine ⟨⟨inner.map Prod.snd, rest, length, nonempty, closed⟩, pieces, ?_⟩
  rw [Filling.captures, zipped]

def tailPieces (template : Template) (captures : Captures) : List String :=
  match template.wildcard, captures.getLast? with
  | true, some (_, rest) => (pathPieces rest.toList).map String.ofList
  | _, _ => []

/-- A path with every byte of every piece encoded. -/
def render (template : Template) (captures : Captures) : String :=
  let pieces := fill template.segments (captures.map Prod.snd) ++ template.tailPieces captures
  String.ofList
    ('/' :: ['/'].intercalate (pieces.map fun piece => Text.percentEncoded piece.toList))

namespace Filling

variable {template : Template} (filling : template.Filling)

theorem map_snd_captures :
    filling.captures.map Prod.snd =
      filling.values ++ if template.wildcard then ["/".intercalate filling.tail] else [] := by
  rw [captures, List.map_append, List.map_snd_zip filling.length.le]
  split <;> rfl

theorem tailPieces_captures (slashless : ∀ piece ∈ filling.tail, '/' ∉ piece.toList) :
    template.tailPieces filling.captures = filling.tail := by
  cases wild : template.wildcard with
  | false =>
      rw [filling.closed wild, tailPieces, wild]
  | true =>
      have last : filling.captures.getLast? = some ("*", "/".intercalate filling.tail) := by
        rw [captures, if_pos wild, List.getLast?_concat]
      have each : ∀ piece ∈ filling.tail.map String.toList, IsPiece piece := by
        intro piece member
        obtain ⟨value, inside, rfl⟩ := List.mem_map.mp member
        have nonempty := filling.nonempty value (List.mem_append_right _ inside)
        exact ⟨by simpa using nonempty, slashless value inside⟩
      -- Without slashes inside, the pieces of the join are the pieces joined.
      have split : pathPieces ("/".intercalate filling.tail).toList =
          filling.tail.map String.toList := by
        rw [String.toList_intercalate]
        exact (Slashed.intercalate_of_each each).pathPieces_eq each
      rw [tailPieces, wild, last]
      change (pathPieces ("/".intercalate filling.tail).toList).map String.ofList = _
      rw [split, List.map_map]
      simp [Function.comp_def]

theorem captures?_of_spelled (wellFormed : template.WellFormed) {path : String}
    {spellings : List (List Char)} (spelled : List.Forall₂ Spells spellings filling.pieces)
    (slashed : Slashed spellings path.toList) :
    template.captures? path = some filling.captures := by
  obtain ⟨each, decoded⟩ := Spells.of_forall₂ spelled (filling.pieces_ne_empty wellFormed)
  apply filling.captures?_eq
  rw [decodedPieces, slashed.pathPieces_eq each, decoded]

theorem captures?_render (wellFormed : template.WellFormed)
    (slashless : ∀ piece ∈ filling.tail, '/' ∉ piece.toList) :
    template.captures? (template.render filling.captures) = some filling.captures := by
  have filled : fill template.segments (filling.captures.map Prod.snd) ++
      template.tailPieces filling.captures = filling.pieces := by
    rw [map_snd_captures, fill_append filling.length, tailPieces_captures filling slashless, pieces]
  have spelled : List.Forall₂ Spells
      (filling.pieces.map fun piece => Text.percentEncoded piece.toList) filling.pieces := by
    rw [List.forall₂_map_left_iff, List.forall₂_same]
    exact fun piece _ => Spells.percentEncoded piece
  have each := (Spells.of_forall₂ spelled (filling.pieces_ne_empty wellFormed)).1
  apply filling.captures?_of_spelled wellFormed spelled
  rw [render, filled, String.toList_ofList]
  exact .slash (Slashed.intercalate_of_each each)

end Filling

/-- A path that spells a filling gives its captures, only such paths match, and a match whose tail
has no slash in its pieces is found again in the path rendered from it. -/
theorem captures?_undoes_render {source : String} {template : Template}
    (read : parse source = .ok template) :
    (∀ (filling : template.Filling) (spellings : List (List Char)) (path : String),
      List.Forall₂ Spells spellings filling.pieces → Slashed spellings path.toList →
        template.captures? path = some filling.captures) ∧
    ∀ (path : String) (captures : Captures), template.captures? path = some captures →
      ∃ (filling : template.Filling) (spellings : List (List Char)),
        Slashed spellings path.toList ∧ (∀ spelling ∈ spellings, IsPiece spelling) ∧
          spellings.map (fun spelling => String.ofList (Text.percentDecoded spelling)) =
            filling.pieces ∧
          captures = filling.captures ∧
          ((∀ piece ∈ filling.tail, '/' ∉ piece.toList) →
            template.captures? (template.render captures) = some captures) := by
  have wellFormed := wellFormed_of_parse read
  constructor
  · intro filling spellings path spelled slashed
    exact filling.captures?_of_spelled wellFormed spelled slashed
  · intro path captures found
    obtain ⟨filling, decoded, rfl⟩ := exists_filling found
    refine ⟨filling, pathPieces path.toList, slashed_pathPieces _,
      fun _ => isPiece_of_mem_pathPieces, decoded, rfl, fun slashless => ?_⟩
    exact filling.captures?_render wellFormed slashless

/-- Spellings, slashes that are left out of account, and a tail with a slash inside a piece. -/
theorem captures?_undoes_render_files :
    let template : Template := ⟨[.literal "users", .parameter "id", .literal "files"], true⟩
    parse "/users/\x7bid\x7d/files/*" = .ok template ∧
      template.captures? "//users/4%32/files//a%2Fb/c%/" =
        some [("id", "42"), ("*", "a/b/c%")] := by
  intro template
  have read : parse "/users/\x7bid\x7d/files/*" = .ok template := by decide
  let filling : template.Filling := ⟨["42"], ["a/b", "c%"], rfl, by decide, by decide⟩
  have spelled : List.Forall₂ Spells (pathPieces "//users/4%32/files//a%2Fb/c%/".toList)
      filling.pieces :=
    .cons ⟨by decide, by decide⟩ <| .cons ⟨by decide, by decide⟩ <|
      .cons ⟨by decide, by decide⟩ <| .cons ⟨by decide, by decide⟩ <|
        .cons ⟨by decide, by decide⟩ .nil
  exact ⟨read, (captures?_undoes_render read).1 filling _ _ spelled (slashed_pathPieces _)⟩

end Template

end Switchboard
