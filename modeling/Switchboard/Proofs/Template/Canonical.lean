import Switchboard.Template

/-!
The canonical form of a template. Its pieces are those that were read, so a template that was read
once is read again from what it prints.
-/

namespace Switchboard

def IsPiece (piece : List Char) : Prop := piece ≠ [] ∧ '/' ∉ piece

theorem separator_not_mem_splitOn {separator : Char} {text piece : List Char}
    (member : piece ∈ text.splitOn separator) : separator ∉ piece := by
  induction text generalizing piece with
  | nil => simp_all
  | cons c text ih =>
      rw [List.splitOn_cons_eq_if_modifyHead] at member
      split at member
      next =>
        rcases List.mem_cons.mp member with rfl | later
        · simp
        · exact ih later
      next different =>
        cases split : text.splitOn separator with
        | nil => exact absurd split (List.splitOn_ne_nil _ _)
        | cons front pieces =>
            rw [split, List.modifyHead_cons] at member
            rw [split] at ih
            rcases List.mem_cons.mp member with rfl | later
            · have fresh : separator ∉ front := ih (by simp)
              simp only [beq_iff_eq] at different
              simp [fresh, Ne.symm different]
            · exact ih (by simp [later])

theorem isPiece_of_mem_pathPieces {path piece : List Char} (member : piece ∈ pathPieces path) :
    IsPiece piece := by
  obtain ⟨inside, nonempty⟩ := List.mem_filter.mp member
  exact ⟨by simpa using nonempty, separator_not_mem_splitOn inside⟩

def joined (pieces : List (List Char)) : List Char := pieces.flatMap fun piece => '/' :: piece

theorem intercalate_nil_cons (pieces : List (List Char)) :
    ['/'].intercalate ([] :: pieces) = joined pieces := by
  induction pieces with
  | nil => rfl
  | cons piece pieces ih =>
      cases pieces with
      | nil => simp [joined]
      | cons next pieces => simp_all [joined]

theorem pathPieces_joined {pieces : List (List Char)} (each : ∀ piece ∈ pieces, IsPiece piece) :
    pathPieces (joined pieces) = pieces := by
  have slashless : ∀ piece ∈ [] :: pieces, '/' ∉ piece := by
    intro piece member
    rcases List.mem_cons.mp member with rfl | inside
    · simp
    · exact (each piece inside).2
  have nonempty : ∀ piece ∈ pieces, (!piece.isEmpty) = true := by
    intro piece member
    simpa using (each piece member).1
  rw [pathPieces, ← intercalate_nil_cons, List.splitOn_intercalate _ slashless (by simp),
    List.filter_cons_of_neg (by simp), List.filter_eq_self.mpr nonempty]

namespace Segment

def WellFormed : Segment → Prop
  | .literal text => IsPiece text.toList ∧ ∀ c ∈ text.toList, isMark c = false
  | .parameter name => IsPiece name.toList ∧ ∀ c ∈ name.toList, isBrace c = false

theorem braced?_eq_none {piece : List Char} (plain : ∀ c ∈ piece, isMark c = false) :
    braced? piece = none := by
  cases piece with
  | nil => rfl
  | cons c piece =>
      have mark : isMark c = false := plain c (by simp)
      unfold braced?
      split
      next same =>
        obtain ⟨rfl, -⟩ := List.cons.inj same
        cases mark
      next => rfl

theorem braced?_eq_some {piece name : List Char} (found : braced? piece = some name) :
    piece = '\x7b' :: name ++ ['\x7d'] := by
  unfold braced? at found
  split at found
  next rest =>
    split at found
    next last =>
      obtain ⟨front, rfl⟩ := List.getLast?_eq_some_iff.mp last
      obtain rfl := Option.some.inj found
      rw [List.dropLast_concat, List.cons_append]
    next => cases found
  next => cases found

theorem braced?_braces (name : List Char) : braced? ('\x7b' :: name ++ ['\x7d']) = some name := by
  simp [braced?]

theorem toList_text_parameter (name : String) :
    (text (.parameter name)).toList = '\x7b' :: name.toList ++ ['\x7d'] := by
  simp [text]

theorem wellFormed_of_parse {piece : List Char} {segment : Segment} (isPiece : IsPiece piece)
    (read : parse piece = .ok segment) : segment.WellFormed ∧ segment.text.toList = piece := by
  unfold parse at read
  split at read
  next name found =>
    have whole := braced?_eq_some found
    split at read
    next => cases read
    next sound =>
      cases read
      simp only [Bool.or_eq_true, not_or, Bool.not_eq_true, List.isEmpty_eq_false_iff,
        List.any_eq_false] at sound
      refine ⟨⟨⟨by simpa using sound.1, ?_⟩, by simpa using sound.2⟩, ?_⟩
      · intro member
        apply isPiece.2
        rw [whole]
        simp [show '/' ∈ name by simpa using member]
      · rw [toList_text_parameter, String.toList_ofList, whole]
  next =>
    split at read
    next => cases read
    next plain =>
      cases read
      exact ⟨⟨by simpa using isPiece, by simpa using plain⟩, String.toList_ofList⟩

theorem isPiece_text {segment : Segment} (wellFormed : segment.WellFormed) :
    IsPiece segment.text.toList := by
  cases segment with
  | literal text => exact wellFormed.1
  | parameter name =>
      rw [toList_text_parameter]
      exact ⟨by simp, by simpa using wellFormed.1.2⟩

theorem text_ne_wildcard {segment : Segment} (wellFormed : segment.WellFormed) :
    segment.text.toList ≠ ['*'] := by
  cases segment with
  | literal text =>
      intro star
      have mark : isMark '*' = false := by
        apply wellFormed.2
        rw [show text.toList = ['*'] from star]
        exact List.mem_singleton_self _
      cases mark
  | parameter name =>
      rw [toList_text_parameter]
      intro star
      cases star

theorem parse_text {segment : Segment} (wellFormed : segment.WellFormed) :
    parse segment.text.toList = .ok segment := by
  cases segment with
  | literal text =>
      have plain : text.toList.any isMark = false := by simpa using wellFormed.2
      change parse text.toList = _
      rw [parse, braced?_eq_none wellFormed.2]
      simp [plain]
  | parameter name =>
      have unbraced : name.toList.any isBrace = false := by simpa using wellFormed.2
      have nonempty : name.toList.isEmpty = false := by simpa using wellFormed.1.1
      rw [toList_text_parameter, parse, braced?_braces]
      simp [unbraced, nonempty]

end Segment

namespace Template

def WellFormed (template : Template) : Prop := ∀ segment ∈ template.segments, segment.WellFormed

def pieces (template : Template) : List (List Char) :=
  template.segments.map (·.text.toList) ++ if template.wildcard then [['*']] else []

theorem ofPieces_cons_eq_ok {piece : List Char} {rest : List (List Char)} {template : Template}
    (segmented : piece ≠ ['*']) :
    ofPieces (piece :: rest) = .ok template ↔
      ∃ segment left, Segment.parse piece = .ok segment ∧ ofPieces rest = .ok left ∧
        template = { left with segments := segment :: left.segments } := by
  rw [ofPieces.eq_3 _ _ segmented]
  cases Segment.parse piece with
  | error fault => simp [bind, Except.bind]
  | ok segment =>
      cases ofPieces rest with
      | error fault => simp [bind, Except.bind]
      | ok left => simp [bind, Except.bind, pure, Except.pure, eq_comm]

theorem wellFormed_of_ofPieces {pieces : List (List Char)} {template : Template}
    (each : ∀ piece ∈ pieces, IsPiece piece) (read : ofPieces pieces = .ok template) :
    template.WellFormed ∧ template.pieces = pieces := by
  induction pieces generalizing template with
  | nil =>
      cases read
      exact ⟨by simp [WellFormed], rfl⟩
  | cons piece rest ih =>
      by_cases star : piece = ['*']
      · subst star
        rw [ofPieces] at read
        split at read
        next last =>
          cases read
          rw [List.isEmpty_iff.mp last]
          exact ⟨by simp [WellFormed], rfl⟩
        next => cases read
      · obtain ⟨segment, left, parsed, later, rfl⟩ := (ofPieces_cons_eq_ok star).mp read
        obtain ⟨sound, same⟩ := Segment.wellFormed_of_parse (each piece (by simp)) parsed
        obtain ⟨leftSound, leftSame⟩ := ih (fun piece member => each piece (by simp [member])) later
        refine ⟨?_, ?_⟩
        · intro other member
          rcases List.mem_cons.mp member with rfl | inside
          · exact sound
          · exact leftSound other inside
        · rw [← leftSame, ← same]
          rfl

theorem ofPieces_pieces {template : Template} (wellFormed : template.WellFormed) :
    ofPieces template.pieces = .ok template := by
  obtain ⟨segments, wildcard⟩ := template
  induction segments with
  | nil => cases wildcard <;> rfl
  | cons segment segments ih =>
      have sound : segment.WellFormed := wellFormed segment (by simp)
      have later : ofPieces (pieces ⟨segments, wildcard⟩) = .ok ⟨segments, wildcard⟩ :=
        ih fun other member => wellFormed other (by simp [show other ∈ segments from member])
      exact (ofPieces_cons_eq_ok (Segment.text_ne_wildcard sound)).mpr
        ⟨segment, _, Segment.parse_text sound, later, rfl⟩

theorem isPiece_of_mem_pieces {template : Template} (wellFormed : template.WellFormed)
    {piece : List Char} (member : piece ∈ template.pieces) : IsPiece piece := by
  rcases List.mem_append.mp member with inside | last
  · obtain ⟨segment, segmentMember, rfl⟩ := List.mem_map.mp inside
    exact Segment.isPiece_text (wellFormed segment segmentMember)
  · split at last
    next =>
      rw [List.mem_singleton.mp last]
      exact ⟨by simp, by decide⟩
    next => cases last

theorem toList_text (template : Template) :
    template.text.toList = if template.pieces = [] then ['/'] else joined template.pieces := by
  obtain ⟨segments, wildcard⟩ := template
  have printed : (String.join (segments.map fun segment => "/" ++ segment.text)).toList =
      joined (segments.map (·.text.toList)) := by
    simp [joined, List.flatMap_map]
  cases wildcard with
  | true => simp [text, pieces, printed, joined]
  | false =>
      cases segments with
      | nil => rfl
      | cons segment segments => simpa [text, pieces] using printed

theorem ofText_eq (template : Template) (wellFormed : template.WellFormed) :
    ofText template.text.toList = .ok template := by
  rw [toList_text]
  split
  next empty =>
    rw [← ofPieces_pieces wellFormed, empty]
    rfl
  next nonempty =>
    have rooted : ∃ rest, joined template.pieces = '/' :: rest := by
      cases split : template.pieces with
      | nil => exact absurd split nonempty
      | cons piece pieces => exact ⟨_, rfl⟩
    obtain ⟨rest, front⟩ := rooted
    have pieces := pathPieces_joined fun _ => isPiece_of_mem_pieces wellFormed
    rw [front] at pieces ⊢
    rw [ofText, pieces, ofPieces_pieces wellFormed]

theorem wellFormed_of_parse {source : String} {template : Template}
    (read : parse source = .ok template) : template.WellFormed := by
  unfold parse ofText at read
  split at read
  next found =>
    cases read
    split at found
    next => exact (wellFormed_of_ofPieces (fun _ => isPiece_of_mem_pathPieces) found).1
    next => cases found
  next => cases read

/-- A template that was read is read again from its canonical form. -/
theorem parse_text {source : String} {template : Template} (read : parse source = .ok template) :
    parse template.text = .ok template := by
  rw [parse, ofText_eq template (wellFormed_of_parse read)]

end Template

end Switchboard
