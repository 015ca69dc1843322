import Mathlib.Data.List.Forall2
import Switchboard.Proofs.Dispatch
import Switchboard.Proofs.Template.Canonical
import Switchboard.Proofs.Text.Encoding

/-!
Templates by the paths they match. Every list of nonempty pieces is the list of decoded pieces of
some path, so what a template matches shows its segments. A template that matches fewer paths is
more specific, unless both end in a wildcard and have as many literals: then it has more parameters
and is less specific.
-/

namespace Switchboard

namespace Segment

def Fits : Segment → String → Prop
  | .literal text, piece => text = piece
  | .parameter _, _ => True

def Within (inner outer : Segment) : Prop := ∀ piece, inner.Fits piece → outer.Fits piece

def sample (filler : String) : Segment → String
  | .literal text => text
  | .parameter _ => filler

theorem fits_sample (filler : String) (segment : Segment) :
    segment.Fits (segment.sample filler) := by
  cases segment with
  | literal text => rfl
  | parameter name => trivial

theorem within_of_samples {inner outer : Segment} (first : outer.Fits (inner.sample "x"))
    (second : outer.Fits (inner.sample "y")) : inner.Within outer := by
  intro piece fits
  cases outer with
  | parameter name => trivial
  | literal text =>
      cases inner with
      | literal other => exact Eq.trans first fits
      | parameter name =>
          have same : "x" = "y" := Eq.trans (Eq.symm first) second
          exact absurd same (by decide)

theorem isLiteral_of_within {inner outer : Segment} (within : inner.Within outer)
    (literal : outer.isLiteral = true) : inner.isLiteral = true := by
  cases outer with
  | parameter name => cases literal
  | literal text =>
      cases inner with
      | literal other => rfl
      | parameter name =>
          have first : text = "x" := within "x" trivial
          have second : text = "y" := within "y" trivial
          exact absurd (first.symm.trans second) (by decide)

theorem within_symm {inner outer : Segment} (within : inner.Within outer)
    (same : inner.isLiteral = outer.isLiteral) : outer.Within inner := by
  intro piece fits
  cases inner with
  | parameter name => trivial
  | literal text =>
      cases outer with
      | parameter name => cases same
      | literal other =>
          have literal : other = text := within text rfl
          exact literal.symm.trans fits

end Segment

def Covers (outer inner : List Segment) : Prop :=
  List.Forall₂ (fun wide narrow => narrow.Within wide) outer inner

namespace Covers

variable {outer inner : List Segment}

theorem of_samples (first : List.Forall₂ Segment.Fits outer (inner.map (Segment.sample "x")))
    (second : List.Forall₂ Segment.Fits outer (inner.map (Segment.sample "y"))) :
    Covers outer inner := by
  induction outer generalizing inner with
  | nil =>
      cases inner with
      | nil => exact .nil
      | cons => cases first
  | cons wide outer ih =>
      cases inner with
      | nil => cases first
      | cons narrow inner =>
          obtain ⟨firstFits, firstRest⟩ := List.forall₂_cons.mp first
          obtain ⟨secondFits, secondRest⟩ := List.forall₂_cons.mp second
          exact .cons (Segment.within_of_samples firstFits secondFits) (ih firstRest secondRest)

theorem fits (covers : Covers outer inner) {pieces : List String}
    (all : List.Forall₂ Segment.Fits inner pieces) : List.Forall₂ Segment.Fits outer pieces := by
  induction covers generalizing pieces with
  | nil => exact all
  | cons within _ ih =>
      cases all with
      | cons fit rest => exact .cons (within _ fit) (ih rest)

theorem literals_le (covers : Covers outer inner) :
    outer.countP Segment.isLiteral ≤ inner.countP Segment.isLiteral := by
  induction covers with
  | nil => exact Nat.le_refl _
  | cons within _ ih =>
      simp only [List.countP_cons]
      split
      next literal =>
        rw [if_pos (Segment.isLiteral_of_within within literal)]
        omega
      next => omega

theorem symm (covers : Covers outer inner)
    (level : inner.countP Segment.isLiteral ≤ outer.countP Segment.isLiteral) :
    Covers inner outer := by
  induction covers with
  | nil => exact .nil
  | @cons wide narrow outer inner within rest ih =>
      have fewer := literals_le rest
      simp only [List.countP_cons] at level
      cases wideLiteral : wide.isLiteral with
      | true =>
          have narrowLiteral := Segment.isLiteral_of_within within wideLiteral
          simp only [wideLiteral, narrowLiteral, if_true] at level
          exact .cons (Segment.within_symm within (narrowLiteral.trans wideLiteral.symm))
            (ih (by omega))
      | false =>
          cases narrowLiteral : narrow.isLiteral with
          | true =>
              simp only [wideLiteral, narrowLiteral, if_true] at level
              exact absurd level (by simp; omega)
          | false =>
              simp only [wideLiteral, narrowLiteral] at level
              exact .cons (Segment.within_symm within (narrowLiteral.trans wideLiteral.symm))
                (ih (by simpa using level))

end Covers

namespace Template

def Matches (template : Template) (path : String) : Prop :=
  ∃ captures, template.captures? path = some captures

def Accepts (template : Template) (pieces : List String) : Prop :=
  ∃ front rest, pieces = front ++ rest ∧ List.Forall₂ Segment.Fits template.segments front ∧
    (template.wildcard = false → rest = [])

theorem exists_front_cons {segment : Segment} {segments : List Segment} {piece : String}
    {pieces rest : List String} :
    (∃ front, piece :: pieces = front ++ rest ∧
        List.Forall₂ Segment.Fits (segment :: segments) front) ↔
      segment.Fits piece ∧
        ∃ front, pieces = front ++ rest ∧ List.Forall₂ Segment.Fits segments front := by
  constructor
  · rintro ⟨front, split, all⟩
    cases all with
    | cons fits later =>
        obtain ⟨rfl, rfl⟩ := List.cons.inj split
        exact ⟨fits, _, rfl, later⟩
  · rintro ⟨fits, front, rfl, later⟩
    exact ⟨piece :: front, rfl, .cons fits later⟩

theorem capture?_iff {segments : List Segment} {pieces rest : List String} :
    (∃ captures, capture? segments pieces = some (captures, rest)) ↔
      ∃ front, pieces = front ++ rest ∧ List.Forall₂ Segment.Fits segments front := by
  fun_induction capture? segments pieces with
  | case1 pieces => simp
  | case2 segment segments => simp [List.forall₂_cons_left_iff]
  | case3 segments piece pieces ih =>
      rw [exists_front_cons, ← ih]
      exact (and_iff_right rfl).symm
  | case4 text segments piece pieces different =>
      rw [exists_front_cons]
      constructor
      · rintro ⟨captures, found⟩
        cases found
      · rintro ⟨same, -⟩
        exact absurd same different
  | case5 name segments piece pieces ih =>
      rw [exists_front_cons, ← ih]
      constructor
      · rintro ⟨captures, found⟩
        obtain ⟨⟨later, left⟩, inner, same⟩ := Option.map_eq_some_iff.mp found
        obtain ⟨-, rfl⟩ := Prod.mk.inj same
        exact ⟨trivial, later, inner⟩
      · rintro ⟨-, later, inner⟩
        exact ⟨(name, piece) :: later, by rw [inner]; rfl⟩

theorem matches_iff {template : Template} {path : String} :
    template.Matches path ↔ template.Accepts (decodedPieces path) := by
  have read : template.Matches path ↔ ∃ rest,
      (∃ captures, capture? template.segments (decodedPieces path) = some (captures, rest)) ∧
        (template.wildcard = false → rest = []) := by
    simp only [Matches, captures?_eq_some_iff]
    constructor
    · rintro ⟨_, inner, rest, captured, closed, -⟩
      exact ⟨rest, ⟨inner, captured⟩, closed⟩
    · rintro ⟨rest, ⟨inner, captured⟩, closed⟩
      exact ⟨_, inner, rest, captured, closed, rfl⟩
  rw [read, Accepts]
  constructor
  · rintro ⟨rest, captured, closed⟩
    obtain ⟨front, split, all⟩ := capture?_iff.mp captured
    exact ⟨front, rest, split, all, closed⟩
  · rintro ⟨front, rest, split, all, closed⟩
    exact ⟨rest, capture?_iff.mpr ⟨front, split, all⟩, closed⟩

theorem exists_decodedPieces {pieces : List String} (nonempty : ∀ piece ∈ pieces, piece ≠ "") :
    ∃ path, decodedPieces path = pieces := by
  refine ⟨String.ofList (joined (pieces.map fun piece => Text.percentEncoded piece.toList)), ?_⟩
  have each : ∀ piece ∈ pieces.map fun piece => Text.percentEncoded piece.toList,
      IsPiece piece := by
    intro encoded member
    obtain ⟨piece, inside, rfl⟩ := List.mem_map.mp member
    exact ⟨Text.percentEncoded_ne_nil (by simpa using nonempty piece inside),
      Text.slash_not_mem_percentEncoded _⟩
  rw [decodedPieces, String.toList_ofList, pathPieces_joined each, List.map_map]
  simp [Function.comp_def]

/-- The segments of the narrow template begin with segments that fit in those of the broad one, and
only a wildcard leaves room for more. -/
def Refines (narrow broad : Template) : Prop :=
  ∃ covered extra, narrow.segments = covered ++ extra ∧ Covers broad.segments covered ∧
    (broad.wildcard = false → extra = [] ∧ narrow.wildcard = false)

theorem accepts_of_refines {narrow broad : Template} (refines : narrow.Refines broad)
    {pieces : List String} (accepts : narrow.Accepts pieces) : broad.Accepts pieces := by
  obtain ⟨covered, extra, segments, covers, room⟩ := refines
  obtain ⟨front, rest, rfl, all, closed⟩ := accepts
  have fits := List.forall₂_take covered.length all
  rw [segments, List.take_left] at fits
  refine ⟨front.take covered.length, front.drop covered.length ++ rest, ?_, covers.fits fits, ?_⟩
  · rw [← List.append_assoc, List.take_append_drop]
  · intro shut
    obtain ⟨rfl, narrowShut⟩ := room shut
    have whole : front.length = covered.length := by
      simpa [segments] using all.length_eq.symm
    rw [closed narrowShut, List.append_nil, List.drop_eq_nil_iff]
    omega

def samples (template : Template) (filler : String) : List String :=
  template.segments.map (Segment.sample filler)

theorem accepts_samples (template : Template) (filler : String) {extra : List String}
    (room : template.wildcard = false → extra = []) :
    template.Accepts (template.samples filler ++ extra) := by
  refine ⟨template.samples filler, extra, rfl, ?_, room⟩
  rw [samples, List.forall₂_map_right_iff, List.forall₂_same]
  exact fun segment _ => Segment.fits_sample filler segment

theorem sample_ne_empty {template : Template} (wellFormed : template.WellFormed) {filler : String}
    (nonempty : filler ≠ "") : ∀ piece ∈ template.samples filler, piece ≠ "" := by
  intro piece member
  obtain ⟨segment, inside, rfl⟩ := List.mem_map.mp member
  cases segment with
  | parameter name => exact nonempty
  | literal text =>
      have sound : text.toList ≠ [] := (wellFormed _ inside).1.1
      change text ≠ ""
      simpa using sound

theorem fits_take_of_accepts {narrow broad : Template} {filler : String}
    (accepts : broad.Accepts (narrow.samples filler)) :
    List.Forall₂ Segment.Fits broad.segments
      ((narrow.segments.take broad.segments.length).map (Segment.sample filler)) := by
  obtain ⟨front, rest, split, all, -⟩ := accepts
  have taken : (narrow.samples filler).take broad.segments.length = front := by
    rw [split, all.length_eq, List.take_left]
  rwa [List.map_take, ← samples, taken]

theorem length_of_accepts {template : Template} {pieces : List String}
    (accepts : template.Accepts pieces) (closed : template.wildcard = false) :
    pieces.length = template.segments.length := by
  obtain ⟨front, rest, rfl, all, shut⟩ := accepts
  rw [shut closed, List.append_nil, all.length_eq]

theorem refines_of_within {narrow broad : Template} (wellFormed : narrow.WellFormed)
    (within : ∀ path, narrow.Matches path → broad.Matches path) : narrow.Refines broad := by
  have accepts : ∀ filler ≠ "", ∀ extra, (∀ piece ∈ extra, piece ≠ "") →
      (narrow.wildcard = false → extra = []) → broad.Accepts (narrow.samples filler ++ extra) := by
    intro filler nonempty extra extraNonempty room
    have all : ∀ piece ∈ narrow.samples filler ++ extra, piece ≠ "" := by
      intro piece member
      rcases List.mem_append.mp member with front | back
      · exact sample_ne_empty wellFormed nonempty piece front
      · exact extraNonempty piece back
    obtain ⟨path, decoded⟩ := exists_decodedPieces all
    rw [← decoded, ← matches_iff]
    apply within
    rw [matches_iff, decoded]
    exact narrow.accepts_samples filler room
  have acceptsBare : ∀ filler ≠ "", broad.Accepts (narrow.samples filler) := by
    intro filler nonempty
    simpa using accepts filler nonempty [] (by simp) fun _ => rfl
  refine ⟨narrow.segments.take broad.segments.length, narrow.segments.drop broad.segments.length,
    (List.take_append_drop _ _).symm, ?_, ?_⟩
  · exact Covers.of_samples (fits_take_of_accepts (acceptsBare "x" (by decide)))
      (fits_take_of_accepts (acceptsBare "y" (by decide)))
  · intro closed
    have length := length_of_accepts (acceptsBare "x" (by decide)) closed
    rw [samples, List.length_map] at length
    refine ⟨List.drop_eq_nil_iff.mpr (by omega), ?_⟩
    by_contra wild
    have longer := length_of_accepts
      (accepts "x" (by decide) ["x"] (by simp) fun shut => absurd shut wild) closed
    simp only [samples, List.length_append, List.length_map, List.length_singleton] at longer
    omega

theorem refines_symm {narrow broad : Template} (refines : narrow.Refines broad)
    (literals : narrow.specificity.literals = broad.specificity.literals)
    (length : narrow.segments.length = broad.segments.length)
    (wildcard : narrow.wildcard = broad.wildcard) : broad.Refines narrow := by
  obtain ⟨covered, extra, segments, covers, room⟩ := refines
  have coveredLength : broad.segments.length = covered.length := covers.length_eq
  have none : extra = [] := by
    rw [segments, List.length_append] at length
    exact List.length_eq_zero_iff.mp (by omega)
  rw [none, List.append_nil] at segments
  refine ⟨broad.segments, [], (List.append_nil _).symm, ?_, fun shut => ⟨rfl, wildcard ▸ shut⟩⟩
  rw [segments]
  apply covers.symm
  rw [← segments]
  exact literals.le

theorem literals_le_of_refines {narrow broad : Template} (refines : narrow.Refines broad) :
    broad.specificity.literals ≤ narrow.specificity.literals := by
  obtain ⟨covered, extra, segments, covers, -⟩ := refines
  calc broad.segments.countP Segment.isLiteral
    _ ≤ covered.countP Segment.isLiteral := covers.literals_le
    _ ≤ narrow.segments.countP Segment.isLiteral := by simp [segments]

theorem length_le_of_refines {narrow broad : Template} (refines : narrow.Refines broad) :
    broad.segments.length ≤ narrow.segments.length := by
  obtain ⟨covered, extra, segments, covers, -⟩ := refines
  rw [covers.length_eq, segments, List.length_append]
  omega

theorem literals_add_parameters (template : Template) :
    template.specificity.literals + template.specificity.parameters = template.segments.length :=
  Nat.add_sub_cancel' List.countP_le_length

theorem specificity_of_refines {narrow broad : Template} (refines : narrow.Refines broad)
    (strict : ¬broad.Refines narrow) :
    if narrow.wildcard ∧ broad.wildcard ∧
        narrow.specificity.literals = broad.specificity.literals then
      broad.specificity.parameters < narrow.specificity.parameters ∧
        narrow.specificity < broad.specificity
    else broad.specificity < narrow.specificity := by
  have literals := literals_le_of_refines refines
  have length := length_le_of_refines refines
  have narrowSum := narrow.literals_add_parameters
  have broadSum := broad.literals_add_parameters
  have shape : narrow.specificity.literals = broad.specificity.literals →
      narrow.wildcard = broad.wildcard → broad.segments.length < narrow.segments.length := by
    intro level wildcard
    by_contra longer
    exact strict (refines_symm refines level (by omega) wildcard)
  have closed : broad.wildcard = false →
      narrow.wildcard = false ∧ narrow.segments.length = broad.segments.length := by
    intro shut
    obtain ⟨covered, extra, segments, covers, room⟩ := refines
    obtain ⟨rfl, narrowShut⟩ := room shut
    exact ⟨narrowShut, by rw [segments, List.append_nil, covers.length_eq]⟩
  split
  next both =>
    obtain ⟨narrowWild, broadWild, level⟩ := both
    have longer := shape level (narrowWild.trans broadWild.symm)
    have sameClosed : narrow.specificity.closed = broad.specificity.closed := by
      simp [specificity, narrowWild, broadWild]
    have parameters : broad.specificity.parameters < narrow.specificity.parameters := by omega
    rw [Specificity.lt_iff]
    exact ⟨parameters, .inr ⟨level, .inr ⟨by rw [sameClosed], parameters⟩⟩⟩
  next apart =>
    rw [Specificity.lt_iff]
    by_cases level : narrow.specificity.literals = broad.specificity.literals
    · refine .inr ⟨level.symm, .inl ?_⟩
      cases broadWild : broad.wildcard with
      | false =>
          obtain ⟨narrowShut, sameLength⟩ := closed broadWild
          exact absurd (shape level (narrowShut.trans broadWild.symm)) (by omega)
      | true =>
          have narrowShut : narrow.wildcard = false := by
            by_contra wild
            exact apart ⟨by simpa using wild, broadWild, level⟩
          simp [specificity, narrowShut, broadWild]
    · exact .inl (by omega)

end Template

theorem Table.template_ne_of_specificity_lt {m : Type → Type} {table : Table m}
    {exchange received : Exchange} {own entry : Entry m} {lower : Template}
    (member : own ∈ table.forMethod exchange.method) (matching : own.Matches exchange.path)
    (below : lower.specificity < own.template.specificity)
    (selected : table.select exchange = some (entry, received)) : entry.template ≠ lower := by
  obtain ⟨leader, captures, leads, -, fits, -⟩ := select_eq_some selected
  intro same
  have leaderTemplate : leader.template = lower := fits.holds.1.symm.trans same
  apply leads.holds.narrowest own member matching
  rwa [leaderTemplate]

namespace Template

/-- A template that matches fewer paths than another is more specific, and where it matches the
other is not selected. Of two wildcard templates with as many literals it has more parameters and is
less specific. -/
theorem narrower_specificity {source : String} {narrow broad : Template}
    (read : parse source = .ok narrow)
    (within : ∀ path, narrow.Matches path → broad.Matches path)
    (strict : ∃ path, broad.Matches path ∧ ¬narrow.Matches path) :
    if narrow.wildcard ∧ broad.wildcard ∧
        narrow.specificity.literals = broad.specificity.literals then
      broad.specificity.parameters < narrow.specificity.parameters ∧
        narrow.specificity < broad.specificity
    else
      broad.specificity < narrow.specificity ∧
      ∀ (m : Type → Type) (table : Table m) (exchange received : Exchange) (own entry : Entry m),
        own ∈ table.forMethod exchange.method → own.template = narrow →
        narrow.Matches exchange.path → table.select exchange = some (entry, received) →
        entry.template ≠ broad := by
  have refines := refines_of_within (wellFormed_of_parse read) within
  have order := specificity_of_refines refines fun backwards => by
    obtain ⟨path, broadly, narrowly⟩ := strict
    rw [matches_iff] at broadly narrowly
    exact narrowly (accepts_of_refines backwards broadly)
  split at order
  next both => rwa [if_pos both]
  next apart =>
    rw [if_neg apart]
    refine ⟨order, ?_⟩
    rintro m table exchange received own entry member rfl matching selected
    exact Table.template_ne_of_specificity_lt member matching order selected

theorem matches_of_refines {narrow broad : Template} (refines : narrow.Refines broad)
    {path : String} (matching : narrow.Matches path) : broad.Matches path := by
  rw [matches_iff] at matching ⊢
  exact accepts_of_refines refines matching

theorem not_matches_of_none {template : Template} {path : String}
    (unmatched : template.captures? path = none) : ¬template.Matches path := by
  rintro ⟨captures, found⟩
  rw [unmatched] at found
  cases found

theorem narrower_specificity_users :
    (⟨[.literal "users", .parameter "id"], false⟩ : Template).specificity <
      (⟨[.literal "users", .literal "me"], false⟩ : Template).specificity := by
  have refines : Refines ⟨[.literal "users", .literal "me"], false⟩
      ⟨[.literal "users", .parameter "id"], false⟩ :=
    ⟨_, [], rfl, .cons (fun _ => id) (.cons (fun _ _ => trivial) .nil), fun _ => ⟨rfl, rfl⟩⟩
  have read : parse "/users/me" = .ok ⟨[.literal "users", .literal "me"], false⟩ := rfl
  have ordered := narrower_specificity read (fun path => matches_of_refines refines)
    ⟨"/users/7", ⟨_, rfl⟩, not_matches_of_none rfl⟩
  rw [if_neg (by simp)] at ordered
  exact ordered.1

def overlapping : List (Table.Call Id) :=
  [.add .get "/{x}/*" none (Handler.fixed 200 []), .add .get "/*" none (Handler.fixed 201 [])]

/-- Of two wildcard templates the one with a parameter matches fewer paths and is passed over. -/
theorem parameter_below_wildcard :
    ∃ narrow broad : Template, parse "/{x}/*" = .ok narrow ∧ parse "/*" = .ok broad ∧
      (∀ path, narrow.Matches path → broad.Matches path) ∧
      (∃ path, broad.Matches path ∧ ¬narrow.Matches path) ∧
      ¬broad.specificity < narrow.specificity ∧
      narrow.Matches "/a" ∧
      ((Table.build overlapping).select
        (.ofRequest ⟨.get, ⟨none, none, "/a", none⟩, .empty, []⟩)).map
          (fun selected => selected.1.template) = some broad := by
  have refines : Refines ⟨[.parameter "x"], true⟩ ⟨[], true⟩ :=
    ⟨[], _, rfl, .nil, fun shut => absurd shut (by simp)⟩
  refine ⟨⟨[.parameter "x"], true⟩, ⟨[], true⟩, rfl, rfl, fun path => matches_of_refines refines,
    ⟨"/", ⟨_, rfl⟩, not_matches_of_none rfl⟩, by decide, ⟨_, rfl⟩, ?_⟩
  rfl

end Template

end Switchboard
