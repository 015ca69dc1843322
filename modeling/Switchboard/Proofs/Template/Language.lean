import Switchboard.Proofs.Template.Canonical

/-!
The template language. A text is accepted exactly if it begins with a slash and each of its pieces
is a literal, a name in braces or, at the end, the wildcard. A template is its pieces and nothing
more: it is read again from its canonical form, and two texts give equal templates exactly if their
canonical forms are equal, which is if they have the same pieces.
-/

namespace Switchboard

/-- A piece of one segment: a name in braces, or a text without any mark. -/
inductive IsSegment : List Char → Prop where
  | parameter {name : List Char} (nonempty : name ≠ [])
      (unbraced : '\x7b' ∉ name ∧ '\x7d' ∉ name) : IsSegment ('\x7b' :: name ++ ['\x7d'])
  | literal {text : List Char} (plain : '\x7b' ∉ text ∧ '\x7d' ∉ text ∧ '*' ∉ text) :
      IsSegment text

def AreSegments (pieces : List (List Char)) : Prop :=
  ∀ front piece back, pieces = front ++ piece :: back →
    piece = ['*'] ∧ back = [] ∨ IsSegment piece

theorem areSegments_nil : AreSegments [] := by
  intro front piece back split
  simp at split

theorem areSegments_cons {piece : List Char} {rest : List (List Char)} :
    AreSegments (piece :: rest) ↔
      (piece = ['*'] ∧ rest = [] ∨ IsSegment piece) ∧ AreSegments rest := by
  constructor
  · intro segments
    refine ⟨segments [] piece rest rfl, ?_⟩
    intro front other back split
    exact segments (piece :: front) other back (by rw [split, List.cons_append])
  · rintro ⟨first, later⟩ front other back split
    cases front with
    | nil =>
        cases split
        exact first
    | cons next front =>
        obtain ⟨-, split⟩ := List.cons.inj split
        exact later front other back split

theorem not_isSegment_wildcard : ¬ IsSegment ['*'] := by
  generalize star : ['*'] = piece
  intro segment
  cases segment with
  | parameter => cases star
  | literal plain =>
      subst star
      exact plain.2.2 List.mem_cons_self

namespace Segment

theorem any_eq_false_iff_not_mem (marks : List Char) {text : List Char} {test : Char → Bool}
    (tests : ∀ c, test c = true ↔ c ∈ marks) :
    text.any test = false ↔ ∀ mark ∈ marks, mark ∉ text := by
  rw [List.any_eq_false]
  constructor
  · intro none mark marked member
    exact none mark member ((tests mark).mpr marked)
  · intro none c member marked
    exact none c ((tests c).mp marked) member

theorem any_isBrace {text : List Char} :
    text.any isBrace = false ↔ '\x7b' ∉ text ∧ '\x7d' ∉ text := by
  rw [any_eq_false_iff_not_mem ['\x7b', '\x7d'] (by simp [isBrace])]
  simp

theorem any_isMark {text : List Char} :
    text.any isMark = false ↔ '\x7b' ∉ text ∧ '\x7d' ∉ text ∧ '*' ∉ text := by
  rw [any_eq_false_iff_not_mem ['\x7b', '\x7d', '*'] (by simp [isMark, isBrace, or_assoc])]
  simp

theorem isSegment_braced {name : List Char} :
    IsSegment ('\x7b' :: name ++ ['\x7d']) ↔ name ≠ [] ∧ '\x7b' ∉ name ∧ '\x7d' ∉ name := by
  constructor
  · generalize whole : '\x7b' :: name ++ ['\x7d'] = piece
    intro segment
    cases segment with
    | @parameter inner nonempty unbraced =>
        have same := braced?_braces inner
        rw [← whole, braced?_braces, Option.some.injEq] at same
        subst same
        exact ⟨nonempty, unbraced⟩
    | literal plain =>
        subst whole
        exact absurd List.mem_cons_self plain.1
  · rintro ⟨nonempty, unbraced⟩
    exact .parameter nonempty unbraced

theorem exists_parse_iff {piece : List Char} :
    (∃ segment, parse piece = .ok segment) ↔ IsSegment piece := by
  unfold parse
  split
  next name found =>
    rw [braced?_eq_some found, isSegment_braced, ← any_isBrace]
    split
    next refused =>
      simp only [reduceCtorEq, exists_false, false_iff]
      rintro ⟨nonempty, unbraced⟩
      simp [nonempty, unbraced] at refused
    next accepted =>
      simpa using accepted
  next unbraced =>
    split
    next marked =>
      simp only [reduceCtorEq, exists_false, false_iff]
      intro segment
      cases segment with
      | @parameter name =>
          rw [braced?_braces] at unbraced
          cases unbraced
      | literal plain =>
          rw [any_isMark.mpr plain] at marked
          cases marked
    next plain =>
      have plain : piece.any isMark = false := by simpa using plain
      simp only [Except.ok.injEq, exists_eq', true_iff]
      exact .literal (any_isMark.mp plain)

end Segment

namespace Template

theorem exists_ofPieces_iff {pieces : List (List Char)} :
    (∃ template, ofPieces pieces = .ok template) ↔ AreSegments pieces := by
  induction pieces with
  | nil => exact iff_of_true ⟨_, rfl⟩ areSegments_nil
  | cons piece rest ih =>
      rw [areSegments_cons, ← ih]
      by_cases star : piece = ['*']
      · subst star
        have alone : ['*'] = ['*'] ∧ rest = [] ∨ IsSegment ['*'] ↔ rest = [] := by
          simp [not_isSegment_wildcard]
        rw [alone, ofPieces]
        cases rest with
        | nil => simp [ofPieces]
        | cons next rest => simp
      · have segmented : piece = ['*'] ∧ rest = [] ∨ IsSegment piece ↔ IsSegment piece := by
          simp [star]
        rw [segmented, ← Segment.exists_parse_iff]
        simp only [ofPieces_cons_eq_ok star]
        constructor
        · rintro ⟨_, segment, left, read, later, -⟩
          exact ⟨⟨segment, read⟩, left, later⟩
        · rintro ⟨⟨segment, read⟩, left, later⟩
          exact ⟨_, segment, left, read, later, rfl⟩

theorem parse_eq_ok_iff {source : String} {template : Template} :
    parse source = .ok template ↔
      source.toList.head? = some '/' ∧ ofPieces (pathPieces source.toList) = .ok template := by
  have characters : parse source = .ok template ↔ ofText source.toList = .ok template := by
    rw [parse]
    cases ofText source.toList with
    | ok found => simp
    | error fault => simp
  rw [characters, ofText.eq_def]
  split
  next rest rooted => simp [rooted]
  next relative =>
    simp only [reduceCtorEq, false_iff, not_and]
    intro rooted
    obtain ⟨rest, whole⟩ := List.head?_eq_some_iff.mp rooted
    exact absurd whole (relative rest)

theorem pieces_of_parse {source : String} {template : Template}
    (read : parse source = .ok template) : template.pieces = pathPieces source.toList :=
  (wellFormed_of_ofPieces (fun _ => isPiece_of_mem_pathPieces) (parse_eq_ok_iff.mp read).2).2

theorem eq_iff_pieces_eq {source other : String} {template second : Template}
    (read : parse source = .ok template) (again : parse other = .ok second) :
    template = second ↔ pathPieces source.toList = pathPieces other.toList := by
  constructor
  · rintro rfl
    rw [← pieces_of_parse read, ← pieces_of_parse again]
  · intro same
    have first := (parse_eq_ok_iff.mp read).2
    rw [same, (parse_eq_ok_iff.mp again).2] at first
    exact (Except.ok.inj first).symm

theorem eq_iff_text_eq {source other : String} {template second : Template}
    (read : parse source = .ok template) (again : parse other = .ok second) :
    template = second ↔ template.text = second.text := by
  constructor
  · rintro rfl
    rfl
  · intro same
    have printed := parse_text read
    rw [same, parse_text again] at printed
    exact (Except.ok.inj printed).symm

/-- A text is accepted exactly if it is of the language, a template is read again from what it
prints, and it is equal to another exactly if both print the same, which is if the texts that they
were read from have the same pieces. Templates that print the same are not told apart by any
path. -/
theorem parse_language :
    (∀ source, (∃ template, parse source = .ok template) ↔
      source.toList.head? = some '/' ∧ AreSegments (pathPieces source.toList)) ∧
    (∀ source template, parse source = .ok template → parse template.text = .ok template) ∧
    ∀ source other template second, parse source = .ok template → parse other = .ok second →
      (template = second ↔ template.text = second.text) ∧
      (template.text = second.text ↔ pathPieces source.toList = pathPieces other.toList) ∧
      (template.text = second.text →
        template.specificity = second.specificity ∧
          ∀ path, template.captures? path = second.captures? path) := by
  refine ⟨?_, fun source template read => parse_text read, ?_⟩
  · intro source
    rw [← exists_ofPieces_iff, ← exists_and_left]
    exact exists_congr fun template => parse_eq_ok_iff
  · intro source other template second read again
    have texts := eq_iff_text_eq read again
    refine ⟨texts, texts.symm.trans (eq_iff_pieces_eq read again), ?_⟩
    intro same
    obtain rfl := texts.mpr same
    exact ⟨rfl, fun _ => rfl⟩

theorem parse_language_shelf :
    let template : Template := ⟨[.literal "shelf", .parameter "i*d"], true⟩
    parse "//shelf///\x7bi*d\x7d/*/" = .ok template ∧ parse "/shelf/\x7bi*d\x7d/*" = .ok template ∧
      template.text = "/shelf/\x7bi*d\x7d/*" ∧ parse template.text = .ok template ∧
      pathPieces "//shelf///\x7bi*d\x7d/*/".toList = pathPieces "/shelf/\x7bi*d\x7d/*".toList := by
  intro template
  have read : parse "//shelf///\x7bi*d\x7d/*/" = .ok template := by rfl
  have again : parse "/shelf/\x7bi*d\x7d/*" = .ok template := by rfl
  obtain ⟨-, reread, equal⟩ := parse_language
  exact ⟨read, again, by decide, reread _ _ read, (equal _ _ _ _ read again).2.1.mp rfl⟩

end Template

end Switchboard
