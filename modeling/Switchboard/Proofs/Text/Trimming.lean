import Switchboard.Text.Blank

/-!
Text without white space at its ends. Trimming takes white space only and stops at what is visible,
so trimming again takes nothing.
-/

namespace Switchboard.Text

theorem skipBlanks_of_visible {text : List Char} (visible : ∀ c ∈ text.head?, isBlank c = false) :
    skipBlanks text = text := by
  cases text with
  | nil => rfl
  | cons c text => exact List.dropWhile_cons_of_neg (by simp [visible c rfl])

theorem isBlank_of_head?_skipBlanks (text : List Char) :
    ∀ c ∈ (skipBlanks text).head?, isBlank c = false := by
  intro c first
  have stopped := List.head?_dropWhile_not isBlank text
  rw [show text.dropWhile isBlank = skipBlanks text from rfl, Option.mem_def.mp first] at stopped
  exact stopped

@[simp]
theorem skipBlanks_skipBlanks (text : List Char) : skipBlanks (skipBlanks text) = skipBlanks text :=
  skipBlanks_of_visible (isBlank_of_head?_skipBlanks text)

theorem skipBlanks_eq_self_iff {text : List Char} :
    skipBlanks text = text ↔ ∀ c ∈ text.head?, isBlank c = false := by
  refine ⟨fun same => ?_, skipBlanks_of_visible⟩
  have visible := isBlank_of_head?_skipBlanks text
  rwa [same] at visible

theorem skipBlanks_append {back : List Char} (visible : ∀ c ∈ back.head?, isBlank c = false)
    (front : List Char) : skipBlanks (front ++ back) = skipBlanks front ++ back := by
  induction front with
  | nil => exact skipBlanks_of_visible visible
  | cons c front ih =>
      cases blank : isBlank c with
      | true => simpa [skipBlanks, blank] using ih
      | false => simp [skipBlanks, blank]

theorem mem_skipBlanks {text : List Char} {c : Char} (visible : isBlank c = false) :
    c ∈ skipBlanks text ↔ c ∈ text := by
  refine ⟨fun member => (List.dropWhile_sublist isBlank).mem member, fun member => ?_⟩
  rw [← List.takeWhile_append_dropWhile (p := isBlank) (l := text)] at member
  rcases List.mem_append.mp member with skipped | kept
  · have blank := List.all_eq_true.mp List.all_takeWhile c skipped
    rw [visible] at blank
    cases blank
  · exact kept

theorem mem_trimmed {text : List Char} {c : Char} (visible : isBlank c = false) :
    c ∈ trimmed text ↔ c ∈ text := by
  rw [trimmed, List.mem_reverse, mem_skipBlanks visible, List.mem_reverse, mem_skipBlanks visible]

theorem trimmed_append_colon {suffix : List Char}
    (ends : ∀ c ∈ suffix.getLast?, isBlank c = false) (head : List Char) :
    trimmed (head ++ ':' :: suffix) = skipBlanks head ++ ':' :: suffix := by
  have visible : ∀ c ∈ (skipBlanks head ++ ':' :: suffix).reverse.head?, isBlank c = false := by
    intro c last
    rw [List.head?_reverse, List.getLast?_append, List.getLast?_cons, Option.some_or] at last
    cases found : suffix.getLast? with
    | none =>
        rw [found] at last
        cases last
        rfl
    | some d =>
        rw [found] at last
        cases last
        exact ends _ found
  rw [trimmed, skipBlanks_append (by rintro _ ⟨⟩; rfl), skipBlanks_of_visible visible,
    List.reverse_reverse]

theorem trimmed_prefix_skipBlanks (text : List Char) : trimmed text <+: skipBlanks text := by
  have back : skipBlanks (skipBlanks text).reverse <:+ (skipBlanks text).reverse :=
    List.dropWhile_suffix isBlank
  rw [← List.reverse_prefix, List.reverse_reverse] at back
  exact back

theorem isBlank_of_head?_trimmed (text : List Char) :
    ∀ c ∈ (trimmed text).head?, isBlank c = false := by
  intro c first
  obtain ⟨blanks, whole⟩ := trimmed_prefix_skipBlanks text
  apply isBlank_of_head?_skipBlanks text
  rw [← whole, List.head?_append, Option.mem_def.mp first]
  rfl

theorem isBlank_of_getLast?_trimmed (text : List Char) :
    ∀ c ∈ (trimmed text).getLast?, isBlank c = false := by
  intro c last
  rw [trimmed, List.getLast?_reverse] at last
  exact isBlank_of_head?_skipBlanks _ c last

@[simp]
theorem trimmed_trimmed (text : List Char) : trimmed (trimmed text) = trimmed text := by
  have front : skipBlanks (trimmed text) = trimmed text :=
    skipBlanks_of_visible (isBlank_of_head?_trimmed text)
  have back : skipBlanks (trimmed text).reverse = (trimmed text).reverse := by
    apply skipBlanks_of_visible
    rw [List.head?_reverse]
    exact isBlank_of_getLast?_trimmed text
  change (skipBlanks (skipBlanks (trimmed text)).reverse).reverse = _
  rw [front, back, List.reverse_reverse]

theorem trim_eq_empty_iff {text : String} :
    trim text = "" ↔ ∀ c ∈ text.toList, isBlank c = true := by
  rw [trim, String.ofList_eq_empty_iff]
  constructor
  · intro empty c member
    cases visible : isBlank c with
    | true => rfl
    | false =>
        have kept := (mem_trimmed visible).mpr member
        rw [empty] at kept
        cases kept
  · intro blank
    cases left : trimmed text.toList with
    | nil => rfl
    | cons c rest =>
        have visible : isBlank c = false := isBlank_of_head?_trimmed text.toList c (by simp [left])
        have member : c ∈ text.toList := (mem_trimmed visible).mp (by simp [left])
        rw [blank c member] at visible
        cases visible

@[simp]
theorem trim_trim (text : String) : trim (trim text) = trim text := by
  rw [trim, trim, String.toList_ofList, trimmed_trimmed]

end Switchboard.Text
