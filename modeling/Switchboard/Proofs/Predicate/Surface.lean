import Mathlib.Data.List.Induction
import Switchboard.Proofs.Predicate.Parsing

/-!
What stands in an expression outside parentheses and argument brackets. Read character by character,
every operand leaves the reader as deep in parentheses as it was. So the keyword between the parts
of a chain is seen outside, and an expression that shows no `or` there is a single conjunction.
-/

namespace Switchboard.Predicate

open Grammar
open Text (isBlank)

/-- Where a reader is: outside brackets, before an argument, in a bare one or after a quoted one, or
between quotes; and in how many parentheses. -/
inductive Place where
  | outside (depth : Nat)
  | argument (depth : Nat)
  | bare (depth : Nat)
  | quoted (quote : Char) (depth : Nat)
  deriving DecidableEq

namespace Place

def afterBare (depth : Nat) (c : Char) : Place :=
  if c = ']' then .outside depth else if c = ',' then .argument depth else .bare depth

def after : Place → Char → Place
  | .outside depth, c =>
    if c = '(' then .outside (depth + 1)
    else if c = ')' then .outside (depth - 1)
    else if c = '[' then .argument depth
    else .outside depth
  | .argument depth, c =>
    if isBlank c then .argument depth
    else if isQuote c then .quoted c depth
    else afterBare depth c
  | .bare depth, c => afterBare depth c
  | .quoted quote depth, c => if c = quote then .bare depth else .quoted quote depth

def through (place : Place) (text : List Char) : Place := text.foldl after place

theorem through_append (place : Place) (front back : List Char) :
    place.through (front ++ back) = (place.through front).through back :=
  List.foldl_append

theorem through_eq_self {place : Place} {text : List Char}
    (each : ∀ c ∈ text, place.after c = place) : place.through text = place := by
  induction text with
  | nil => rfl
  | cons c text ih =>
      have first : place.after c = place := each c List.mem_cons_self
      have others : place.through text = place :=
        ih fun d member => each d (List.mem_cons_of_mem c member)
      rw [through, List.foldl_cons, first]
      exact others

theorem after_outside {depth : Nat} {c : Char} (inert : c ∉ ['(', ')', '[']) :
    (outside depth).after c = .outside depth := by
  simp only [List.mem_cons, List.not_mem_nil, or_false, not_or] at inert
  obtain ⟨opening, closing, bracket⟩ := inert
  rw [after, if_neg opening, if_neg closing, if_neg bracket]

theorem afterBare_eq {depth : Nat} {c : Char} (inert : endsArgument c = false) :
    afterBare depth c = .bare depth := by
  rw [endsArgument, Bool.or_eq_false_iff, decide_eq_false_iff_not, decide_eq_false_iff_not] at inert
  rw [afterBare, if_neg inert.2, if_neg inert.1]

def Free : Place → Prop
  | .quoted .. => False
  | _ => True

theorem after_blank {place : Place} (free : place.Free) {c : Char} (blank : isBlank c) :
    place.after c = place := by
  have inert (sign : Char) (visible : isBlank sign = false) : c ≠ sign := by
    rintro rfl
    rw [visible] at blank
    cases blank
  cases place with
  | outside depth =>
      apply after_outside
      simp [inert '(' rfl, inert ')' rfl, inert '[' rfl]
  | argument depth => rw [after, if_pos blank]
  | bare depth =>
      apply afterBare_eq
      simp [endsArgument, inert ',' rfl, inert ']' rfl]
  | quoted => exact free.elim

end Place

/-- A text with blanks for all that stands in parentheses or brackets. -/
def surface (place : Place) : List Char → List Char
  | [] => []
  | c :: text => (if place = .outside 0 then c else ' ') :: surface (place.after c) text

def surfaceWords (text : List Char) : List (List Char) :=
  (surface (.outside 0) text).splitOnP fun c => !isWordCharacter c

/-- Whether the word `or` occurs outside parentheses and argument brackets. -/
def showsOr (expression : String) : Bool :=
  (surfaceWords expression.toList).contains "or".toList

example : showsOr "(true)or path[a]" = true := by decide

example : showsOr "not (true or false) and path[' or '] and header[or, (or]" = false := by decide

theorem surface_append (place : Place) (front back : List Char) :
    surface place (front ++ back) = surface place front ++ surface (place.through front) back := by
  induction front generalizing place with
  | nil => rfl
  | cons c front ih =>
      rw [List.cons_append, surface, surface, ih, List.cons_append]
      rfl

theorem surface_eq_self {text : List Char} (each : ∀ c ∈ text, c ∉ ['(', ')', '[']) :
    surface (.outside 0) text = text := by
  induction text with
  | nil => rfl
  | cons c text ih =>
      rw [surface, if_pos rfl, Place.after_outside (each c List.mem_cons_self),
        ih fun d member => each d (List.mem_cons_of_mem c member)]

theorem mem_splitOnP {α : Type} {separates : α → Bool} {before run after : List α}
    (whole : ∀ a ∈ run, separates a = false) (left : ∀ a ∈ before.getLast?, separates a)
    (right : ∀ a ∈ after.head?, separates a) :
    run ∈ (before ++ (run ++ after)).splitOnP separates := by
  have front : run ∈ (run ++ after).splitOnP separates := by
    cases after with
    | nil => simp [List.splitOnP_eq_singleton whole]
    | cons a after =>
        rw [List.splitOnP_append_cons _ _ (right a rfl), List.splitOnP_eq_singleton whole]
        exact List.mem_cons_self
  cases before using List.reverseRecOn with
  | nil => exact front
  | append_singleton before a =>
      rw [List.append_assoc, List.singleton_append,
        List.splitOnP_append_cons _ _ (left a (by simp))]
      exact List.mem_append_right _ front

/-! What reading tokens does to the place, however they are spelled -/

def Crosses (start finish : Place) (tokens : List Token) : Prop :=
  ∀ text rest, Spells tokens text rest →
    ∃ spelled, text = spelled ++ rest ∧ start.through spelled = finish

namespace Crosses

variable {start middle finish : Place} {depth : Nat}

theorem nil : Crosses start start [] := by
  intro text rest spells
  cases spells
  exact ⟨[], rfl, rfl⟩

theorem append {tokens others : List Token} (first : Crosses start middle tokens)
    (second : Crosses middle finish others) : Crosses start finish (tokens ++ others) := by
  intro text rest spells
  obtain ⟨left, front, back⟩ := (spells_append _ _).mp spells
  obtain ⟨spelled, rfl, reached⟩ := first text left front
  obtain ⟨more, rfl, finished⟩ := second left rest back
  refine ⟨spelled ++ more, (List.append_assoc _ _ _).symm, ?_⟩
  rw [Place.through_append, reached, finished]

theorem token {start : Place} {token : Token} (free : start.Free)
    (each : ∀ text rest, token.Spells text rest →
      ∃ spelled, text = spelled ++ rest ∧ start.through spelled = finish) :
    Crosses start finish [token] := by
  intro text rest spells
  cases spells with
  | @token blanks text left _ _ _ blank first nothing =>
      cases nothing
      obtain ⟨spelled, rfl, reached⟩ := each text rest first
      refine ⟨blanks ++ spelled, (List.append_assoc _ _ _).symm, ?_⟩
      have waited : start.through blanks = start :=
        Place.through_eq_self fun c member => Place.after_blank free (blank c member)
      rw [Place.through_append, waited, reached]

theorem mark (start : Place) (free : start.Free) (sign : Char) :
    Crosses start (start.after sign) [.mark sign] := by
  apply token free
  rintro text rest ⟨rfl, -⟩
  exact ⟨[sign], rfl, rfl⟩

theorem word (name : String) : Crosses (.outside depth) (.outside depth) [.word name] := by
  have free : (Place.outside depth).Free := trivial
  apply token free
  rintro text rest ⟨rfl, -, inWord, -⟩
  refine ⟨name.toList, rfl, Place.through_eq_self fun c member => Place.after_outside ?_⟩
  intro sign
  have letter := inWord c member
  simp only [List.mem_cons, List.not_mem_nil, or_false] at sign
  rcases sign with rfl | rfl | rfl <;> cases letter

theorem argument (value : String) :
    Crosses (.argument depth) (.bare depth) [.argument value] := by
  have free : (Place.argument depth).Free := trivial
  apply token free
  rintro text rest
    (⟨quote, known, absent, rfl⟩ | ⟨spelled, rfl, -, ⟨c, first, visible, plain⟩, ends, -⟩)
  · refine ⟨[quote] ++ (value.toList ++ [quote]), by simp, ?_⟩
    have opened : (Place.argument depth).through [quote] = .quoted quote depth := by
      change (Place.argument depth).after quote = _
      rw [Place.after, if_neg (by simp [isBlank_of_isQuote known]), if_pos known]
    have within : (Place.quoted quote depth).through value.toList = .quoted quote depth := by
      refine Place.through_eq_self fun c member => if_neg ?_
      rintro rfl
      exact absent member
    have closed : (Place.quoted quote depth).through [quote] = .bare depth := if_pos rfl
    rw [Place.through_append, opened, Place.through_append, within, closed]
  · refine ⟨spelled, rfl, ?_⟩
    cases spelled with
    | nil => cases first
    | cons d spelled =>
        cases first
        have entered : (Place.argument depth).after c = .bare depth := by
          rw [Place.after, if_neg (by simp [visible]), if_neg (by simp [plain])]
          exact Place.afterBare_eq (ends c List.mem_cons_self)
        rw [Place.through, List.foldl_cons, entered]
        exact Place.through_eq_self fun d member =>
          Place.afterBare_eq (ends d (List.mem_cons_of_mem c member))

theorem listed {values : List String} (some : values ≠ []) :
    Crosses (.argument depth) (.outside depth) (Grammar.listed values) := by
  induction values with
  | nil => exact absurd rfl some
  | cons value values ih =>
      cases values with
      | nil => exact (argument value).append (mark (.bare depth) trivial ']')
      | cons next values =>
          have comma := mark (.bare depth) trivial ','
          exact (argument value).append (comma.append (ih (List.cons_ne_nil next values)))

theorem chained {connective : Connective} {parts : List (List Token × Predicate)}
    (each : ∀ part ∈ parts, Crosses (.outside depth) (.outside depth) part.1) :
    Crosses (.outside depth) (.outside depth) (Grammar.chained connective parts) := by
  induction parts with
  | nil => exact nil
  | cons part parts ih =>
      have first := each part List.mem_cons_self
      have others := ih fun other member => each other (List.mem_cons_of_mem part member)
      cases parts with
      | nil => simpa [Grammar.chained] using first
      | cons next parts =>
          rw [chained_cons_cons]
          exact first.append ((word connective.keyword).append others)

end Crosses

theorem Grammar.Derives.crosses {level : Level} {tokens : List Token} {predicate : Predicate}
    (derives : Derives level tokens predicate) (depth : Nat) :
    Crosses (.outside depth) (.outside depth) tokens := by
  induction derives generalizing depth with
  | single _ ih => exact ih depth
  | several _ _ ih => exact Crosses.chained fun part member => ih part member depth
  | negation _ ih => exact (Crosses.word "not").append (ih depth)
  | parentheses _ ih =>
      have opening := Crosses.mark (.outside depth) trivial '('
      have closing := Crosses.mark (.outside (depth + 1)) trivial ')'
      exact opening.append ((ih (depth + 1)).append closing)
  | truth => exact Crosses.word "true"
  | falsehood => exact Crosses.word "false"
  | @named name values _ known =>
      have bracket := Crosses.mark (.outside depth) trivial '['
      exact (Crosses.word name).append (bracket.append (Crosses.listed known.values_ne_nil))

/-! The end of an expression -/

/-- The last token is no argument, so what follows it need not belong to an argument. -/
def Closed (tokens : List Token) : Prop :=
  ∃ earlier token, tokens = earlier ++ [token] ∧ ∀ value, token ≠ .argument value

theorem Closed.append (earlier : List Token) {tokens : List Token} (closed : Closed tokens) :
    Closed (earlier ++ tokens) := by
  obtain ⟨between, token, rfl, plain⟩ := closed
  exact ⟨earlier ++ between, token, (List.append_assoc _ _ _).symm, plain⟩

theorem Closed.ne_nil {tokens : List Token} (closed : Closed tokens) : tokens ≠ [] := by
  obtain ⟨earlier, token, rfl, -⟩ := closed
  simp

theorem closed_chained {connective : Connective} {parts : List (List Token × Predicate)}
    (some : parts ≠ []) (each : ∀ part ∈ parts, Closed part.1) :
    Closed (chained connective parts) := by
  induction parts with
  | nil => exact absurd rfl some
  | cons part parts ih =>
      cases parts with
      | nil => simpa [chained] using each part
      | cons next parts =>
          rw [chained_cons_cons, List.append_cons]
          exact Closed.append _ (ih (List.cons_ne_nil next parts)
            fun other member => each other (List.mem_cons_of_mem part member))

theorem Grammar.Derives.closed {level : Level} {tokens : List Token} {predicate : Predicate}
    (derives : Derives level tokens predicate) : Closed tokens := by
  induction derives with
  | single _ ih => exact ih
  | several many _ ih =>
      refine closed_chained ?_ ih
      rintro rfl
      simp at many
  | negation _ ih => exact ih.append [.word "not"]
  | parentheses => exact ⟨.mark '(' :: _, .mark ')', rfl, by simp⟩
  | truth => exact ⟨[], .word "true", rfl, by simp⟩
  | falsehood => exact ⟨[], .word "false", rfl, by simp⟩
  | @named name values => exact ⟨.word name :: .mark '[' :: _, .mark ']', rfl, by simp⟩

theorem Grammar.Token.Spells.exists_append {token : Token} {text rest : List Char}
    (spells : token.Spells text rest) : ∃ spelled, text = spelled ++ rest := by
  cases token with
  | word name => exact ⟨name.toList, spells.1⟩
  | mark sign => exact ⟨[sign], spells.1⟩
  | argument value =>
      rcases spells with ⟨quote, -, -, rfl⟩ | ⟨spelled, rfl, -⟩
      · exact ⟨quote :: value.toList ++ [quote], by simp⟩
      · exact ⟨spelled, rfl⟩

theorem Grammar.Spells.exists_append {tokens : List Token} {text rest : List Char}
    (spells : Spells tokens text rest) : ∃ spelled, text = spelled ++ rest := by
  induction spells with
  | done rest => exact ⟨[], rfl⟩
  | @token blanks text left rest _ _ _ first _ ih =>
      obtain ⟨front, rfl⟩ := first.exists_append
      obtain ⟨back, rfl⟩ := ih
      exact ⟨blanks ++ (front ++ back), by simp⟩

theorem Closed.boundary {tokens : List Token} (closed : Closed tokens) {text rest : List Char}
    (spells : Spells tokens text rest) :
    ∃ front last, text = front ++ last :: rest ∧
      (isWordCharacter last = false ∨ ∀ c ∈ rest.head?, isWordCharacter c = false) := by
  obtain ⟨earlier, token, rfl, plain⟩ := closed
  obtain ⟨middle, before, final⟩ := (spells_append _ _).mp spells
  obtain ⟨spelled, rfl⟩ := before.exists_append
  cases final with
  | @token blanks ending left _ _ _ _ first nothing =>
      cases nothing
      cases token with
      | argument value => exact absurd rfl (plain value)
      | mark sign =>
          obtain ⟨rfl, known⟩ := first
          refine ⟨spelled ++ blanks, sign, by simp, Or.inl ?_⟩
          simp only [List.mem_cons, List.not_mem_nil, or_false] at known
          rcases known with rfl | rfl | rfl | rfl | rfl <;> rfl
      | word name =>
          obtain ⟨rfl, nonempty, -, stops⟩ := first
          have some : name.toList ≠ [] := fun none => nonempty (String.toList_inj.mp none)
          refine ⟨spelled ++ blanks ++ name.toList.dropLast, name.toList.getLast some, ?_,
            Or.inr stops⟩
          rw [List.append_cons, List.append_assoc _ name.toList.dropLast,
            List.dropLast_concat_getLast some]
          simp only [List.append_assoc]

/-! What is outside -/

theorem not_isWordCharacter_of_isBlank {c : Char} (blank : isBlank c) :
    isWordCharacter c = false := by
  by_contra inWord
  rw [Bool.not_eq_false] at inWord
  rw [isBlank_of_isWordCharacter inWord] at blank
  cases blank

theorem getLast?_surface {place : Place} (front : List Char) {last : Char}
    (separates : isWordCharacter last = false) :
    ∀ c ∈ (surface place (front ++ [last])).getLast?, isWordCharacter c = false := by
  rw [surface_append, surface, surface, List.getLast?_concat]
  rintro c ⟨⟩
  split
  · exact separates
  · rfl

theorem head?_surface {text : List Char}
    (separates : ∀ c ∈ text.head?, isWordCharacter c = false) :
    ∀ c ∈ (surface (.outside 0) text).head?, isWordCharacter c = false := by
  cases text with
  | nil => exact separates
  | cons c text =>
      rw [surface, if_pos rfl]
      exact separates

theorem surface_keyword {blanks : List Char} (blank : ∀ c ∈ blanks, isBlank c)
    (connective : Connective) (left : List Char) :
    surface (.outside 0) (blanks ++ (connective.keyword.toList ++ left)) =
      blanks ++ (connective.keyword.toList ++ surface (.outside 0) left) := by
  have inert : ∀ c ∈ blanks ++ connective.keyword.toList, c ∉ ['(', ')', '['] := by
    intro c member sign
    simp only [List.mem_cons, List.not_mem_nil, or_false] at sign
    rcases List.mem_append.mp member with before | inside
    · have skipped := blank c before
      rcases sign with rfl | rfl | rfl <;> cases skipped
    · cases connective <;> rcases sign with rfl | rfl | rfl <;> simp [Connective.keyword] at inside
  have still : (Place.outside 0).through (blanks ++ connective.keyword.toList) = .outside 0 :=
    Place.through_eq_self fun c member => Place.after_outside (inert c member)
  rw [← List.append_assoc, surface_append, surface_eq_self inert, still, List.append_assoc]

theorem or_mem_surfaceWords {parts : List (List Token × Predicate)} {text : List Char}
    (several : 2 ≤ parts.length) (each : ∀ part ∈ parts, Derives (.chain .and) part.1 part.2)
    (spells : SpellsAll (chained .or parts) text) : "or".toList ∈ surfaceWords text := by
  obtain ⟨first, second, others, rfl⟩ :
      ∃ first second others, parts = first :: second :: others := by
    cases parts with
    | nil => simp at several
    | cons first others =>
        cases others with
        | nil => simp at several
        | cons second others => exact ⟨first, second, others, rfl⟩
  · obtain ⟨rest, spells, -⟩ := spells
    rw [chained_cons_cons, spells_append] at spells
    obtain ⟨left, front, remaining⟩ := spells
    have derives := each first List.mem_cons_self
    obtain ⟨spelled, rfl, outside⟩ := derives.crosses 0 _ _ front
    -- The keyword is outside brackets, and what stands next to it does not run into it.
    obtain ⟨before, last, split, boundary⟩ := derives.closed.boundary front
    cases remaining with
    | @token blanks _ left _ _ _ blank word _ =>
        obtain ⟨rfl, -, inWord, stops⟩ := word
        rw [surfaceWords, surface_append, outside, surface_keyword blank .or, ← List.append_assoc]
        apply mem_splitOnP
        · intro c member
          simp [inWord c member]
        · intro c member
          rw [Bool.not_eq_true']
          cases blanks using List.reverseRecOn with
          | nil =>
              -- Without white space before the keyword, the part before it cannot end in a word.
              obtain rfl : spelled = before ++ [last] := by
                apply List.append_cancel_right
                rw [List.append_assoc]
                exact split
              rw [List.append_nil] at member
              rcases boundary with separates | separates
              · exact getLast?_surface before separates c member
              · cases separates 'o' rfl
          | append_singleton blanks space =>
              obtain rfl : space = c := by simpa using member
              exact not_isWordCharacter_of_isBlank (blank space (by simp))
        · intro c member
          simp [head?_surface stops c member]

/-- An expression that shows no `or` outside is a single conjunction. -/
theorem derives_conjunction {tokens : List Token} {predicate : Predicate} {text : List Char}
    (derives : Derives (.chain .or) tokens predicate) (spells : SpellsAll tokens text)
    (hidden : "or".toList ∉ surfaceWords text) : Derives (.chain .and) tokens predicate := by
  cases derives with
  | single conjunction => exact conjunction
  | several many each => exact absurd (or_mem_surfaceWords many each spells) hidden

end Switchboard.Predicate
