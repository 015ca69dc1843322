import Switchboard.Proofs.Predicate.Grammar
import Switchboard.Proofs.Text.Trimming

/-!
What each reader of the parser gives, without the proofs it carries. A reader of one token gives
what the grammar lets that token spell; the others are unfolded one step.
-/

namespace Switchboard.Predicate

open Grammar
open Text (Reading isBlank isBlank_of_head?_skipBlanks skipBlanks trimmed span_iff)

variable {α β : Type} {text later rest : List Char} {value : α}

def Gives (parsed : Parsed text α) (value : α) (rest : List Char) : Prop :=
  ∃ shorter, parsed = .ok ⟨value, rest, shorter⟩

theorem Gives.shorter {parsed : Parsed text α} (gives : Gives parsed value rest) :
    rest.length < text.length :=
  gives.1

@[simp]
theorem gives_ok (reading : Reading text α) :
    Gives (.ok reading) value rest ↔ reading.value = value ∧ reading.rest = rest := by
  obtain ⟨found, left, shorter⟩ := reading
  constructor
  · rintro ⟨_, same⟩
    cases same
    exact ⟨rfl, rfl⟩
  · rintro ⟨rfl, rfl⟩
    exact ⟨shorter, rfl⟩

@[simp]
theorem gives_error (stop : Stop) :
    ¬ Gives (.error stop : Parsed text α) value rest := by
  rintro ⟨_, same⟩
  cases same

/-- What is said of whatever a reader gives is said of the one reading there is. -/
@[simp]
theorem exists_gives_ok (reading : Reading text α) (holds : α → List Char → Prop) :
    (∃ value rest, Gives (.ok reading) value rest ∧ holds value rest) ↔
      holds reading.value reading.rest := by
  simp only [gives_ok, and_assoc, exists_and_left, exists_eq_left']

@[simp]
theorem gives_widen (parsed : Parsed later α) (within : later.length ≤ text.length) :
    Gives (parsed.map (·.widen within)) value rest ↔ Gives parsed value rest := by
  cases parsed with
  | ok reading => simp only [Except.map, Reading.widen, gives_ok]
  | error stop => simp only [Except.map, gives_error]

theorem ofList_eq_iff (front : List Char) (name : String) :
    String.ofList front = name ↔ front = name.toList := by
  rw [← String.toList_inj, String.toList_ofList]

/-! Words -/

theorem spells_word {name : String} :
    Token.Spells text rest (.word name) ↔
      name ≠ "" ∧ word text = name ∧ afterWord text = rest := by
  rw [word, afterWord, ofList_eq_iff, span_iff]
  exact and_left_comm

theorem exists_spells_word (nonempty : word text ≠ "") (holds : String → List Char → Prop) :
    (∃ name left, Token.Spells text left (.word name) ∧ holds name left) ↔
      holds (word text) (afterWord text) := by
  simp only [spells_word]
  constructor
  · rintro ⟨_, _, ⟨-, rfl, rfl⟩, reached⟩
    exact reached
  · intro reached
    exact ⟨_, _, ⟨nonempty, rfl, rfl⟩, reached⟩

theorem afterKeyword?_eq_some {keyword : String} (nonempty : keyword ≠ "") :
    afterKeyword? keyword text = some rest ↔
      Token.Spells (skipBlanks text) rest (.word keyword) := by
  rw [spells_word, afterKeyword?]
  simp [nonempty]

/-! Arguments -/

theorem gives_quoted (quote : Char) (value : String) :
    Gives (quoted quote text) value rest ↔
      text = value.toList ++ quote :: rest ∧ quote ∉ value.toList := by
  have span : text.takeWhile (· ≠ quote) = value.toList ∧
      text.dropWhile (· ≠ quote) = quote :: rest ↔
        text = value.toList ++ quote :: rest ∧ quote ∉ value.toList := by
    rw [span_iff]
    simp only [List.head?_cons, Option.mem_some_iff, forall_eq', decide_eq_true_eq, ne_eq,
      not_true_eq_false, decide_false, and_true]
    exact and_congr_right fun _ => ⟨fun all member => all quote member rfl,
      fun absent c member same => absent (same ▸ member)⟩
  rw [← span, quoted]
  split
  next missing => simp only [gives_error, missing, reduceCtorEq, and_false]
  next last left found =>
    have stops := ((span_iff (· ≠ quote) _).mp ⟨rfl, found⟩).2.2 last rfl
    have ending : last = quote := by simpa using stops
    simp only [gives_ok, ofList_eq_iff, found, ending, List.cons.injEq, true_and]

theorem gives_bare (value : String) :
    Gives (bare text) value rest ↔
      ∃ spelled, text = spelled ++ rest ∧ value.toList = trimmed spelled ∧ trimmed spelled ≠ [] ∧
        (∀ c ∈ spelled, endsArgument c = false) ∧ ∀ c ∈ rest.head?, endsArgument c := by
  have span (spelled : List Char) :
      text.takeWhile (fun c => !endsArgument c) = spelled ∧
        text.dropWhile (fun c => !endsArgument c) = rest ↔
          text = spelled ++ rest ∧ (∀ c ∈ spelled, endsArgument c = false) ∧
            ∀ c ∈ rest.head?, endsArgument c := by
    rw [span_iff]
    simp only [Bool.not_eq_true', Bool.not_eq_false']
  rw [bare]
  split
  next empty =>
    simp only [gives_error, false_iff, not_exists]
    rintro spelled ⟨whole, -, some, all, stops⟩
    obtain ⟨same, -⟩ := (span spelled).mpr ⟨whole, all, stops⟩
    exact some (same ▸ empty)
  next some =>
    rw [gives_ok, ofList_eq_iff]
    constructor
    · rintro ⟨same, left⟩
      obtain ⟨whole, all, stops⟩ := (span _).mp ⟨rfl, left⟩
      exact ⟨_, whole, same.symm, some, all, stops⟩
    · rintro ⟨spelled, whole, same, -, all, stops⟩
      obtain ⟨front, left⟩ := (span spelled).mpr ⟨whole, all, stops⟩
      exact ⟨front ▸ same.symm, left⟩

theorem spellsQuoted_cons {c : Char} {value : String} (quote : isQuote c) :
    Token.Spells (c :: text) rest (.argument value) ↔ Gives (quoted c text) value rest := by
  rw [gives_quoted]
  constructor
  · rintro (⟨_, known, absent, whole⟩ | ⟨spelled, whole, -, ⟨d, first, -, other⟩, -⟩)
    · cases whole
      exact ⟨rfl, absent⟩
    · cases spelled with
      | nil => cases first
      | cons _ spelled =>
          cases whole
          cases first
          rw [quote] at other
          cases other
  · rintro ⟨rfl, absent⟩
    exact Or.inl ⟨c, quote, absent, rfl⟩

theorem trimmed_ne_nil {c : Char} (first : c ∈ text.head?) (visible : isBlank c = false) :
    trimmed text ≠ [] := by
  cases text with
  | nil => cases first
  | cons d others =>
      cases first
      have kept : skipBlanks (c :: others) = c :: others :=
        List.dropWhile_cons_of_neg (by simp [visible])
      rw [trimmed, kept, Ne, List.reverse_eq_nil_iff]
      intro empty
      have blank := List.dropWhile_eq_nil_iff.mp empty c (by simp)
      rw [visible] at blank
      cases blank

theorem gives_argument (visible : ∀ c ∈ text.head?, isBlank c = false) (value : String) :
    Gives (argument text) value rest ↔ Token.Spells text rest (.argument value) := by
  rw [argument.eq_def]
  split
  next => rw [gives_widen, spellsQuoted_cons rfl]
  next => rw [gives_widen, spellsQuoted_cons rfl]
  next single double =>
    rw [gives_bare]
    constructor
    · rintro ⟨spelled, rfl, same, some, all, stops⟩
      refine Or.inr ⟨spelled, rfl, same, ?_, all, stops⟩
      cases spelled with
      | nil => exact absurd rfl some
      | cons c spelled =>
          refine ⟨c, rfl, visible c rfl, ?_⟩
          rw [isQuote, Bool.or_eq_false_iff, decide_eq_false_iff_not, decide_eq_false_iff_not]
          constructor
          · rintro rfl
            exact single _ rfl
          · rintro rfl
            exact double _ rfl
    · rintro (⟨quote, known, -, whole⟩ | ⟨spelled, whole, same, ⟨c, first, front, -⟩, all, stops⟩)
      · rw [isQuote, Bool.or_eq_true, decide_eq_true_eq, decide_eq_true_eq] at known
        rcases known with rfl | rfl
        · exact (single _ whole).elim
        · exact (double _ whole).elim
      · exact ⟨spelled, whole, same, trimmed_ne_nil first front, all, stops⟩

theorem gives_moreArguments (earlier values : List String) :
    Gives (moreArguments earlier text) values rest ↔
      ∃ value left, Token.Spells (skipBlanks text) left (.argument value) ∧
        match skipBlanks left with
        | ',' :: next => Gives (moreArguments (earlier ++ [value]) next) values rest
        | ']' :: next => earlier ++ [value] = values ∧ next = rest
        | _ => False := by
  simp only [← gives_argument (isBlank_of_head?_skipBlanks text)]
  rw [moreArguments.eq_def]
  split
  next stop failed => simp [failed]
  next value left shorter found =>
    simp only [found, exists_gives_ok]
    split
    next next comma => simp only [comma, gives_widen]
    next next bracket => simp only [bracket, gives_ok]
    next => simp [*]

theorem not_spells_argument_bracket (value : String) :
    ¬ Token.Spells (']' :: text) rest (.argument value) := by
  rintro (⟨quote, known, -, whole⟩ | ⟨spelled, whole, -, ⟨c, first, -⟩, all, -⟩)
  · cases whole
    cases known
  · cases spelled with
    | nil => cases first
    | cons c spelled =>
        cases whole
        cases all ']' (by simp)

theorem gives_arguments {values : List String} (some : values ≠ []) :
    Gives (arguments text) values rest ↔ Gives (moreArguments [] text) values rest := by
  rw [arguments]
  split
  next left closed =>
    rw [gives_ok, gives_moreArguments]
    simp only [closed]
    constructor
    · rintro ⟨none, -⟩
      exact absurd none.symm some
    · rintro ⟨value, after, spells, -⟩
      exact absurd spells (not_spells_argument_bracket value)
  next => exact Iff.rfl

/-! Expressions -/

theorem gives_atom (result : Predicate) :
    Gives (atom text) result rest ↔
      ∃ name left, Token.Spells (skipBlanks text) left (.word name) ∧
        if name = "true" ∨ name = "false" then .constant (name = "true") = result ∧ left = rest
        else ∃ values next, skipBlanks left = '[' :: next ∧
          Gives (arguments next) values rest ∧ named name values = .ok result := by
  rw [atom]
  split
  next empty =>
    simp only [gives_error, false_iff, not_exists]
    rintro name left ⟨spells, -⟩
    obtain ⟨nonempty, same, -⟩ := spells_word.mp spells
    exact nonempty (same.symm.trans empty)
  next nonempty =>
    rw [exists_spells_word nonempty]
    simp only [Bool.or_eq_true, decide_eq_true_eq]
    split
    next constant => rw [gives_ok]
    next other =>
      split
      next next opened =>
        simp only [opened, List.cons.injEq, true_and, exists_eq_left']
        split
        next stop failed => simp only [failed, gives_error, false_and, exists_false]
        next values left within found =>
          simp only [found, gives_ok, and_assoc, exists_eq_left']
          split
          next fault unknown => simp only [gives_error, unknown, reduceCtorEq, and_false]
          next predicate known => simp only [gives_ok, known, Except.ok.injEq, and_comm]
      next unopened =>
        simp only [gives_error, false_iff, not_exists]
        rintro values next ⟨opened, -⟩
        exact unopened next opened

def read (text : List Char) : Level → Parsed text Predicate
  | .chain connective => chain connective [] text
  | .operand => operand text

theorem gives_negation (parsed : Parsed later Predicate) (result : Predicate)
    (within : later.length ≤ text.length) :
    Gives (parsed.map fun reading => (reading.map .negation).widen within) result rest ↔
      ∃ inner, Gives parsed inner rest ∧ inner.negation = result := by
  cases parsed with
  | ok reading =>
      change Gives (.ok ((reading.map .negation).widen within)) result rest ↔ _
      simp only [gives_ok, Reading.widen, Reading.map, and_assoc, exists_eq_left', and_comm]
  | error stop => simp only [Except.map, gives_error, false_and, exists_false]

theorem gives_chain (connective : Connective) (earlier : List Predicate) (result : Predicate) :
    Gives (chain connective earlier text) result rest ↔
      ∃ predicate left, Gives (read text (below connective)) predicate left ∧
        match afterKeyword? connective.keyword left with
        | some next => Gives (chain connective (earlier ++ [predicate]) next) result rest
        | none => connective.join (earlier ++ [predicate]) = result ∧ left = rest := by
  generalize first : read text (below connective) = part
  cases connective
  all_goals
    rw [chain.eq_def]
    dsimp only
    split
    next stop failed =>
      obtain rfl := first.symm.trans failed
      simp only [gives_error, false_and, exists_false]
    next predicate left shorter found =>
      obtain rfl := first.symm.trans found
      simp only [exists_gives_ok]
      split
      next next keyword => simp only [keyword, gives_widen]
      next keyword => simp only [keyword, gives_ok]

theorem gives_operand (result : Predicate) :
    Gives (operand text) result rest ↔
      match skipBlanks text with
      | '(' :: inner =>
        ∃ left, Gives (chain .or [] inner) result left ∧ skipBlanks left = ')' :: rest
      | _ =>
        match afterKeyword? "not" text with
        | some next => ∃ inner, Gives (operand next) inner rest ∧ inner.negation = result
        | none => Gives (atom text) result rest := by
  rw [operand]
  split
  next inner opened =>
    simp only [opened]
    split
    next stop failed => simp [failed]
    next predicate left shorter found =>
      simp only [found, gives_ok]
      split
      next closed =>
        simp only [gives_ok, and_assoc, exists_and_left, exists_eq_left', closed, List.cons.injEq,
          true_and]
      next unclosed =>
        simp only [gives_error, and_assoc, exists_and_left, exists_eq_left', false_iff]
        rintro ⟨-, closed⟩
        exact unclosed rest closed
  next other =>
    split
    next next keyword => simp [keyword, gives_negation]
    next keyword => simp [keyword]

/-! Where a part stops, the whole stops. -/

theorem chain_of_error {connective : Connective} {earlier : List Predicate} {stop : Stop}
    (failed : read text (below connective) = .error stop) :
    chain connective earlier text = .error stop := by
  rw [chain.eq_def]
  cases connective with
  | or =>
      change chain .and [] text = .error stop at failed
      simp only [failed]
  | and =>
      change operand text = .error stop at failed
      simp only [failed]

theorem operand_of_error {stop : Stop} (unopened : ∀ inner, skipBlanks text ≠ '(' :: inner)
    (kept : afterKeyword? "not" text = none) (failed : atom text = .error stop) :
    operand text = .error stop := by
  rw [operand]
  split
  next inner opened => exact absurd opened (unopened inner)
  next =>
    split
    next next negated => simp [kept] at negated
    next => exact failed

theorem atom_of_error {next : List Char} {stop : Stop} (some : word (skipBlanks text) ≠ "")
    (named : ¬ (word (skipBlanks text) = "true" || word (skipBlanks text) = "false") = true)
    (opened : skipBlanks (afterWord (skipBlanks text)) = '[' :: next)
    (failed : arguments next = .error stop) : atom text = .error stop := by
  rw [atom, dif_neg some]
  dsimp only
  rw [if_neg named]
  split
  next other found =>
    obtain rfl : next = other := by simpa [opened] using found
    simp only [failed]
  next unopened => exact absurd opened (unopened next)

end Switchboard.Predicate
