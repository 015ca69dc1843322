import Mathlib.Data.List.TakeWhile
import Switchboard.Predicate.Parser

/-!
The grammar of predicate expressions, in two layers: how a token is spelled at the front of a text,
and which tree a list of tokens derives.

    expression  := conjunction ("or" conjunction)*
    conjunction := operand ("and" operand)*
    operand     := "not" operand | "(" expression ")" | "true" | "false"
                 | name "[" argument ("," argument)* "]"
-/

namespace Switchboard.Predicate.Grammar

open Text (isBlank skipBlanks trimmed)

inductive Token where
  | word (name : String)
  | mark (sign : Char)
  | argument (value : String)

def isQuote (c : Char) : Bool := c = '\x27' || c = '\x22'

/-- The text up to the next occurrence of its opening quote, as it is. -/
def SpellsQuoted (value : String) (text rest : List Char) : Prop :=
  ∃ quote, isQuote quote ∧ quote ∉ value.toList ∧ text = quote :: value.toList ++ quote :: rest

/-- The text up to the next comma or bracket, trimmed, where it begins with no quote. -/
def SpellsBare (value : String) (text rest : List Char) : Prop :=
  ∃ spelled, text = spelled ++ rest ∧ value.toList = trimmed spelled ∧
    (∃ c ∈ spelled.head?, isBlank c = false ∧ isQuote c = false) ∧
    (∀ c ∈ spelled, endsArgument c = false) ∧ ∀ c ∈ rest.head?, endsArgument c

/-- How a token is spelled at the front of a text, with the rest. A word is a maximal run. -/
def Token.Spells (text rest : List Char) : Token → Prop
  | .word name => text = name.toList ++ rest ∧ name ≠ "" ∧
      (∀ c ∈ name.toList, isWordCharacter c) ∧ ∀ c ∈ rest.head?, isWordCharacter c = false
  | .mark sign => text = sign :: rest ∧ sign ∈ ['(', ')', '[', ']', ',']
  | .argument value => SpellsQuoted value text rest ∨ SpellsBare value text rest

/-- Tokens at the front of a text, white space before each, with the rest. -/
inductive Spells : List Token → List Char → List Char → Prop
  | done (rest : List Char) : Spells [] rest rest
  | token {blanks text left rest : List Char} {token : Token} {tokens : List Token} :
      (∀ c ∈ blanks, isBlank c) → token.Spells text left → Spells tokens left rest →
      Spells (token :: tokens) (blanks ++ text) rest

def SpellsAll (tokens : List Token) (text : List Char) : Prop :=
  ∃ blanks, Spells tokens text blanks ∧ ∀ c ∈ blanks, isBlank c

inductive Names : String → List String → Predicate → Prop
  | path (whole : String) : Names "path" [whole] (.path whole)
  | pathPrefix (start : String) : Names "path-prefix" [start] (.pathPrefix start)
  | pathSuffix (ending : String) : Names "path-suffix" [ending] (.pathSuffix ending)
  | method (wanted : String) (method : Method) :
      method.name = wanted.toUpper → Names "method" [wanted] (.method method)
  | header (field : String) : Names "header" [field] (.header field none)
  | headerValue (field value : String) : Names "header" [field, value] (.header field (some value))
  | parameter (field : String) : Names "query" [field] (.parameter field none)
  | parameterValue (field value : String) :
      Names "query" [field, value] (.parameter field (some value))

inductive Level where
  | chain (connective : Connective)
  | operand

def below : Connective → Level
  | .or => .chain .and
  | .and => .operand

def node : Connective → List Predicate → Predicate
  | .or, operands => .any operands
  | .and, operands => .all operands

def listed (values : List String) : List Token :=
  (values.map .argument).intersperse (.mark ',') ++ [.mark ']']

def chained (connective : Connective) (parts : List (List Token × Predicate)) : List Token :=
  [.word connective.keyword].intercalate (parts.map Prod.fst)

inductive Derives : Level → List Token → Predicate → Prop
  | single {connective : Connective} {tokens : List Token} {predicate : Predicate} :
      Derives (below connective) tokens predicate → Derives (.chain connective) tokens predicate
  | several {connective : Connective} {parts : List (List Token × Predicate)} :
      2 ≤ parts.length → (∀ part ∈ parts, Derives (below connective) part.1 part.2) →
      Derives (.chain connective) (chained connective parts)
        (node connective (parts.map Prod.snd))
  | negation {tokens : List Token} {predicate : Predicate} :
      Derives .operand tokens predicate →
      Derives .operand (.word "not" :: tokens) (.negation predicate)
  | parentheses {tokens : List Token} {predicate : Predicate} :
      Derives (.chain .or) tokens predicate →
      Derives .operand (.mark '(' :: (tokens ++ [.mark ')'])) predicate
  | truth : Derives .operand [.word "true"] (.constant true)
  | falsehood : Derives .operand [.word "false"] (.constant false)
  | named {name : String} {values : List String} {predicate : Predicate} :
      Names name values predicate →
      Derives .operand (.word name :: .mark '[' :: listed values) predicate

/-! What begins a token is not white space, so a reader that skips white space stops before it. -/

theorem toNat_of_isAlphanum {c : Char} (alphanumeric : c.isAlphanum) :
    48 ≤ c.val.toNat ∧ c.val.toNat ≤ 122 := by
  have within {low high : UInt32} (first : 48 ≤ low.toNat) (last : high.toNat ≤ 122)
      (above : low ≤ c.val) (below : c.val ≤ high) : 48 ≤ c.val.toNat ∧ c.val.toNat ≤ 122 := by
    have least := UInt32.le_iff_toNat_le.mp above
    have greatest := UInt32.le_iff_toNat_le.mp below
    omega
  rcases (Bool.or_eq_true _ _).mp alphanumeric with letter | digit
  · rcases (Bool.or_eq_true _ _).mp letter with upper | lower
    · obtain ⟨above, below⟩ := of_decide_eq_true upper
      exact within (by decide) (by decide) above below
    · obtain ⟨above, below⟩ := (Bool.and_eq_true _ _).mp lower
      exact within (by decide) (by decide) (of_decide_eq_true above) (of_decide_eq_true below)
  · obtain ⟨above, below⟩ := (Bool.and_eq_true _ _).mp digit
    exact within (by decide) (by decide) (of_decide_eq_true above) (of_decide_eq_true below)

theorem isBlank_of_isWordCharacter {c : Char} (inWord : isWordCharacter c) : isBlank c = false := by
  simp only [isWordCharacter, Bool.or_eq_true, decide_eq_true_eq] at inWord
  rcases inWord with (alphanumeric | rfl) | rfl
  · have bounds := toNat_of_isAlphanum alphanumeric
    simp only [isBlank, Char.toNat, Bool.or_eq_false_iff, Bool.and_eq_false_iff,
      decide_eq_false_iff_not, beq_eq_false_iff_ne]
    omega
  · rfl
  · rfl

theorem isBlank_of_isQuote {c : Char} (quote : isQuote c) : isBlank c = false := by
  simp only [isQuote, Bool.or_eq_true, decide_eq_true_eq] at quote
  rcases quote with rfl | rfl <;> decide

variable {text rest : List Char}

theorem Token.Spells.front {token : Token} (spells : token.Spells text rest) :
    ∃ c ∈ text.head?, isBlank c = false := by
  cases token with
  | word name =>
      obtain ⟨rfl, nonempty, all, -⟩ := spells
      cases shape : name.toList with
      | nil => exact absurd (String.toList_inj.mp shape) nonempty
      | cons c others =>
          exact ⟨c, by simp, isBlank_of_isWordCharacter (all c (by simp [shape]))⟩
  | mark sign =>
      obtain ⟨rfl, known⟩ := spells
      refine ⟨sign, rfl, ?_⟩
      simp only [List.mem_cons, List.not_mem_nil, or_false] at known
      rcases known with rfl | rfl | rfl | rfl | rfl <;> rfl
  | argument value =>
      rcases spells with ⟨quote, known, -, rfl⟩ | ⟨spelled, rfl, -, ⟨c, first, visible, -⟩, -⟩
      · exact ⟨quote, by simp, isBlank_of_isQuote known⟩
      · exact ⟨c, by simp [Option.mem_def.mp first], visible⟩

theorem Token.Spells.skipBlanks {token : Token} (spells : token.Spells text rest) :
    skipBlanks text = text := by
  obtain ⟨c, first, visible⟩ := spells.front
  cases text with
  | nil => cases first
  | cons d others =>
      cases first
      exact List.dropWhile_cons_of_neg (by simp [visible])

theorem spells_cons (token : Token) (tokens : List Token) :
    Spells (token :: tokens) text rest ↔
      ∃ left, token.Spells (skipBlanks text) left ∧ Spells tokens left rest := by
  constructor
  · intro spells
    cases spells with
    | @token blanks text left _ _ _ blank first others =>
        refine ⟨left, ?_, others⟩
        have skipped : Text.skipBlanks (blanks ++ text) = Text.skipBlanks text :=
          List.dropWhile_append_of_pos blank
        rw [skipped, first.skipBlanks]
        exact first
  · rintro ⟨left, first, others⟩
    have whole : text.takeWhile isBlank ++ skipBlanks text = text :=
      List.takeWhile_append_dropWhile
    rw [← whole]
    exact Spells.token (fun c member => List.mem_takeWhile_imp member) first others

theorem Token.Spells.then {token : Token} {tokens : List Token} {left : List Char}
    (first : token.Spells text left) (others : Grammar.Spells tokens left rest) :
    Grammar.Spells (token :: tokens) text rest := by
  rw [spells_cons, first.skipBlanks]
  exact ⟨left, first, others⟩

theorem Token.Spells.length_lt {token : Token} (spells : token.Spells text rest) :
    rest.length < text.length := by
  cases token with
  | word name =>
      obtain ⟨rfl, nonempty, -⟩ := spells
      have some : name.toList ≠ [] := fun empty => nonempty (String.toList_inj.mp empty)
      have positive := List.length_pos_iff.mpr some
      rw [List.length_append]
      omega
  | mark sign =>
      obtain ⟨rfl, -⟩ := spells
      exact Nat.lt_succ_self _
  | argument value =>
      rcases spells with ⟨quote, -, -, rfl⟩ | ⟨spelled, rfl, -, ⟨c, first, -⟩, -⟩
      · simp only [List.length_append, List.length_cons]
        omega
      · have some : spelled ≠ [] := List.ne_nil_of_mem (List.mem_of_mem_head? first)
        have positive := List.length_pos_iff.mpr some
        rw [List.length_append]
        omega

theorem spells_mark {sign : Char} (known : sign ∈ ['(', ')', '[', ']', ',']) (tokens : List Token) :
    Spells (.mark sign :: tokens) text rest ↔
      ∃ left, skipBlanks text = sign :: left ∧ Spells tokens left rest := by
  rw [spells_cons]
  simp only [Token.Spells, and_iff_left known]

theorem spells_last_mark {sign : Char} (known : sign ∈ ['(', ')', '[', ']', ',']) :
    Spells [.mark sign] text rest ↔ skipBlanks text = sign :: rest := by
  rw [spells_mark known]
  constructor
  · rintro ⟨left, found, nothing⟩
    cases nothing
    exact found
  · intro found
    exact ⟨rest, found, Spells.done rest⟩

theorem spells_append (first second : List Token) :
    Spells (first ++ second) text rest ↔
      ∃ middle, Spells first text middle ∧ Spells second middle rest := by
  induction first generalizing text with
  | nil =>
      constructor
      · intro spells
        exact ⟨text, Spells.done text, spells⟩
      · rintro ⟨middle, nothing, spells⟩
        cases nothing
        exact spells
  | cons token first ih =>
      rw [List.cons_append, spells_cons]
      constructor
      · rintro ⟨left, front, others⟩
        obtain ⟨middle, within, after⟩ := ih.mp others
        exact ⟨middle, (spells_cons _ _).mpr ⟨left, front, within⟩, after⟩
      · rintro ⟨middle, within, after⟩
        obtain ⟨left, front, others⟩ := (spells_cons _ _).mp within
        exact ⟨left, front, ih.mpr ⟨middle, others, after⟩⟩

end Switchboard.Predicate.Grammar
