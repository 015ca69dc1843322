import Switchboard.Proofs.Predicate.Surface

/-!
Expressions made of expressions. In parentheses, negated or joined by a keyword they are accepted
again, and what the whole says of an exchange is told by what the parts say of it.
-/

namespace Switchboard.Predicate

open Grammar
open Text (isBlank)

variable {text rest : List Char}

/-! Tokens of a text at the front of a longer one -/

/-- At the end of a text what is appended might belong to the token, but not to a mark, nor to a
word unless it goes on with one. -/
theorem Grammar.Token.Spells.extend {token : Token} (spells : token.Spells text rest)
    {more : List Char} (last : rest = [] → (∀ value, token ≠ .argument value) ∧
      ∀ c ∈ more.head?, isWordCharacter c = false) :
    token.Spells (text ++ more) (rest ++ more) := by
  cases token with
  | word name =>
      obtain ⟨rfl, nonempty, inWord, stops⟩ := spells
      refine ⟨List.append_assoc _ _ _, nonempty, inWord, ?_⟩
      cases rest with
      | nil => exact (last rfl).2
      | cons => exact stops
  | mark sign =>
      obtain ⟨rfl, known⟩ := spells
      exact ⟨rfl, known⟩
  | argument value =>
      rcases spells with ⟨quote, known, absent, rfl⟩ | ⟨spelled, rfl, same, first, ends, stops⟩
      · exact Or.inl ⟨quote, known, absent, by simp⟩
      · refine Or.inr ⟨spelled, List.append_assoc _ _ _, same, first, ends, ?_⟩
        cases rest with
        | nil => exact absurd rfl ((last rfl).1 value)
        | cons => exact stops

theorem Grammar.Spells.extend {tokens : List Token} (spells : Spells tokens text rest)
    (goesOn : rest ≠ []) (more : List Char) : Spells tokens (text ++ more) (rest ++ more) := by
  induction spells with
  | done rest => exact Spells.done _
  | token blank first others ih =>
      obtain ⟨spelled, rfl⟩ := others.exists_append
      rw [List.append_assoc]
      exact Spells.token blank (first.extend fun ended => by simp [goesOn] at ended) (ih goesOn)

theorem Closed.extend {tokens : List Token} (closed : Closed tokens)
    (spells : Spells tokens text rest) (more : List Char)
    (separates : ∀ c ∈ more.head?, isWordCharacter c = false) :
    Spells tokens (text ++ more) (rest ++ more) := by
  obtain ⟨earlier, token, rfl, plain⟩ := closed
  obtain ⟨middle, before, final⟩ := (spells_append _ _).mp spells
  refine (spells_append _ _).mpr ⟨middle ++ more, before.extend ?_ more, ?_⟩
  · rintro rfl
    obtain ⟨left, first, -⟩ := (spells_cons _ _).mp final
    cases first.length_lt
  · cases final with
    | token blank first nothing =>
        cases nothing
        rw [List.append_assoc]
        exact Spells.token blank (first.extend fun _ => ⟨plain, separates⟩) (Spells.done _)

theorem spells_space {tokens : List Token} (some : tokens ≠ []) (spells : Spells tokens text rest) :
    Spells tokens (' ' :: text) rest := by
  cases spells with
  | done => exact absurd rfl some
  | token blank first others =>
      rw [← List.cons_append]
      exact Spells.token (List.forall_mem_cons.mpr ⟨rfl, blank⟩) first others

theorem separates_space (text : List Char) :
    ∀ c ∈ (' ' :: text).head?, isWordCharacter c = false := by
  rintro c ⟨⟩
  rfl

/-! Expressions and their parts -/

variable {predicate other : Predicate} {connective : Connective}

theorem Reads.single (connective : Connective) (reads : Reads (below connective) text predicate) :
    Reads (.chain connective) text predicate := by
  obtain ⟨tokens, derives, spells⟩ := reads
  exact ⟨tokens, .single derives, spells⟩

theorem Reads.expression (reads : Reads .operand text predicate) :
    Reads (.chain .or) text predicate :=
  (reads.single .and).single .or

theorem Reads.parentheses (reads : Reads (.chain .or) text predicate) :
    Reads .operand ('(' :: (text ++ [')'])) predicate := by
  obtain ⟨tokens, derives, rest, spells, blank⟩ := reads
  refine ⟨_, .parentheses derives, [], ?_, by simp⟩
  have within : Spells tokens (text ++ [')']) (rest ++ [')']) :=
    derives.closed.extend spells [')'] (by simp; rfl)
  have closing : Spells [.mark ')'] (rest ++ [')']) [] :=
    Spells.token blank ⟨rfl, by decide⟩ (Spells.done _)
  exact (spells_mark (by decide) _).mpr ⟨_, rfl, (spells_append _ _).mpr ⟨_, within, closing⟩⟩

theorem Reads.negation (reads : Reads .operand text predicate) :
    Reads .operand ("not ".toList ++ text) (.negation predicate) := by
  obtain ⟨tokens, derives, rest, spells, blank⟩ := reads
  refine ⟨_, .negation derives, rest, (spells_cons _ _).mpr ⟨' ' :: text, ?_, ?_⟩, blank⟩
  · exact ⟨rfl, by decide, List.all_eq_true.mp rfl, separates_space text⟩
  · exact spells_space derives.closed.ne_nil spells

/-! Chains -/

namespace Connective

def combine : Connective → Bool → Bool → Bool
  | .or, a, b => a || b
  | .and, a, b => a && b

def total (exchange : Exchange) : Connective → List Predicate → Bool
  | .or, operands => anyHolds exchange operands
  | .and, operands => allHold exchange operands

theorem total_append (exchange : Exchange) (connective : Connective)
    (front back : List Predicate) :
    connective.total exchange (front ++ back) =
      connective.combine (connective.total exchange front) (connective.total exchange back) := by
  induction front with
  | nil => cases connective <;> rfl
  | cons operand front ih =>
      cases connective with
      | or => exact (congrArg (_ || ·) ih).trans (Bool.or_assoc _ _ _).symm
      | and => exact (congrArg (_ && ·) ih).trans (Bool.and_assoc _ _ _).symm

theorem holds_join (exchange : Exchange) (connective : Connective) {operands : List Predicate}
    (some : operands ≠ []) :
    (connective.join operands).holds exchange = connective.total exchange operands := by
  cases operands with
  | nil => exact absurd rfl some
  | cons first others =>
      cases others with
      | nil =>
          cases connective with
          | or => exact (Bool.or_false _).symm
          | and => exact (Bool.and_true _).symm
      | cons second others => cases connective <;> simp [join, holds, total]

end Connective

theorem derives_chain_iff {tokens : List Token} :
    Derives (.chain connective) tokens predicate ↔
      ∃ parts : List (List Token × Predicate), parts ≠ [] ∧
        (∀ part ∈ parts, Derives (below connective) part.1 part.2) ∧
        chained connective parts = tokens ∧ connective.join (parts.map Prod.snd) = predicate := by
  constructor
  · intro derives
    cases derives with
    | single part =>
        refine ⟨[(tokens, predicate)], by simp, by simpa using part, by simp [chained], ?_⟩
        cases connective <;> rfl
    | @several _ parts many each =>
        refine ⟨parts, by rintro rfl; simp at many, each, rfl, ?_⟩
        exact join_of_two_le connective (by simpa using many)
  · rintro ⟨parts, some, each, rfl, rfl⟩
    cases parts with
    | nil => exact absurd rfl some
    | cons first others =>
        cases others with
        | nil =>
            have alone : Derives (.chain connective) first.1 first.2 :=
              .single (each first (by simp))
            cases connective <;> simpa [chained, Connective.join] using alone
        | cons second others =>
            rw [join_of_two_le connective (by simp)]
            exact .several (by simp) each

theorem chained_append {parts others : List (List Token × Predicate)} (some : parts ≠ [])
    (more : others ≠ []) :
    chained connective (parts ++ others) =
      chained connective parts ++ .word connective.keyword :: chained connective others := by
  induction parts with
  | nil => exact absurd rfl some
  | cons part parts ih =>
      cases parts with
      | nil =>
          obtain ⟨other, others, rfl⟩ := List.exists_cons_of_ne_nil more
          rw [List.singleton_append, chained_cons_cons]
          simp [chained]
      | cons next parts =>
          rw [List.cons_append, List.cons_append, chained_cons_cons, chained_cons_cons,
            ← List.cons_append, ih (by simp)]
          simp

theorem Grammar.Derives.join {tokens others : List Token}
    (first : Derives (.chain connective) tokens predicate)
    (second : Derives (.chain connective) others other) :
    ∃ joined, Derives (.chain connective) (tokens ++ .word connective.keyword :: others) joined ∧
      ∀ exchange, joined.holds exchange =
        connective.combine (predicate.holds exchange) (other.holds exchange) := by
  obtain ⟨parts, some, each, rfl, rfl⟩ := derives_chain_iff.mp first
  obtain ⟨more, someMore, eachMore, rfl, rfl⟩ := derives_chain_iff.mp second
  refine ⟨connective.join ((parts ++ more).map Prod.snd), derives_chain_iff.mpr
    ⟨parts ++ more, by simp [some], ?_, chained_append some someMore, rfl⟩, ?_⟩
  · intro part member
    rcases List.mem_append.mp member with front | back
    · exact each part front
    · exact eachMore part back
  · intro exchange
    have filled (list : List (List Token × Predicate)) (nonempty : list ≠ []) :
        (connective.join (list.map Prod.snd)).holds exchange =
          connective.total exchange (list.map Prod.snd) :=
      connective.holds_join exchange (by simpa using nonempty)
    rw [filled _ (by simp [some]), filled _ some, filled _ someMore, List.map_append,
      connective.total_append]

theorem Reads.join {left right : List Char} (first : Reads (.chain connective) left predicate)
    (second : Reads (.chain connective) right other) :
    ∃ joined,
      Reads (.chain connective) (left ++ (' ' :: connective.keyword.toList ++ ' ' :: right))
        joined ∧
      ∀ exchange, joined.holds exchange =
        connective.combine (predicate.holds exchange) (other.holds exchange) := by
  obtain ⟨tokens, derives, rest, spells, blank⟩ := first
  obtain ⟨others, derivesOther, ending, spellsOther, blankEnding⟩ := second
  obtain ⟨joined, whole, holds⟩ := derives.join derivesOther
  refine ⟨joined, ⟨_, whole, ending, ?_, blankEnding⟩, holds⟩
  have front := derives.closed.extend spells _
    (separates_space (connective.keyword.toList ++ ' ' :: right))
  have keyword : Token.Spells (connective.keyword.toList ++ ' ' :: right) (' ' :: right)
      (.word connective.keyword) := by
    refine ⟨rfl, connective.keyword_ne_empty, ?_, separates_space right⟩
    cases connective <;> exact List.all_eq_true.mp rfl
  have spaced : ∀ c ∈ rest ++ [' '], isBlank c := by
    intro c member
    rcases List.mem_append.mp member with before | space
    · exact blank c before
    · cases List.mem_singleton.mp space
      rfl
  have back := Spells.token spaced keyword (spells_space derivesOther.closed.ne_nil spellsOther)
  rw [← List.append_cons] at back
  exact (spells_append _ _).mpr ⟨_, front, back⟩

/-! What compound expressions say -/

/-- An expression is accepted, and says this of an exchange. -/
def Says (expression : String) (condition : Condition) : Prop :=
  ∃ predicate, parse expression = .ok predicate ∧
    ∀ exchange, predicate.holds exchange = condition exchange

theorem Reads.meaning {expression : String} {condition : Condition}
    (reads : Reads (.chain .or) text predicate) (spelled : expression.toList = text)
    (holds : ∀ exchange, predicate.holds exchange = condition exchange) :
    Says expression condition := by
  subst spelled
  exact ⟨predicate, reads.parse, holds⟩

theorem Reads.conjunction {expression : String}
    (reads : Reads (.chain .or) expression.toList predicate)
    (hidden : showsOr expression = false) : Reads (.chain .and) expression.toList predicate := by
  obtain ⟨tokens, derives, spells⟩ := reads
  refine ⟨tokens, derives_conjunction derives spells ?_, spells⟩
  rw [showsOr, List.contains_eq_mem, decide_eq_false_iff_not] at hidden
  exact hidden

/-- Parentheses, negation and keywords mean what they say, whatever the expressions between them.
Without parentheses this holds of `and` for expressions that show no `or`. -/
theorem compound_means {first second : String} {one other : Predicate}
    (readFirst : parse first = .ok one) (readSecond : parse second = .ok other) :
    Says ("not (" ++ first ++ ")") (fun exchange => !one.holds exchange) ∧
    Says ("(" ++ first ++ ")") (fun exchange => one.holds exchange) ∧
    Says ("(" ++ first ++ ") and (" ++ second ++ ")")
      (fun exchange => one.holds exchange && other.holds exchange) ∧
    Says ("(" ++ first ++ ") or (" ++ second ++ ")")
      (fun exchange => one.holds exchange || other.holds exchange) ∧
    Says (first ++ " or " ++ second)
      (fun exchange => one.holds exchange || other.holds exchange) ∧
    (showsOr first = false → showsOr second = false →
      Says (first ++ " and " ++ second)
        (fun exchange => one.holds exchange && other.holds exchange) ∧
      Says ("not (" ++ first ++ " and " ++ second ++ ")")
        (fun exchange => !(one.holds exchange && other.holds exchange)) ∧
      Says ("not (" ++ first ++ ") or not (" ++ second ++ ")")
        (fun exchange => !(one.holds exchange && other.holds exchange))) := by
  have left := reads_of_parse readFirst
  have right := reads_of_parse readSecond
  refine ⟨?_, ?_, ?_, ?_, ?_, ?_⟩
  · exact left.parentheses.negation.expression.meaning (by simp) fun _ => rfl
  · exact left.parentheses.expression.meaning (by simp) fun _ => rfl
  · obtain ⟨joined, reads, holds⟩ :=
      (left.parentheses.single .and).join (right.parentheses.single .and)
    exact (reads.single .or).meaning (by simp [Connective.keyword]) holds
  · obtain ⟨joined, reads, holds⟩ := left.parentheses.expression.join right.parentheses.expression
    exact reads.meaning (by simp [Connective.keyword]) holds
  · obtain ⟨joined, reads, holds⟩ := left.join right
    exact reads.meaning (by simp [Connective.keyword]) holds
  · intro hidden hiddenOther
    obtain ⟨both, reads, holds⟩ := (left.conjunction hidden).join (right.conjunction hiddenOther)
    refine ⟨?_, ?_, ?_⟩
    · exact (reads.single .or).meaning (by simp [Connective.keyword]) holds
    · refine (reads.single .or).parentheses.negation.expression.meaning
        (by simp [Connective.keyword]) fun exchange => ?_
      exact congrArg (!·) (holds exchange)
    · obtain ⟨either, reads, holds⟩ :=
        left.parentheses.negation.expression.join right.parentheses.negation.expression
      refine reads.meaning (by simp [Connective.keyword]) fun exchange => ?_
      rw [holds, Bool.not_and]
      rfl

def unasked : String := "not query[a]"

def answered : String := "(false or query['b'])"

theorem spells_named {name value : String} {next : List Char}
    (word : Token.Spells text ('[' :: next) (.word name))
    (argument : Token.Spells next (']' :: rest) (.argument value)) :
    Spells (.word name :: .mark '[' :: listed [value]) text rest := by
  have closing : Spells [.mark ']'] (']' :: rest) rest := (spells_last_mark (by decide)).mpr rfl
  have bracket : Token.Spells ('[' :: next) next (.mark '[') := ⟨rfl, by decide⟩
  exact word.then (bracket.then (argument.then closing))

theorem parse_unasked : parse unasked = .ok (.negation (.parameter "a" none)) := by
  have bare : Token.Spells ['a', ']'] [']'] (.argument "a") := by
    refine .inr ⟨['a'], rfl, rfl, ⟨'a', rfl, rfl, rfl⟩, List.forall_mem_singleton.mpr rfl, ?_⟩
    intro c found
    cases found
    rfl
  have asked : Reads .operand "query[a]".toList (.parameter "a" none) :=
    ⟨_, .named (.parameter "a"), [], spells_named (spells_word.mpr ⟨by decide, rfl, rfl⟩) bare,
      by simp⟩
  have whole : unasked.toList = "not ".toList ++ "query[a]".toList := rfl
  apply Reads.parse
  rw [whole]
  exact asked.negation.expression

theorem parse_answered : parse answered = .ok (.any [.constant false, .parameter "b" none]) := by
  let parts : List (List Token × Predicate) :=
    [([.word "false"], .constant false),
      (.word "query" :: .mark '[' :: listed ["b"], .parameter "b" none)]
  have each : ∀ part ∈ parts, Derives (below .or) part.1 part.2 := by
    simp only [parts, List.forall_mem_cons]
    exact ⟨.single .falsehood, .single (.named (.parameter "b")), by simp⟩
  have quoted : Token.Spells "'b']".toList [']'] (.argument "b") :=
    .inl ⟨'\x27', by decide, by decide, rfl⟩
  have asked : Spells (.word "query" :: .mark '[' :: listed ["b"]) "query['b']".toList [] :=
    spells_named (spells_word.mpr ⟨by decide, rfl, rfl⟩) quoted
  have inner : Reads (.chain .or) "false or query['b']".toList
      (.any [.constant false, .parameter "b" none]) := by
    refine ⟨chained .or parts, .several (by decide) each, [], ?_, by simp⟩
    have keyword : Token.Spells "or query['b']".toList " query['b']".toList (.word "or") :=
      spells_word.mpr ⟨by decide, rfl, rfl⟩
    have first : Token.Spells "false or query['b']".toList " or query['b']".toList
        (.word "false") := spells_word.mpr ⟨by decide, rfl, rfl⟩
    have later := keyword.then (spells_space (List.cons_ne_nil _ _) asked)
    exact first.then (spells_space (List.cons_ne_nil _ _) later)
  have whole : answered.toList = '(' :: ("false or query['b']".toList ++ [')']) := rfl
  apply Reads.parse
  rw [whole]
  exact inner.parentheses.expression

theorem compound_means_unasked :
    Says (unasked ++ " and " ++ answered) (fun exchange =>
      !parameterHolds (exchange.parameters.values "a") none &&
        (false || (parameterHolds (exchange.parameters.values "b") none || false))) ∧
    Says ("not (" ++ unasked ++ ") or not (" ++ answered ++ ")") (fun exchange =>
      !(!parameterHolds (exchange.parameters.values "a") none &&
        (false || (parameterHolds (exchange.parameters.values "b") none || false)))) := by
  obtain ⟨-, -, -, -, -, plain⟩ := compound_means parse_unasked parse_answered
  obtain ⟨both, -, either⟩ := plain (by decide) (by decide)
  exact ⟨both, either⟩

end Switchboard.Predicate
