import Switchboard.Proofs.Predicate.Reading

/-!
The parser accepts what the grammar derives, with the tree it derives, and nothing else.
-/

namespace Switchboard.Predicate

open Grammar
open Text (isBlank skipBlanks)

variable {text rest : List Char} {predicate : Predicate}

/-! Names -/

theorem named_eq_ok (name : String) (values : List String) :
    named name values = .ok predicate ↔ Names name values predicate := by
  constructor
  · intro accepted
    unfold named at accepted
    split at accepted
    next whole => cases accepted; exact Names.path whole
    next start => cases accepted; exact Names.pathPrefix start
    next ending => cases accepted; exact Names.pathSuffix ending
    next wanted =>
      split at accepted
      next method found =>
        cases accepted
        exact Names.method wanted method ((Method.ofName?_eq_some _ method).mp found)
      next => cases accepted
    next field => cases accepted; exact Names.header field
    next field value => cases accepted; exact Names.headerValue field value
    next field => cases accepted; exact Names.parameter field
    next field value => cases accepted; exact Names.parameterValue field value
    next =>
      split at accepted
      · cases accepted
      · split at accepted <;> cases accepted
  · intro known
    cases known with
    | method wanted method upper =>
        have found := (Method.ofName?_eq_some _ method).mpr upper
        simp only [named, found]
    | _ => rfl

/-! Arguments -/

theorem listed_singleton (value : String) : listed [value] = [.argument value, .mark ']'] := rfl

theorem listed_cons_cons (value next : String) (others : List String) :
    listed (value :: next :: others) =
      .argument value :: .mark ',' :: listed (next :: others) := rfl

theorem gives_moreArguments_iff (earlier values : List String) :
    Gives (moreArguments earlier text) values rest ↔
      ∃ value others, earlier ++ value :: others = values ∧
        Spells (listed (value :: others)) text rest := by
  -- The length goes down from comma to comma, so the induction is on it.
  induction size : text.length using Nat.strong_induction_on generalizing text earlier with
  | _ size ih =>
      subst size
      have shorter {left next : List Char} {value : String} {sign : Char}
          (first : Token.Spells (skipBlanks text) left (.argument value))
          (found : skipBlanks left = sign :: next) : next.length < text.length := by
        have skipped := Text.length_skipBlanks_le text
        have within := first.length_lt
        have skippedLeft := Text.length_skipBlanks_le left
        rw [found, List.length_cons] at skippedLeft
        omega
      rw [gives_moreArguments]
      constructor
      · rintro ⟨value, left, spells, after⟩
        split at after
        next next comma =>
          obtain ⟨following, others, rfl, list⟩ := (ih _ (shorter spells comma) _ rfl).mp after
          refine ⟨value, following :: others, by simp, ?_⟩
          rw [listed_cons_cons, spells_cons]
          refine ⟨left, spells, ?_⟩
          rw [spells_mark (by decide)]
          exact ⟨next, comma, list⟩
        next next bracket =>
          obtain ⟨rfl, rfl⟩ := after
          refine ⟨value, [], rfl, ?_⟩
          rw [listed_singleton, spells_cons]
          exact ⟨left, spells, (spells_last_mark (by decide)).mpr bracket⟩
        next => exact after.elim
      · rintro ⟨value, others, rfl, spells⟩
        cases others with
        | nil =>
            rw [listed_singleton, spells_cons] at spells
            obtain ⟨left, first, bracket⟩ := spells
            have closed := (spells_last_mark (by decide)).mp bracket
            refine ⟨value, left, first, ?_⟩
            simp only [closed, and_self]
        | cons following others =>
            rw [listed_cons_cons, spells_cons] at spells
            obtain ⟨left, first, comma⟩ := spells
            obtain ⟨next, found, list⟩ := (spells_mark (by decide) _).mp comma
            refine ⟨value, left, first, ?_⟩
            simp only [found]
            exact (ih _ (shorter first found) _ rfl).mpr ⟨following, others, by simp, list⟩

theorem gives_arguments_iff {values : List String} (some : values ≠ []) :
    Gives (arguments text) values rest ↔ Spells (listed values) text rest := by
  rw [gives_arguments some, gives_moreArguments_iff]
  simp only [List.nil_append]
  constructor
  · rintro ⟨value, others, rfl, list⟩
    exact list
  · intro list
    obtain ⟨value, others, rfl⟩ := List.exists_cons_of_ne_nil some
    exact ⟨value, others, rfl, list⟩

theorem Grammar.Names.values_ne_nil {name : String} {values : List String}
    (known : Names name values predicate) : values ≠ [] := by
  cases known <;> exact List.cons_ne_nil _ _

theorem Grammar.Names.name_ne {name : String} {values : List String}
    (known : Names name values predicate) : name ≠ "true" ∧ name ≠ "false" ∧ name ≠ "not" := by
  cases known <;> decide

/-! Soundness -/

/-- A reader only gives what the grammar derives. -/
def Derivable (level : Level) (text : List Char) : Prop :=
  ∀ predicate rest, Gives (read text level) predicate rest →
    ∃ tokens, Derives level tokens predicate ∧ Spells tokens text rest

theorem derives_of_atom (gives : Gives (atom text) predicate rest) :
    ∃ tokens, Derives .operand tokens predicate ∧ Spells tokens text rest := by
  obtain ⟨name, left, first, after⟩ := (gives_atom _).mp gives
  split at after
  next constant =>
    obtain ⟨rfl, rfl⟩ := after
    have spells : Spells [.word name] text left :=
      (spells_cons _ _).mpr ⟨left, first, Spells.done left⟩
    rcases constant with rfl | rfl
    · exact ⟨_, Derives.truth, spells⟩
    · exact ⟨_, Derives.falsehood, spells⟩
  next =>
    obtain ⟨values, next, opened, list, accepted⟩ := after
    have known := (named_eq_ok name values).mp accepted
    refine ⟨_, Derives.named known, (spells_cons _ _).mpr ⟨left, first, ?_⟩⟩
    rw [spells_mark (by decide)]
    exact ⟨next, opened, (gives_arguments_iff known.values_ne_nil).mp list⟩

theorem derivable_operand
    (expressions : ∀ shorter, shorter.length < text.length → Derivable (.chain .or) shorter)
    (operands : ∀ shorter, shorter.length < text.length → Derivable .operand shorter) :
    Derivable .operand text := by
  intro predicate rest gives
  replace gives := (gives_operand _).mp gives
  have skipped := Text.length_skipBlanks_le text
  split at gives
  next inner opened =>
    obtain ⟨left, found, closed⟩ := gives
    rw [opened, List.length_cons] at skipped
    obtain ⟨tokens, derives, spells⟩ := expressions inner (by omega) _ _ found
    refine ⟨_, Derives.parentheses derives, ?_⟩
    rw [spells_mark (by decide)]
    have closing := (spells_last_mark (by decide)).mpr closed
    exact ⟨inner, opened, (spells_append _ _).mpr ⟨left, spells, closing⟩⟩
  next =>
    split at gives
    next next keyword =>
      obtain ⟨inner, found, rfl⟩ := gives
      have first := (afterKeyword?_eq_some (by decide)).mp keyword
      have within := first.length_lt
      obtain ⟨tokens, derives, spells⟩ := operands next (by omega) _ _ found
      exact ⟨_, Derives.negation derives, (spells_cons _ _).mpr ⟨next, first, spells⟩⟩
    next => exact derives_of_atom gives

theorem join_of_two_le (connective : Connective) {operands : List Predicate}
    (several : 2 ≤ operands.length) : connective.join operands = node connective operands := by
  match operands, several with
  | first :: second :: others, _ => cases connective <;> rfl

theorem chained_cons_cons (connective : Connective) (part next : List Token × Predicate)
    (others : List (List Token × Predicate)) :
    chained connective (part :: next :: others) =
      part.1 ++ .word connective.keyword :: chained connective (next :: others) := by
  simp [chained, List.intercalate_cons_cons]

theorem parts_of_chain {connective : Connective} {bound : Nat}
    (below : ∀ text, text.length ≤ bound → Derivable (below connective) text)
    (earlier : List Predicate) (within : text.length ≤ bound)
    (gives : Gives (chain connective earlier text) predicate rest) :
    ∃ first others, (∀ part ∈ first :: others, Derives (Grammar.below connective) part.1 part.2) ∧
      connective.join (earlier ++ (first :: others).map Prod.snd) = predicate ∧
      Spells (chained connective (first :: others)) text rest := by
  induction size : text.length using Nat.strong_induction_on generalizing text earlier with
  | _ size ih =>
      subst size
      obtain ⟨first, left, found, after⟩ := (gives_chain _ _ _).mp gives
      obtain ⟨tokens, derives, spells⟩ := below text within first left found
      split at after
      next next keyword =>
        have shorter := found.shorter
        have following := length_of_afterKeyword? connective.keyword_ne_empty keyword
        obtain ⟨second, others, derived, rfl, list⟩ :=
          ih next.length (by omega) _ (by omega) after rfl
        refine ⟨(tokens, first), second :: others, ?_, by simp, ?_⟩
        · intro part member
          rcases List.mem_cons.mp member with rfl | member
          · exact derives
          · exact derived part member
        · rw [chained_cons_cons, spells_append]
          refine ⟨left, spells, (spells_cons _ _).mpr ⟨next, ?_, list⟩⟩
          exact (afterKeyword?_eq_some connective.keyword_ne_empty).mp keyword
      next =>
        obtain ⟨rfl, rfl⟩ := after
        refine ⟨(tokens, first), [], ?_, rfl, by simpa [chained] using spells⟩
        intro part member
        cases List.mem_singleton.mp member
        exact derives

theorem derivable_chain {connective : Connective} {bound : Nat}
    (below : ∀ text, text.length ≤ bound → Derivable (below connective) text)
    (within : text.length ≤ bound) : Derivable (.chain connective) text := by
  intro predicate rest gives
  obtain ⟨first, others, derived, rfl, spells⟩ := parts_of_chain below [] within gives
  refine ⟨_, ?_, spells⟩
  cases others with
  | nil =>
      have single := Derives.single (derived first (by simp))
      cases connective <;> simpa [chained, Connective.join] using single
  | cons second others =>
      have several : 2 ≤ (first :: second :: others).length := by simp
      rw [List.nil_append, join_of_two_le _ (by simp)]
      exact Derives.several several derived

/-- A reader at the operand level only calls others on shorter texts. -/
theorem derivable (level : Level) (text : List Char) : Derivable level text := by
  -- On operands first: what stands in parentheses is shorter, and chains are made of operands.
  have operands : ∀ bound text, text.length ≤ bound → Derivable .operand text := by
    intro bound
    induction bound with
    | zero =>
        intro text within
        apply derivable_operand
        · intro shorter length; omega
        · intro shorter length; omega
    | succ bound ih =>
        intro text within
        have conjunctions : ∀ text, text.length ≤ bound → Derivable (.chain .and) text :=
          fun text within => derivable_chain ih within
        apply derivable_operand
        · intro shorter length
          exact derivable_chain conjunctions (by omega)
        · intro shorter length
          exact ih shorter (by omega)
  have conjunctions : ∀ bound text, text.length ≤ bound → Derivable (.chain .and) text :=
    fun bound text within => derivable_chain (operands bound) within
  cases level with
  | operand => exact operands _ text (Nat.le_refl _)
  | chain connective =>
      cases connective with
      | and => exact conjunctions _ text (Nat.le_refl _)
      | or => exact derivable_chain (conjunctions text.length) (Nat.le_refl _)

/-! Completeness -/

/-- No chain of a level goes on after a text. -/
def Ends : Level → List Char → Prop
  | .operand, _ => True
  | .chain .and, rest => afterKeyword? "and" rest = none
  | .chain .or, rest => afterKeyword? "and" rest = none ∧ afterKeyword? "or" rest = none

theorem Ends.below {connective : Connective} (ends : Ends (.chain connective) rest) :
    Ends (below connective) rest := by
  cases connective with
  | or => exact ends.1
  | and => trivial

theorem Ends.keyword {connective : Connective} (ends : Ends (.chain connective) rest) :
    afterKeyword? connective.keyword rest = none := by
  cases connective with
  | or => exact ends.2
  | and => exact ends

theorem ends_of_word_eq_empty (level : Level) (none : word (skipBlanks rest) = "") :
    Ends level rest := by
  have closed (keyword : String) (nonempty : keyword ≠ "") :
      afterKeyword? keyword rest = .none := by
    rw [afterKeyword?, none, if_neg nonempty.symm]
  cases level with
  | operand => trivial
  | chain connective =>
      cases connective with
      | and => exact closed "and" (by decide)
      | or => exact ⟨closed "and" (by decide), closed "or" (by decide)⟩

theorem afterKeyword?_eq_none {name keyword : String} (different : name ≠ keyword)
    (spells : Token.Spells (skipBlanks text) rest (.word name)) :
    afterKeyword? keyword text = none := by
  rw [afterKeyword?, (spells_word.mp spells).2.1, if_neg different]

theorem ends_of_keyword {connective : Connective}
    (spells : Token.Spells (skipBlanks text) rest (.word connective.keyword)) :
    Ends (below connective) text := by
  cases connective with
  | or => exact afterKeyword?_eq_none (by decide) spells
  | and => trivial

/-- A reader gives all that the grammar derives, where no chain goes on. -/
def Complete (level : Level) (tokens : List Token) (predicate : Predicate) : Prop :=
  ∀ text rest, Spells tokens text rest → Ends level rest →
    Gives (read text level) predicate rest

theorem gives_chain_of_parts {connective : Connective} (part : List Token × Predicate)
    (others : List (List Token × Predicate)) (earlier : List Predicate)
    (complete : ∀ each ∈ part :: others, Complete (below connective) each.1 each.2)
    (spells : Spells (chained connective (part :: others)) text rest)
    (ends : Ends (.chain connective) rest) :
    Gives (chain connective earlier text)
      (connective.join (earlier ++ (part :: others).map Prod.snd)) rest := by
  induction others generalizing part earlier text with
  | nil =>
      have first : Spells part.1 text rest := by simpa [chained] using spells
      rw [gives_chain]
      refine ⟨part.2, rest, complete part (by simp) text rest first ends.below, ?_⟩
      rw [ends.keyword]
      exact ⟨rfl, rfl⟩
  | cons next others ih =>
      rw [chained_cons_cons, spells_append] at spells
      obtain ⟨left, first, remaining⟩ := spells
      obtain ⟨after, keyword, list⟩ := (spells_cons _ _).mp remaining
      have goesOn := (afterKeyword?_eq_some connective.keyword_ne_empty).mpr keyword
      rw [gives_chain]
      refine ⟨part.2, left, complete part (by simp) text left first (ends_of_keyword keyword), ?_⟩
      rw [goesOn]
      have gives := ih next (earlier ++ [part.2])
        (fun each member => complete each (List.mem_cons_of_mem _ member)) list
      simpa using gives

theorem word_ne_open {name : String} {left : List Char}
    (spells : Token.Spells text left (.word name)) (inner : List Char) :
    text ≠ '(' :: inner := by
  rintro rfl
  obtain ⟨whole, nonempty, inWord, -⟩ := spells
  cases letters : name.toList with
  | nil => exact nonempty (String.toList_inj.mp letters)
  | cons c others =>
      rw [letters] at whole inWord
      cases whole
      cases inWord '(' List.mem_cons_self

theorem gives_operand_of_word {name : String} {left : List Char} (different : name ≠ "not")
    (spells : Token.Spells (skipBlanks text) left (.word name)) :
    Gives (operand text) predicate rest ↔ Gives (atom text) predicate rest := by
  rw [gives_operand]
  split
  next inner opened => exact absurd opened (word_ne_open spells inner)
  next => rw [afterKeyword?_eq_none different spells]

theorem complete_constant (value : Bool) (name : String)
    (known : name = if value then "true" else "false") :
    Complete .operand [.word name] (.constant value) := by
  intro text rest spells _
  obtain ⟨left, first, done⟩ := (spells_cons _ _).mp spells
  cases done
  have different : name ≠ "not" := by subst known; cases value <;> decide
  refine (gives_operand_of_word different first).mpr ((gives_atom _).mpr ⟨name, rest, first, ?_⟩)
  subst known
  cases value <;> simp

theorem complete_named {name : String} {values : List String}
    (known : Names name values predicate) :
    Complete .operand (.word name :: .mark '[' :: listed values) predicate := by
  intro text rest spells _
  obtain ⟨left, first, bracket⟩ := (spells_cons _ _).mp spells
  obtain ⟨next, opened, list⟩ := (spells_mark (by decide) _).mp bracket
  obtain ⟨notTrue, notFalse, different⟩ := known.name_ne
  refine (gives_operand_of_word different first).mpr ((gives_atom _).mpr ⟨name, left, first, ?_⟩)
  rw [if_neg (by simp [notTrue, notFalse])]
  exact ⟨values, next, opened, (gives_arguments_iff known.values_ne_nil).mpr list,
    (named_eq_ok name values).mpr known⟩

theorem complete_parentheses {tokens : List Token}
    (inner : Complete (.chain .or) tokens predicate) :
    Complete .operand (.mark '(' :: (tokens ++ [.mark ')'])) predicate := by
  intro text rest spells _
  obtain ⟨next, opened, remaining⟩ := (spells_mark (by decide) _).mp spells
  obtain ⟨left, within, closing⟩ := (spells_append _ _).mp remaining
  have closed := (spells_last_mark (by decide)).mp closing
  have ends : Ends (.chain .or) left := ends_of_word_eq_empty _ (by rw [closed]; rfl)
  refine (gives_operand _).mpr ?_
  rw [opened]
  exact ⟨left, inner next left within ends, closed⟩

theorem complete_negation {tokens : List Token} (inner : Complete .operand tokens predicate) :
    Complete .operand (.word "not" :: tokens) (.negation predicate) := by
  intro text rest spells ends
  obtain ⟨left, first, remaining⟩ := (spells_cons _ _).mp spells
  refine (gives_operand _).mpr ?_
  split
  next inner opened => exact absurd opened (word_ne_open first inner)
  next =>
    rw [(afterKeyword?_eq_some (by decide)).mpr first]
    exact ⟨predicate, inner left rest remaining ends, rfl⟩

theorem complete_single {connective : Connective} {tokens : List Token}
    (part : Complete (below connective) tokens predicate) :
    Complete (.chain connective) tokens predicate := by
  intro text rest spells ends
  have parts : ∀ each ∈ [(tokens, predicate)], Complete (below connective) each.1 each.2 := by
    intro each member
    cases List.mem_singleton.mp member
    exact part
  have alone : Spells (chained connective [(tokens, predicate)]) text rest := by
    simpa [chained] using spells
  have gives := gives_chain_of_parts _ [] [] parts alone ends
  cases connective <;> exact gives

theorem complete_several {connective : Connective} {parts : List (List Token × Predicate)}
    (several : 2 ≤ parts.length)
    (complete : ∀ part ∈ parts, Complete (below connective) part.1 part.2) :
    Complete (.chain connective) (chained connective parts)
      (node connective (parts.map Prod.snd)) := by
  intro text rest spells ends
  rw [← join_of_two_le connective (by simpa using several)]
  match parts, several with
  | first :: others, _ => exact gives_chain_of_parts first others [] complete spells ends

theorem complete {level : Level} {tokens : List Token} (derives : Derives level tokens predicate) :
    Complete level tokens predicate := by
  induction derives with
  | single _ ih => exact complete_single ih
  | several many _ ih => exact complete_several many ih
  | negation _ ih => exact complete_negation ih
  | parentheses _ ih => exact complete_parentheses ih
  | truth => exact complete_constant true _ rfl
  | falsehood => exact complete_constant false _ rfl
  | named known => exact complete_named known

theorem parseCharacters_eq_ok :
    parseCharacters text = .ok predicate ↔
      ∃ rest, Gives (chain .or [] text) predicate rest ∧ skipBlanks rest = [] := by
  rw [parseCharacters]
  split
  next stop failed => simp only [failed, gives_error, false_and, exists_false, reduceCtorEq]
  next found rest shorter read =>
    simp only [read, gives_ok, and_assoc, exists_and_left, exists_eq_left']
    split
    next ended => rw [Except.ok.injEq, and_iff_left ended]
    next left more =>
      simp only [reduceCtorEq, false_iff]
      rintro ⟨-, ended⟩
      exact more ended

/-- A text is one expression of a level, all of it. -/
def Reads (level : Level) (text : List Char) (predicate : Predicate) : Prop :=
  ∃ tokens, Derives level tokens predicate ∧ SpellsAll tokens text

theorem reads_of_parse {expression : String} (parsed : parse expression = .ok predicate) :
    Reads (.chain .or) expression.toList predicate := by
  rw [parse] at parsed
  split at parsed
  next found accepted =>
    cases parsed
    obtain ⟨rest, gives, ended⟩ := parseCharacters_eq_ok.mp accepted
    obtain ⟨tokens, derives, spells⟩ := derivable (.chain .or) _ predicate rest gives
    exact ⟨tokens, derives, rest, spells, List.dropWhile_eq_nil_iff.mp ended⟩
  next => cases parsed

theorem Reads.parse {expression : String}
    (reads : Reads (.chain .or) expression.toList predicate) :
    parse expression = .ok predicate := by
  obtain ⟨tokens, derives, rest, spells, blank⟩ := reads
  have ended : skipBlanks rest = [] := List.dropWhile_eq_nil_iff.mpr blank
  have ends : Ends (.chain .or) rest := ends_of_word_eq_empty _ (by rw [ended]; rfl)
  have accepted : parseCharacters expression.toList = .ok predicate :=
    parseCharacters_eq_ok.mpr ⟨rest, complete derives _ rest spells ends, ended⟩
  rw [Predicate.parse, accepted]

/-- The parser accepts what the grammar derives and gives the tree that it derives. -/
theorem parse_eq_ok_iff_derives (expression : String) (predicate : Predicate) :
    parse expression = .ok predicate ↔
      ∃ tokens, Derives (.chain .or) tokens predicate ∧ SpellsAll tokens expression.toList :=
  ⟨reads_of_parse, Reads.parse⟩

end Switchboard.Predicate
