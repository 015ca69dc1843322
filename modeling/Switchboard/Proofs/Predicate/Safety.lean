import Switchboard.Proofs.Predicate.Cursor
import Switchboard.Proofs.Predicate.Parsing

/-!
The reader with a position does what the parser does. Both are followed over the same text: where
the parser has a text left, the reader stands before it, and where the parser stops, the reader
reports the same fault. The induction is on the depth of calls, of which a text needs no more than
three for each character.
-/

namespace Switchboard.Predicate.Scan

open Grammar (Level below node)
open Text (skipBlanks skipBlanks_skipBlanks)

variable {α β : Type} {input text : List Char} {cursor : Cursor}

/-- A scan ends as a parser does on the text in front of its cursor. It may have moved over white
space that the parser leaves to its caller. -/
inductive Agrees (input : List Char) {text : List Char} :
    Parsed text α → Option (Except Halt α × Cursor) → Prop where
  | read {value : α} {rest left : List Char} {shorter : rest.length < text.length}
      {cursor : Cursor} : left <:+ rest → skipBlanks left = skipBlanks rest →
      Stands input left cursor →
      Agrees input (.ok ⟨value, rest, shorter⟩) (some (.ok value, cursor))
  | stopped {left : List Char} {fault : Fault} {cursor : Cursor} : left <:+ input →
      (∀ position ∈ cursor.visited, Boundary input position) →
      Agrees input (.error ⟨left, fault⟩)
        (some (.error (.reported ⟨utf8Length input - utf8Length left, fault⟩), cursor))

theorem agrees_report (stands : Stands input text cursor) (fault : Fault) {whole : List Char} :
    Agrees input (.error ⟨text, fault⟩ : Parsed whole α) (run (report fault) cursor) := by
  rw [report, run_bind (run_position cursor), run_throw, stands.position_eq]
  exact .stopped stands.suffix stands.boundary

theorem Agrees.widen {later : List Char} {parsed : Parsed later α}
    {outcome : Option (Except Halt α × Cursor)} (agrees : Agrees input parsed outcome)
    (within : later.length ≤ text.length) :
    Agrees input (parsed.map (·.widen within) : Parsed text α) outcome := by
  cases agrees with
  | read suffix same stands => exact .read suffix same stands
  | stopped suffix sound => exact .stopped suffix sound

theorem Agrees.of_ok {parsed : Parsed text α} {value : α} {rest : List Char}
    {shorter : rest.length < text.length} {outcome : Option (Except Halt α × Cursor)}
    (agrees : Agrees input parsed outcome) (found : parsed = .ok ⟨value, rest, shorter⟩) :
    ∃ left after, outcome = some (.ok value, after) ∧ left <:+ rest ∧
      skipBlanks left = skipBlanks rest ∧ Stands input left after := by
  cases agrees with
  | read suffix same stands =>
      cases found
      exact ⟨_, _, rfl, suffix, same, stands⟩
  | stopped => cases found

theorem Agrees.bind_error {later : List Char} {parsed : Parsed later α} {stop : Stop}
    {scan : Scan α} (agrees : Agrees input parsed (run scan cursor)) (failed : parsed = .error stop)
    (next : α → Scan β) :
    Agrees input (.error stop : Parsed text β) (run (scan >>= next) cursor) := by
  generalize ran : run scan cursor = outcome at agrees
  cases agrees with
  | read => cases failed
  | stopped suffix sound =>
      cases failed
      rw [run_bind_error ran]
      exact .stopped suffix sound

theorem Agrees.map {later : List Char} {parsed : Parsed later α} {scan : Scan α}
    (agrees : Agrees input parsed (run scan cursor)) (transform : α → β)
    (within : later.length ≤ text.length) :
    Agrees input (parsed.map fun reading => (reading.map transform).widen within : Parsed text β)
      (run (do return transform (← scan)) cursor) := by
  generalize ran : run scan cursor = outcome at agrees
  cases agrees with
  | read suffix same stands =>
      rw [run_bind ran]
      exact .read suffix same stands
  | stopped suffix sound =>
      rw [run_bind_error ran]
      exact .stopped suffix sound

/-! Arguments -/

theorem agrees_quoted {quote : Char} (narrow : quote.utf8Size = 1)
    (stands : Stands input (quote :: text) cursor) :
    Agrees input (Predicate.quoted quote text) (run (quoted input quote) cursor) := by
  have opening : [quote] ++ text = quote :: text := rfl
  have tests : (fun c => !decide (c = quote)) = fun c => decide (c ≠ quote) := by
    funext c
    exact decide_not.symm
  obtain ⟨opened, moved, standing⟩ := gets_advance stands opening
  rw [show utf8Length [quote] = 1 from narrow] at moved
  rw [quoted, run_bind moved, run_bind (run_position opened), run_bind standing.run_rest, find?_eq,
    tests, Predicate.quoted]
  split
  next missing =>
    rw [missing]
    exact agrees_report standing _
  next last rest found =>
    have stops := ((Text.span_iff (· ≠ quote) _).mp ⟨rfl, found⟩).2.2 last rfl
    obtain rfl : last = quote := by simpa using stops
    have whole := List.takeWhile_append_dropWhile (p := (· ≠ last)) (l := text)
    rw [found] at whole
    have closing : (text.takeWhile (· ≠ last) ++ [last]) ++ rest = text := by
      rw [List.append_assoc]
      exact whole
    obtain ⟨closed, past, left⟩ := gets_advance standing closing
    rw [utf8Length_append, show utf8Length [last] = 1 from narrow] at past
    simp only [found]
    rw [run_bind past, run_bind (standing.run_sliceFrom closed),
      run_bind (run_sliceTo whole closed)]
    exact .read (List.suffix_refl rest) rfl left

theorem agrees_bare (stands : Stands input text cursor) :
    Agrees input (Predicate.bare text) (run (bare input) cursor) := by
  have length : (find? endsArgument text).getD (utf8Length text) =
      utf8Length (text.takeWhile fun c => !endsArgument c) := getD_find? endsArgument text
  have whole := List.takeWhile_append_dropWhile (p := fun c => !endsArgument c) (l := text)
  rw [bare, run_bind stands.run_rest, length, run_bind (run_sliceTo whole cursor), Predicate.bare]
  dsimp only
  split
  next => exact agrees_report stands _
  next =>
    obtain ⟨after, moved, left⟩ := gets_advance stands whole
    rw [run_bind moved]
    exact .read (List.suffix_refl _) rfl left

theorem agrees_argument (stands : Stands input text cursor) :
    Agrees input (Predicate.argument text) (run (argument input) cursor) := by
  rw [argument, run_bind stands.run_peek, Predicate.argument.eq_def]
  split
  next rest => exact (agrees_quoted rfl stands).widen _
  next rest => exact (agrees_quoted rfl stands).widen _
  next single double =>
    cases text with
    | nil => exact agrees_bare stands
    | cons c text =>
        have plain : Grammar.isQuote c = false := by
          rw [Grammar.isQuote, Bool.or_eq_false_iff, decide_eq_false_iff_not,
            decide_eq_false_iff_not]
          exact ⟨fun same => single text (same ▸ rfl), fun same => double text (same ▸ rfl)⟩
        rw [List.head?_cons]
        simp only [plain]
        exact agrees_bare stands

theorem head?_ne {c : Char} (other : ∀ rest, text = c :: rest → False) : text.head? ≠ some c := by
  intro first
  cases text with
  | nil => cases first
  | cons d rest =>
      cases first
      exact other rest rfl

theorem agrees_moreArguments (depth : Nat) (enough : text.length < depth) (earlier : List String)
    {start : List Char} (stands : Stands input start cursor)
    (same : skipBlanks start = skipBlanks text) :
    Agrees input (Predicate.moreArguments earlier text)
      (run (moreArguments input depth earlier) cursor) := by
  induction depth generalizing text start earlier cursor with
  | zero => omega
  | succ depth ih =>
      obtain ⟨skipped, moved, standing⟩ := gets_skipWhite stands
      rw [same] at standing
      have first := agrees_argument standing
      rw [moreArguments, run_bind moved, Predicate.moreArguments.eq_def]
      split
      next stop failed => exact first.bind_error failed _
      next value rest shorter found =>
        obtain ⟨left, read, ran, -, trimmed, leaves⟩ := first.of_ok found
        obtain ⟨before, skipped, standing⟩ := gets_skipWhite leaves
        rw [run_bind ran, run_bind skipped]
        rw [trimmed] at standing
        split
        next next comma =>
          rw [comma] at standing
          obtain ⟨after, eaten, passed⟩ := gets_eatCharacter standing
          rw [run_bind eaten, if_pos rfl]
          have within : next.length < text.length := by
            have skippedText := Text.length_skipBlanks_le text
            have skippedRest := Text.length_skipBlanks_le rest
            rw [comma, List.length_cons] at skippedRest
            omega
          exact (ih (by omega) _ passed rfl).widen _
        next next bracket =>
          rw [bracket] at standing
          obtain ⟨after, eaten, passed⟩ := gets_eatCharacter standing
          rw [run_bind (run_eatCharacter_of_ne standing (by simp)), if_neg (by simp),
            run_bind eaten, if_pos rfl]
          exact .read (List.suffix_refl next) rfl passed
        next noComma noBracket =>
          rw [run_bind (run_eatCharacter_of_ne standing (head?_ne noComma)), if_neg (by simp),
            run_bind (run_eatCharacter_of_ne standing (head?_ne noBracket)), if_neg (by simp)]
          exact agrees_report standing _

theorem agrees_arguments {depth : Nat} (enough : text.length < depth)
    (stands : Stands input text cursor) :
    Agrees input (Predicate.arguments text) (run (arguments input depth) cursor) := by
  obtain ⟨skipped, moved, standing⟩ := gets_skipWhite stands
  rw [arguments, run_bind moved, Predicate.arguments]
  split
  next rest bracket =>
    rw [bracket] at standing
    obtain ⟨after, eaten, passed⟩ := gets_eatCharacter standing
    rw [run_bind eaten, if_pos rfl]
    exact .read (List.suffix_refl rest) rfl passed
  next noBracket =>
    rw [run_bind (run_eatCharacter_of_ne standing (head?_ne noBracket)), if_neg (by simp)]
    exact agrees_moreArguments depth enough [] standing (skipBlanks_skipBlanks text)

/-! Expressions -/

theorem run_named (name : String) (values : List String) (cursor : Cursor) :
    run (named name values) cursor = some (.ok (Predicate.named name values), cursor) := by
  unfold Predicate.named
  split
  next whole => rfl
  next start => rfl
  next ending => rfl
  next wanted =>
    have removed : run (removeFirst [wanted]) cursor = some (.ok (wanted, []), cursor) := rfl
    rw [named, run_bind removed]
    · dsimp only
      cases Method.ofName? wanted.toUpper with
      | some method => rfl
      | none => rfl
    · rfl
  next field => rfl
  next field value => rfl
  next field => rfl
  next field value => rfl
  next path start ending method header headerValue query queryValue =>
    have alone (one : values.length = 1) (other : ∀ value, values = [value] → False) : False := by
      obtain ⟨value, rfl⟩ := List.length_eq_one_iff.mp one
      exact other value rfl
    have paired (two : values.length = 2) (other : ∀ value next, values = [value, next] → False) :
        False := by
      match values, two with
      | [value, next], _ => exact other value next rfl
    unfold named
    split
    next one => exact (alone one fun value => path value rfl).elim
    next one => exact (alone one fun value => start value rfl).elim
    next one => exact (alone one fun value => ending value rfl).elim
    next one => exact (alone one fun value => method value rfl).elim
    next one => exact (alone one fun value => header value rfl).elim
    next two => exact (paired two fun value next => headerValue value next rfl).elim
    next one => exact (alone one fun value => query value rfl).elim
    next two => exact (paired two fun value next => queryValue value next rfl).elim
    next => rfl
    next => rfl
    next => rfl
    next => rfl
    next => rfl
    next => rfl
    next noPath noPrefix noSuffix noMethod noHeader noQuery _ _ _ _ _ _ _ _ =>
      rw [if_neg, if_neg]
      · rfl
      · simp only [List.mem_cons, List.not_mem_nil, or_false, not_or]
        exact ⟨noHeader, noQuery⟩
      · simp only [List.mem_cons, List.not_mem_nil, or_false, not_or]
        exact ⟨noPath, noPrefix, noSuffix, noMethod⟩

theorem afterWord_eq_self (none : word text = "") : afterWord text = text := by
  have whole := List.takeWhile_append_dropWhile (p := isWordCharacter) (l := text)
  rw [show text.takeWhile isWordCharacter = [] from (ofList_eq_iff _ _).mp none] at whole
  exact whole

theorem agrees_atom {depth : Nat} (enough : text.length ≤ depth) {start : List Char}
    (stands : Stands input start cursor) (same : skipBlanks start = skipBlanks text) :
    Agrees input (Predicate.atom text) (run (atom input depth) cursor) := by
  have skippedText := Text.length_skipBlanks_le text
  obtain ⟨beginning, moved, standing⟩ := gets_skipWhite stands
  rw [same] at standing
  obtain ⟨middle, read, leaves⟩ := gets_identifier standing
  rw [atom, run_bind moved, run_bind (run_position beginning), run_bind read, Predicate.atom]
  dsimp only
  split
  next empty =>
    rw [afterWord_eq_self empty] at leaves
    exact agrees_report leaves _
  next nonempty =>
    simp only [Bool.or_eq_true, decide_eq_true_eq]
    split
    next constant =>
      rcases constant with truth | falsehood
      · rw [if_pos truth, decide_eq_true truth]
        exact .read (List.suffix_refl _) rfl leaves
      · have different : word (skipBlanks text) ≠ "true" := by simp [falsehood]
        rw [if_neg different, if_pos falsehood, decide_eq_false different]
        exact .read (List.suffix_refl _) rfl leaves
    next condition =>
      obtain ⟨noTruth, noFalsehood⟩ := not_or.mp condition
      obtain ⟨before, skipped, reaches⟩ := gets_skipWhite leaves
      rw [if_neg noTruth, if_neg noFalsehood, run_bind skipped]
      split
      next rest bracket =>
        rw [bracket] at reaches
        obtain ⟨inside, eaten, passed⟩ := gets_eatCharacter reaches
        have shorter := length_afterWord_lt nonempty
        have skippedWord := Text.length_skipBlanks_le (afterWord (skipBlanks text))
        rw [bracket, List.length_cons] at skippedWord
        have within : rest.length < depth := by omega
        have list := agrees_arguments within passed
        rw [run_bind eaten, if_pos rfl]
        split
        next stop failed => exact list.bind_error failed _
        next values left within found =>
          obtain ⟨kept, after, ran, suffix, trimmed, ends⟩ := list.of_ok found
          rw [run_bind ran, run_bind (run_named _ _ after)]
          split
          next fault unknown =>
            rw [unknown, standing.position_eq]
            exact .stopped standing.suffix ends.boundary
          next predicate known =>
            rw [known]
            exact .read suffix trimmed ends
      next unopened =>
        rw [run_bind (run_eatCharacter_of_ne reaches (head?_ne unopened)), if_neg (by simp)]
        exact agrees_report reaches _

/-- At a depth, every text that is short enough is read as the parser does. -/
structure Follows (input : List Char) (depth : Nat) : Prop where
  operand {text : List Char} {cursor : Cursor} : 3 * text.length < depth →
    Stands input text cursor →
    Agrees input (Predicate.operand text) (run (operand input depth) cursor)
  chain (connective : Connective) (earlier : List Predicate) {text : List Char} {cursor : Cursor} :
    3 * text.length + connective.rank < depth → Stands input text cursor →
    Agrees input (Predicate.chain connective earlier text)
      (run (chain input depth connective earlier) cursor)

theorem run_join (connective : Connective) (earlier : List Predicate) (next : Predicate)
    (cursor : Cursor) :
    run (if (earlier ++ [next]).length = 1 then do return (← removeFirst (earlier ++ [next])).1
      else return node connective (earlier ++ [next])) cursor =
        some (.ok (connective.join (earlier ++ [next])), cursor) := by
  cases earlier with
  | nil => rfl
  | cons first others =>
      have several : 2 ≤ (first :: others ++ [next]).length := by simp
      rw [if_neg (by omega), join_of_two_le connective several]
      rfl

theorem afterKeyword?_congr {keyword : String} {other : List Char}
    (same : skipBlanks other = skipBlanks text) :
    afterKeyword? keyword other = afterKeyword? keyword text := by
  rw [afterKeyword?, afterKeyword?, same]

section Step

variable {depth : Nat} (follows : Follows input depth)

include follows

theorem agrees_below (connective : Connective)
    (enough : 3 * text.length + connective.rank < depth + 1) (stands : Stands input text cursor) :
    Agrees input (read text (below connective))
      (run (scan input depth (below connective)) cursor) := by
  cases connective with
  | or =>
      rw [Connective.rank] at enough
      exact follows.chain .and [] (by rw [Connective.rank]; omega) stands
  | and =>
      rw [Connective.rank] at enough
      exact follows.operand (by omega) stands

theorem agrees_chain (connective : Connective) (earlier : List Predicate)
    (enough : 3 * text.length + connective.rank < depth + 1) (stands : Stands input text cursor) :
    Agrees input (Predicate.chain connective earlier text)
      (run (chain input (depth + 1) connective earlier) cursor) := by
  have first := agrees_below follows connective enough stands
  rw [chain_succ]
  generalize parsed : read text (below connective) = part at first
  -- The parser has the two connectives as branches of one definition.
  cases connective
  all_goals
    rw [Predicate.chain.eq_def]
    rw [Connective.rank] at enough
    dsimp only
    split
    next stop failed =>
      obtain rfl := parsed.symm.trans failed
      exact first.bind_error rfl _
    next predicate rest shorter found =>
      obtain rfl := parsed.symm.trans found
      obtain ⟨left, after, ran, suffix, trimmed, ends⟩ := first.of_ok rfl
      rw [run_bind ran]
      split
      next next keyword =>
        rw [← afterKeyword?_congr trimmed] at keyword
        obtain ⟨beyond, eaten, passed⟩ := gets_eatKeyword ends keyword
        rw [run_bind eaten, if_pos rfl]
        have shorterNext := length_of_afterKeyword? (Connective.keyword_ne_empty _) keyword
        have kept := suffix.length_le
        exact (follows.chain _ _ (by rw [Connective.rank]; omega) passed).widen _
      next missing =>
        rw [← afterKeyword?_congr trimmed] at missing
        obtain ⟨beyond, uneaten, stays⟩ := gets_eatKeyword_of_none ends missing
        rw [run_bind uneaten, if_neg (by simp), run_join]
        have further : skipBlanks left <:+ rest := (List.dropWhile_suffix _).trans suffix
        exact .read further ((skipBlanks_skipBlanks left).trans trimmed) stays

theorem agrees_operand (enough : 3 * text.length < depth + 1) (stands : Stands input text cursor) :
    Agrees input (Predicate.operand text) (run (operand input (depth + 1)) cursor) := by
  have skippedText := Text.length_skipBlanks_le text
  obtain ⟨beginning, moved, standing⟩ := gets_skipWhite stands
  rw [operand, run_bind moved, Predicate.operand]
  split
  next inner opened =>
    rw [opened] at standing
    rw [opened, List.length_cons] at skippedText
    obtain ⟨inside, eaten, passed⟩ := gets_eatCharacter standing
    have expression := follows.chain .or [] (by rw [Connective.rank]; omega) passed
    rw [run_bind eaten, if_pos rfl]
    split
    next stop failed => exact expression.bind_error failed _
    next predicate rest shorter found =>
      obtain ⟨left, after, ran, -, trimmed, ends⟩ := expression.of_ok found
      obtain ⟨before, skipped, reaches⟩ := gets_skipWhite ends
      rw [run_bind ran, run_bind skipped]
      rw [trimmed] at reaches
      split
      next rest closed =>
        rw [closed] at reaches
        obtain ⟨outside, eaten, passed⟩ := gets_eatCharacter reaches
        rw [run_bind eaten, if_pos rfl]
        exact .read (List.suffix_refl rest) rfl passed
      next unclosed =>
        rw [run_bind (run_eatCharacter_of_ne reaches (head?_ne unclosed)), if_neg (by simp)]
        exact agrees_report reaches _
  next unopened =>
    rw [run_bind (run_eatCharacter_of_ne standing (head?_ne unopened)), if_neg (by simp)]
    split
    next rest keyword =>
      have within := length_of_afterKeyword? (by decide) keyword
      rw [← afterKeyword?_congr (skipBlanks_skipBlanks text)] at keyword
      obtain ⟨after, eaten, passed⟩ := gets_eatKeyword standing keyword
      rw [run_bind eaten, if_pos rfl]
      exact (follows.operand (by omega) passed).map Predicate.negation _
    next missing =>
      rw [← afterKeyword?_congr (skipBlanks_skipBlanks text)] at missing
      obtain ⟨after, uneaten, stays⟩ := gets_eatKeyword_of_none standing missing
      rw [run_bind uneaten, if_neg (by simp)]
      exact agrees_atom (by omega) stays (by simp only [skipBlanks_skipBlanks])

end Step

theorem follows (input : List Char) (depth : Nat) : Follows input depth := by
  induction depth with
  | zero => exact ⟨fun enough => by omega, fun _ _ _ _ enough => by omega⟩
  | succ depth ih =>
      exact ⟨agrees_operand ih, fun connective earlier => agrees_chain ih connective earlier⟩

theorem agrees_scan (level : Level) {depth : Nat} (enough : 3 * text.length + 3 ≤ depth)
    (stands : Stands input text cursor) :
    Agrees input (read text level) (run (scan input depth level) cursor) := by
  have all := follows input depth
  cases level with
  | operand => exact all.operand (by omega) stands
  | chain connective =>
      have small : connective.rank ≤ 2 := by cases connective <;> decide
      exact all.chain connective [] (by omega) stands

/-! Safety -/

/-- A depth that suffices for an expression. -/
def reach (expression : String) : Nat := 3 * expression.length + 3

/-- A scan ends, at every depth from some on in the same way. It has only stood at boundaries, moves
on where it succeeds and reports a boundary where it does not. -/
def Safe (expression : String) (scan : Nat → Scan α) (cursor : Cursor) : Prop :=
  ∃ outcome after,
    (∀ depth, reach expression ≤ depth → run (scan depth) cursor = some (outcome, after)) ∧
    (∀ position ∈ after.visited, String.Pos.Raw.IsValid expression ⟨position⟩) ∧
    match outcome with
    | .ok _ => cursor.position < after.position
    | .error halt => ∃ error, halt = .reported error ∧
        String.Pos.Raw.IsValid expression ⟨error.position⟩

theorem boundary_of_suffix (suffix : text <:+ input) :
    Boundary input (utf8Length input - utf8Length text) := by
  obtain ⟨front, rfl⟩ := suffix
  refine ⟨front, text, rfl, ?_⟩
  rw [utf8Length_append]
  omega

theorem Stands.position_lt {left : List Char} {after : Cursor} (stands : Stands input text cursor)
    (ends : Stands input left after) (shorter : left.length < text.length) :
    cursor.position < after.position := by
  obtain ⟨passed, rfl⟩ := List.suffix_of_suffix_length_le ends.suffix stands.suffix shorter.le
  obtain ⟨front, rfl⟩ := stands.suffix
  have some : passed ≠ [] := by
    rintro rfl
    exact absurd shorter (by simp)
  have bytes := utf8Length_pos some
  rw [stands.position_eq, ends.position_eq]
  simp only [utf8Length_append]
  omega

theorem Agrees.safe {expression : String} {parsed : Parsed text α} {scan : Nat → Scan α}
    (agrees : Agrees expression.toList parsed (run (scan (reach expression)) cursor))
    (deeper : ∀ depth, reach expression ≤ depth →
      Extends (scan (reach expression)) (scan depth))
    (stands : Stands expression.toList text cursor) : Safe expression scan cursor := by
  generalize ran : run (scan (reach expression)) cursor = outcome at agrees
  cases agrees with
  | @read value rest left shorter after suffix _ ends =>
      refine ⟨_, _, fun depth enough => deeper depth enough _ _ ran, fun position visited => ?_, ?_⟩
      · exact boundary_iff_isValid.mp (ends.boundary position visited)
      · exact stands.position_lt ends (Nat.lt_of_le_of_lt suffix.length_le shorter)
  | stopped suffix sound =>
      refine ⟨_, _, fun depth enough => deeper depth enough _ _ ran, fun position visited => ?_, _,
        rfl, ?_⟩
      · exact boundary_iff_isValid.mp (sound position visited)
      · exact boundary_iff_isValid.mp (boundary_of_suffix suffix)

theorem run_parse (expression : String) :
    ∃ cursor, run (parse expression.toList (reach expression)) .start =
        some ((Predicate.parse expression).mapError .reported, cursor) ∧
      (∀ position ∈ cursor.visited, Boundary expression.toList position) ∧
      ∀ error, Predicate.parse expression = .error error →
        Boundary expression.toList error.position := by
  have enough : 3 * expression.toList.length + 3 ≤ reach expression := by
    rw [reach, String.length_toList]
  have agrees := agrees_scan (.chain .or) enough (Stands.start expression.toList)
  rw [Predicate.parse, parseCharacters, parse]
  generalize parsed : read expression.toList (.chain .or) = part at agrees
  generalize ran : run (scan expression.toList _ (.chain .or)) .start = outcome at agrees
  rw [show Predicate.chain .or [] expression.toList = part from parsed]
  rw [scan] at ran
  cases agrees with
  | stopped suffix sound =>
      refine ⟨_, run_bind_error ran _, sound, ?_⟩
      rintro _ ⟨⟩
      exact boundary_of_suffix suffix
  | @read predicate rest left shorter after _ trimmed ends =>
      obtain ⟨final, moved, reaches⟩ := gets_skipWhite ends
      rw [trimmed] at reaches
      rw [run_bind ran, run_bind moved, run_bind (run_position final)]
      dsimp only
      cases kept : skipBlanks rest with
      | nil =>
          rw [if_pos (reaches.atEnd_iff.mpr kept)]
          exact ⟨final, rfl, reaches.boundary, by simp⟩
      | cons c others =>
          have unended : skipBlanks rest ≠ [] := by simp [kept]
          rw [if_neg (mt reaches.atEnd_iff.mp unended), run_report, reaches.position_eq, kept]
          refine ⟨final, rfl, reaches.boundary, ?_⟩
          rintro _ ⟨⟩
          exact boundary_of_suffix (kept ▸ reaches.suffix)

/-- Reading an expression by hand ends as the parser does, since calls nest three deep for each
character at most. No slice is cut and nothing is removed where that fails: the cursor only stands
between characters, and so does every error. A call for an operand, a chain or an argument moves on
if it succeeds. -/
theorem parse_safe (expression : String) :
    (∃ cursor, (∀ depth, reach expression ≤ depth →
        run (parse expression.toList depth) .start =
          some ((Predicate.parse expression).mapError .reported, cursor)) ∧
      ∀ position ∈ cursor.visited, String.Pos.Raw.IsValid expression ⟨position⟩) ∧
    (∀ cursor : Cursor,
      (∀ position ∈ cursor.visited, String.Pos.Raw.IsValid expression ⟨position⟩) →
        (∀ level, Safe expression (scan expression.toList · level) cursor) ∧
          Safe expression (fun _ => argument expression.toList) cursor) ∧
    ∀ error, Predicate.parse expression = .error error →
      String.Pos.Raw.IsValid expression ⟨error.position⟩ := by
  obtain ⟨final, ran, sound, reported⟩ := run_parse expression
  refine ⟨⟨final, fun depth enough => ?_, fun position visited => ?_⟩, ?_, ?_⟩
  · exact extends_parse expression.toList enough _ _ ran
  · exact boundary_iff_isValid.mp (sound position visited)
  · intro cursor sound
    obtain ⟨text, stands⟩ := Stands.exists_of_boundary fun position visited =>
      boundary_iff_isValid.mpr (sound position visited)
    have enough : 3 * text.length + 3 ≤ reach expression := by
      have within := stands.suffix.length_le
      rw [String.length_toList] at within
      rw [reach]
      omega
    refine ⟨fun level => ?_, ?_⟩
    · exact (agrees_scan level enough stands).safe
        (fun depth deeper => extends_scan expression.toList level deeper) stands
    · exact (agrees_argument stands).safe (fun _ _ => .refl _) stands
  · intro error failed
    exact boundary_iff_isValid.mp (reported error failed)

theorem parse_unterminated :
    Predicate.parse "header['é" = .error ⟨8, .unterminatedQuote⟩ := by
  have argument : Predicate.moreArguments [] "'é".toList = .error ⟨['é'], .unterminatedQuote⟩ := by
    rw [Predicate.moreArguments]
    rfl
  have bracket : Predicate.arguments "'é".toList = .error ⟨['é'], .unterminatedQuote⟩ := by
    rw [Predicate.arguments]
    exact argument
  have first : Predicate.atom "header['é".toList = .error ⟨['é'], .unterminatedQuote⟩ :=
    atom_of_error (by decide) (by decide) rfl bracket
  have whole : Predicate.chain .or [] "header['é".toList = .error ⟨['é'], .unterminatedQuote⟩ := by
    apply chain_of_error
    apply chain_of_error
    exact operand_of_error (by rintro inner ⟨⟩) rfl first
  rw [Predicate.parse, parseCharacters, whole]
  rfl

theorem parse_safe_unterminated :
    (Predicate.parse "header['é" = .error ⟨8, .unterminatedQuote⟩ ∧
      String.Pos.Raw.IsValid "header['é" ⟨8⟩) ∧
    Safe "header['é" (fun _ => argument "header['é".toList) ⟨7, [0]⟩ := by
  obtain ⟨-, calls, reported⟩ := parse_safe "header['é"
  have sound : ∀ position ∈ (Cursor.mk 7 [0]).visited,
      String.Pos.Raw.IsValid "header['é" ⟨position⟩ := by decide
  exact ⟨⟨parse_unterminated, reported _ parse_unterminated⟩, (calls ⟨7, [0]⟩ sound).2⟩

end Switchboard.Predicate.Scan
