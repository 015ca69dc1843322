import Switchboard.Proofs.Predicate.Grammar

/-!
A reader of predicate expressions that stands at a position, in bytes, and moves it by hand. It cuts
slices, which fails inside a character and past the end; it removes from lists, which fails on empty
ones; and its calls may nest without end, since how it is written does not show that it moves on. So
it is given a depth, and has no outcome where its calls nest deeper.
-/

namespace Switchboard.Predicate

namespace Scan

/-- Where a reader stands and where it has stood, the latest first. -/
structure Cursor where
  position : Nat
  earlier : List Nat

def Cursor.start : Cursor := ⟨0, []⟩

def Cursor.visited (cursor : Cursor) : List Nat := cursor.position :: cursor.earlier

inductive Halt where
  | reported (error : ParseError)
  | slice (offset : Nat)
  | removal

end Scan

open Scan

abbrev Scan (α : Type) : Type := ExceptT Halt (StateT Cursor Option) α

namespace Scan

variable {α : Type}

def run (scan : Scan α) (cursor : Cursor) : Option (Except Halt α × Cursor) :=
  (ExceptT.run scan).run cursor

def cut? : List Char → Nat → Option (List Char × List Char)
  | text, 0 => some ([], text)
  | [], _ + 1 => none
  | c :: text, offset + 1 =>
    if c.utf8Size ≤ offset + 1 then
      (cut? text (offset + 1 - c.utf8Size)).map fun (front, back) => (c :: front, back)
    else none

def find? (test : Char → Bool) : List Char → Option Nat
  | [] => none
  | c :: text => if test c then some 0 else (find? test text).map (c.utf8Size + ·)

/-- A call that nests too deep. -/
def exhausted : Scan α := ExceptT.mk fun _ => none

def position : Scan Nat := return (← get).position

def moveTo (position : Nat) : Scan Unit :=
  modify fun cursor => ⟨position, cursor.visited⟩

def advance (bytes : Nat) : Scan Unit := do
  moveTo ((← position) + bytes)

def report (fault : Fault) : Scan α := do
  throw (.reported ⟨← position, fault⟩)

def sliceTo (text : List Char) (offset : Nat) : Scan (List Char) :=
  match cut? text offset with
  | some (front, _) => return front
  | none => throw (.slice offset)

def sliceFrom (text : List Char) (offset : Nat) : Scan (List Char) :=
  match cut? text offset with
  | some (_, back) => return back
  | none => throw (.slice offset)

def removeFirst : List α → Scan (α × List α)
  | [] => throw .removal
  | first :: others => return (first, others)

section Tokens

variable (input : List Char)

def rest : Scan (List Char) := do
  sliceFrom input (← position)

def peek : Scan (Option Char) := return (← rest input).head?

def skipWhite : Scan Unit := do
  let rest ← rest input
  advance (utf8Length rest - utf8Length (Text.skipBlanks rest))

def eatCharacter (c : Char) : Scan Bool := do
  if (← peek input) = some c then
    advance c.utf8Size
    return true
  else return false

def identifier : Scan String := do
  let rest ← rest input
  let length := (find? (!isWordCharacter ·) rest).getD (utf8Length rest)
  advance length
  return String.ofList (← sliceTo rest length)

def eatKeyword (keyword : String) : Scan Bool := do
  skipWhite input
  let saved ← position
  if (← identifier input) = keyword then return true
  else
    moveTo saved
    return false

def quoted (quote : Char) : Scan String := do
  advance 1
  let start ← position
  match find? (· = quote) (← rest input) with
  | some length => do
    advance (length + 1)
    return String.ofList (← sliceTo (← sliceFrom input start) length)
  | none => report .unterminatedQuote

def bare : Scan String := do
  let rest ← rest input
  let length := (find? endsArgument rest).getD (utf8Length rest)
  let argument := Text.trimmed (← sliceTo rest length)
  if argument = [] then report .emptyArgument
  else
    advance length
    return String.ofList argument

def argument : Scan String := do
  match ← peek input with
  | some c => if Grammar.isQuote c then quoted input c else bare input
  | none => bare input

end Tokens

def named (name : String) (arguments : List String) : Scan (Except Fault Predicate) :=
  match name, arguments.length with
  | "path", 1 => return .ok (.path (← removeFirst arguments).1)
  | "path-prefix", 1 => return .ok (.pathPrefix (← removeFirst arguments).1)
  | "path-suffix", 1 => return .ok (.pathSuffix (← removeFirst arguments).1)
  | "method", 1 => do
    let raw := (← removeFirst arguments).1.toUpper
    match Method.ofName? raw with
    | some wanted => return .ok (.method wanted)
    | none => return .error (.invalidMethod raw)
  | "header", 1 | "header", 2 => do
    let (field, others) ← removeFirst arguments
    return .ok (.header field others.getLast?)
  | "query", 1 | "query", 2 => do
    let (field, others) ← removeFirst arguments
    return .ok (.parameter field others.getLast?)
  | "path", count | "path-prefix", count | "path-suffix", count | "method", count =>
    return .error (.argumentCount name false count)
  | "header", count | "query", count => return .error (.argumentCount name true count)
  | _, _ => return .error (.unknownName name)

variable (input : List Char)

def moreArguments : Nat → List String → Scan (List String)
  | 0, _ => exhausted
  | depth + 1, earlier => do
    skipWhite input
    let value ← argument input
    skipWhite input
    if ← eatCharacter input ',' then moreArguments depth (earlier ++ [value])
    else if ← eatCharacter input ']' then return earlier ++ [value]
    else report .expectedSeparator

def arguments (depth : Nat) : Scan (List String) := do
  skipWhite input
  if ← eatCharacter input ']' then return []
  else moreArguments input depth []

def atom (depth : Nat) : Scan Predicate := do
  skipWhite input
  let start ← position
  let name ← identifier input
  if name = "" then report .expectedName
  else if name = "true" then return .constant true
  else if name = "false" then return .constant false
  else
    skipWhite input
    if ← eatCharacter input '[' then
      let values ← arguments input depth
      match ← named name values with
      | .ok predicate => return predicate
      | .error fault => throw (.reported ⟨start, fault⟩)
    else report (.expectedBracket name)

mutual

def chain : Nat → Connective → List Predicate → Scan Predicate
  | 0, _, _ => exhausted
  | depth + 1, connective, earlier => do
    let next ← match connective with
      | .or => chain depth .and []
      | .and => operand depth
    let operands := earlier ++ [next]
    if ← eatKeyword input connective.keyword then chain depth connective operands
    else if operands.length = 1 then return (← removeFirst operands).1
    else return Grammar.node connective operands

def operand : Nat → Scan Predicate
  | 0 => exhausted
  | depth + 1 => do
    skipWhite input
    if ← eatCharacter input '(' then
      let inner ← chain depth .or []
      skipWhite input
      if ← eatCharacter input ')' then return inner
      else report .expectedParenthesis
    else if ← eatKeyword input "not" then return .negation (← operand depth)
    else atom input depth

end

def parse (depth : Nat) : Scan Predicate := do
  let predicate ← chain input depth .or []
  skipWhite input
  if (← position) ≥ utf8Length input then return predicate
  else report .trailingInput

def scan (depth : Nat) : Grammar.Level → Scan Predicate
  | .chain connective => chain input depth connective []
  | .operand => operand input depth

/-! Runs -/

theorem run_throw (halt : Halt) (cursor : Cursor) :
    run (throw halt : Scan α) cursor = some (.error halt, cursor) := rfl

theorem run_position (cursor : Cursor) :
    run position cursor = some (.ok cursor.position, cursor) := rfl

theorem run_moveTo (position : Nat) (cursor : Cursor) :
    run (moveTo position) cursor = some (.ok (), ⟨position, cursor.visited⟩) := rfl

theorem run_report (fault : Fault) (cursor : Cursor) :
    run (report fault : Scan α) cursor =
      some (.error (.reported ⟨cursor.position, fault⟩), cursor) := rfl

variable {β : Type} {before after : Cursor}

theorem run_bind_eq (scan : Scan α) (next : α → Scan β) (cursor : Cursor) :
    run (scan >>= next) cursor =
      match run scan cursor with
      | none => none
      | some (.error halt, after) => some (.error halt, after)
      | some (.ok value, after) => run (next value) after := by
  change ((ExceptT.run scan).run cursor).bind _ = _
  unfold run
  cases (ExceptT.run scan).run cursor with
  | none => rfl
  | some ended =>
      obtain ⟨outcome, after⟩ := ended
      cases outcome with
      | error halt => rfl
      | ok value => rfl

theorem run_bind {scan : Scan α} {value : α} (ran : run scan before = some (.ok value, after))
    (next : α → Scan β) : run (scan >>= next) before = run (next value) after := by
  rw [run_bind_eq, ran]

theorem run_bind_error {scan : Scan α} {halt : Halt}
    (ran : run scan before = some (.error halt, after)) (next : α → Scan β) :
    run (scan >>= next) before = some (.error halt, after) := by
  rw [run_bind_eq, ran]

/-! Depth -/

theorem chain_succ (input : List Char) (depth : Nat) (connective : Connective)
    (earlier : List Predicate) :
    chain input (depth + 1) connective earlier = do
      let next ← scan input depth (Grammar.below connective)
      let operands := earlier ++ [next]
      if ← eatKeyword input connective.keyword then chain input depth connective operands
      else if operands.length = 1 then return (← removeFirst operands).1
      else return Grammar.node connective operands := by
  rw [chain.eq_def]
  cases connective <;> rfl

def Extends (scan other : Scan α) : Prop :=
  ∀ cursor ended, run scan cursor = some ended → run other cursor = some ended

namespace Extends

theorem refl (scan : Scan α) : Extends scan scan := fun _ _ ran => ran

theorem exhausted (scan : Scan α) : Extends exhausted scan := fun _ _ ran => nomatch ran

theorem bind {scan other : Scan α} {next following : α → Scan β} (first : Extends scan other)
    (later : ∀ value, Extends (next value) (following value)) :
    Extends (scan >>= next) (other >>= following) := by
  intro cursor ended ran
  rw [run_bind_eq] at ran
  split at ran
  next => cases ran
  next halt after halted =>
    rw [run_bind_error (first _ _ halted), ran]
  next value after read =>
    rw [run_bind (first _ _ read)]
    exact later value _ _ ran

theorem ite {condition : Prop} [Decidable condition] {scan other next following : Scan α}
    (yes : Extends scan other) (no : Extends next following) :
    Extends (if condition then scan else next) (if condition then other else following) := by
  split
  next => exact yes
  next => exact no

theorem trans {scan other last : Scan α} (first : Extends scan other)
    (second : Extends other last) : Extends scan last :=
  fun _ _ ran => second _ _ (first _ _ ran)

end Extends

section Depth

variable (input : List Char)

theorem extends_moreArguments (depth : Nat) (earlier : List String) :
    Extends (moreArguments input depth earlier) (moreArguments input (depth + 1) earlier) := by
  induction depth generalizing earlier with
  | zero => exact .exhausted _
  | succ depth ih =>
      rw [moreArguments, moreArguments]
      refine .bind (.refl _) fun _ => .bind (.refl _) fun value => .bind (.refl _) fun _ => ?_
      refine .bind (.refl _) fun _ => ?_
      exact .ite (ih _) (.refl _)

theorem extends_atom (depth : Nat) : Extends (atom input depth) (atom input (depth + 1)) := by
  have list : Extends (arguments input depth) (arguments input (depth + 1)) := by
    refine .bind (.refl _) fun _ => .bind (.refl _) fun _ => ?_
    exact .ite (.refl _) (extends_moreArguments input depth [])
  refine .bind (.refl _) fun _ => .bind (.refl _) fun _ => .bind (.refl _) fun _ => ?_
  refine .ite (.refl _) (.ite (.refl _) (.ite (.refl _) ?_))
  refine .bind (.refl _) fun _ => .bind (.refl _) fun _ => .ite ?_ (.refl _)
  exact .bind list fun _ => .refl _

theorem extends_chain {depth : Nat} {connective : Connective}
    (next : Extends (scan input depth (Grammar.below connective))
      (scan input (depth + 1) (Grammar.below connective)))
    (following : ∀ earlier, Extends (chain input depth connective earlier)
      (chain input (depth + 1) connective earlier)) (earlier : List Predicate) :
    Extends (chain input (depth + 1) connective earlier)
      (chain input (depth + 2) connective earlier) := by
  rw [chain_succ, chain_succ]
  refine .bind next fun _ => .bind (.refl _) fun _ => ?_
  exact .ite (following _) (.refl _)

theorem extends_operand {depth : Nat}
    (expression : Extends (chain input depth .or []) (chain input (depth + 1) .or []))
    (inner : Extends (operand input depth) (operand input (depth + 1))) :
    Extends (operand input (depth + 1)) (operand input (depth + 2)) := by
  rw [operand, operand]
  refine .bind (.refl _) fun _ => .bind (.refl _) fun _ => .ite ?_ ?_
  · exact .bind expression fun _ => .refl _
  · refine .bind (.refl _) fun _ => .ite ?_ (extends_atom input depth)
    exact .bind inner fun _ => .refl _

theorem extends_succ (depth : Nat) :
    (∀ connective earlier, Extends (chain input depth connective earlier)
      (chain input (depth + 1) connective earlier)) ∧
    Extends (operand input depth) (operand input (depth + 1)) := by
  induction depth with
  | zero => exact ⟨fun _ _ => .exhausted _, .exhausted _⟩
  | succ depth ih =>
      obtain ⟨chains, operands⟩ := ih
      refine ⟨fun connective => extends_chain input ?_ (chains connective),
        extends_operand input (chains .or []) operands⟩
      cases connective with
      | or => exact chains .and []
      | and => exact operands

/-- What a scan gives at a depth, it gives at every greater one. -/
theorem extends_scan (level : Grammar.Level) {depth other : Nat} (within : depth ≤ other) :
    Extends (scan input depth level) (scan input other level) := by
  induction within with
  | refl => exact .refl _
  | @step other _ ih =>
      refine ih.trans ?_
      cases level with
      | operand => exact (extends_succ input other).2
      | chain connective => exact (extends_succ input other).1 connective []

theorem extends_parse {depth other : Nat} (within : depth ≤ other) :
    Extends (parse input depth) (parse input other) :=
  .bind (extends_scan input (.chain .or) within) fun _ => .refl _

end Depth

/-! Offsets -/

theorem utf8Length_eq (text : List Char) : utf8Length text = (String.ofList text).utf8ByteSize := by
  induction text with
  | nil => rfl
  | cons c text ih =>
      rw [String.ofList_cons, String.utf8ByteSize_append, String.utf8ByteSize_singleton, ← ih]
      rfl

theorem utf8Length_append (front back : List Char) :
    utf8Length (front ++ back) = utf8Length front + utf8Length back := by
  rw [utf8Length_eq, String.ofList_append, String.utf8ByteSize_append, ← utf8Length_eq,
    ← utf8Length_eq]

theorem utf8Length_pos {text : List Char} (some : text ≠ []) : 0 < utf8Length text := by
  cases text with
  | nil => exact absurd rfl some
  | cons c text => exact Nat.lt_of_lt_of_le c.utf8Size_pos (Nat.le_add_right _ _)

theorem cut?_utf8Length (front back : List Char) :
    cut? (front ++ back) (utf8Length front) = some (front, back) := by
  induction front with
  | nil => cases back <;> rfl
  | cons c front ih =>
      obtain ⟨bytes, positive⟩ := Nat.exists_eq_succ_of_ne_zero (Nat.ne_of_gt c.utf8Size_pos)
      have whole : utf8Length (c :: front) = (bytes + utf8Length front) + 1 := by
        change c.utf8Size + utf8Length front = _
        omega
      have left : bytes + utf8Length front + 1 - c.utf8Size = utf8Length front := by omega
      rw [whole, List.cons_append, cut?, if_pos (by omega), left, ih]
      rfl

theorem find?_eq (test : Char → Bool) (text : List Char) :
    find? test text =
      match text.dropWhile (!test ·) with
      | [] => none
      | _ :: _ => some (utf8Length (text.takeWhile (!test ·))) := by
  induction text with
  | nil => rfl
  | cons c text ih =>
      cases found : test c with
      | true => simp [find?, found, utf8Length]
      | false =>
          rw [find?, found, ih]
          simp only [List.dropWhile_cons, List.takeWhile_cons, found]
          dsimp
          split <;> rfl

theorem getD_find? (test : Char → Bool) (text : List Char) :
    (find? test text).getD (utf8Length text) = utf8Length (text.takeWhile (!test ·)) := by
  rw [find?_eq]
  split
  next ended =>
    have whole := List.takeWhile_append_dropWhile (p := (!test ·)) (l := text)
    rw [ended, List.append_nil] at whole
    rw [whole]
    rfl
  next => rfl

/-! Standing between two characters -/

/-- An offset between two characters of a text, or at one of its ends. -/
def Boundary (text : List Char) (position : Nat) : Prop :=
  ∃ front back, text = front ++ back ∧ utf8Length front = position

theorem boundary_iff_isValid {text : String} {position : Nat} :
    Boundary text.toList position ↔ String.Pos.Raw.IsValid text ⟨position⟩ := by
  rw [String.Pos.Raw.isValid_iff_exists_append]
  constructor
  · rintro ⟨front, back, whole, length⟩
    refine ⟨String.ofList front, String.ofList back, ?_, ?_⟩
    · rw [← String.ofList_append, ← whole, String.ofList_toList]
    · rw [← length, utf8Length_eq, String.rawEndPos]
  · rintro ⟨front, back, rfl, same⟩
    refine ⟨front.toList, back.toList, String.toList_append, ?_⟩
    rw [utf8Length_eq, String.ofList_toList]
    exact (String.Pos.Raw.ext_iff.mp same).symm

/-- A cursor in front of a text that an input ends with, which has only ever stood at boundaries. -/
structure Stands (input text : List Char) (cursor : Cursor) : Prop where
  front : ∃ front, input = front ++ text ∧ utf8Length front = cursor.position
  earlier : ∀ position ∈ cursor.earlier, Boundary input position

namespace Stands

variable {input text back : List Char} {cursor : Cursor}

theorem start (input : List Char) : Stands input input .start :=
  ⟨⟨[], rfl, rfl⟩, by simp [Cursor.start]⟩

theorem exists_of_boundary (sound : ∀ position ∈ cursor.visited, Boundary input position) :
    ∃ text, Stands input text cursor := by
  obtain ⟨front, text, whole, length⟩ := sound cursor.position List.mem_cons_self
  exact ⟨text, ⟨front, whole, length⟩, fun _ earlier => sound _ (List.mem_cons_of_mem _ earlier)⟩

theorem boundary (stands : Stands input text cursor) :
    ∀ position ∈ cursor.visited, Boundary input position := by
  intro position visited
  rcases List.mem_cons.mp visited with rfl | earlier
  · obtain ⟨front, whole, length⟩ := stands.front
    exact ⟨front, text, whole, length⟩
  · exact stands.earlier position earlier

theorem suffix (stands : Stands input text cursor) : text <:+ input := by
  obtain ⟨front, whole, -⟩ := stands.front
  exact ⟨front, whole.symm⟩

theorem position_eq (stands : Stands input text cursor) :
    cursor.position = utf8Length input - utf8Length text := by
  obtain ⟨front, rfl, length⟩ := stands.front
  rw [utf8Length_append]
  omega

theorem atEnd_iff (stands : Stands input text cursor) :
    cursor.position ≥ utf8Length input ↔ text = [] := by
  obtain ⟨front, rfl, length⟩ := stands.front
  rw [← length, utf8Length_append]
  constructor
  · intro reached
    by_contra some
    have bytes := utf8Length_pos some
    omega
  · rintro rfl
    exact Nat.le_refl _

theorem forward {front : List Char} (stands : Stands input (front ++ back) cursor) :
    Stands input back ⟨cursor.position + utf8Length front, cursor.visited⟩ := by
  obtain ⟨passed, whole, length⟩ := stands.front
  refine ⟨⟨passed ++ front, ?_, ?_⟩, stands.boundary⟩
  · rw [whole, List.append_assoc]
  · rw [utf8Length_append, length]

theorem restored {other : Cursor} (stands : Stands input text cursor)
    (left : Stands input back other) : Stands input text ⟨cursor.position, other.visited⟩ :=
  ⟨stands.front, left.boundary⟩

theorem run_sliceFrom (stands : Stands input text cursor) (other : Cursor) :
    run (sliceFrom input cursor.position) other = some (.ok text, other) := by
  obtain ⟨front, rfl, length⟩ := stands.front
  rw [sliceFrom, ← length, cut?_utf8Length]
  rfl

theorem run_rest (stands : Stands input text cursor) :
    run (rest input) cursor = some (.ok text, cursor) := by
  rw [rest, run_bind (run_position cursor)]
  exact stands.run_sliceFrom cursor

theorem run_peek (stands : Stands input text cursor) :
    run (peek input) cursor = some (.ok text.head?, cursor) := by
  rw [peek, run_bind stands.run_rest]
  rfl

end Stands

/-- A scan gives a value and leaves its cursor before a text. -/
def Gets (input : List Char) (scan : Scan α) (cursor : Cursor) (value : α) (text : List Char) :
    Prop :=
  ∃ after, run scan cursor = some (.ok value, after) ∧ Stands input text after

section Tokens

variable {input text : List Char} {cursor : Cursor}

theorem gets_advance {front back : List Char} (stands : Stands input text cursor)
    (whole : front ++ back = text) : Gets input (advance (utf8Length front)) cursor () back := by
  subst whole
  refine ⟨_, ?_, stands.forward⟩
  rw [advance, run_bind (run_position cursor), run_moveTo]

theorem run_sliceTo {front back : List Char} (whole : front ++ back = text) (cursor : Cursor) :
    run (sliceTo text (utf8Length front)) cursor = some (.ok front, cursor) := by
  rw [sliceTo, ← whole, cut?_utf8Length]
  rfl

theorem gets_skipWhite (stands : Stands input text cursor) :
    Gets input (skipWhite input) cursor () (Text.skipBlanks text) := by
  have whole : text.takeWhile Text.isBlank ++ Text.skipBlanks text = text :=
    List.takeWhile_append_dropWhile
  have length : utf8Length text - utf8Length (Text.skipBlanks text) =
      utf8Length (text.takeWhile Text.isBlank) := by
    have parts := utf8Length_append (text.takeWhile Text.isBlank) (Text.skipBlanks text)
    rw [whole] at parts
    omega
  rw [Gets, skipWhite, run_bind stands.run_rest, length]
  exact gets_advance stands whole

theorem gets_identifier (stands : Stands input text cursor) :
    Gets input (identifier input) cursor (word text) (afterWord text) := by
  have whole : text.takeWhile isWordCharacter ++ afterWord text = text :=
    List.takeWhile_append_dropWhile
  have length : (find? (!isWordCharacter ·) text).getD (utf8Length text) =
      utf8Length (text.takeWhile isWordCharacter) := by
    simp only [getD_find?, Bool.not_not]
  obtain ⟨after, moved, standing⟩ := gets_advance stands whole
  refine ⟨after, ?_, standing⟩
  rw [identifier, run_bind stands.run_rest, length, run_bind moved,
    run_bind (run_sliceTo whole after)]
  rfl

theorem gets_eatCharacter {c : Char} {back : List Char} (stands : Stands input (c :: back) cursor) :
    Gets input (eatCharacter input c) cursor true back := by
  have whole : [c] ++ back = c :: back := rfl
  obtain ⟨after, moved, standing⟩ := gets_advance stands whole
  replace moved : run (advance c.utf8Size) cursor = some (.ok (), after) := moved
  refine ⟨after, ?_, standing⟩
  rw [eatCharacter, run_bind stands.run_peek, if_pos List.head?_cons, run_bind moved]
  rfl

theorem run_eatCharacter_of_ne {c : Char} (stands : Stands input text cursor)
    (other : text.head? ≠ some c) :
    run (eatCharacter input c) cursor = some (.ok false, cursor) := by
  rw [eatCharacter, run_bind stands.run_peek, if_neg other]
  rfl

theorem gets_eatKeyword {keyword : String} {back : List Char} (stands : Stands input text cursor)
    (found : afterKeyword? keyword text = some back) :
    Gets input (eatKeyword input keyword) cursor true back := by
  obtain ⟨before, skipped, standing⟩ := gets_skipWhite stands
  obtain ⟨after, read, passed⟩ := gets_identifier standing
  unfold afterKeyword? at found
  split at found
  next same =>
    cases found
    refine ⟨after, ?_, passed⟩
    rw [eatKeyword, run_bind skipped, run_bind (run_position before), run_bind read, if_pos same]
    rfl
  next => cases found

/-- Another word is put back, but not the white space in front of it. -/
theorem gets_eatKeyword_of_none {keyword : String} (stands : Stands input text cursor)
    (missing : afterKeyword? keyword text = none) :
    Gets input (eatKeyword input keyword) cursor false (Text.skipBlanks text) := by
  obtain ⟨before, skipped, standing⟩ := gets_skipWhite stands
  obtain ⟨after, read, passed⟩ := gets_identifier standing
  unfold afterKeyword? at missing
  split at missing
  next => cases missing
  next different =>
    refine ⟨_, ?_, standing.restored passed⟩
    rw [eatKeyword, run_bind skipped, run_bind (run_position before), run_bind read,
      if_neg different, run_bind (run_moveTo _ _)]
    rfl

end Tokens

end Scan

end Switchboard.Predicate
