import Switchboard.Predicate
import Switchboard.Text.Blank
import Switchboard.Text.Reading

/-!
Predicate expressions. Chains of `or` join chains of `and`, which join operands; an operand is a
negation, an expression in parentheses, a constant, or a named condition with arguments in brackets.
An argument in quotes is the raw text between them; a bare one ends at a comma or bracket and is
trimmed. White space is free around every token.

An error keeps the text that was left when it arose, which fixes its offset.
-/

namespace Switchboard.Predicate

inductive Fault where
  | expectedParenthesis
  | expectedName
  | expectedBracket (name : String)
  | expectedSeparator
  | unterminatedQuote
  | emptyArgument
  | trailingInput
  | argumentCount (name : String) (two : Bool) (count : Nat)
  | invalidMethod (name : String)
  | unknownName (name : String)
  deriving DecidableEq, Repr

def Fault.message : Fault → String
  | .expectedParenthesis => "expected ')'"
  | .expectedName => "expected predicate name"
  | .expectedBracket name => "expected '[' after " ++ Text.quoted name
  | .expectedSeparator => "expected ',' or ']'"
  | .unterminatedQuote => "unterminated quoted argument"
  | .emptyArgument => "empty argument"
  | .trailingInput => "unexpected trailing input"
  | .argumentCount name two count =>
    name ++ " expects " ++ (if two then "1 or 2" else "1") ++ " argument(s), got " ++ toString count
  | .invalidMethod name => "invalid method " ++ Text.quoted name
  | .unknownName name => "unknown predicate " ++ Text.quoted name

structure Stop where
  left : List Char
  fault : Fault
  deriving DecidableEq, Repr

structure ParseError where
  position : Nat
  fault : Fault
  deriving DecidableEq, Repr

def ParseError.message (error : ParseError) : String :=
  "invalid predicate at offset " ++ toString error.position ++ ": " ++ error.fault.message

open Text (Reading skipBlanks trimmed length_skipBlanks_le length_trimmed_le length_dropWhile_le)

abbrev Parsed (text : List Char) (α : Type) := Except Stop (Reading text α)

def isWordCharacter (c : Char) : Bool :=
  c.isAlphanum || c = '-' || c = '_'

def word (text : List Char) : String :=
  String.ofList (text.takeWhile isWordCharacter)

def afterWord (text : List Char) : List Char :=
  text.dropWhile isWordCharacter

def afterKeyword? (keyword : String) (text : List Char) : Option (List Char) :=
  if word (skipBlanks text) = keyword then some (afterWord (skipBlanks text)) else none

theorem length_takeWhile_add_dropWhile (test : Char → Bool) (text : List Char) :
    (text.takeWhile test).length + (text.dropWhile test).length = text.length := by
  rw [← List.length_append, List.takeWhile_append_dropWhile]

theorem length_afterWord_lt {text : List Char} (found : word text ≠ "") :
    (afterWord text).length < text.length := by
  have whole := length_takeWhile_add_dropWhile isWordCharacter text
  have some : (text.takeWhile isWordCharacter).length ≠ 0 := by
    intro empty
    exact found (by simp [word, List.eq_nil_of_length_eq_zero empty])
  simp only [afterWord]
  omega

theorem length_of_afterKeyword? {keyword : String} {text rest : List Char}
    (nonempty : keyword ≠ "") (found : afterKeyword? keyword text = some rest) :
    rest.length < text.length := by
  unfold afterKeyword? at found
  split at found
  next same =>
    simp only [Option.some.injEq] at found
    subst found
    have shorter := length_afterWord_lt (same ▸ nonempty)
    have skipped := length_skipBlanks_le text
    omega
  next => cases found

def endsArgument (c : Char) : Bool := c = ',' || c = ']'

/-- The text up to a quote, and what follows the quote. -/
def quoted (quote : Char) (text : List Char) : Parsed text String :=
  match found : text.dropWhile (· ≠ quote) with
  | [] => .error ⟨text, .unterminatedQuote⟩
  | _ :: rest =>
    .ok ⟨String.ofList (text.takeWhile (· ≠ quote)), rest, by
      have shorter := length_dropWhile_le (· ≠ quote) text
      rw [found, List.length_cons] at shorter
      omega⟩

def bare (text : List Char) : Parsed text String :=
  let argument := text.takeWhile fun c => !endsArgument c
  if empty : trimmed argument = [] then .error ⟨text, .emptyArgument⟩
  else
    .ok ⟨String.ofList (trimmed argument), text.dropWhile fun c => !endsArgument c, by
      have whole := length_takeWhile_add_dropWhile (fun c => !endsArgument c) text
      have shorter := length_trimmed_le argument
      have some := List.length_pos_iff.mpr empty
      simp only [argument] at shorter some
      omega⟩

def argument (text : List Char) : Parsed text String :=
  match text with
  | '\x27' :: rest => (quoted '\x27' rest).map (·.widen (by simp))
  | '\x22' :: rest => (quoted '\x22' rest).map (·.widen (by simp))
  | text => bare text

def moreArguments (earlier : List String) (text : List Char) : Parsed text (List String) :=
  have skipped := length_skipBlanks_le text
  match argument (skipBlanks text) with
  | .error stop => .error stop
  | .ok ⟨value, rest, shorter⟩ =>
    have skippedRest := length_skipBlanks_le rest
    match found : skipBlanks rest with
    | ',' :: rest =>
      have within : rest.length < text.length := by
        rw [found, List.length_cons] at skippedRest
        omega
      (moreArguments (earlier ++ [value]) rest).map (·.widen (Nat.le_of_lt within))
    | ']' :: rest =>
      .ok ⟨earlier ++ [value], rest, by
        rw [found, List.length_cons] at skippedRest
        omega⟩
    | left => .error ⟨left, .expectedSeparator⟩
termination_by text.length

def arguments (text : List Char) : Parsed text (List String) :=
  have skipped := length_skipBlanks_le text
  match found : skipBlanks text with
  | ']' :: rest =>
    .ok ⟨[], rest, by
      rw [found, List.length_cons] at skipped
      omega⟩
  | _ => moreArguments [] text

def named (name : String) (arguments : List String) : Except Fault Predicate :=
  match name, arguments with
  | "path", [whole] => .ok (.path whole)
  | "path-prefix", [start] => .ok (.pathPrefix start)
  | "path-suffix", [ending] => .ok (.pathSuffix ending)
  | "method", [wanted] =>
    match Method.ofName? wanted.toUpper with
    | some wanted => .ok (.method wanted)
    | none => .error (.invalidMethod wanted.toUpper)
  | "header", [field] => .ok (.header field none)
  | "header", [field, value] => .ok (.header field (some value))
  | "query", [field] => .ok (.parameter field none)
  | "query", [field, value] => .ok (.parameter field (some value))
  | name, arguments =>
    if name ∈ ["path", "path-prefix", "path-suffix", "method"] then
      .error (.argumentCount name false arguments.length)
    else if name ∈ ["header", "query"] then
      .error (.argumentCount name true arguments.length)
    else .error (.unknownName name)

def atom (text : List Char) : Parsed text Predicate :=
  have skipped := length_skipBlanks_le text
  let start := skipBlanks text
  let name := word start
  if empty : name = "" then .error ⟨start, .expectedName⟩
  else
    have shorter : (afterWord start).length < start.length := length_afterWord_lt empty
    if name = "true" || name = "false" then
      .ok ⟨.constant (name = "true"), afterWord start, by simp only [start] at shorter ⊢; omega⟩
    else
      have skippedRest := length_skipBlanks_le (afterWord start)
      match found : skipBlanks (afterWord start) with
      | '[' :: rest =>
        match arguments rest with
        | .error stop => .error stop
        | .ok ⟨values, left, within⟩ =>
          match named name values with
          | .error fault => .error ⟨start, fault⟩
          | .ok predicate =>
            .ok ⟨predicate, left, by
              rw [found, List.length_cons] at skippedRest
              simp only [start] at shorter skippedRest
              omega⟩
      | left => .error ⟨left, .expectedBracket name⟩

inductive Connective where
  | or
  | and
  deriving DecidableEq, Repr

namespace Connective

def keyword : Connective → String
  | .or => "or"
  | .and => "and"

theorem keyword_ne_empty (connective : Connective) : connective.keyword ≠ "" := by
  cases connective <;> decide

/-- One operand stands for itself, several become one node. -/
def join : Connective → List Predicate → Predicate
  | _, [operand] => operand
  | .or, operands => .any operands
  | .and, operands => .all operands

def rank : Connective → Nat
  | .or => 2
  | .and => 1

end Connective

mutual

def chain (connective : Connective) (earlier : List Predicate) (text : List Char) :
    Parsed text Predicate :=
  let first : Parsed text Predicate := match connective with
    | .or => chain .and [] text
    | .and => operand text
  match first with
  | .error stop => .error stop
  | .ok ⟨predicate, rest, shorter⟩ =>
    match found : afterKeyword? connective.keyword rest with
    | some next =>
      have within : next.length < text.length := by
        have := length_of_afterKeyword? connective.keyword_ne_empty found
        omega
      (chain connective (earlier ++ [predicate]) next).map (·.widen (Nat.le_of_lt within))
    | none => .ok ⟨connective.join (earlier ++ [predicate]), rest, shorter⟩
termination_by (text.length, connective.rank)
decreasing_by
  · simp only [Connective.rank]; exact Prod.Lex.right _ (by omega)
  · simp only [Connective.rank]; exact Prod.Lex.right _ (by omega)
  · exact Prod.Lex.left _ _ within

def operand (text : List Char) : Parsed text Predicate :=
  have skipped := length_skipBlanks_le text
  match opened : skipBlanks text with
  | '(' :: rest =>
    have within : rest.length < text.length := by
      rw [opened, List.length_cons] at skipped
      omega
    match chain .or [] rest with
    | .error stop => .error stop
    | .ok ⟨inner, rest, shorter⟩ =>
      have skippedRest := length_skipBlanks_le rest
      match closed : skipBlanks rest with
      | ')' :: rest =>
        .ok ⟨inner, rest, by
          rw [closed, List.length_cons] at skippedRest
          omega⟩
      | left => .error ⟨left, .expectedParenthesis⟩
  | _ =>
    match found : afterKeyword? "not" text with
    | some rest =>
      have within := length_of_afterKeyword? (by decide) found
      (operand rest).map fun reading =>
        (reading.map .negation).widen (Nat.le_of_lt within)
    | none => atom text
termination_by (text.length, 0)

end

def parseCharacters (text : List Char) : Except Stop Predicate :=
  match chain .or [] text with
  | .error stop => .error stop
  | .ok ⟨predicate, rest, _⟩ =>
    match skipBlanks rest with
    | [] => .ok predicate
    | left => .error ⟨left, .trailingInput⟩

def utf8Length (text : List Char) : Nat :=
  text.foldr (fun c size => c.utf8Size + size) 0

def parse (expression : String) : Except ParseError Predicate :=
  match parseCharacters expression.toList with
  | .ok predicate => .ok predicate
  | .error stop =>
    .error ⟨utf8Length expression.toList - utf8Length stop.left, stop.fault⟩

end Switchboard.Predicate
