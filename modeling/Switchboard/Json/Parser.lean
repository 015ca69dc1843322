import Switchboard.Json.Number
import Switchboard.Text.Digits

/-!
JSON text as a value. The text is cut into tokens, and the tokens drive a machine whose stack holds
the arrays and objects still open, at most 127 of them.
-/

namespace Switchboard.Json

inductive Token where
  | openArray
  | closeArray
  | openObject
  | closeObject
  | colon
  | comma
  | string (text : String)
  | value (value : Json)

def isSpace (c : Char) : Bool :=
  c = ' ' || c = '\n' || c = '\t' || c = '\r'

def codeUnit? (a b c d : Char) : Option Nat := do
  let digits ← [a, b, c, d].mapM Text.hexDigit?
  return digits.foldl (fun unit digit => unit * 16 + digit) 0

def isHigh (unit : Nat) : Bool := 0xD800 ≤ unit && unit < 0xDC00

def isLow (unit : Nat) : Bool := 0xDC00 ≤ unit && unit < 0xE000

def simpleEscape? (c : Char) : Option Char :=
  if c = '\x22' || c = '\\' || c = '/' then some c
  else if c = 'b' then some '\x08'
  else if c = 'f' then some '\x0c'
  else if c = 'n' then some '\n'
  else if c = 'r' then some '\r'
  else if c = 't' then some '\t'
  else none

def escape? : List Char → Option (Char × List Char)
  | 'u' :: a :: b :: c :: d :: rest =>
    match codeUnit? a b c d with
    | none => none
    | some unit =>
      if isHigh unit then
        match rest with
        | '\\' :: 'u' :: e :: f :: g :: h :: rest =>
          match codeUnit? e f g h with
          | none => none
          | some low =>
            if isLow low then
              some (Char.ofNat (0x10000 + (unit - 0xD800) * 0x400 + (low - 0xDC00)), rest)
            else none
        | _ => none
      else if isLow unit then none
      else some (Char.ofNat unit, rest)
  | c :: rest => (simpleEscape? c).map fun meant => (meant, rest)
  | [] => none

theorem length_of_escape? {text rest : List Char} {c : Char}
    (found : escape? text = some (c, rest)) : rest.length < text.length := by
  unfold escape? at found
  split at found
  · split at found
    · cases found
    · split at found
      · split at found
        · split at found
          · cases found
          · split at found
            · simp only [Option.some.injEq, Prod.mk.injEq] at found
              simp only [← found.2, List.length_cons]
              omega
            · cases found
        · cases found
      · split at found
        · cases found
        · simp only [Option.some.injEq, Prod.mk.injEq] at found
          simp only [← found.2, List.length_cons]
          omega
  · simp only [Option.map_eq_some_iff, Prod.mk.injEq] at found
    obtain ⟨_, _, _, same⟩ := found
    subst same
    simp
  · cases found

/-- The rest of a string whose opening quote has been read. -/
def string? (read : List Char) (text : List Char) : Option (String × List Char) :=
  match text with
  | [] => none
  | '\x22' :: rest => some (String.ofList read.reverse, rest)
  | '\\' :: rest =>
    match found : escape? rest with
    | none => none
    | some (c, rest) =>
      have := length_of_escape? found
      string? (c :: read) rest
  | c :: rest => if c.toNat < 0x20 then none else string? (c :: read) rest
termination_by text.length

def fraction? (text : List Char) : Option (List Char × List Char) :=
  match text with
  | '.' :: rest =>
    let digits := rest.takeWhile Char.isDigit
    if digits.isEmpty then none else some (digits, rest.dropWhile Char.isDigit)
  | rest => some ([], rest)

def exponentDigits? (down : Bool) (text : List Char) :
    Option (Option (Bool × List Char) × List Char) :=
  let digits := text.takeWhile Char.isDigit
  if digits.isEmpty then none else some (some (down, digits), text.dropWhile Char.isDigit)

def exponent? (text : List Char) : Option (Option (Bool × List Char) × List Char) :=
  match text with
  | c :: rest =>
    if c = 'e' || c = 'E' then
      match rest with
      | '+' :: rest => exponentDigits? false rest
      | '-' :: rest => exponentDigits? true rest
      | rest => exponentDigits? false rest
    else some (none, text)
  | [] => some (none, [])

def unsigned? (negative : Bool) (text : List Char) : Option (Numeral × List Char) := do
  let whole := text.takeWhile Char.isDigit
  if whole.isEmpty || (whole.length ≠ 1 && whole.head? = some '0') then none
  let (fraction, rest) ← fraction? (text.dropWhile Char.isDigit)
  let (exponent, rest) ← exponent? rest
  return (⟨negative, whole, fraction, exponent⟩, rest)

def number? (text : List Char) : Option (Json × List Char) := do
  let (numeral, rest) ← match text with
    | '-' :: rest => unsigned? true rest
    | rest => unsigned? false rest
  return (← numeral.value?, rest)

def token? (text : List Char) : Option (Token × List Char) :=
  match text with
  | '[' :: rest => some (.openArray, rest)
  | ']' :: rest => some (.closeArray, rest)
  | '\x7b' :: rest => some (.openObject, rest)
  | '\x7d' :: rest => some (.closeObject, rest)
  | ':' :: rest => some (.colon, rest)
  | ',' :: rest => some (.comma, rest)
  | '\x22' :: rest => (string? [] rest).map fun (text, rest) => (.string text, rest)
  | 'n' :: 'u' :: 'l' :: 'l' :: rest => some (.value .null, rest)
  | 't' :: 'r' :: 'u' :: 'e' :: rest => some (.value (.boolean true), rest)
  | 'f' :: 'a' :: 'l' :: 's' :: 'e' :: rest => some (.value (.boolean false), rest)
  | _ => (number? text).map fun (value, rest) => (.value value, rest)

/-- The tokens of a text, each of which takes at least one character of the budget. -/
def tokens? (read : List Token) : Nat → List Char → Option (List Token)
  | budget, text =>
    match text.dropWhile isSpace with
    | [] => some read.reverse
    | rest =>
      match budget, token? rest with
      | budget + 1, some (token, rest) => tokens? (token :: read) budget rest
      | _, _ => none

/-- An array or object under way, its last item first. -/
inductive Frame where
  | array (items : List Json)
  | object (members : List (String × Json)) (key : String)

inductive Expected where
  | value
  | valueOrClose
  | key
  | keyOrClose
  | colon
  | separator
  | nothing (result : Json)

structure Reader where
  frames : List Frame
  expected : Expected

namespace Reader

def initial : Reader := ⟨[], .value⟩

def maxDepth : Nat := 127

def enter? (frames : List Frame) (frame : Frame) (expected : Expected) : Option Reader :=
  if frames.length < maxDepth then some ⟨frame :: frames, expected⟩ else none

def complete (frames : List Frame) (value : Json) : Reader :=
  match frames with
  | [] => ⟨[], .nothing value⟩
  | .array items :: frames => ⟨.array (value :: items) :: frames, .separator⟩
  | .object members key :: frames =>
    ⟨.object ((key, value) :: members) key :: frames, .separator⟩

def begin? (frames : List Frame) : Token → Option Reader
  | .openArray => enter? frames (.array []) .valueOrClose
  | .openObject => enter? frames (.object [] "") .keyOrClose
  | .string text => some (complete frames (.string text))
  | .value value => some (complete frames value)
  | _ => none

def key? (frames : List Frame) : Token → Option Reader
  | .string key =>
    match frames with
    | .object members _ :: frames => some ⟨.object members key :: frames, .colon⟩
    | _ => none
  | _ => none

def close? (frames : List Frame) (token : Token) : Option Reader :=
  match frames, token with
  | .array items :: frames, .closeArray => some (complete frames (.array items.reverse))
  | .object members _ :: frames, .closeObject =>
    some (complete frames (ofMembers members.reverse))
  | _, _ => none

def step? (reader : Reader) (token : Token) : Option Reader :=
  let frames := reader.frames
  match reader.expected with
  | .value => begin? frames token
  | .valueOrClose =>
    match token with
    | .closeArray => close? frames token
    | _ => begin? frames token
  | .key => key? frames token
  | .keyOrClose =>
    match token with
    | .closeObject => close? frames token
    | _ => key? frames token
  | .colon =>
    match token with
    | .colon => some ⟨frames, .value⟩
    | _ => none
  | .separator =>
    match token, frames with
    | .comma, .array _ :: _ => some ⟨frames, .value⟩
    | .comma, .object _ _ :: _ => some ⟨frames, .key⟩
    | _, _ => close? frames token
  | .nothing _ => none

def result? (reader : Reader) : Option Json :=
  match reader.expected with
  | .nothing result => some result
  | _ => none

end Reader

def parse? (text : String) : Option Json := do
  let tokens ← tokens? [] text.length text.toList
  (← tokens.foldlM Reader.step? Reader.initial).result?

end Switchboard.Json
