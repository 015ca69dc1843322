import Switchboard.Text.Digits
import Switchboard.Text.Reading
import Switchboard.Toml.Tree

/-! The parts of a TOML line that hold no other values: keys, strings, numbers, dates and times. -/

namespace Switchboard.Toml

open Text (isDigitOf valueOf valueUpTo? expect? length_dropWhile_le)

def isSpace (c : Char) : Bool := c = ' ' || c = '\t'

def skipSpaces (text : List Char) : List Char := text.dropWhile isSpace

def isPlain (c : Char) : Bool := c = '\t' || (' ' ≤ c && c ≠ '\x7f')

def isKeyCharacter (c : Char) : Bool := c.isAlphanum || c = '-' || c = '_'

def afterBreak? : List Char → Option (List Char)
  | '\n' :: rest => some rest
  | '\r' :: '\n' :: rest => some rest
  | _ => none

def skipComment (text : List Char) : List Char :=
  match text with
  | '#' :: rest => rest.dropWhile isPlain
  | rest => rest

def skipFiller (commented : Bool) : List Char → List Char
  | [] => []
  | '\n' :: rest => skipFiller false rest
  | '\r' :: '\n' :: rest => skipFiller false rest
  | c :: rest =>
    if commented then (if isPlain c then skipFiller true rest else c :: rest)
    else if isSpace c then skipFiller false rest
    else if c = '#' then skipFiller true rest
    else c :: rest

def codeEscape? (digits : Nat) (text : List Char) : Option (Char × List Char) :=
  let code := text.take digits
  let value := valueOf 16 code
  if code.length = digits && code.all (isDigitOf 16) && value.isValidChar then
    some (Char.ofNat value, text.drop digits)
  else none

def escape? : List Char → Option (Char × List Char)
  | 'b' :: rest => some ('\x08', rest)
  | 't' :: rest => some ('\t', rest)
  | 'n' :: rest => some ('\n', rest)
  | 'f' :: rest => some ('\x0c', rest)
  | 'r' :: rest => some ('\r', rest)
  | '\x22' :: rest => some ('\x22', rest)
  | '\\' :: rest => some ('\\', rest)
  | 'u' :: rest => codeEscape? 4 rest
  | 'U' :: rest => codeEscape? 8 rest
  | _ => none

def skipWhite : List Char → List Char
  | [] => []
  | '\r' :: '\n' :: rest => skipWhite rest
  | c :: rest => if isSpace c || c = '\n' then skipWhite rest else c :: rest

/-- What follows a backslash that ends its line: the blanks of the lines after it are skipped. -/
def afterFold? (text : List Char) : Option (List Char) :=
  (afterBreak? (skipSpaces text)).map skipWhite

theorem length_of_codeEscape? {digits : Nat} {text rest : List Char} {c : Char}
    (found : codeEscape? digits text = some (c, rest)) : rest.length ≤ text.length := by
  simp only [codeEscape?] at found
  split at found
  · cases found
    simp
  · cases found

theorem length_of_escape? {text rest : List Char} {c : Char}
    (found : escape? text = some (c, rest)) : rest.length < text.length := by
  unfold escape? at found
  split at found
  case h_8 | h_9 =>
    have := length_of_codeEscape? found
    simp only [List.length_cons]
    omega
  case h_10 => cases found
  all_goals
    cases found
    simp

theorem length_of_afterBreak? {text rest : List Char}
    (found : afterBreak? text = some rest) : rest.length < text.length := by
  unfold afterBreak? at found
  split at found
  case h_3 => cases found
  all_goals
    cases found
    simp only [List.length_cons]
    omega

theorem length_skipWhite_le (text : List Char) : (skipWhite text).length ≤ text.length := by
  fun_induction skipWhite text with
  | case1 => simp
  | case2 rest ih =>
    simp only [List.length_cons]
    omega
  | case3 c rest _ _ ih =>
    simp only [List.length_cons]
    omega
  | case4 => simp

theorem length_of_afterFold? {text rest : List Char}
    (found : afterFold? text = some rest) : rest.length < text.length := by
  simp only [afterFold?, Option.map_eq_some_iff] at found
  obtain ⟨later, broken, same⟩ := found
  have first := length_dropWhile_le isSpace text
  have second := length_of_afterBreak? broken
  have third := length_skipWhite_le later
  simp only [skipSpaces] at second
  rw [← same]
  omega

def lineString? (quote : Char) (read text : List Char) : Option (String × List Char) :=
  match text with
  | [] => none
  | c :: rest =>
    if c = quote then some (String.ofList read.reverse, rest)
    else if c = '\\' && quote = '\x22' then
      match found : escape? rest with
      | some (meant, rest) =>
        have := length_of_escape? found
        lineString? quote (meant :: read) rest
      | none => none
    else if isPlain c then lineString? quote (c :: read) rest
    else none
termination_by text.length

/-- The rest of a string over several lines. Up to two quotes may stand before the closing three. -/
def blockString? (quote : Char) (read text : List Char) : Option (String × List Char) :=
  match text with
  | [] => none
  | c :: rest =>
    if c = quote then
      let quotes := (rest.takeWhile (· = quote)).length + 1
      let after := rest.dropWhile (· = quote)
      have := length_dropWhile_le (· = quote) rest
      if quotes < 3 then blockString? quote (List.replicate quotes quote ++ read) after
      else if quotes ≤ 5 then
        some (String.ofList (List.replicate (quotes - 3) quote ++ read).reverse, after)
      else none
    else if c = '\\' && quote = '\x22' then
      match folded : afterFold? rest with
      | some rest =>
        have := length_of_afterFold? folded
        blockString? quote read rest
      | none =>
        match found : escape? rest with
        | some (meant, rest) =>
          have := length_of_escape? found
          blockString? quote (meant :: read) rest
        | none => none
    else
      match broken : afterBreak? (c :: rest) with
      | some rest =>
        have := Nat.le_of_lt_succ (length_of_afterBreak? broken)
        blockString? quote ('\n' :: read) rest
      | none => if isPlain c then blockString? quote (c :: read) rest else none
termination_by text.length

def string? (quote : Char) (text : List Char) : Option (String × List Char) :=
  match text with
  | a :: b :: rest =>
    if a = quote && b = quote then
      blockString? quote [] ((afterBreak? rest).getD rest)
    else lineString? quote [] text
  | _ => lineString? quote [] text

def simpleKey? (text : List Char) : Option (String × List Char) :=
  match text with
  | '\x22' :: rest => lineString? '\x22' [] rest
  | '\x27' :: rest => lineString? '\x27' [] rest
  | _ =>
    let name := text.takeWhile isKeyCharacter
    if name.isEmpty then none
    else some (String.ofList name, text.dropWhile isKeyCharacter)

def key? (earlier : List String) : Nat → List Char → Option (List String × List Char)
  | 0, _ => none
  | budget + 1, text => do
    let (name, rest) ← simpleKey? (skipSpaces text)
    match skipSpaces rest with
    | '.' :: rest => key? (earlier ++ [name]) budget rest
    | rest => some (earlier ++ [name], rest)

/-- Parts of the longest key, and levels of the deepest value. -/
def maxDepth : Nat := 79

def dottedKey? (text : List Char) : Option (List String × List Char) :=
  key? [] maxDepth text

/-- Digits with single underscores between them, which do not count. -/
def digits? (isDigit : Char → Bool) (text : List Char) : Option (List Char × List Char) :=
  let run := text.takeWhile fun c => isDigit c || c = '_'
  let digits := run.filter (· ≠ '_')
  let pairs := run.zip (run.drop 1)
  if digits.isEmpty || run.head? = some '_' || run.getLast? = some '_' ||
      pairs.contains ('_', '_') then none
  else some (digits, text.drop run.length)

def sign? : List Char → Option Bool × List Char
  | '-' :: rest => (some true, rest)
  | '+' :: rest => (some false, rest)
  | rest => (none, rest)

def wholePart? (text : List Char) : Option (List Char × List Char) :=
  match text with
  | '0' :: rest => some (['0'], rest)
  | _ => digits? Char.isDigit text

/-- Larger exponents count as this one. -/
def maxExponent : Nat := 1000000000

def exponentPart? (text : List Char) : Option (Int × List Char) := do
  let (sign, rest) := sign? text
  let (digits, rest) ← digits? Char.isDigit rest
  let value : Int := (valueUpTo? 10 maxExponent digits).getD maxExponent
  return (if sign = some true then -value else value, rest)

/-- Whether digits · 10 ^ exponent is too large for a double, which its whole part tells. -/
def overflows (digits : List Char) (exponent : Int) : Bool :=
  let digits := digits.dropWhile (· = '0')
  let size : Int := digits.length + exponent
  if digits.isEmpty || size < 300 then false
  else if 320 < size then true
  else
    let whole := (digits ++ List.replicate exponent.toNat '0').take size.toNat
    (Nat.pow 2 54 - 1) * Nat.pow 2 970 ≤ valueOf 10 whole

def integer? (negative : Bool) (digits : List Char) (radix : Nat) : Option Value :=
  let limit := if negative then 9223372036854775808 else 9223372036854775807
  (valueUpTo? radix limit digits).map fun value =>
    .integer (if negative then -(value : Int) else value)

def radix? : Char → Option Nat
  | 'x' => some 16
  | 'o' => some 8
  | 'b' => some 2
  | _ => none

def decimalNumber? (text : List Char) : Option (Value × List Char) := do
  let (sign, rest) := sign? text
  match rest with
  | 'i' :: 'n' :: 'f' :: rest => return (.float "inf", rest)
  | 'n' :: 'a' :: 'n' :: rest => return (.float "nan", rest)
  | _ =>
    let (whole, rest) ← wholePart? rest
    let (fraction, rest, real) ← match rest with
      | '.' :: rest => do
        let (digits, rest) ← digits? Char.isDigit rest
        some (digits, rest, true)
      | _ => some ([], rest, false)
    let (exponent, rest, real) ← match rest with
      | c :: tail =>
        if c = 'e' || c = 'E' then do
          let (exponent, rest) ← exponentPart? tail
          some (exponent, rest, true)
        else some ((0 : Int), rest, real)
      | [] => some (0, rest, real)
    if real then
      let digits := whole ++ fraction
      if sign ≠ some true && overflows digits (exponent - fraction.length) then none
      return (.float (String.ofList (whole ++ '.' :: fraction)), rest)
    else return (← integer? (sign = some true) whole 10, rest)

def number? (text : List Char) : Option (Value × List Char) :=
  match text with
  | '0' :: c :: rest =>
    match radix? c with
    | some radix => do
      let (digits, rest) ← digits? (isDigitOf radix) rest
      return (← integer? false digits radix, rest)
    | none => decimalNumber? text
  | _ => decimalNumber? text

def field? (width low high : Nat) (text : List Char) : Option (List Char × List Char) :=
  let digits := text.take width
  let value := valueOf 10 digits
  if digits.length = width && digits.all Char.isDigit && low ≤ value && value ≤ high then
    some (digits, text.drop width)
  else none

def isLeapYear (year : Nat) : Bool :=
  year % 4 = 0 && (year % 100 ≠ 0 || year % 400 = 0)

def daysIn (year month : Nat) : Nat :=
  if month = 2 then (if isLeapYear year then 29 else 28)
  else if month ∈ [4, 6, 9, 11] then 30
  else 31

def date? (text : List Char) : Option (List Char × List Char) := do
  let (year, text) ← field? 4 0 9999 text
  let (month, text) ← field? 2 1 12 (← expect? '-' text)
  let (day, text) ← field? 2 1 (daysIn (valueOf 10 year) (valueOf 10 month)) (← expect? '-' text)
  return (year ++ '-' :: month ++ '-' :: day, text)

def secondFraction (digits : List Char) : List Char :=
  let kept := ((digits.take 9).reverse.dropWhile (· = '0')).reverse
  if kept.isEmpty then [] else '.' :: kept

def time? (text : List Char) : Option (List Char × List Char) := do
  let (hour, text) ← field? 2 0 23 text
  let (minute, text) ← field? 2 0 59 (← expect? ':' text)
  let (second, text) ← field? 2 0 60 (← expect? ':' text)
  let written := hour ++ ':' :: minute ++ ':' :: second
  match text with
  | '.' :: rest =>
    let digits := rest.takeWhile Char.isDigit
    if digits.isEmpty then none
    else some (written ++ secondFraction digits, rest.dropWhile Char.isDigit)
  | _ => some (written, text)

def offset? (text : List Char) : Option (List Char × List Char) :=
  match text with
  | 'Z' :: rest => some (['Z'], rest)
  | 'z' :: rest => some (['Z'], rest)
  | c :: rest =>
    if c = '+' || c = '-' then do
      let (hour, rest) ← field? 2 0 23 rest
      let (minute, rest) ← field? 2 0 59 (← expect? ':' rest)
      let zero := valueOf 10 (hour ++ minute) = 0
      return ((if zero then '+' else c) :: hour ++ ':' :: minute, rest)
    else some ([], text)
  | [] => some ([], [])

def timeOfDay? (text : List Char) : Option (List Char) :=
  match text with
  | c :: rest => if c = 'T' || c = 't' || c = ' ' then some rest else none
  | [] => none

def datetime? (text : List Char) : Option (Value × List Char) :=
  match date? text with
  | some (date, rest) =>
    match timeOfDay? rest >>= time? with
    | some (time, rest) => do
      let (offset, rest) ← offset? rest
      return (.datetime (String.ofList (date ++ 'T' :: time ++ offset)), rest)
    | none => some (.datetime (String.ofList date), rest)
  | none => (time? text).map fun (time, rest) => (.datetime (String.ofList time), rest)

def boolean? (text : List Char) : Option (Value × List Char) :=
  match text with
  | 't' :: 'r' :: 'u' :: 'e' :: rest => some (.boolean true, rest)
  | 'f' :: 'a' :: 'l' :: 's' :: 'e' :: rest => some (.boolean false, rest)
  | _ => none

def scalar? (text : List Char) : Option (Value × List Char) :=
  match text with
  | '\x22' :: rest => (string? '\x22' rest).map fun (text, rest) => (.string text, rest)
  | '\x27' :: rest => (string? '\x27' rest).map fun (text, rest) => (.string text, rest)
  | _ => boolean? text <|> datetime? text <|> number? text

end Switchboard.Toml
