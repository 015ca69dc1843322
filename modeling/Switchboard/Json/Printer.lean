import Switchboard.Decimal.Shortest
import Switchboard.Json.Value
import Switchboard.Text.Quoted

/-!
JSON values as compact text. A float always shows a point or an exponent, so that it reads back
as a float; it is positional from 1e-5 up to but not including 1e16.
-/

namespace Switchboard.Json

def writtenCharacter (c : Char) : String :=
  if c = '\x22' then "\\\""
  else if c = '\\' then "\\\\"
  else if c = '\n' then "\\n"
  else if c = '\r' then "\\r"
  else if c = '\t' then "\\t"
  else if c = '\x08' then "\\b"
  else if c = '\x0c' then "\\f"
  else if c.toNat < 0x10 then "\\u000" ++ Text.hexDigits c.toNat
  else if c.toNat < 0x20 then "\\u00" ++ Text.hexDigits c.toNat
  else c.toString

def writtenString (text : String) : String :=
  "\"" ++ String.join (text.toList.map writtenCharacter) ++ "\""

def zeros (count : Nat) : List Char := List.replicate count '0'

def writtenScientific (number : Decimal.Scientific) : List Char :=
  let digits := Nat.toDigits 10 number.digits
  let point : Int := digits.length + number.exponent
  if 0 ≤ number.exponent && point ≤ 16 then
    digits ++ zeros number.exponent.toNat ++ ['.', '0']
  else if 0 < point && point ≤ 16 then
    digits.take point.toNat ++ '.' :: digits.drop point.toNat
  else if -5 < point && point ≤ 0 then
    '0' :: '.' :: zeros (-point).toNat ++ digits
  else
    let fraction := if digits.length ≤ 1 then [] else '.' :: digits.drop 1
    let power := point - 1
    digits.take 1 ++ fraction ++ 'e' :: (if 0 ≤ power then '+' else '-') ::
      Nat.toDigits 10 power.natAbs

def writtenFloat (value : Float) : String :=
  let bits := value.toBits.toNat
  let sign := if bits < Nat.pow 2 63 then "" else "-"
  let positive := bits % Nat.pow 2 63
  if positive = 0 then sign ++ "0.0"
  else sign ++ String.ofList (writtenScientific (Decimal.shortest positive))

mutual

def written : Json → String
  | .null => "null"
  | .boolean true => "true"
  | .boolean false => "false"
  | .integer value => toString value
  | .float value => writtenFloat value
  | .string text => writtenString text
  | .array items => "[" ++ ",".intercalate (writtenItems items) ++ "]"
  | .object members => "\x7b" ++ ",".intercalate (writtenMembers members) ++ "\x7d"

def writtenItems : List Json → List String
  | [] => []
  | item :: items => written item :: writtenItems items

def writtenMembers : List (String × Json) → List String
  | [] => []
  | (key, value) :: members =>
    (writtenString key ++ ":" ++ written value) :: writtenMembers members

end

end Switchboard.Json
