import Switchboard.Text.Utf8

/-!
Percent-encoded text. A percent sign that two hexadecimal digits do not follow stands for itself.
-/

namespace Switchboard.Text

def hexValue? (byte : UInt8) : Option UInt8 :=
  if 0x30 ≤ byte && byte ≤ 0x39 then some (byte - 0x30)
  else if 0x41 ≤ byte && byte ≤ 0x46 then some (byte - 0x41 + 10)
  else if 0x61 ≤ byte && byte ≤ 0x66 then some (byte - 0x61 + 10)
  else none

def percentSign : UInt8 := 0x25

def hexByte? (high low : UInt8) : Option UInt8 :=
  match hexValue? high, hexValue? low with
  | some upper, some lower => some (upper * 16 + lower)
  | _, _ => none

def percentDecode : Bytes → Bytes
  | [] => []
  | [byte] => [byte]
  | [first, second] => [first, second]
  | byte :: high :: low :: rest =>
    match if byte = percentSign then hexByte? high low else none with
    | some decoded => decoded :: percentDecode rest
    | none => byte :: percentDecode (high :: low :: rest)

def percentDecoded (text : List Char) : List Char :=
  decodeLossy (percentDecode (utf8 text))

/-- The text of a form field, where a plus sign is a space. -/
def formDecoded (text : List Char) : List Char :=
  percentDecoded (text.map fun c => if c = '+' then ' ' else c)

end Switchboard.Text
