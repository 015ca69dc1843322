import Switchboard.Text.Concealed

/-!
Text between double quotes, as messages show it. Quotes, backslashes and the usual controls are
escaped by a letter, concealed characters by number.
-/

namespace Switchboard.Text

def hexDigits (code : Nat) : String :=
  String.ofList (Nat.toDigits 16 code)

def escaped (c : Char) : String :=
  if c = '\x00' then "\\0"
  else if c = '\t' then "\\t"
  else if c = '\r' then "\\r"
  else if c = '\n' then "\\n"
  else if c = '\\' then "\\\\"
  else if c = '\x22' then "\\\""
  else if isConcealed c then "\\u\x7b" ++ hexDigits c.toNat ++ "\x7d"
  else c.toString

def quoted (text : String) : String :=
  "\"" ++ String.join (text.toList.map escaped) ++ "\""

def quotedList (texts : List String) : String :=
  "[" ++ ", ".intercalate (texts.map quoted) ++ "]"

def quotedOption : Option String → String
  | none => "None"
  | some text => "Some(" ++ quoted text ++ ")"

end Switchboard.Text
