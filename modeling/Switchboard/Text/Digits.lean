/-! Digits in a radix of at most sixteen, and a fixed character, at the front of a text. -/

namespace Switchboard.Text

def hexDigit? (c : Char) : Option Nat :=
  if '0' ≤ c && c ≤ '9' then some (c.toNat - '0'.toNat)
  else if 'a' ≤ c && c ≤ 'f' then some (c.toNat - 'a'.toNat + 10)
  else if 'A' ≤ c && c ≤ 'F' then some (c.toNat - 'A'.toNat + 10)
  else none

def digitOf? (radix : Nat) (c : Char) : Option Nat :=
  (hexDigit? c).filter (· < radix)

def isDigitOf (radix : Nat) (c : Char) : Bool := (digitOf? radix c).isSome

def valueOf (radix : Nat) (digits : List Char) : Nat :=
  digits.foldl (fun total c => total * radix + (digitOf? radix c).getD 0) 0

/-- The value of some digits unless it is above a limit. No more digits are read than that takes. -/
def valueUpTo? (radix limit : Nat) (digits : List Char) : Option Nat :=
  digits.foldlM (fun total c =>
    let next := total * radix + (digitOf? radix c).getD 0
    if next ≤ limit then some next else none) 0

def expect? (c : Char) : List Char → Option (List Char)
  | [] => none
  | d :: rest => if c = d then some rest else none

end Switchboard.Text
