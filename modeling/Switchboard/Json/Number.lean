import Switchboard.Json.Value
import Switchboard.Text.Digits

/-!
Numbers in JSON text. An integer of 64 bits stays exact. Any other number keeps the leading digits
that fit into 64 bits and is scaled by a power of ten in double precision; one too large for a
double is refused.
-/

namespace Switchboard.Json

structure Numeral where
  negative : Bool
  whole : List Char
  fraction : List Char
  /-- Whether the exponent is negative, and its digits. -/
  exponent : Option (Bool × List Char)

namespace Numeral

def digitValue (c : Char) : Nat := c.toNat - '0'.toNat

def maxUnsigned : Nat := 18446744073709551615

/-- Leading digits that fit, the power of ten still owed, and whether a digit was left out. -/
structure Leading where
  significand : Nat
  power : Int
  full : Bool

namespace Leading

def takeWhole (leading : Leading) (c : Char) : Leading :=
  let next := leading.significand * 10 + digitValue c
  if leading.full || maxUnsigned < next then
    { leading with power := leading.power + 1, full := true }
  else { leading with significand := next }

def takeFraction (leading : Leading) (c : Char) : Leading :=
  let next := leading.significand * 10 + digitValue c
  if leading.full || maxUnsigned < next then { leading with full := true }
  else { leading with significand := next, power := leading.power - 1 }

end Leading

def leading (numeral : Numeral) : Leading :=
  let whole := numeral.whole.foldl Leading.takeWhole ⟨0, 0, false⟩
  numeral.fraction.foldl Leading.takeFraction { whole with full := false }

def powerOfTen (exponent : Nat) : Float := Float.ofScientific 1 false exponent

def scaled? (value : Float) (power : Int) : Option Float :=
  if power.natAbs ≤ 308 then
    if 0 ≤ power then
      let product := value * powerOfTen power.natAbs
      if product.isInf then none else some product
    else some (value / powerOfTen power.natAbs)
  else if value == 0 then some value
  else if 0 ≤ power then none
  else scaled? (value / powerOfTen 308) (power + 308)
termination_by (-power).toNat
decreasing_by omega

def maxExponent : Nat := 2147483647

def signed (negative : Bool) (value : Float) : Float :=
  if negative then -value else value

def float? (numeral : Numeral) : Option Float := do
  let leading := numeral.leading
  let start := (UInt64.ofNat leading.significand).toFloat
  match numeral.exponent with
  | none => return signed numeral.negative (← scaled? start leading.power)
  | some (down, digits) =>
    match Text.valueUpTo? 10 maxExponent digits with
    | none =>
      if leading.significand ≠ 0 && !down then none
      else return signed numeral.negative 0
    | some exponent =>
      let power := if down then leading.power - exponent else leading.power + exponent
      return signed numeral.negative (← scaled? start power)

def integer? (numeral : Numeral) : Option Int :=
  if !numeral.fraction.isEmpty || numeral.exponent.isSome then none
  else if numeral.negative then
    match Text.valueUpTo? 10 9223372036854775808 numeral.whole with
    | some value => if value = 0 then none else some (-(value : Int))
    | none => none
  else (Text.valueUpTo? 10 maxUnsigned numeral.whole).map fun value => (value : Int)

def value? (numeral : Numeral) : Option Json :=
  match numeral.integer? with
  | some value => some (.integer value)
  | none => numeral.float?.map .float

end Numeral

end Switchboard.Json
