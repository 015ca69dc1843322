/-!
The shortest decimal that reads back as a given double: the fewest digits that land in the interval
of reals rounding to it, and of two such decimals the nearer one.
-/

namespace Switchboard.Decimal

structure Scientific where
  digits : Nat
  exponent : Int
  deriving Repr, DecidableEq

/-- The reals that round to a positive double, as integers over one denominator. -/
structure Rounding where
  low : Nat
  value : Nat
  high : Nat
  denominator : Nat
  inclusive : Bool

namespace Rounding

def ofBits (bits : Nat) : Rounding :=
  let field := bits / Nat.pow 2 52 % 2048
  let fraction := bits % Nat.pow 2 52
  let significand := if field = 0 then fraction else fraction + Nat.pow 2 52
  let power : Int := (if field = 0 then 1 else field : Nat) - 1077
  let below := if fraction = 0 && 1 < field then 1 else 2
  let scale := Nat.pow 2 power.toNat
  { low := (4 * significand - below) * scale
    value := 4 * significand * scale
    high := (4 * significand + 2) * scale
    denominator := Nat.pow 2 (-power).toNat
    inclusive := significand % 2 = 0 }

def inUnits (interval : Rounding) (exponent : Int) : Rounding :=
  let scale := Nat.pow 10 (-exponent).toNat
  { low := interval.low * scale
    value := interval.value * scale
    high := interval.high * scale
    denominator := interval.denominator * Nat.pow 10 exponent.toNat
    inclusive := interval.inclusive }

def holds (interval : Rounding) (count : Nat) : Bool :=
  let point := count * interval.denominator
  if interval.inclusive then interval.low ≤ point && point ≤ interval.high
  else interval.low < point && point < interval.high

/-- The whole number of units inside the interval that is nearest to the exact value. -/
def nearest? (interval : Rounding) : Option Nat :=
  let floor := interval.value / interval.denominator
  let remainder := interval.value % interval.denominator
  match interval.holds floor, interval.holds (floor + 1) with
  | true, true =>
    if 2 * remainder < interval.denominator ||
        (2 * remainder = interval.denominator && floor % 2 = 0) then some floor
    else some (floor + 1)
  | true, false => some floor
  | false, true => some (floor + 1)
  | false, false => none

def magnitude (interval : Rounding) : Int :=
  let whole := interval.value / interval.denominator
  if 0 < whole then ((Nat.toDigits 10 whole).length : Int) - 1
  else
    match (List.range 400).find? fun places =>
        interval.denominator ≤ interval.value * Nat.pow 10 (places + 1) with
    | some places => -(places + 1 : Int)
    | none => 0

end Rounding

def dropZeros (number : Scientific) : Nat → Scientific
  | 0 => number
  | places + 1 =>
    if 0 < number.digits && number.digits % 10 = 0 then
      dropZeros ⟨number.digits / 10, number.exponent + 1⟩ places
    else number

def shortest (bits : Nat) : Scientific :=
  let interval := Rounding.ofBits bits
  let top := interval.magnitude
  let found := (List.range 17).findSome? fun (further : Nat) =>
    let exponent := top - further
    (interval.inUnits exponent).nearest?.map fun count => Scientific.mk count exponent
  match found with
  | some number => dropZeros number 20
  | none => ⟨0, 0⟩

end Switchboard.Decimal
