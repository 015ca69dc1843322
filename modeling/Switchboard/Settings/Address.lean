import Switchboard.Text.Digits

/-!
Socket addresses: four decimal numbers and a port, or eight groups of hexadecimal digits in
brackets and a port. A double colon stands for one or more zero groups, the last two groups may be
written as four decimal numbers, and a scope may follow them.
-/

namespace Switchboard

inductive SocketAddress where
  | v4 (octets : List Nat) (port : Nat)
  | v6 (groups : List Nat) (scope : Nat) (port : Nat)
  deriving DecidableEq, Repr

namespace SocketAddress

open Text (isDigitOf valueOf valueUpTo? expect?)

def number? (radix maxDigits : Nat) (text : List Char) : Option (Nat × List Char) :=
  let digits := text.takeWhile (isDigitOf radix)
  if digits.isEmpty || maxDigits < digits.length then none
  else some (valueOf radix digits, text.dropWhile (isDigitOf radix))

def bounded? (bound : Nat) (text : List Char) : Option (Nat × List Char) :=
  let digits := text.takeWhile (isDigitOf 10)
  if digits.isEmpty then none
  else (valueUpTo? 10 bound digits).map fun value => (value, text.dropWhile (isDigitOf 10))

def octet? (text : List Char) : Option (Nat × List Char) := do
  let (value, rest) ← number? 10 3 text
  if 256 ≤ value || (text.head? = some '0' && rest.length + 1 ≠ text.length) then none
  return (value, rest)

def octets? (text : List Char) : Option (List Nat × List Char) := do
  let (a, text) ← octet? text
  let (b, text) ← octet? (← expect? '.' text)
  let (c, text) ← octet? (← expect? '.' text)
  let (d, text) ← octet? (← expect? '.' text)
  return ([a, b, c, d], text)

def nextGroup? (first : Bool) (text : List Char) : Option (List Char) :=
  if first then some text else expect? ':' text

def pairGroups : List Nat → List Nat
  | a :: b :: rest => (a * 256 + b) :: pairGroups rest
  | _ => []

/-- Up to some groups, whether octets ended them, and what follows. -/
def groups (first : Bool) : Nat → List Char → List Nat × Bool × List Char
  | 0, text => ([], false, text)
  | limit + 1, text =>
    match if 0 < limit then nextGroup? first text >>= octets? else none with
    | some (octets, rest) => (pairGroups octets, true, rest)
    | none =>
      match nextGroup? first text >>= number? 16 4 with
      | none => ([], false, text)
      | some (group, rest) =>
        let (more, ended, rest) := groups false limit rest
        (group :: more, ended, rest)

def v6Groups? (text : List Char) : Option (List Nat × List Char) :=
  let (front, ended, rest) := groups true 8 text
  if front.length = 8 then some (front, rest)
  else if ended then none
  else do
    let rest ← expect? ':' (← expect? ':' rest)
    let (back, _, rest) := groups true (7 - front.length) rest
    return (front ++ List.replicate (8 - front.length - back.length) 0 ++ back, rest)

def port? (text : List Char) : Option (Nat × List Char) := do
  bounded? 65535 (← expect? ':' text)

def v4? (text : List Char) : Option (SocketAddress × List Char) := do
  let (octets, text) ← octets? text
  let (port, text) ← port? text
  return (.v4 octets port, text)

def scope? (text : List Char) : Option (Nat × List Char) := do
  bounded? 4294967295 (← expect? '%' text)

def v6? (text : List Char) : Option (SocketAddress × List Char) := do
  let (groups, text) ← v6Groups? (← expect? '[' text)
  let (scope, text) := (scope? text).getD (0, text)
  let (port, text) ← port? (← expect? ']' text)
  return (.v6 groups scope port, text)

def parse? (text : String) : Option SocketAddress :=
  match v4? text.toList <|> v6? text.toList with
  | some (address, []) => some address
  | _ => none

end SocketAddress

end Switchboard
