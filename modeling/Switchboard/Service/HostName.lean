import Switchboard.Settings.Address

/-!
Hosts in numbers and hosts by name. An IPv4 host is one to four numbers, of which the last fills
the octets that are left; an IPv6 host may name a scope. A host name is labels between points, in
which a backslash takes the next character, or a code of three digits, as it is.
-/

namespace Switchboard

namespace HostName

open Text (isDigitOf valueOf valueUpTo?)

/-- The radix of a number and its digits: 0x leads hexadecimal digits and 0 octal ones. -/
def radixAndDigits : List Char → Nat × List Char
  | '0' :: 'x' :: digits => (16, digits)
  | '0' :: 'X' :: digits => (16, digits)
  | '0' :: digits => (8, '0' :: digits)
  | digits => (10, digits)

def number? (text : List Char) : Option Nat :=
  let (radix, digits) := radixAndDigits text
  if digits.isEmpty || !digits.all (isDigitOf radix) then none
  else valueUpTo? radix 0xFFFFFFFF digits

def lastOctets : Nat → Nat → List Nat
  | 0, _ => []
  | count + 1, value => lastOctets count (value / 256) ++ [value % 256]

/-- The octets of an IPv4 host. Only its last number may be above 255, and only if it fits. -/
def octets? (host : List Char) : Option (List Nat) := do
  let numbers ← (host.splitOn '.').mapM number?
  let front := numbers.dropLast
  let last ← numbers.getLast?
  let free := 4 - front.length
  if 3 < front.length || front.any (255 < ·) || Nat.pow 256 free ≤ last then none
  else some (front ++ lastOctets free last)

def isLinkLocal (groups : List Nat) : Bool :=
  groups.head?.any fun group =>
    (0xFE80 ≤ group && group ≤ 0xFEBF) || (0xFF00 ≤ group && group % 16 = 2)

/-- The scope after an IPv6 host: a number or, on one link, the name of the loopback interface. -/
def scope? (groups : List Nat) (text : List Char) : Option Nat :=
  if text.isEmpty then some 0
  else if isLinkLocal groups && text = ['%', 'l', 'o'] then some 1
  else
    match SocketAddress.scope? text with
    | some (scope, []) => some scope
    | _ => none

def v6? (host : List Char) : Option SocketAddress := do
  let (groups, rest) ← SocketAddress.v6Groups? host
  return .v6 groups (← scope? groups rest) 0

def prepend (c : Char) : Option (List (List Char)) → Option (List (List Char))
  | some (label :: labels) => some ((c :: label) :: labels)
  | _ => none

def labels? : List Char → Option (List (List Char))
  | [] => some [[]]
  | '.' :: rest => (labels? rest).map ([] :: ·)
  | '\\' :: a :: b :: c :: rest =>
    if a.isDigit then
      let code := valueOf 10 [a, b, c]
      if b.isDigit && c.isDigit && code < 256 then prepend (Char.ofNat code) (labels? rest)
      else none
    else prepend a (labels? (b :: c :: rest))
  | '\\' :: a :: rest => if a.isDigit then none else prepend a (labels? rest)
  | ['\\'] => none
  | c :: rest => prepend c (labels? rest)

def isLabel (label : List Char) : Bool :=
  !label.isEmpty && label.length ≤ 63 && label.all fun c => c.isAlphanum || c = '-' || c = '_'

def length (labels : List (List Char)) : Nat :=
  labels.foldl (fun total label => total + label.length + 1) 0 - 1

/-- Whether a name may be asked for. A point may end it, and alone it is the root. -/
def isValid (host : List Char) : Bool :=
  match labels? host with
  | none => false
  | some labels =>
    let labels := if labels.getLast? = some [] then labels.dropLast else labels
    labels = [[]] ||
      (!labels.isEmpty && labels.all isLabel && length labels ≤ 253 &&
        labels.head?.all fun label => label.head? ≠ some '-')

def isOwnName (host : List Char) : Bool :=
  host.map Char.toLower = "localhost".toList

def address? (host : List Char) : Option SocketAddress :=
  match octets? host with
  | some octets => some (.v4 octets 0)
  | none => if isOwnName host then some (.v4 [127, 0, 0, 1] 0) else v6? host

end HostName

end Switchboard
