import Switchboard.Text.Quoted

/-!
Random identifiers: 32 hexadecimal digits in groups of 8, 4, 4, 4 and 12, of which the thirteenth
tells the version and the seventeenth the variant.
-/

namespace Switchboard.Identifier

def digits : Nat → Nat → List Char
  | 0, _ => []
  | count + 1, number => digits count (number / 16) ++ [Nat.digitChar (number % 16)]

/-- The identifier that 122 random bits make: of 12, 3 and 15 digits and two bits. -/
def ofRandom (random : Nat) : String :=
  let free := digits 30 (random / 4)
  let variant := Nat.digitChar (8 + random % 4)
  let groups :=
    [free.take 8, (free.drop 8).take 4, '4' :: (free.drop 12).take 3,
      variant :: (free.drop 15).take 3, free.drop 18]
  "-".intercalate (groups.map String.ofList)

end Switchboard.Identifier
