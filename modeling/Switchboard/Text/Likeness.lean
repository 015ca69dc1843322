/-!
How alike two words are, from 0 for no common character to 1 for equal words: the mean of the
shares of their characters that pair up and the share of the pairs that stand in order. Characters
pair up if they are equal and less than half the longer word apart.
-/

namespace Switchboard.Text.Likeness

/-- Places in a word for the characters of another, taken in turn, with those characters. -/
def pairs (reach : Nat) (word : List Char) (taken : List (Char × Nat)) :
    List (Char × Nat) → List (Char × Nat)
  | [] => taken.reverse
  | (c, place) :: rest =>
    let found := word.zipIdx.find? fun (d, index) =>
      c = d && place ≤ index + reach && index ≤ place + reach &&
        taken.all fun (_, earlier) => earlier ≠ index
    match found with
    | some (_, index) => pairs reach word ((c, index) :: taken) rest
    | none => pairs reach word taken rest

/-- Pairs of characters, and those of them that differ once both sides are read in order. -/
def counts (word other : List Char) : Nat × Nat :=
  let found := pairs (max word.length other.length / 2 - 1) other [] word.zipIdx
  let there := other.zipIdx.filter fun (_, index) => found.any fun (_, taken) => taken = index
  let displaced := (found.zip there).filter fun ((c, _), (d, _)) => c ≠ d
  (found.length, displaced.length)

def ofWords (word other : List Char) : Nat × Nat :=
  if word.isEmpty && other.isEmpty then (1, 1)
  else
    let (common, displaced) := counts word other
    if common = 0 then (0, 1)
    else
      let (a, b) := (word.length, other.length)
      (common * common * b + common * common * a + (common - displaced / 2) * a * b,
        3 * a * b * common)

def atMost (low high : Nat × Nat) : Bool := low.1 * high.2 ≤ high.1 * low.2

end Switchboard.Text.Likeness
