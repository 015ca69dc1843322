import Switchboard.Text.Percent

/-! Query parameters: names that may carry several values, each list in the order of arrival. -/

namespace Switchboard

structure Parameters where
  pairs : List (String × String)

namespace Parameters

def empty : Parameters := ⟨[]⟩

def pairOfPiece (piece : List Char) : String × String :=
  let name := piece.takeWhile (· ≠ '=')
  let value := (piece.dropWhile (· ≠ '=')).drop 1
  (String.ofList (Text.formDecoded name), String.ofList (Text.formDecoded value))

/-- The parameters of a query string, whose empty pieces do not count. -/
def ofQuery (query : String) : Parameters :=
  ⟨((query.toList.splitOn '&').filter fun piece => !piece.isEmpty).map pairOfPiece⟩

def values (parameters : Parameters) (name : String) : List String :=
  (parameters.pairs.filter fun (other, _) => other = name).map Prod.snd

def values? (parameters : Parameters) (name : String) : Option (List String) :=
  match parameters.values name with
  | [] => none
  | values => some values

def first? (parameters : Parameters) (name : String) : Option String :=
  (parameters.values name).head?

def add (parameters : Parameters) (name value : String) : Parameters :=
  ⟨parameters.pairs ++ [(name, value)]⟩

def addAll (parameters : Parameters) (pairs : List (String × String)) : Parameters :=
  ⟨parameters.pairs ++ pairs⟩

def names (parameters : Parameters) : List String :=
  (parameters.pairs.map Prod.fst).eraseDups.mergeSort fun a b => decide (a ≤ b)

end Parameters

end Switchboard
