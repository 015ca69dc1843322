/-! JSON values. Objects keep their members in the order of their keys, one member for each key. -/

namespace Switchboard

inductive Json where
  | null
  | boolean (value : Bool)
  | integer (value : Int)
  | float (value : Float)
  | string (value : String)
  | array (items : List Json)
  | object (members : List (String × Json))
  deriving Inhabited

namespace Json

def lastOfEach : List (String × Json) → List (String × Json)
  | first :: second :: members =>
    if first.1 = second.1 then lastOfEach (second :: members)
    else first :: lastOfEach (second :: members)
  | members => members

/-- An object, in which a later member replaces those that had its key. -/
def ofMembers (members : List (String × Json)) : Json :=
  .object (lastOfEach (members.mergeSort fun a b => decide (a.1 ≤ b.1)))

def get? (name : String) : Json → Option Json
  | .object members => members.lookup name
  | _ => none

def strings (values : List String) : Json :=
  .array (values.map .string)

def ofOption (encode : α → Json) : Option α → Json
  | none => .null
  | some value => encode value

end Json

end Switchboard
