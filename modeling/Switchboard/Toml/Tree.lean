/-!
TOML values, and the tree of tables that a document builds up. A table may be written once under a
header or grown by dotted keys, but not both; a table that only a longer header implied may still
get a header of its own.
-/

namespace Switchboard.Toml

inductive Value where
  | string (text : String)
  | integer (value : Int)
  | float (literal : String)
  | boolean (value : Bool)
  | datetime (text : String)
  | array (items : List Value)
  | table (entries : List (String × Value))
  deriving Inhabited

inductive Origin where
  | header
  | implied
  | dotted
  deriving DecidableEq, Repr

inductive Node where
  | leaf (value : Value)
  | table (origin : Origin) (entries : List (String × Node))
  /-- Tables under one header in double brackets, the last one first. -/
  | tables (elements : List (List (String × Node)))

structure Table where
  origin : Origin
  entries : List (String × Node)

namespace Table

def empty : Table := ⟨.header, []⟩

def setEntry (name : String) (node : Node) : List (String × Node) → List (String × Node)
  | [] => [(name, node)]
  | (other, kept) :: entries =>
    if other = name then (name, node) :: entries else (other, kept) :: setEntry name node entries

def set (table : Table) (name : String) (node : Node) : Table :=
  { table with entries := setEntry name node table.entries }

/-- Change the table at the end of a path. Dotted keys do not enter a table with a header. -/
def update (dotted : Bool) (change : Table → Option Table) : List String → Table → Option Table
  | [], table => change table
  | name :: path, table =>
    match table.entries.lookup name with
    | none => do
      let inner ← update dotted change path ⟨if dotted then .dotted else .implied, []⟩
      return table.set name (.table inner.origin inner.entries)
    | some (.leaf _) => none
    | some (.table origin entries) =>
      if dotted && origin = .header then none
      else do
        let inner ← update dotted change path ⟨origin, entries⟩
        return table.set name (.table inner.origin inner.entries)
    | some (.tables []) => none
    | some (.tables (last :: earlier)) => do
      let inner ← update dotted change path ⟨.header, last⟩
      return table.set name (.tables (inner.entries :: earlier))

def addLeaf (direct : Bool) (name : String) (value : Value) (table : Table) : Option Table :=
  if (table.origin = .dotted) = direct || (table.entries.lookup name).isSome then none
  else some (table.set name (.leaf value))

def assign (table : Table) (path : List String) (value : Value) : Option Table :=
  match path.getLast? with
  | none => none
  | some name => update true (addLeaf path.dropLast.isEmpty name value) path.dropLast table

def openLast (name : String) (table : Table) : Option Table :=
  match table.entries.lookup name with
  | none => some (table.set name (.table .header []))
  | some (.table .implied entries) => some (table.set name (.table .header entries))
  | some _ => none

def appendLast (name : String) (table : Table) : Option Table :=
  match table.entries.lookup name with
  | none => some (table.set name (.tables [[]]))
  | some (.tables elements) => some (table.set name (.tables ([] :: elements)))
  | some _ => none

/-- A header opens a table, one in double brackets the next of several. -/
def openHeader (root : Table) (several : Bool) (path : List String) : Option Table :=
  match path.getLast? with
  | none => none
  | some name =>
    update false (if several then appendLast name else openLast name) path.dropLast root

end Table

mutual

def Node.value : Node → Value
  | .leaf value => value
  | .table _ entries => .table (entryValues entries)
  | .tables elements => .array (elementValues [] elements)

def entryValues : List (String × Node) → List (String × Value)
  | [] => []
  | (name, node) :: entries => (name, node.value) :: entryValues entries

def elementValues (later : List Value) : List (List (String × Node)) → List Value
  | [] => later
  | entries :: elements => elementValues (.table (entryValues entries) :: later) elements

end

def Table.value (table : Table) : Value := .table (entryValues table.entries)

end Switchboard.Toml
