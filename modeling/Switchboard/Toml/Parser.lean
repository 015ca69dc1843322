import Switchboard.Toml.Scalar

/-! TOML documents: values that may hold others, and lines that open tables or assign values. -/

namespace Switchboard.Toml

abbrev ValueReader := Nat → List Char → Option (Value × List Char)

def items? (item? : ValueReader) (earlier : List Value) :
    Nat → List Char → Option (List Value × List Char)
  | 0, _ => none
  | budget + 1, text =>
    match skipFiller false text with
    | ']' :: rest => some (earlier, rest)
    | text => do
      let (item, rest) ← item? budget text
      match skipFiller false rest with
      | ',' :: rest => items? item? (item :: earlier) budget rest
      | ']' :: rest => some (item :: earlier, rest)
      | _ => none

def assignment? (value? : ValueReader) (budget : Nat) (text : List Char) :
    Option ((List String × Value) × List Char) := do
  let (path, rest) ← dottedKey? text
  let (value, rest) ← value? budget (skipSpaces (← Text.expect? '=' rest))
  return ((path, value), rest)

def entries? (value? : ValueReader) (table : Table) : Nat → List Char → Option (Table × List Char)
  | 0, _ => none
  | budget + 1, text => do
    let ((path, value), rest) ← assignment? value? budget text
    let table ← table.assign path value
    match skipSpaces rest with
    | ',' :: rest => entries? value? table budget rest
    | '\x7d' :: rest => some (table, rest)
    | _ => none

def inlineTable? (value? : ValueReader) (budget : Nat) (text : List Char) :
    Option (Value × List Char) :=
  match skipSpaces text with
  | '\x7d' :: rest => some (.table [], rest)
  | text => (entries? value? .empty budget text).map fun (table, rest) =>
      (table.value, rest)

/-- A value with at most some levels of arrays and inline tables. -/
def value? : Nat → ValueReader
  | 0, _, text =>
    match text with
    | '[' :: _ => none
    | '\x7b' :: _ => none
    | _ => scalar? text
  | depth + 1, budget, text =>
    match text with
    | '[' :: rest =>
      (items? (value? depth) [] budget rest).map fun (items, rest) =>
        (.array items.reverse, rest)
    | '\x7b' :: rest => inlineTable? (value? depth) budget rest
    | _ => scalar? text

inductive Statement where
  | header (several : Bool) (path : List String)
  | assignment (path : List String) (value : Value)

def header? (text : List Char) : Option (Statement × List Char) :=
  match text with
  | '[' :: rest => do
    let (path, rest) ← dottedKey? rest
    match rest with
    | ']' :: ']' :: rest => some (.header true path, rest)
    | _ => none
  | rest => do
    let (path, rest) ← dottedKey? rest
    return (.header false path, ← Text.expect? ']' rest)

def statement? (budget : Nat) (text : List Char) : Option (Statement × List Char) :=
  match text with
  | '[' :: rest => header? rest
  | _ => (assignment? (value? maxDepth) budget text).map fun ((path, value), rest) =>
      (.assignment path value, rest)

def afterLine? (text : List Char) : Option (List Char) :=
  match skipComment (skipSpaces text) with
  | [] => some []
  | rest => afterBreak? rest

/-- The statements of a document, each of which takes at least one character of the budget. -/
def statements? (earlier : List Statement) : Nat → List Char → Option (List Statement)
  | budget, text =>
    match skipFiller false text with
    | [] => some earlier.reverse
    | text =>
      match budget, statement? budget text with
      | budget + 1, some (statement, rest) => do
        statements? (statement :: earlier) budget (← afterLine? rest)
      | _, _ => none

/-- The tables so far, and the path of the one that assignments go to. -/
structure Builder where
  root : Table
  current : List String

def Builder.step? (builder : Builder) : Statement → Option Builder
  | .header several path => do
    return ⟨← builder.root.openHeader several path, path⟩
  | .assignment path value => do
    let root ← builder.root.update false (fun table => table.assign path value) builder.current
    return { builder with root }

def byteOrderMark : Char := '\uFEFF'

def parse? (document : String) : Option Value := do
  let text := match document.toList with
    | c :: rest => if c = byteOrderMark then rest else c :: rest
    | [] => []
  let statements ← statements? [] (text.length + 1) text
  let builder ← statements.foldlM Builder.step? ⟨.empty, []⟩
  return builder.root.value

end Switchboard.Toml
