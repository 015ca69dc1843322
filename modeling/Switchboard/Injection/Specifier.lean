import Switchboard.Text.Blank
import Switchboard.Text.Quoted

/-!
Injection specifiers: either a head and a suffix around the first colon, or the name of an alias.
White space around the whole does not count.
-/

namespace Switchboard

inductive Specifier where
  | prefixed (head : String) (suffix : String)
  | named (name : String)
  deriving DecidableEq, Repr

inductive SpecifierFault where
  | empty
  | emptyHead
  | malformedHead
  | reservedHead
  deriving DecidableEq, Repr

def SpecifierFault.reason : SpecifierFault → String
  | .empty => "empty specifier"
  | .emptyHead => "empty prefix"
  | .malformedHead => "provider prefix must be non-empty and contain no ':'"
  | .reservedHead => "prefix is reserved for entity parsers"

structure SpecifierError where
  specifier : String
  fault : SpecifierFault
  deriving DecidableEq, Repr

def SpecifierError.message (error : SpecifierError) : String :=
  "invalid injection specifier " ++ Text.quoted error.specifier ++ ": " ++ error.fault.reason

namespace Specifier

def ofText (text : List Char) : Except SpecifierFault Specifier :=
  let specifier := Text.trimmed text
  let head := specifier.takeWhile (· ≠ ':')
  match specifier.dropWhile (· ≠ ':') with
  | [] => if head.isEmpty then .error .empty else .ok (.named (String.ofList head))
  | _ :: suffix =>
    if head.isEmpty then .error .emptyHead
    else .ok (.prefixed (String.ofList head) (String.ofList suffix))

def parse (text : String) : Except SpecifierError Specifier :=
  match ofText text.toList with
  | .ok specifier => .ok specifier
  | .error fault => .error ⟨text, fault⟩

def text : Specifier → String
  | .prefixed head suffix => head ++ ":" ++ suffix
  | .named name => name

/-- The head that names a parser of the request body. -/
def entityHead : String := "$entity"

end Specifier

end Switchboard
