import Switchboard.Text.Percent
import Switchboard.Text.Quoted

/-!
Path templates. A template is a list of segments, each a literal or a parameter that captures one
path piece; a wildcard at the end captures the remaining pieces. Paths are cut before they are
decoded, so an encoded slash stays inside its piece.
-/

namespace Switchboard

inductive Segment where
  | literal (text : String)
  | parameter (name : String)
  deriving DecidableEq, Repr

structure Template where
  segments : List Segment
  wildcard : Bool
  deriving DecidableEq, Repr

inductive TemplateFault where
  | relative
  | wildcardNotLast
  | parameterName
  | strayMark
  deriving DecidableEq, Repr

def TemplateFault.reason : TemplateFault → String
  | .relative => "must start with '/'"
  | .wildcardNotLast => "'*' is only allowed as the last segment"
  | .parameterName => "parameter names must be non-empty and unbraced"
  | .strayMark => "'\x7b', '\x7d' and '*' must form whole segments"

structure TemplateError where
  template : String
  fault : TemplateFault
  deriving DecidableEq, Repr

def TemplateError.message (error : TemplateError) : String :=
  "invalid path template " ++ Text.quoted error.template ++ ": " ++ error.fault.reason

def pathPieces (path : List Char) : List (List Char) :=
  (path.splitOn '/').filter fun piece => !piece.isEmpty

namespace Segment

def isBrace (c : Char) : Bool := c = '\x7b' || c = '\x7d'

def isMark (c : Char) : Bool := isBrace c || c = '*'

def braced? : List Char → Option (List Char)
  | '\x7b' :: rest => if rest.getLast? = some '\x7d' then some rest.dropLast else none
  | _ => none

def parse (piece : List Char) : Except TemplateFault Segment :=
  match braced? piece with
  | some name =>
    if name.isEmpty || name.any isBrace then .error .parameterName
    else .ok (.parameter (String.ofList name))
  | none =>
    if piece.any isMark then .error .strayMark else .ok (.literal (String.ofList piece))

def text : Segment → String
  | .literal text => text
  | .parameter name => "\x7b" ++ name ++ "\x7d"

def isLiteral : Segment → Bool
  | .literal _ => true
  | .parameter _ => false

end Segment

abbrev Captures := List (String × String)

/-- How narrow a template is: its literals, whether it has no wildcard, its parameters. -/
structure Specificity where
  literals : Nat
  closed : Bool
  parameters : Nat
  deriving DecidableEq, Repr

namespace Specificity

def compare (a b : Specificity) : Ordering :=
  (Ord.compare a.literals b.literals).then <|
    (Ord.compare a.closed.toNat b.closed.toNat).then <|
      Ord.compare b.parameters a.parameters

instance : LT Specificity := ⟨fun a b => compare a b = .lt⟩

instance (a b : Specificity) : Decidable (a < b) :=
  inferInstanceAs (Decidable (compare a b = .lt))

end Specificity

namespace Template

def ofPieces : List (List Char) → Except TemplateFault Template
  | [] => .ok ⟨[], false⟩
  | ['*'] :: rest => if rest.isEmpty then .ok ⟨[], true⟩ else .error .wildcardNotLast
  | piece :: rest => do
    let segment ← Segment.parse piece
    let template ← ofPieces rest
    return { template with segments := segment :: template.segments }

def ofText (text : List Char) : Except TemplateFault Template :=
  match text with
  | '/' :: _ => ofPieces (pathPieces text)
  | _ => .error .relative

def parse (text : String) : Except TemplateError Template :=
  match ofText text.toList with
  | .ok template => .ok template
  | .error fault => .error ⟨text, fault⟩

/-- The canonical form, without empty segments. -/
def text (template : Template) : String :=
  let segments := String.join (template.segments.map fun segment => "/" ++ segment.text)
  if template.wildcard then segments ++ "/*"
  else if template.segments.isEmpty then "/"
  else segments

/-- Match the segments with the front of the pieces; what remains comes with the captures. -/
def capture? : List Segment → List String → Option (Captures × List String)
  | [], pieces => some ([], pieces)
  | _ :: _, [] => none
  | .literal text :: segments, piece :: pieces =>
    if text = piece then capture? segments pieces else none
  | .parameter name :: segments, piece :: pieces =>
    (capture? segments pieces).map fun (captures, rest) => ((name, piece) :: captures, rest)

def decodedPieces (path : String) : List String :=
  (pathPieces path.toList).map fun piece => String.ofList (Text.percentDecoded piece)

/-- The captures of a path that the template matches; the wildcard's goes by the name of `*`. -/
def captures? (template : Template) (path : String) : Option Captures :=
  match capture? template.segments (decodedPieces path) with
  | none => none
  | some (captures, rest) =>
    if template.wildcard then some (captures ++ [("*", "/".intercalate rest)])
    else if rest.isEmpty then some captures
    else none

def specificity (template : Template) : Specificity :=
  let literals := template.segments.countP Segment.isLiteral
  ⟨literals, !template.wildcard, template.segments.length - literals⟩

end Template

end Switchboard
