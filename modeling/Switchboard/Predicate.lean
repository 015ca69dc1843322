import Switchboard.Exchange

/-!
Conditions on an exchange, and trees of them. Paths are compared exactly, header names without
regard to case, header values and parameters exactly; a path prefix ends at a slash or at the end.
-/

namespace Switchboard

abbrev Condition := Exchange → Bool

inductive Predicate where
  | constant (value : Bool)
  | path (path : String)
  | pathPrefix (start : String)
  | pathSuffix (ending : String)
  | method (method : Method)
  | header (name : String) (value : Option String)
  | parameter (name : String) (value : Option String)
  | all (operands : List Predicate)
  | any (operands : List Predicate)
  | negation (operand : Predicate)

namespace Predicate

def afterPrefix? : List Char → List Char → Option (List Char)
  | [], text => some text
  | _ :: _, [] => none
  | c :: start, d :: text => if c = d then afterPrefix? start text else none

/-- Whether a path begins with whole segments of another. -/
def beginsWith (path start : List Char) : Bool :=
  match afterPrefix? start path with
  | none => false
  | some rest => rest.isEmpty || rest.head? = some '/' || start.getLast? = some '/'

def endsWith (path ending : List Char) : Bool :=
  (afterPrefix? ending.reverse path.reverse).isSome

def headerHolds (values : List HeaderValue) : Option String → Bool
  | none => !values.isEmpty
  | some expected => values.any fun value => value.text? = some expected

def parameterHolds (values : List String) : Option String → Bool
  | none => !values.isEmpty
  | some expected => values.contains expected

mutual

def holds (exchange : Exchange) : Predicate → Bool
  | .constant value => value
  | .path whole => exchange.path = whole
  | .pathPrefix start => beginsWith exchange.path.toList start.toList
  | .pathSuffix ending => endsWith exchange.path.toList ending.toList
  | .method wanted => exchange.method = wanted
  | .header name value => headerHolds (exchange.request.headers.valuesNamed name) value
  | .parameter name value => parameterHolds (exchange.parameters.values name) value
  | .all operands => allHold exchange operands
  | .any operands => anyHolds exchange operands
  | .negation operand => !holds exchange operand

def allHold (exchange : Exchange) : List Predicate → Bool
  | [] => true
  | operand :: operands => holds exchange operand && allHold exchange operands

def anyHolds (exchange : Exchange) : List Predicate → Bool
  | [] => false
  | operand :: operands => holds exchange operand || anyHolds exchange operands

end

def condition (predicate : Predicate) : Condition := fun exchange => predicate.holds exchange

def namedFields (kind : String) (fields : List (String × String)) : String :=
  kind ++ " \x7b " ++ ", ".intercalate (fields.map fun (name, value) => name ++ ": " ++ value) ++
    " \x7d"

mutual

def tree : Predicate → String
  | .constant value => "ConstantMatcher(" ++ (if value then "true" else "false") ++ ")"
  | .path whole => namedFields "PathMatcher" [("path", Text.quoted whole)]
  | .pathPrefix start => namedFields "PathPrefixMatcher" [("prefix", Text.quoted start)]
  | .pathSuffix ending => namedFields "PathSuffixMatcher" [("suffix", Text.quoted ending)]
  | .method wanted => namedFields "MethodMatcher" [("method", wanted.name)]
  | .header name value =>
    namedFields "HeaderMatcher" [("name", Text.quoted name), ("value", Text.quotedOption value)]
  | .parameter name value =>
    namedFields "QueryMatcher" [("name", Text.quoted name), ("value", Text.quotedOption value)]
  | .all operands =>
    namedFields "AndMatcher" [("matchers", "[" ++ ", ".intercalate (trees operands) ++ "]")]
  | .any operands =>
    namedFields "OrMatcher" [("matchers", "[" ++ ", ".intercalate (trees operands) ++ "]")]
  | .negation operand => namedFields "NotMatcher" [("inner", tree operand)]

def trees : List Predicate → List String
  | [] => []
  | operand :: operands => tree operand :: trees operands

end

end Predicate

end Switchboard
