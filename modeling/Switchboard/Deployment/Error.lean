import Switchboard.Injection.Registry
import Switchboard.Predicate.Parser
import Switchboard.Template

/-! Why routes cannot be registered or deployed. -/

namespace Switchboard

inductive DeployError where
  | missingHandler
  | invalidSpecifier (error : SpecifierError)
  | invalidAlias (name : String)
  | aliasCycle (cycle : AliasCycle)
  | invalidMethod (name : String)
  | invalidPredicate (error : Predicate.ParseError)
  | invalidTemplate (error : TemplateError)
  deriving DecidableEq, Repr

namespace DeployError

def message : DeployError → String
  | .missingHandler => "handler function cannot be null"
  | .invalidSpecifier error => error.message
  | .invalidAlias name => "invalid alias name " ++ Text.quoted name
  | .aliasCycle cycle => "alias cycle: " ++ " -> ".intercalate cycle.chain
  | .invalidMethod name => "invalid HTTP method " ++ Text.quoted name
  | .invalidPredicate error => error.message
  | .invalidTemplate error => error.message

def inspected : DeployError → String
  | .missingHandler => "MissingHandler"
  | .invalidSpecifier error =>
    "InvalidSpecifier \x7b specifier: " ++ Text.quoted error.specifier ++ ", reason: " ++
      Text.quoted error.fault.reason ++ " \x7d"
  | .invalidAlias name => "InvalidAlias(" ++ Text.quoted name ++ ")"
  | .aliasCycle cycle => "AliasCycle(" ++ Text.quotedList cycle.chain ++ ")"
  | .invalidMethod name => "InvalidMethod(" ++ Text.quoted name ++ ")"
  | .invalidPredicate error =>
    "Predicate(PredicateError \x7b position: " ++ toString error.position ++ ", message: " ++
      Text.quoted error.fault.message ++ " \x7d)"
  | .invalidTemplate error =>
    "Routing(InvalidTemplate(TemplateError \x7b template: " ++ Text.quoted error.template ++
      ", reason: " ++ Text.quoted error.fault.reason ++ " \x7d))"

end DeployError

end Switchboard
