import Switchboard.Dictionary
import Switchboard.Exchange
import Switchboard.Injection.Specifier
import Switchboard.Json.Parser
import Switchboard.Logged

/-!
What a specifier stands for. Aliases are followed through the alias table, each name at most once,
to a provider with a suffix or to a parser of the request body. Where nothing is known by a name the
value is absent, and the resolver says what was missing.
-/

namespace Switchboard

inductive Injected where
  | string (value : String)
  | integer (value : Int)
  | boolean (value : Bool)
  | size (value : Nat)
  | json (value : Json)
  | bytes (value : Bytes)

/-- A source of values, chosen by the head of a specifier and asked for the suffix. -/
abbrev Provider := String → Option Injected

abbrev EntityParser := Exchange → Option Injected

namespace Provider

def fixed (values : List (String × Injected)) : Provider :=
  (Dictionary.ofList values).get?

def environment (entries : List (String × String)) : Provider := fun suffix =>
  (entries.lookup suffix).map .string

end Provider

namespace EntityParser

def json : EntityParser := fun exchange => do
  let text ← Text.ofBytes? exchange.request.body
  return .json (← Json.parse? text)

def string : EntityParser := fun exchange =>
  some (.string (Text.ofBytesLossy exchange.request.body))

def bytes : EntityParser := fun exchange =>
  some (.bytes exchange.request.body)

end EntityParser

inductive Resolver where
  | absent (missing : Notice)
  | provider (source : Provider) (suffix : String)
  | entity (parser : EntityParser)

namespace Resolver

def resolve : Resolver → Exchange → Option Injected
  | .absent _, _ => none
  | .provider source suffix, _ => source suffix
  | .entity parser, exchange => parser exchange

def notices : Resolver → List Notice
  | .absent missing => [missing]
  | _ => []

def isAbsent : Resolver → Bool
  | .absent _ => true
  | _ => false

def text : Resolver → String
  | .absent _ => "Absent"
  | .provider _ suffix => "Provider \x7b suffix: " ++ Text.quoted suffix ++ " \x7d"
  | .entity _ => "Entity"

end Resolver

structure AliasCycle where
  chain : List String
  deriving DecidableEq, Repr

inductive Target where
  | prefixed (head : String) (suffix : String)
  | unknownAlias (name : String)
  deriving DecidableEq, Repr

/-- Follow aliases through those not used yet, after the names of a chain. -/
def follow (unused : Dictionary Specifier) (chain : List String) :
    Specifier → Except AliasCycle Target
  | .prefixed head suffix => .ok (.prefixed head suffix)
  | .named name =>
    if name ∈ chain then .error ⟨chain ++ [name]⟩
    else
      match found : unused.get? name with
      | none => .ok (.unknownAlias name)
      | some next =>
        have _fewer := Dictionary.size_erase_lt found
        follow (unused.erase name) (chain ++ [name]) next
termination_by unused.size

structure Registry where
  providers : Dictionary Provider
  parsers : Dictionary EntityParser

namespace Registry

def initial : Registry :=
  { providers := .empty
    parsers := .ofList
      [("json", EntityParser.json), ("string", EntityParser.string),
        ("text", EntityParser.string), ("bytes", EntityParser.bytes)] }

def addProvider (registry : Registry) (head : String) (provider : Provider) :
    Except SpecifierError Registry :=
  if head.isEmpty || head.toList.contains ':' then .error ⟨head, .malformedHead⟩
  else if head = Specifier.entityHead then .error ⟨head, .reservedHead⟩
  else .ok { registry with providers := registry.providers.insert head provider }

def addParser (registry : Registry) (name : String) (parser : EntityParser) : Registry :=
  { registry with parsers := registry.parsers.insert name parser }

def hasProvider (registry : Registry) (head : String) : Bool :=
  (registry.providers.get? head).isSome

def resolverOf (registry : Registry) : Target → Resolver
  | .unknownAlias name => .absent (.unknownAlias name)
  | .prefixed head suffix =>
    if head = Specifier.entityHead then
      match registry.parsers.get? suffix with
      | some parser => .entity parser
      | none => .absent (.unknownParser suffix)
    else
      match registry.providers.get? head with
      | some source => .provider source suffix
      | none => .absent (.unknownProvider head)

def resolver (registry : Registry) (aliases : Dictionary Specifier) (specifier : Specifier) :
    Except AliasCycle Resolver :=
  (follow aliases [] specifier).map registry.resolverOf

/-- A specifier resolved, with a notice if its value will be absent. -/
def resolveLogged (registry : Registry) (aliases : Dictionary Specifier) (specifier : Specifier) :
    Logged AliasCycle Resolver :=
  match registry.resolver aliases specifier with
  | .error cycle => .lift (.error cycle)
  | .ok resolver => ⟨resolver.notices, .ok resolver⟩

@[simp]
theorem result_resolveLogged (registry : Registry) (aliases : Dictionary Specifier)
    (specifier : Specifier) :
    (registry.resolveLogged aliases specifier).result = registry.resolver aliases specifier := by
  unfold resolveLogged
  cases registry.resolver aliases specifier <;> rfl

theorem notices_resolveLogged {registry : Registry} {aliases : Dictionary Specifier}
    {specifier : Specifier} {resolver : Resolver}
    (resolved : (registry.resolveLogged aliases specifier).result = .ok resolver) :
    (registry.resolveLogged aliases specifier).notices = resolver.notices := by
  rw [result_resolveLogged] at resolved
  rw [resolveLogged, resolved]

end Registry

end Switchboard
