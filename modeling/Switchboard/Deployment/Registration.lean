import Switchboard.Deployment.Error
import Switchboard.Handler

/-!
Handlers as they are registered, with or without specifiers of the values they want. The specifiers
are resolved once, when the registration is compiled; each request then resolves all values, in
order, before the handler runs.
-/

namespace Switchboard

/-- Injected values by position. An absent value keeps its place. -/
structure Params where
  values : List (Option Injected)

namespace Params

def none : Params := ⟨[]⟩

def get? (params : Params) (index : Nat) : Option Injected :=
  (params.values[index]?).join

def isPresent (params : Params) (index : Nat) : Bool := (params.get? index).isSome

def size (params : Params) : Nat := params.values.length

end Params

abbrev RouteHandler (m : Type → Type) := Exchange → Params → m Handled

inductive Registration (m : Type → Type) where
  | simple (handler : RouteHandler m)
  | injected (specifiers : List String) (handler : RouteHandler m)

namespace Registration

variable {m : Type → Type}

def ofParts (specifiers : List String) (handler : Option (RouteHandler m)) :
    Except DeployError (Registration m) :=
  match handler with
  | none => .error .missingHandler
  | some handler =>
    if specifiers.isEmpty then .ok (.simple handler) else .ok (.injected specifiers handler)

def specifiers : Registration m → List String
  | .simple _ => []
  | .injected specifiers _ => specifiers

def handler : Registration m → RouteHandler m
  | .simple handler => handler
  | .injected _ handler => handler

def text : Registration m → String
  | .simple _ => "Simple"
  | .injected specifiers _ =>
    "WithInjections \x7b specifiers: " ++ Text.quotedList specifiers ++ " \x7d"

end Registration

structure CompiledHandler (m : Type → Type) where
  resolvers : List Resolver
  handler : RouteHandler m

namespace CompiledHandler

variable {m : Type → Type}

def handle (compiled : CompiledHandler m) : Handler m := fun exchange =>
  compiled.handler exchange ⟨compiled.resolvers.map (·.resolve exchange)⟩

end CompiledHandler

def Registry.compile (registry : Registry) (aliases : Dictionary Specifier) (text : String) :
    Logged DeployError Resolver :=
  match Specifier.parse text with
  | .error error => .lift (.error (.invalidSpecifier error))
  | .ok specifier => (registry.resolveLogged aliases specifier).mapError .aliasCycle

def Registration.compile {m : Type → Type} (registration : Registration m) (registry : Registry)
    (aliases : Dictionary Specifier) : Logged DeployError (CompiledHandler m) := do
  let resolvers ← registration.specifiers.mapM (registry.compile aliases)
  return ⟨resolvers, registration.handler⟩

end Switchboard
