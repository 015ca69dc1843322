import Switchboard.Deployment.Routes
import Switchboard.Metrics
import Switchboard.Settings

/-!
A host holds the live routing table and builds a new one on demand: the plan declares the routes of
the settings, the aliases of the settings override those of the plan, and all is compiled. Only a
table that compiled is stored; otherwise the live one stays.
-/

namespace Switchboard

inductive Failure where
  | rejected (error : DeployError)
  | panicked
  deriving DecidableEq, Repr

abbrev Plan (m : Type → Type) := Settings → Change Failure (Routes m) Unit

def Plan.none {m : Type → Type} : Plan m := fun _ => pure ()

inductive Event where
  | installed (generation routes : Nat)
  | deploymentFailed
  | reloadFailed
  deriving DecidableEq, Repr

def Event.message : Event → String
  | .installed _ _ => "Deployment installed"
  | .deploymentFailed => "Deployment failed, keeping current routes"
  | .reloadFailed => "Failed to reload config, keeping current deployment"

structure Host (m : Type → Type) where
  registry : Registry
  fallback : Handler m
  plan : Plan m
  table : Table m
  generation : Nat
  metrics : Metrics

structure Blueprint (m : Type → Type) where
  providers : List (String × Provider)
  parsers : List (String × EntityParser)
  fallback : Option (Handler m)
  plan : Plan m

structure Redeployed (m : Type → Type) where
  host : Host m
  notices : List Notice
  events : List Event
  result : Except Failure Unit

namespace Host

variable {m : Type → Type}

def build [Monad m] (blueprint : Blueprint m) : Except DeployError (Host m) := do
  let registry ← blueprint.providers.foldlM
    (fun registry (head, provider) =>
      (registry.addProvider head provider).mapError .invalidSpecifier)
    Registry.initial
  let registry := blueprint.parsers.foldl
    (fun registry (name, parser) => registry.addParser name parser) registry
  let fallback := blueprint.fallback.getD Handler.notFound
  return {
    registry
    fallback
    plan := blueprint.plan
    table := .withFallback fallback
    generation := 0
    metrics := .initial }

def declaration (host : Host m) (settings : Settings) : Change Failure (Routes m) Unit := do
  host.plan settings
  EStateM.adaptExcept .rejected (Routes.addAliases settings.aliases.entries)

def declare (host : Host m) (settings : Settings) : Except Failure (Routes m) :=
  (host.declaration settings).result .empty

def compile (host : Host m) (settings : Settings) : Logged Failure (Table m) := do
  let routes ← Logged.lift (host.declare settings)
  (routes.compile host.registry host.fallback).mapError .rejected

def store (host : Host m) (table : Table m) : Host m := { host with table }

def advance (host : Host m) : Host m := { host with generation := host.generation + 1 }

def recordInstalled (host : Host m) (routes : Nat) : Host m :=
  { host with metrics := host.metrics.recordSuccess routes }

def recordFailed (host : Host m) : Host m :=
  { host with metrics := host.metrics.recordFailure }

def install (host : Host m) (table : Table m) : Host m :=
  ((host.store table).advance).recordInstalled table.routeCount

/-- Build a new table and swap it in. A panic leaves no trace, an error only a count. -/
def redeploy (host : Host m) (settings : Settings) : Redeployed m :=
  let compiled := host.compile settings
  match compiled.result with
  | .ok table =>
    let installed := host.install table
    { host := installed
      notices := compiled.notices
      events := [.installed installed.generation table.routeCount]
      result := .ok () }
  | .error (.rejected error) =>
    { host := host.recordFailed
      notices := compiled.notices
      events := [.deploymentFailed]
      result := .error (.rejected error) }
  | .error .panicked =>
    { host
      notices := compiled.notices
      events := []
      result := .error .panicked }

def handle (host : Host m) : Handler m := host.table.handle

/-- The root handler. Whenever it is asked for it is the same, and it looks for the live table when
a request arrives. -/
def root [Monad m] : Handler (StateT (Host m) m) := fun exchange => do
  let host ← get
  host.handle exchange

end Host

end Switchboard
