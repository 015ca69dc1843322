import Switchboard.Handler
import Switchboard.Predicate
import Switchboard.Template

/-!
Routing tables. Of the entries for the request's method whose template matches the path, the first
with the greatest specificity fixes the template. Among the entries with that template the first
whose condition holds, with the captures in view, is selected; the captures become parameters of the
exchange only then. If there is none, the fallback gets the exchange as it came.
-/

namespace Switchboard

structure Entry (m : Type → Type) where
  method : Method
  template : Template
  condition : Option Condition
  handler : Handler m

structure Table (m : Type → Type) where
  entries : List (Entry m)
  fallback : Handler m

structure Winner where
  template : Template
  captures : Captures

namespace Table

variable {m : Type → Type}

def withFallback (fallback : Handler m) : Table m := ⟨[], fallback⟩

def initial [Monad m] : Table m := withFallback Handler.notFound

def insert (table : Table m) (entry : Entry m) : Table m :=
  { table with entries := table.entries ++ [entry] }

def add (method : Method) (template : String) (condition : Option Condition)
    (handler : Handler m) : Change TemplateError (Table m) Unit := do
  let template ← MonadExcept.ofExcept (Template.parse template)
  modify fun table => table.insert { method, template, condition, handler }

def setFallback (fallback : Handler m) : Change TemplateError (Table m) Unit :=
  modify fun table => { table with fallback }

def routeCount (table : Table m) : Nat := table.entries.length

def forMethod (table : Table m) (method : Method) : List (Entry m) :=
  table.entries.filter fun entry => entry.method = method

def improve (path : String) (best : Option Winner) (entry : Entry m) : Option Winner :=
  match entry.template.captures? path with
  | none => best
  | some captures =>
    match best with
    | none => some ⟨entry.template, captures⟩
    | some winner =>
      if winner.template.specificity < entry.template.specificity then
        some ⟨entry.template, captures⟩
      else best

def winner? (entries : List (Entry m)) (path : String) : Option Winner :=
  entries.foldl (improve path) none

def applies (view : Exchange) (entry : Entry m) : Bool :=
  match entry.condition with
  | none => true
  | some condition => condition view

/-- The exchange that conditions look at. It is built only if it can make a difference. -/
def viewOf (exchange : Exchange) (captures : Captures) (candidates : List (Entry m)) : Exchange :=
  if !captures.isEmpty && candidates.any (·.condition.isSome) then exchange.addParameters captures
  else exchange

/-- The entry that serves an exchange, and the exchange with its captures. -/
def select (table : Table m) (exchange : Exchange) : Option (Entry m × Exchange) := do
  let entries := table.forMethod exchange.method
  let winner ← winner? entries exchange.path
  let candidates := entries.filter fun entry => entry.template = winner.template
  let entry ← candidates.find? (applies (viewOf exchange winner.captures candidates))
  return (entry, exchange.addParameters winner.captures)

def handle (table : Table m) : Handler m := fun exchange =>
  match table.select exchange with
  | some (entry, received) => entry.handler received
  | none => table.fallback exchange

end Table

end Switchboard
