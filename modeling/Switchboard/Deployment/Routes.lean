import Switchboard.Deployment.Registration
import Switchboard.Table

/-!
The routes and aliases of one deployment. Methods, templates and predicates are checked as they are
registered, in that order.
-/

namespace Switchboard

structure Route (m : Type → Type) where
  method : Method
  template : Template
  condition : Option (String × Predicate)
  registration : Registration m

structure Routes (m : Type → Type) where
  routes : List (Route m)
  aliases : Dictionary Specifier

namespace Route

variable {m : Type → Type}

def expression? (route : Route m) : Option String := route.condition.map Prod.fst

def text (route : Route m) : String :=
  "RouteDefinition \x7b method: " ++ route.method.name ++ ", template: " ++
    Text.quoted route.template.text ++ ", predicate: " ++ Text.quotedOption route.expression? ++
    ", registration: " ++ route.registration.text ++ " \x7d"

end Route

namespace Routes

variable {m : Type → Type}

def empty : Routes m := ⟨[], .empty⟩

def size (routes : Routes m) : Nat := routes.routes.length

def condition? : Option String → Except DeployError (Option (String × Predicate))
  | none => .ok none
  | some expression =>
    match Predicate.parse expression with
    | .ok predicate => .ok (some (expression, predicate))
    | .error error => .error (.invalidPredicate error)

def register (method : Method) (path : String) (expression : Option String)
    (registration : Registration m) : Change DeployError (Routes m) Unit := do
  let template ← MonadExcept.ofExcept ((Template.parse path).mapError .invalidTemplate)
  let condition ← MonadExcept.ofExcept (condition? expression)
  modify fun routes => { routes with
    routes := routes.routes ++ [{ method, template, condition, registration }] }

inductive Verb where
  | get
  | post
  | put
  | delete

def Verb.method : Verb → Method
  | .get => .get
  | .post => .post
  | .put => .put
  | .delete => .delete

def on (verb : Verb) (path : String) (registration : Registration m) :
    Change DeployError (Routes m) Unit :=
  register verb.method path none registration

def onIf (verb : Verb) (path expression : String) (registration : Registration m) :
    Change DeployError (Routes m) Unit :=
  register verb.method path (some expression) registration

def onGet : String → Registration m → Change DeployError (Routes m) Unit := on .get

def onPost : String → Registration m → Change DeployError (Routes m) Unit := on .post

def onPut : String → Registration m → Change DeployError (Routes m) Unit := on .put

def onDelete : String → Registration m → Change DeployError (Routes m) Unit := on .delete

def onGetIf : String → String → Registration m → Change DeployError (Routes m) Unit := onIf .get

def onPostIf : String → String → Registration m → Change DeployError (Routes m) Unit := onIf .post

def onPutIf : String → String → Registration m → Change DeployError (Routes m) Unit := onIf .put

def onDeleteIf : String → String → Registration m → Change DeployError (Routes m) Unit :=
  onIf .delete

/-- Register a route for the method of a name, whatever its case. -/
def onRequest (method path : String) (expression : Option String)
    (registration : Registration m) : Change DeployError (Routes m) Unit :=
  match Method.ofName? (Text.trim method).toUpper with
  | some upper => register upper path expression registration
  | none => throw (.invalidMethod method)

/-- Name a specifier. The last registration of a name holds. -/
def addAlias (name specifier : String) : Change DeployError (Routes m) Unit := do
  let name := Text.trim name
  if name.isEmpty || name.toList.contains ':' then throw (.invalidAlias name)
  let specifier ← MonadExcept.ofExcept ((Specifier.parse specifier).mapError .invalidSpecifier)
  modify fun routes => { routes with aliases := routes.aliases.insert name specifier }

/-- What may be offered to routes: a path for a verb, with or without a condition, or for any method
by its name, and a name for a specifier. -/
inductive Offer (m : Type → Type) where
  | on (verb : Verb) (path : String) (registration : Registration m)
  | onIf (verb : Verb) (path expression : String) (registration : Registration m)
  | onRequest (method path : String) (expression : Option String) (registration : Registration m)
  | define (name specifier : String)

def Offer.change : Offer m → Change DeployError (Routes m) Unit
  | .on verb path registration => Routes.on verb path registration
  | .onIf verb path expression registration => Routes.onIf verb path expression registration
  | .onRequest method path expression registration =>
    Routes.onRequest method path expression registration
  | .define name specifier => addAlias name specifier

def addAliases : List (String × String) → Change DeployError (Routes m) Unit
  | [] => pure ()
  | (name, specifier) :: aliases => do
    addAlias name specifier
    addAliases aliases

def specifierText : Specifier → String
  | .prefixed head suffix =>
    "Prefixed \x7b prefix: " ++ Text.quoted head ++ ", suffix: " ++ Text.quoted suffix ++ " \x7d"
  | .named name => "Alias(" ++ Text.quoted name ++ ")"

def text (routes : Routes m) : String :=
  let aliases := routes.aliases.entries.map fun (name, specifier) =>
    Text.quoted name ++ ": " ++ specifierText specifier
  "Routes \x7b routes: [" ++ ", ".intercalate (routes.routes.map Route.text) ++
    "], aliases: \x7b" ++ ", ".intercalate aliases ++ "\x7d \x7d"

/-- Add a compiled route to a table, under the printed form of its template. -/
def addRoute (registry : Registry) (aliases : Dictionary Specifier) (table : Table m)
    (route : Route m) : Logged DeployError (Table m) := do
  let compiled ← route.registration.compile registry aliases
  let condition := route.condition.map fun (_, predicate) => predicate.condition
  let add := Table.add route.method route.template.text condition compiled.handle
  Logged.lift ((add.result table).mapError .invalidTemplate)

def compile (routes : Routes m) (registry : Registry) (fallback : Handler m) :
    Logged DeployError (Table m) :=
  routes.routes.foldlM (addRoute registry routes.aliases) (Table.withFallback fallback)

end Routes

end Switchboard
