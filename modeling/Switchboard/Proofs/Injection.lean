import Switchboard.Proofs.Compilation
import Switchboard.Proofs.Dispatch
import Switchboard.Text.Reading

/-!
The values that a handler is given. Each is what its specifier denotes when all aliases are in
place, those of the settings last; in which order routes and aliases were registered does not count.
-/

namespace Switchboard

variable {m : Type → Type}

/-- A specifier is split at the first colon of what is left without white space around it. -/
inductive Specifier.Reads (text : String) : Specifier → Prop
  | prefixed {head suffix : List Char} : Text.trimmed text.toList = head ++ ':' :: suffix →
      head ≠ [] → ':' ∉ head → Reads text (.prefixed (String.ofList head) (String.ofList suffix))
  | named {name : List Char} : Text.trimmed text.toList = name → name ≠ [] → ':' ∉ name →
      Reads text (.named (String.ofList name))

namespace Specifier

theorem span_colon_iff {text head rest : List Char} :
    text.takeWhile (· ≠ ':') = head ∧ text.dropWhile (· ≠ ':') = rest ↔
      text = head ++ rest ∧ ':' ∉ head ∧ ∀ c ∈ rest.head?, c = ':' := by
  rw [Text.span_iff]
  have colonless : (∀ c ∈ head, decide (c ≠ ':') = true) ↔ ':' ∉ head := by
    simp only [decide_eq_true_eq]
    exact ⟨fun all member => all ':' member rfl, fun fresh c member same => fresh (same ▸ member)⟩
  rw [colonless]
  simp

theorem ofText_eq_ok_iff {text : String} {specifier : Specifier} :
    ofText text.toList = .ok specifier ↔ Reads text specifier := by
  constructor
  · intro read
    obtain ⟨whole, colonless, stops⟩ :=
      span_colon_iff.mp ⟨rfl, show (Text.trimmed text.toList).dropWhile (· ≠ ':') = _ from rfl⟩
    unfold ofText at read
    simp only at read
    split at read
    next ended =>
      split at read
      next => cases read
      next nonempty =>
        cases read
        rw [ended, List.append_nil] at whole
        exact .named whole (by simpa using nonempty) colonless
    next c suffix later =>
      split at read
      next => cases read
      next nonempty =>
        cases read
        rw [later] at whole stops
        obtain rfl : c = ':' := stops c rfl
        exact .prefixed whole (by simpa using nonempty) colonless
  · rintro (⟨whole, nonempty, colonless⟩ | ⟨whole, nonempty, colonless⟩)
    · obtain ⟨front, back⟩ := span_colon_iff.mpr ⟨whole, colonless, by simp⟩
      simp only [ofText, front, back]
      rw [if_neg (by simpa using nonempty)]
    · obtain ⟨front, back⟩ := span_colon_iff.mpr
        ⟨whole.trans (List.append_nil _).symm, colonless, by simp⟩
      simp only [ofText, front, back]
      rw [if_neg (by simpa using nonempty)]

theorem parse_eq_ok_iff {text : String} {specifier : Specifier} :
    parse text = .ok specifier ↔ Reads text specifier := by
  rw [← ofText_eq_ok_iff, parse]
  cases ofText text.toList <;> simp

end Specifier

def Target.value (registry : Registry) (exchange : Exchange) : Target → Option Injected
  | .unknownAlias _ => none
  | .prefixed head suffix =>
    if head = Specifier.entityHead then
      (registry.parsers.get? suffix).bind fun parser => parser exchange
    else (registry.providers.get? head).bind fun provider => provider suffix

theorem Registry.resolve_resolverOf (registry : Registry) (target : Target) (exchange : Exchange) :
    (registry.resolverOf target).resolve exchange = target.value registry exchange := by
  cases target with
  | unknownAlias name => rfl
  | prefixed head suffix =>
      simp only [resolverOf, Target.value]
      split
      next => cases registry.parsers.get? suffix <;> rfl
      next => cases registry.providers.get? head <;> rfl

/-- The value of a specifier, which is absent where nothing is found. -/
inductive Denotes (registry : Registry) (table : String → Option Specifier) (exchange : Exchange)
    (text : String) : Option Injected → Prop
  | target {specifier : Specifier} {target : Target} : specifier.Reads text →
      Ends table specifier target →
      Denotes registry table exchange text (target.value registry exchange)

theorem Specifier.Reads.unique {text : String} {specifier other : Specifier}
    (reads : specifier.Reads text) (same : other.Reads text) : other = specifier := by
  rw [← Specifier.parse_eq_ok_iff] at reads same
  exact Except.ok.inj (same.symm.trans reads)

theorem Denotes.unique {registry : Registry} {table : String → Option Specifier}
    {exchange : Exchange} {text : String} {value other : Option Injected}
    (denotes : Denotes registry table exchange text value)
    (same : Denotes registry table exchange text other) : other = value := by
  obtain ⟨reads, ends⟩ := denotes
  obtain ⟨otherReads, otherEnds⟩ := same
  obtain rfl := reads.unique otherReads
  rw [ends.unique otherEnds]

theorem Resolves.denotes {registry : Registry} {table : String → Option Specifier} {text : String}
    {resolver : Resolver} (resolves : Resolves registry table text resolver)
    (exchange : Exchange) : Denotes registry table exchange text (resolver.resolve exchange) := by
  obtain ⟨specifier, target, parsed, ends, rfl⟩ := resolves
  rw [Registry.resolve_resolverOf]
  exact .target (Specifier.parse_eq_ok_iff.mp parsed) ends

theorem Registration.Compiles.handle {registry : Registry} {table : String → Option Specifier}
    {registration : Registration m} {compiled : CompiledHandler m}
    (compiles : registration.Compiles registry table compiled) (exchange : Exchange) :
    ∃ values, List.Forall₂ (Denotes registry table exchange) registration.specifiers values ∧
      compiled.handle exchange = registration.handler exchange ⟨values⟩ := by
  refine ⟨compiled.resolvers.map (·.resolve exchange), ?_, ?_⟩
  · rw [List.forall₂_map_right_iff]
    exact compiles.resolvers.imp fun _ _ resolves => resolves.denotes exchange
  · rw [CompiledHandler.handle, compiles.handler]

/-- How a selected route serves: its handler runs once, on the exchange with the captures merged and
on the values that the specifiers denote for it. -/
structure Route.Injects (registry : Registry) (table : String → Option Specifier)
    (exchange received : Exchange) (route : Route m) (served : m Handled) : Prop where
  captured : ∃ captures, route.template.captures? exchange.path = some captures ∧
    received = exchange.addParameters captures ∧ Receives exchange captures received
  injected : ∃ values,
    List.Forall₂ (Denotes registry table received) route.registration.specifiers values ∧
      served = route.registration.handler received ⟨values⟩

namespace Routes

variable {calls : List (Call m)} {registry : Registry} {fallback : Handler m} {table : Table m}

theorem injects_of_compile
    (compiled : ((build calls).compile registry fallback).result = .ok table)
    {exchange received : Exchange} {entry : Entry m}
    (selected : table.select exchange = some (entry, received)) :
    ∃ (index : Nat) (route : Route m),
      table.entries[index]? = some entry ∧ (registered calls)[index]? = some route ∧
      route.Injects registry (lastNamed calls) exchange received (table.handle exchange) := by
  obtain ⟨handlers, compiles, rfl⟩ := compile_build_eq_ok_iff.mp compiled
  obtain ⟨leader, captures, -, captured, fits, rfl⟩ := Table.select_eq_some selected
  obtain ⟨index, found⟩ := List.getElem?_of_mem (List.mem_of_mem_filter fits.mem)
  obtain ⟨route, handler, routeFound, handlerFound, rfl⟩ :=
    List.getElem?_zipWith_eq_some.mp found
  have same : route.template = leader.template := fits.holds.1
  have pair : route.registration.Compiles registry (lastNamed calls) handler := by
    apply (List.forall₂_iff_zip.mp compiles).2
    exact List.mem_of_getElem? (List.getElem?_zip_eq_some.mpr ⟨routeFound, handlerFound⟩)
  have merged := exchange.receives_addParameters captures
  refine ⟨index, route, found, routeFound, ⟨captures, same ▸ captured, rfl, merged⟩, ?_⟩
  obtain ⟨values, denote, handled⟩ := pair.handle (exchange.addParameters captures)
  refine ⟨values, denote, ?_⟩
  rw [Table.handle, selected]
  exact handled

theorem result_compile_build_congr {calls other : List (Call m)}
    (routes : registered other = registered calls) (names : lastNamed other = lastNamed calls) :
    ((build other).compile registry fallback).result =
      ((build calls).compile registry fallback).result := by
  have aliases : (build other).aliases.get? = (build calls).aliases.get? := by
    rw [get?_aliases_build, get?_aliases_build, names]
  have same : registry.compile (build other).aliases = registry.compile (build calls).aliases := by
    funext text
    simp only [Registry.compile, Registry.resolveLogged, Registry.resolver, follow_congr aliases]
  simp only [compile_build_eq, routes, Registration.compile, same]

end Routes

def Settings.definitions (settings : Settings) : List (Routes.Call m) :=
  settings.aliases.entries.map fun (name, specifier) => .define name specifier

theorem Routes.registered_append_definitions (calls : List (Call m)) (settings : Settings) :
    registered (calls ++ settings.definitions) = registered calls := by
  have none : registered settings.definitions = ([] : List (Route m)) := by
    simp [registered, Settings.definitions, List.filterMap_map, Call.added?, Function.comp_def]
  rw [registered] at none ⊢
  rw [List.filterMap_append, none, List.append_nil, registered]

namespace Host

variable {host : Host m} {settings : Settings} {calls : List (Routes.Call m)}

theorem declare_eq_build {routes : Routes m}
    (planned : (host.plan settings).run .empty = .ok () (Routes.build calls))
    (declared : host.declare settings = .ok routes) :
    routes = Routes.build (calls ++ settings.definitions) := by
  obtain ⟨⟨⟩, middle, first, later⟩ := Change.ok_of_bind (Change.ok_of_result declared)
  obtain ⟨-, rfl⟩ := EStateM.Result.ok.inj (planned.symm.trans first)
  exact (Routes.run_addAliases_ok (Change.ok_of_adaptExcept later)).trans List.foldl_append.symm

theorem result_compile_of_declare {routes : Routes m}
    (declared : host.declare settings = .ok routes) :
    (host.compile settings).result =
      (routes.compile host.registry host.fallback).result.mapError .rejected := by
  rw [compile, declared, Logged.result_bind]
  rfl

theorem declare_of_compile {table : Table m}
    (compiled : (host.compile settings).result = .ok table) :
    ∃ routes, host.declare settings = .ok routes ∧
      (routes.compile host.registry host.fallback).result = .ok table := by
  obtain ⟨routes, declared, worked, -⟩ := Logged.ok_of_bind compiled
  exact ⟨routes, declared, Logged.mapError_eq_ok_iff.mp worked⟩

/-- Every handler is called with what its specifiers denote when all aliases are in place. Plans
that differ only in when and where the aliases were given compile to the same table. -/
theorem compile_injects {host : Host m} {settings : Settings} {calls : List (Routes.Call m)}
    {table : Table m}
    (planned : (host.plan settings).run .empty = .ok () (Routes.build calls))
    (compiled : (host.compile settings).result = .ok table) :
    let names := Routes.lastNamed (calls ++ settings.definitions)
    (∀ exchange entry received, table.select exchange = some (entry, received) →
      ∃ (index : Nat) (route : Route m),
        table.entries[index]? = some entry ∧ (Routes.registered calls)[index]? = some route ∧
        route.Injects host.registry names exchange received (table.handle exchange)) ∧
    ∀ (other : Host m) (changed : Settings) (reordered : List (Routes.Call m)),
      other.registry = host.registry → other.fallback = host.fallback →
      (other.plan changed).run .empty = .ok () (Routes.build reordered) →
      (∃ routes, other.declare changed = .ok routes) →
      Routes.registered reordered = Routes.registered calls →
      Routes.lastNamed (reordered ++ changed.definitions) = names →
      (other.compile changed).result = .ok table := by
  intro names
  obtain ⟨routes, declared, worked⟩ := declare_of_compile compiled
  obtain rfl := declare_eq_build planned declared
  refine ⟨?_, ?_⟩
  · intro exchange entry received selected
    rw [← Routes.registered_append_definitions calls settings]
    exact Routes.injects_of_compile worked selected
  · intro other changed reordered registry fallback otherPlanned ⟨left, otherDeclared⟩ same named
    obtain rfl := declare_eq_build otherPlanned otherDeclared
    have routes : Routes.registered (reordered ++ changed.definitions) =
        Routes.registered (calls ++ settings.definitions) := by
      rw [Routes.registered_append_definitions, Routes.registered_append_definitions, same]
    rw [result_compile_of_declare otherDeclared, registry, fallback,
      Routes.result_compile_build_congr routes named, worked]
    rfl

def keyValues : Provider := Provider.fixed [("a", .string "A"), ("b", .string "B")]

def keyedRoute : Route Id where
  method := .get
  template := ⟨[], false⟩
  condition := none
  registration := .injected ["db"] fun exchange _ => pure ⟨exchange, .succeeded⟩

def keyedHost : Host Id where
  registry := { Registry.initial with providers := .ofList [("kv", keyValues)] }
  fallback := Handler.notFound
  plan := fun _ => EStateM.adaptExcept .rejected do
    Routes.register .get "/" none keyedRoute.registration
    Routes.addAlias "db" "kv:a"
  table := .initial
  generation := 0
  metrics := .initial

def keyedCalls : List (Routes.Call Id) :=
  [.route .get "/" none keyedRoute.registration, .define "db" "kv:a"]

def overriding : Settings := { Settings.default with aliases := .ofList [(" db ", "kv:b")] }

def keyedNames : String → Option Specifier :=
  Routes.lastNamed (keyedCalls ++ overriding.definitions)

theorem registered_keyedCalls :
    Routes.registered (keyedCalls ++ overriding.definitions) = [keyedRoute] := rfl

theorem keyed_ends : Ends keyedNames (.named "db") (.prefixed "kv" "b") :=
  .next (by decide) (.prefixed "kv" "b")

def keyedTable : Table Id :=
  ⟨[keyedRoute.entry ⟨[.provider keyValues "b"], keyedRoute.registration.handler⟩],
    Handler.notFound⟩

def keyedRequest : Exchange := .ofRequest ⟨.get, ⟨none, none, "/", none⟩, .empty, []⟩

theorem keyed_compiles : (keyedHost.compile overriding).result = .ok keyedTable := by
  have resolves : Resolves keyedHost.registry keyedNames "db" (.provider keyValues "b") :=
    ⟨.named "db", .prefixed "kv" "b", rfl, keyed_ends, rfl⟩
  have compiles : List.Forall₂
      (fun route => route.registration.Compiles keyedHost.registry keyedNames)
      [keyedRoute] [⟨[.provider keyValues "b"], keyedRoute.registration.handler⟩] :=
    .cons ⟨.cons resolves .nil, rfl⟩ .nil
  have declared : keyedHost.declare overriding =
      .ok (Routes.build (keyedCalls ++ overriding.definitions)) := rfl
  rw [← registered_keyedCalls] at compiles
  rw [result_compile_of_declare declared, Routes.compile_build_eq_ok_iff.mpr ⟨_, compiles, rfl⟩]
  rfl

/-- The alias of the settings counts, not the one of the plan. -/
theorem compile_injects_overridden :
    ∃ received, keyedTable.handle keyedRequest =
      keyedRoute.registration.handler received ⟨[some (.string "B")]⟩ := by
  have planned : (keyedHost.plan overriding).run .empty = .ok () (Routes.build keyedCalls) := rfl
  obtain ⟨index, route, -, found, -, values, denote, handled⟩ :=
    (compile_injects planned keyed_compiles).1 keyedRequest _ (keyedRequest.addParameters []) rfl
  obtain rfl : route = keyedRoute := List.mem_singleton.mp (List.mem_of_getElem? found)
  have denotes : Denotes keyedHost.registry keyedNames (keyedRequest.addParameters []) "db"
      (some (.string "B")) := .target (Specifier.parse_eq_ok_iff.mp rfl) keyed_ends
  obtain ⟨value, _, first, none, rfl⟩ := List.forall₂_cons_left_iff.mp denote
  rw [denotes.unique first, List.forall₂_nil_left_iff.mp none] at handled
  exact ⟨_, handled⟩

end Host

end Switchboard
