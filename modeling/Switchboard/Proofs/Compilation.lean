import Mathlib.Data.List.Forall2
import Switchboard.Proofs.Injection.Aliases
import Switchboard.Proofs.Registration
import Switchboard.Proofs.Selection

/-!
Compiling what was registered. It fails at the first specifier that cannot be read or leads into a
cycle of aliases, and at nothing else. Otherwise every route becomes an entry, in the same order,
and the log tells of each value that will be absent.
-/

namespace Switchboard

variable {m : Type → Type} {ε α β : Type}

theorem mapM_eq_ok_iff {transform : α → Except ε β} {list : List α} {all : List β} :
    list.mapM transform = .ok all ↔ List.Forall₂ (fun a b => transform a = .ok b) list all := by
  induction list generalizing all with
  | nil =>
      rw [List.forall₂_nil_left_iff, List.mapM_nil]
      exact ⟨fun same => (Except.ok.inj same).symm, fun same => same ▸ rfl⟩
  | cons value list ih =>
      rw [List.mapM_cons, List.forall₂_cons_left_iff]
      simp only [← ih]
      cases transform value with
      | error error => simp [bind, Except.bind]
      | ok made =>
          cases list.mapM transform with
          | error error => simp [bind, Except.bind]
          | ok rest => simp [bind, Except.bind, pure, Except.pure, eq_comm]

theorem mapM_eq_error_iff {transform : α → Except ε β} {list : List α} {error : ε} :
    list.mapM transform = .error error ↔
      ∃ value, First (fun other => ∃ error, transform other = .error error) list value ∧
        transform value = .error error := by
  induction list with
  | nil => simp [First, pure, Except.pure]
  | cons value list ih =>
      rw [List.mapM_cons]
      simp only [First.cons_iff]
      cases found : transform value with
      | error other => simp [bind, Except.bind, found]
      | ok made =>
          have passed : (do let rest ← list.mapM transform; pure (made :: rest)) = .error error ↔
              list.mapM transform = .error error := by
            cases list.mapM transform <;> simp [bind, Except.bind, pure, Except.pure]
          change (do let rest ← list.mapM transform; pure (made :: rest)) = .error error ↔ _
          rw [passed, ih]
          simp

/-! One specifier -/

inductive Fault (table : String → Option Specifier) (text : String) : DeployError → Prop
  | unread {error : SpecifierError} :
      Specifier.parse text = .error error → Fault table text (.invalidSpecifier error)
  | cyclic {start : String} {chain : List String} : Specifier.parse text = .ok (.named start) →
      Returns table start chain → Fault table text (.aliasCycle ⟨chain⟩)

inductive Faulty (table : String → Option Specifier) (text : String) : Prop
  | unread {error : SpecifierError} : Specifier.parse text = .error error → Faulty table text
  | cyclic {start : String} :
      Specifier.parse text = .ok (.named start) → LeadsIntoCycle table start → Faulty table text

theorem faulty_iff {aliases : Dictionary Specifier} {text : String} :
    Faulty aliases.get? text ↔ ∃ error, Fault aliases.get? text error := by
  constructor
  · intro faulty
    cases faulty with
    | unread parsed => exact ⟨_, .unread parsed⟩
    | cyclic parsed leads =>
        obtain ⟨chain, returns⟩ := exists_returns_iff.mpr leads
        exact ⟨_, .cyclic parsed returns⟩
  · rintro ⟨error, fault⟩
    cases fault with
    | unread parsed => exact .unread parsed
    | cyclic parsed returns => exact .cyclic parsed returns.leadsIntoCycle

theorem exists_first_fault_iff {aliases : Dictionary Specifier} {texts : List String} :
    (∃ error text, First (Faulty aliases.get?) texts text ∧ Fault aliases.get? text error) ↔
      ∃ text ∈ texts, Faulty aliases.get? text := by
  constructor
  · rintro ⟨error, text, first, -⟩
    exact ⟨text, first.mem, first.holds⟩
  · rintro ⟨text, member, faulty⟩
    obtain ⟨earliest, first⟩ := First.exists_of_mem member faulty
    obtain ⟨error, fault⟩ := faulty_iff.mp first.holds
    exact ⟨error, earliest, first, fault⟩

def Resolves (registry : Registry) (table : String → Option Specifier) (text : String)
    (resolver : Resolver) : Prop :=
  ∃ specifier target, Specifier.parse text = .ok specifier ∧ Ends table specifier target ∧
    resolver = registry.resolverOf target

namespace Registry

variable {registry : Registry} {aliases : Dictionary Specifier}

theorem resolver_eq_ok_iff {specifier : Specifier} {resolver : Resolver} :
    registry.resolver aliases specifier = .ok resolver ↔
      ∃ target, Ends aliases.get? specifier target ∧ resolver = registry.resolverOf target := by
  simp only [← follow_eq_ok_iff, Registry.resolver]
  cases follow aliases [] specifier <;> simp [Except.map, eq_comm]

theorem resolver_eq_error_iff {specifier : Specifier} {cycle : AliasCycle} :
    registry.resolver aliases specifier = .error cycle ↔
      ∃ start, specifier = .named start ∧ Returns aliases.get? start cycle.chain := by
  rw [← follow_eq_error_iff, Registry.resolver]
  cases follow aliases [] specifier <;> simp [Except.map]

variable {text : String}

theorem result_compile {specifier : Specifier} (parsed : Specifier.parse text = .ok specifier) :
    (registry.compile aliases text).result =
      (registry.resolver aliases specifier).mapError .aliasCycle := by
  rw [compile, parsed, ← result_resolveLogged]
  rfl

theorem compile_eq_ok_iff {resolver : Resolver} :
    (registry.compile aliases text).result = .ok resolver ↔
      Resolves registry aliases.get? text resolver := by
  unfold Resolves
  cases parsed : Specifier.parse text with
  | error error => simp [compile, parsed, Logged.lift]
  | ok specifier =>
      have resolves := @resolver_eq_ok_iff registry aliases specifier resolver
      rw [result_compile parsed]
      cases found : registry.resolver aliases specifier with
      | error cycle => simpa [Except.mapError, found] using resolves
      | ok other => simpa [Except.mapError, found] using resolves

theorem compile_eq_error_iff {error : DeployError} :
    (registry.compile aliases text).result = .error error ↔ Fault aliases.get? text error := by
  constructor
  · intro failed
    cases parsed : Specifier.parse text with
    | error other =>
        rw [compile, parsed] at failed
        cases failed
        exact .unread parsed
    | ok specifier =>
        rw [result_compile parsed] at failed
        cases found : registry.resolver aliases specifier with
        | error cycle =>
            rw [found] at failed
            cases failed
            obtain ⟨start, rfl, returns⟩ := resolver_eq_error_iff.mp found
            exact .cyclic parsed returns
        | ok resolver =>
            rw [found] at failed
            cases failed
  · intro fault
    cases fault with
    | unread parsed =>
        rw [compile, parsed]
        rfl
    | @cyclic start chain parsed returns =>
        have found : registry.resolver aliases (.named start) = .error ⟨chain⟩ :=
          resolver_eq_error_iff.mpr ⟨start, rfl, returns⟩
        rw [result_compile parsed, found]
        rfl

theorem faulty_eq (registry : Registry) (aliases : Dictionary Specifier) :
    Faulty aliases.get? =
      fun text => ∃ error, (registry.compile aliases text).result = .error error := by
  funext text
  simp only [faulty_iff, compile_eq_error_iff]

theorem notices_compile {resolver : Resolver}
    (compiled : (registry.compile aliases text).result = .ok resolver) :
    (registry.compile aliases text).notices = resolver.notices := by
  cases parsed : Specifier.parse text with
  | error error =>
      rw [compile, parsed] at compiled
      cases compiled
  | ok specifier =>
      rw [compile, parsed] at compiled ⊢
      exact notices_resolveLogged (Logged.mapError_eq_ok_iff.mp compiled)

end Registry

/-! One registration -/

def Resolver.missing? : Resolver → Option Notice
  | .absent missing => some missing
  | _ => none

theorem Resolver.notices_eq (resolver : Resolver) :
    resolver.notices = resolver.missing?.toList := by
  cases resolver <;> rfl

/-- A resolver for every specifier, and the handler as it was registered. -/
structure Registration.Compiles (registry : Registry) (table : String → Option Specifier)
    (registration : Registration m) (compiled : CompiledHandler m) : Prop where
  resolvers : List.Forall₂ (Resolves registry table) registration.specifiers compiled.resolvers
  handler : compiled.handler = registration.handler

namespace Registration

variable {registry : Registry} {aliases : Dictionary Specifier} {registration : Registration m}
  {compiled : CompiledHandler m}

theorem compile_eq_map : registration.compile registry aliases =
    (⟨·, registration.handler⟩) <$> registration.specifiers.mapM (registry.compile aliases) := by
  rw [compile, bind_pure_comp]

theorem compile_eq_ok_iff :
    (registration.compile registry aliases).result = .ok compiled ↔
      registration.Compiles registry aliases.get? compiled := by
  rw [compile_eq_map, Logged.map_eq_ok_iff]
  simp only [Logged.result_mapM, mapM_eq_ok_iff, Registry.compile_eq_ok_iff]
  constructor
  · rintro ⟨resolvers, resolves, rfl⟩
    exact ⟨resolves, rfl⟩
  · rintro ⟨resolves, same⟩
    exact ⟨compiled.resolvers, resolves, by rw [← same]⟩

theorem compile_eq_error_iff {error : DeployError} :
    (registration.compile registry aliases).result = .error error ↔
      ∃ text, First (Faulty aliases.get?) registration.specifiers text ∧
        Fault aliases.get? text error := by
  rw [compile_eq_map, Logged.map_eq_error_iff, Logged.result_mapM, mapM_eq_error_iff,
    Registry.faulty_eq registry]
  simp only [Registry.compile_eq_error_iff]

theorem notices_compile (worked : (registration.compile registry aliases).result = .ok compiled) :
    (registration.compile registry aliases).notices =
      compiled.resolvers.filterMap Resolver.missing? := by
  have told : ∀ text resolver, (registry.compile aliases text).result = .ok resolver →
      (registry.compile aliases text).notices = resolver.missing?.toList := by
    intro text resolver made
    rw [Registry.notices_compile made, Resolver.notices_eq]
  rw [compile_eq_map] at worked ⊢
  obtain ⟨resolvers, made, rfl⟩ := Logged.map_eq_ok_iff.mp worked
  rw [Logged.notices_map, Logged.notices_mapM told made, List.filterMap_eq_flatMap_toList]

end Registration

/-! All routes -/

def Route.entry (route : Route m) (compiled : CompiledHandler m) : Entry m where
  method := route.method
  template := route.template
  condition := route.condition.map fun (_, predicate) => predicate.condition
  handler := compiled.handle

theorem Table.result_add {text : String} {template : Template}
    (read : Template.parse text = .ok template) (table : Table m) (method : Method)
    (condition : Option Condition) (handler : Handler m) :
    (Table.add method text condition handler).result table =
      .ok (table.insert { method, template, condition, handler }) := by
  simp only [Table.add, Change.result, read]
  rfl

namespace Routes

variable {registry : Registry} {aliases : Dictionary Specifier}

theorem addRoute_eq (table : Table m) {route : Route m}
    (reread : Template.parse route.template.text = .ok route.template) :
    addRoute registry aliases table route =
      (fun compiled => table.insert (route.entry compiled)) <$>
        route.registration.compile registry aliases := by
  rw [addRoute, ← bind_pure_comp]
  congr 1
  funext compiled
  simp only [Table.result_add reread]
  rfl

theorem foldlM_addRoute (table : Table m) {routes : List (Route m)}
    (reread : ∀ route ∈ routes, Template.parse route.template.text = .ok route.template) :
    routes.foldlM (addRoute registry aliases) table =
      (fun handlers => { table with
        entries := table.entries ++ List.zipWith Route.entry routes handlers }) <$>
          routes.mapM fun route => route.registration.compile registry aliases := by
  induction routes generalizing table with
  | nil => simp
  | cons route routes ih =>
      have later : ∀ other ∈ routes, Template.parse other.template.text = .ok other.template :=
        fun other member => reread other (by simp [member])
      rw [List.foldlM_cons, addRoute_eq table (reread route (by simp)), List.mapM_cons,
        bind_map_left]
      simp only [ih _ later, map_bind, bind_pure_comp, Functor.map_map, Table.insert,
        List.append_assoc, List.singleton_append, List.zipWith_cons_cons]

theorem compile_build_eq (calls : List (Call m)) (registry : Registry) (fallback : Handler m) :
    (build calls).compile registry fallback =
      (fun handlers => ⟨List.zipWith Route.entry (registered calls) handlers, fallback⟩) <$>
        (registered calls).mapM fun route =>
          route.registration.compile registry (build calls).aliases := by
  rw [compile, routes_build]
  exact foldlM_addRoute _ fun _ => parse_template_of_mem_registered

variable {calls : List (Call m)} {fallback : Handler m}

theorem compile_build_eq_ok_iff {table : Table m} :
    ((build calls).compile registry fallback).result = .ok table ↔
      ∃ handlers, List.Forall₂ (fun route => route.registration.Compiles registry (lastNamed calls))
          (registered calls) handlers ∧
        ⟨List.zipWith Route.entry (registered calls) handlers, fallback⟩ = table := by
  rw [compile_build_eq, Logged.map_eq_ok_iff]
  simp only [Logged.result_mapM, mapM_eq_ok_iff, Registration.compile_eq_ok_iff, get?_aliases_build]

theorem compile_build_eq_error_iff {error : DeployError} :
    ((build calls).compile registry fallback).result = .error error ↔
      ∃ text, First (Faulty (lastNamed calls))
          ((registered calls).flatMap (·.registration.specifiers)) text ∧
        Fault (lastNamed calls) text error := by
  rw [compile_build_eq, Logged.map_eq_error_iff, Logged.result_mapM, mapM_eq_error_iff]
  simp only [Registration.compile_eq_error_iff, exists_first_fault_iff]
  simp only [get?_aliases_build, First.flatMap_iff]
  constructor
  · rintro ⟨route, first, text, inside, fault⟩
    exact ⟨text, ⟨route, first, inside⟩, fault⟩
  · rintro ⟨text, ⟨route, first, inside⟩, fault⟩
    exact ⟨route, first, text, inside, fault⟩

theorem notices_compile_build {handlers : List (CompiledHandler m)}
    (compiles : List.Forall₂ (fun route => route.registration.Compiles registry (lastNamed calls))
      (registered calls) handlers) :
    ((build calls).compile registry fallback).notices =
      (handlers.flatMap (·.resolvers)).filterMap Resolver.missing? := by
  have made : ((registered calls).mapM fun route : Route m =>
      route.registration.compile registry (build calls).aliases).result = .ok handlers := by
    simpa only [Logged.result_mapM, mapM_eq_ok_iff, Registration.compile_eq_ok_iff,
      get?_aliases_build] using compiles
  rw [compile_build_eq, Logged.notices_map,
    Logged.notices_mapM (fun _ _ => Registration.notices_compile) made, List.filterMap_flatMap]

theorem forall₂_entries {table : String → Option Specifier} {routes : List (Route m)}
    {handlers : List (CompiledHandler m)}
    (compiles : List.Forall₂ (fun route => route.registration.Compiles registry table)
      routes handlers) :
    List.Forall₂ (fun route entry => ∃ compiled,
        route.registration.Compiles registry table compiled ∧ entry = route.entry compiled)
      routes (List.zipWith Route.entry routes handlers) := by
  induction compiles with
  | nil => exact .nil
  | cons front _ ih => exact .cons ⟨_, front, rfl⟩ ih

/-- Whether compiling succeeds, and what comes of it, is read off the calls. -/
theorem compile_build (calls : List (Call m)) (registry : Registry) (fallback : Handler m) :
    let routes := registered calls
    let texts := routes.flatMap (·.registration.specifiers)
    let names := lastNamed calls
    let compiled := (build calls).compile registry fallback
    (build calls).routes = routes ∧
    (∀ error, compiled.result = .error error ↔
      ∃ text, First (Faulty names) texts text ∧ Fault names text error) ∧
    ((∃ error, compiled.result = .error error) ↔ ∃ text ∈ texts, Faulty names text) ∧
    ∀ table, compiled.result = .ok table →
      table.fallback = fallback ∧ table.routeCount = (build calls).size ∧
      (∀ method, List.Forall₂ (fun route entry => ∃ handler,
          route.registration.Compiles registry names handler ∧ entry = route.entry handler)
        (routes.filter (·.method = method)) (table.forMethod method)) ∧
      ∃ handlers, List.Forall₂ (fun route => route.registration.Compiles registry names)
          routes handlers ∧
        table.entries = List.zipWith Route.entry routes handlers ∧
        compiled.notices = (handlers.flatMap (·.resolvers)).filterMap Resolver.missing? := by
  intro routes texts names compiled
  have failing : ∀ error, compiled.result = .error error ↔
      ∃ text, First (Faulty names) texts text ∧ Fault names text error :=
    fun _ => compile_build_eq_error_iff
  refine ⟨routes_build calls, failing, ?_, ?_⟩
  · simp only [failing, names, ← get?_aliases_build]
    exact exists_first_fault_iff
  · intro table worked
    obtain ⟨handlers, compiles, rfl⟩ := compile_build_eq_ok_iff.mp worked
    refine ⟨rfl, ?_, ?_, handlers, compiles, rfl, notices_compile_build compiles⟩
    · simp [Table.routeCount, size, routes_build, compiles.length_eq]
    · intro method
      refine List.rel_filter ?_ (forall₂_entries compiles)
      rintro route _ ⟨handler, -, rfl⟩
      rfl

end Routes

end Switchboard
