import Mathlib.Data.List.Induction
import Switchboard.Deployment.Host
import Switchboard.Proofs.Template.Canonical

/-!
What a sequence of registration calls leaves behind. A call that is refused registers nothing; of
the others the routes stay in the order of the calls, and a name stands for what it was given last.
-/

namespace Switchboard

variable {m : Type → Type}

namespace Dictionary

variable {α : Type}

def insertAll (dictionary : Dictionary α) (entries : List (String × α)) : Dictionary α :=
  entries.foldl (fun dictionary (name, value) => dictionary.insert name value) dictionary

theorem get?_insertAll (dictionary : Dictionary α) (entries : List (String × α)) (name : String) :
    (dictionary.insertAll entries).get? name =
      (entries.reverse.lookup name).or (dictionary.get? name) := by
  induction entries using List.reverseRecOn with
  | nil => rfl
  | append_singleton entries entry ih =>
      obtain ⟨last, value⟩ := entry
      rw [insertAll] at ih ⊢
      rw [List.foldl_append, List.foldl_cons, List.foldl_nil, get?_insert, ih,
        List.reverse_append, List.reverse_singleton, List.singleton_append, lookup_cons_eq_if]
      split <;> rfl

theorem get?_ofList (entries : List (String × α)) (name : String) :
    (ofList entries).get? name = entries.reverse.lookup name := by
  exact (get?_insertAll .empty entries name).trans (Option.or_none)

end Dictionary

namespace Change

variable {ε δ σ α β : Type}

theorem ok_of_bind {change : Change ε σ α} {next : α → Change ε σ β} {state left : σ} {value : β}
    (ran : (change >>= next).run state = .ok value left) :
    ∃ made middle, change.run state = .ok made middle ∧
      (next made).run middle = .ok value left := by
  replace ran : EStateM.bind change next state = .ok value left := ran
  unfold EStateM.bind at ran
  split at ran
  next made middle first => exact ⟨made, middle, first, ran⟩
  next => cases ran

theorem ok_of_adaptExcept {transform : ε → δ} {change : Change ε σ α} {state left : σ} {value : α}
    (ran : (EStateM.adaptExcept transform change : Change δ σ α).run state = .ok value left) :
    change.run state = .ok value left := by
  replace ran : EStateM.adaptExcept transform change state = .ok value left := ran
  unfold EStateM.adaptExcept at ran
  split at ran
  next => cases ran
  next found =>
    cases ran
    exact found

theorem ok_of_result {change : Change ε σ Unit} {state left : σ}
    (found : change.result state = .ok left) : change.run state = .ok () left := by
  unfold result at found
  split at found
  next ran =>
    cases found
    exact ran
  next => cases found

end Change

namespace Routes

inductive Call (m : Type → Type) where
  | route (method : Method) (path : String) (expression : Option String)
      (registration : Registration m)
  | request (method path : String) (expression : Option String) (registration : Registration m)
  | define (name specifier : String)

def route? (method : Method) (path : String) (expression : Option String)
    (registration : Registration m) : Option (Route m) :=
  match Template.parse path, condition? expression with
  | .ok template, .ok condition => some { method, template, condition, registration }
  | _, _ => none

def alias? (name specifier : String) : Option (String × Specifier) :=
  let trimmed := Text.trim name
  if trimmed.isEmpty || trimmed.toList.contains ':' then none
  else
    match Specifier.parse specifier with
    | .ok specifier => some (trimmed, specifier)
    | .error _ => none

namespace Call

def change : Call m → Change DeployError (Routes m) Unit
  | .route method path expression registration => register method path expression registration
  | .request method path expression registration => onRequest method path expression registration
  | .define name specifier => addAlias name specifier

def added? : Call m → Option (Route m)
  | .route method path expression registration => route? method path expression registration
  | .request method path expression registration =>
    (Method.ofName? (Text.trim method).toUpper).bind fun upper =>
      route? upper path expression registration
  | .define .. => none

def named? : Call m → Option (String × Specifier)
  | .define name specifier => alias? name specifier
  | _ => none

end Call

theorem after_register (method : Method) (path : String) (expression : Option String)
    (registration : Registration m) (routes : Routes m) :
    (register method path expression registration).after routes =
      { routes with routes := routes.routes ++
        (route? method path expression registration).toList } := by
  unfold register route?
  cases parsed : Template.parse path with
  | error error =>
      rw [Option.toList_none, List.append_nil]
      rfl
  | ok template =>
      cases read : condition? expression with
      | error error =>
          rw [Option.toList_none, List.append_nil]
          rfl
      | ok condition => rfl

theorem after_addAlias (name specifier : String) (routes : Routes m) :
    (addAlias name specifier).after routes =
      { routes with aliases := routes.aliases.insertAll (alias? name specifier).toList } := by
  unfold addAlias alias?
  by_cases refused : ((Text.trim name).isEmpty || (Text.trim name).toList.contains ':') = true
  · simp only [refused, if_true]
    rfl
  · simp only [refused]
    cases parsed : Specifier.parse specifier with
    | error error => rfl
    | ok specifier => rfl

theorem after_change (call : Call m) (routes : Routes m) :
    call.change.after routes =
      ⟨routes.routes ++ call.added?.toList, routes.aliases.insertAll call.named?.toList⟩ := by
  cases call with
  | route method path expression registration =>
      exact after_register method path expression registration routes
  | request method path expression registration =>
      simp only [Call.change, Call.added?, onRequest]
      cases Method.ofName? (Text.trim method).toUpper with
      | none =>
          rw [Option.bind_none, Option.toList_none, List.append_nil]
          rfl
      | some upper => exact after_register upper path expression registration routes
  | define name specifier =>
      rw [Call.change, after_addAlias, Call.added?, Option.toList_none, List.append_nil,
        Call.named?]

def build (calls : List (Call m)) : Routes m :=
  calls.foldl (fun routes call => call.change.after routes) .empty

def registered (calls : List (Call m)) : List (Route m) := calls.filterMap Call.added?

def named (calls : List (Call m)) : List (String × Specifier) := calls.filterMap Call.named?

def lastNamed (calls : List (Call m)) (name : String) : Option Specifier :=
  (named calls).reverse.lookup name

theorem build_append_singleton (calls : List (Call m)) (call : Call m) :
    build (calls ++ [call]) = call.change.after (build calls) := by
  simp [build]

theorem build_eq (calls : List (Call m)) :
    build calls = ⟨registered calls, .ofList (named calls)⟩ := by
  induction calls using List.reverseRecOn with
  | nil => rfl
  | append_singleton calls call ih =>
      rw [build_append_singleton, ih, after_change]
      simp only [registered, named, Dictionary.ofList, List.filterMap_append,
        List.filterMap_cons, List.filterMap_nil, List.foldl_append]
      cases call.added? <;> cases call.named? <;> simp [Dictionary.insertAll]

theorem routes_build (calls : List (Call m)) : (build calls).routes = registered calls := by
  rw [build_eq]

theorem get?_aliases_build (calls : List (Call m)) :
    (build calls).aliases.get? = lastNamed calls := by
  funext name
  rw [build_eq]
  exact Dictionary.get?_ofList (named calls) name

theorem run_addAliases_ok {entries : List (String × String)} {routes left : Routes m}
    (ran : (addAliases entries).run routes = .ok () left) :
    left = (entries.map fun (name, specifier) => Call.define name specifier).foldl
      (fun routes call => call.change.after routes) routes := by
  induction entries generalizing routes with
  | nil =>
      cases ran
      rfl
  | cons entry entries ih =>
      obtain ⟨name, specifier⟩ := entry
      obtain ⟨⟨⟩, next, first, later⟩ := Change.ok_of_bind ran
      have same : (addAlias name specifier).after routes = next := by rw [Change.after, first]
      rw [List.map_cons, List.foldl_cons, Call.change, same]
      exact ih later

theorem parse_template_of_route? {method : Method} {path : String} {expression : Option String}
    {registration : Registration m} {route : Route m}
    (added : route? method path expression registration = some route) :
    Template.parse route.template.text = .ok route.template := by
  unfold route? at added
  split at added
  next template condition parsed _ =>
    obtain rfl := Option.some.inj added
    exact Template.parse_text parsed
  next => cases added

theorem parse_template_of_mem_registered {calls : List (Call m)} {route : Route m}
    (member : route ∈ registered calls) :
    Template.parse route.template.text = .ok route.template := by
  obtain ⟨call, -, added⟩ := List.mem_filterMap.mp member
  cases call with
  | route => exact parse_template_of_route? added
  | request =>
      obtain ⟨upper, -, added⟩ := Option.bind_eq_some_iff.mp added
      exact parse_template_of_route? added
  | define => cases added

end Routes

end Switchboard
