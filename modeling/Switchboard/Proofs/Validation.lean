import Switchboard.Deployment.Reload
import Switchboard.Proofs.Dictionary
import Switchboard.Proofs.Injection
import Switchboard.Proofs.Text.Casing
import Switchboard.Proofs.Text.Trimming

/-!
Validation against deployment. The two check aliases apart, one a name as it is and one a name that
it trimmed, and refuse the same. So settings that validation accepts never fail a deployment by
their aliases: what is left to fail are the specifiers of the routes.
-/

namespace Switchboard

variable {m : Type → Type}

namespace Change

variable {ε δ σ α β : Type} {state left : σ} {value : α}

theorem run_bind_of_ok {change : Change ε σ α} (ran : change.run state = .ok value left)
    (next : α → Change ε σ β) : (change >>= next).run state = (next value).run left := by
  replace ran : change state = .ok value left := ran
  change EStateM.bind change next state = _
  rw [EStateM.bind, ran]
  rfl

theorem run_adaptExcept_of_ok {change : Change ε σ α} (ran : change.run state = .ok value left)
    (transform : ε → δ) :
    (EStateM.adaptExcept transform change : Change δ σ α).run state = .ok value left := by
  replace ran : change state = .ok value left := ran
  change EStateM.adaptExcept transform change state = _
  rw [EStateM.adaptExcept, ran]

theorem result_of_ok {change : Change ε σ Unit} (ran : change.run state = .ok () left) :
    change.result state = .ok left := by
  rw [result, ran]

end Change

/-! One alias -/

theorem isAliasName_eq (name : String) :
    Settings.isAliasName name =
      !((Text.trim name).isEmpty || (Text.trim name).toList.contains ':') := by
  have colon : (Text.trim name).toList.contains ':' = name.toList.contains ':' := by
    rw [Text.trim, String.toList_ofList, List.contains_eq_mem, List.contains_eq_mem]
    exact decide_eq_decide.mpr (Text.mem_trimmed rfl)
  have empty : (Text.trim name).isEmpty = decide (Text.trim name = "") := by
    rw [Bool.eq_iff_iff, String.isEmpty_iff, decide_eq_true_iff]
  rw [Settings.isAliasName, colon, empty, Bool.not_or, decide_not]

theorem reported_iff (name specifier : String) :
    (∃ fault, ValidationError.invalidAlias name fault ∈ Settings.aliasProblems name specifier) ↔
      Routes.alias? name specifier = none := by
  rw [Settings.aliasProblems, isAliasName_eq, Routes.alias?]
  cases (Text.trim name).isEmpty || (Text.trim name).toList.contains ':' with
  | true => simp
  | false => cases Specifier.parse specifier <;> simp

namespace Routes

variable {name specifier : String} {routes : Routes m}

theorem result_addAlias_of_none (refused : alias? name specifier = none) :
    ∃ error, (addAlias name specifier).result routes = .error error := by
  unfold alias? at refused
  unfold addAlias
  by_cases unnamed : ((Text.trim name).isEmpty || (Text.trim name).toList.contains ':') = true
  · simp only [unnamed, if_true]
    exact ⟨_, rfl⟩
  · simp only [unnamed] at refused ⊢
    cases parsed : Specifier.parse specifier with
    | error error => exact ⟨_, rfl⟩
    | ok made => simp [parsed] at refused

theorem result_addAlias_of_some {entry : String × Specifier}
    (named : alias? name specifier = some entry) (routes : Routes m) :
    (addAlias name specifier).result routes =
      .ok { routes with aliases := routes.aliases.insert entry.1 entry.2 } := by
  unfold alias? at named
  unfold addAlias
  by_cases unnamed : ((Text.trim name).isEmpty || (Text.trim name).toList.contains ':') = true
  · rw [if_pos unnamed] at named
    cases named
  · simp only [unnamed] at named ⊢
    cases parsed : Specifier.parse specifier with
    | error error => simp [parsed] at named
    | ok made =>
        obtain rfl : (Text.trim name, made) = entry := by simpa [parsed] using named
        rfl

theorem rejected_iff :
    (∃ error, (addAlias name specifier).result routes = .error error) ↔
      alias? name specifier = none := by
  refine ⟨?_, result_addAlias_of_none⟩
  rintro ⟨error, rejected⟩
  cases named : alias? name specifier with
  | none => rfl
  | some entry =>
      rw [result_addAlias_of_some named routes] at rejected
      cases rejected

theorem exists_run_addAliases {entries : List (String × String)}
    (accepted : ∀ entry ∈ entries, alias? entry.1 entry.2 ≠ none) (routes : Routes m) :
    ∃ left, (addAliases entries).run routes = .ok () left := by
  induction entries generalizing routes with
  | nil => exact ⟨routes, rfl⟩
  | cons entry entries ih =>
      obtain ⟨name, specifier⟩ := entry
      have some := accepted (name, specifier) List.mem_cons_self
      obtain ⟨added, named⟩ := Option.ne_none_iff_exists'.mp some
      have first := Change.ok_of_result (result_addAlias_of_some named routes)
      obtain ⟨left, later⟩ :=
        ih (fun entry member => accepted entry (List.mem_cons_of_mem _ member)) _
      exact ⟨left, (Change.run_bind_of_ok first fun _ => addAliases entries).trans later⟩

end Routes

/-! Accepted settings -/

namespace Settings

theorem mem_problems_iff {settings : Settings} {name : String} {fault : AliasFault} :
    .invalidAlias name fault ∈ settings.problems ↔
      ∃ entry ∈ settings.aliases.entries,
        .invalidAlias name fault ∈ aliasProblems entry.1 entry.2 := by
  simp [problems]

theorem name_of_mem_aliasProblems {name other specifier : String} {fault : AliasFault}
    (member : .invalidAlias name fault ∈ aliasProblems other specifier) : name = other := by
  unfold aliasProblems at member
  rcases List.mem_append.mp member with unnamed | unread
  · split at unnamed
    next => cases unnamed
    next => exact (ValidationError.invalidAlias.inj (List.mem_singleton.mp unnamed)).1
  · split at unread
    next => cases unread
    next => exact (ValidationError.invalidAlias.inj (List.mem_singleton.mp unread)).1

theorem reported_of_settings {settings : Settings} {given : List (String × String)}
    (aliases : settings.aliases = .ofList given) {name specifier : String}
    (entry : settings.aliases.get? name = some specifier) :
    (∃ fault, .invalidAlias name fault ∈ settings.problems) ↔
      ∃ fault, .invalidAlias name fault ∈ aliasProblems name specifier := by
  have ordered := Dictionary.ordered_ofList given
  rw [← aliases] at ordered
  simp only [mem_problems_iff]
  constructor
  · rintro ⟨fault, ⟨other, value⟩, member, reported⟩
    obtain rfl := name_of_mem_aliasProblems reported
    have held := (Dictionary.mem_iff_lookup_of_ordered ordered).mp member
    obtain rfl : specifier = value := Option.some.inj (entry.symm.trans held)
    exact ⟨fault, reported⟩
  · rintro ⟨fault, reported⟩
    have member := (Dictionary.mem_iff_lookup_of_ordered ordered).mpr entry
    exact ⟨fault, (name, specifier), member, reported⟩

theorem problems_of_load {file : FileContent} {settings : Settings}
    (loaded : load file = .ok settings) : settings.problems = [] := by
  unfold load at loaded
  split at loaded
  next => cases loaded
  next text _ =>
    unfold parse at loaded
    split at loaded
    next => cases loaded
    next read _ =>
      unfold validate at loaded
      cases found : read.problems with
      | nil =>
          simp only [found] at loaded
          cases loaded
          exact found
      | cons problem problems =>
          simp only [found] at loaded
          cases loaded

theorem load_of_text {file : FileContent} {text : String} {settings : Settings}
    (read : file.text? = .ok text) (decoded : ofToml? text = some settings)
    (valid : settings.problems = []) : load file = .ok settings := by
  unfold load
  rw [read]
  change parse text = _
  unfold parse
  rw [decoded]
  dsimp only
  unfold validate
  rw [valid]

theorem toLower_logLevel : default.logLevel.toLower = "info" := by
  rw [← String.toList_inj, Text.toList_toLower]
  decide

theorem problems_default : default.problems = [] := by
  rw [problems, toLower_logLevel]
  decide

theorem alias?_ne_none_of_problems {settings : Settings} (accepted : settings.problems = []) :
    ∀ entry ∈ settings.aliases.entries, Routes.alias? entry.1 entry.2 ≠ none := by
  intro entry member refused
  obtain ⟨fault, reported⟩ := (reported_iff entry.1 entry.2).mpr refused
  have problem : .invalidAlias entry.1 fault ∈ settings.problems :=
    mem_problems_iff.mpr ⟨entry, member, reported⟩
  rw [accepted] at problem
  cases problem

end Settings

namespace Host

variable {host : Host m} {settings : Settings} {calls : List (Routes.Call m)}

theorem declare_of_accepted (accepted : settings.problems = [])
    (planned : (host.plan settings).run .empty = .ok () (Routes.build calls)) :
    host.declare settings = .ok (Routes.build (calls ++ settings.definitions)) := by
  obtain ⟨left, added⟩ := Routes.exists_run_addAliases
    (Settings.alias?_ne_none_of_problems accepted) (Routes.build calls)
  have declared : host.declare settings = .ok left := by
    apply Change.result_of_ok
    rw [declaration, Change.run_bind_of_ok planned]
    exact Change.run_adaptExcept_of_ok added Failure.rejected
  rw [declared, declare_eq_build planned declared]

/-- Once the plan went through, accepted settings fail a deployment by the specifiers of routes
only: by the first that cannot be read or leads into a cycle. -/
theorem compile_of_accepted (accepted : settings.problems = [])
    (planned : (host.plan settings).run .empty = .ok () (Routes.build calls)) (failure : Failure) :
    (host.compile settings).result = .error failure ↔
      ∃ text error, failure = .rejected error ∧
        First (Faulty (Routes.lastNamed (calls ++ settings.definitions)))
          ((Routes.registered calls).flatMap (·.registration.specifiers)) text ∧
        Fault (Routes.lastNamed (calls ++ settings.definitions)) text error := by
  have failed (error : DeployError) :=
    @Routes.compile_build_eq_error_iff m host.registry (calls ++ settings.definitions)
      host.fallback error
  rw [Routes.registered_append_definitions] at failed
  rw [result_compile_of_declare (declare_of_accepted accepted planned)]
  constructor
  · intro found
    cases result : ((Routes.build (calls ++ settings.definitions)).compile host.registry
      host.fallback).result with
    | ok table => simp [result, Except.mapError] at found
    | error error =>
        obtain ⟨text, first, fault⟩ := (failed error).mp result
        refine ⟨text, error, ?_, first, fault⟩
        simpa [result, Except.mapError] using found.symm
  · rintro ⟨text, error, rfl, first, fault⟩
    rw [(failed error).mpr ⟨text, first, fault⟩]
    rfl

/-- Validation reports an alias exactly when registering it fails. Settings of a file are valid, and
once a plan went through, all aliases of valid settings are registered: compiling can only fail by
what the routes ask for, at the first specifier that cannot be read or leads into a cycle. -/
theorem validation_agrees :
    (∀ (settings : Settings) (given : List (String × String)),
      settings.aliases = .ofList given →
      ∀ name specifier, settings.aliases.get? name = some specifier →
      ∀ routes : Routes m,
        (∃ fault, .invalidAlias name fault ∈ settings.problems) ↔
          ∃ error, (Routes.addAlias name specifier).result routes = .error error) ∧
    (∀ file settings, Settings.load file = .ok settings → settings.problems = []) ∧
    ∀ (host : Host m) (settings : Settings) (calls : List (Routes.Call m)),
      settings.problems = [] →
      (host.plan settings).run .empty = .ok () (Routes.build calls) →
      let names := Routes.lastNamed (calls ++ settings.definitions)
      let texts := (Routes.registered calls).flatMap (·.registration.specifiers)
      host.declare settings = .ok (Routes.build (calls ++ settings.definitions)) ∧
      ∀ failure, (host.compile settings).result = .error failure ↔
        ∃ text error, failure = .rejected error ∧
          First (Faulty names) texts text ∧ Fault names text error := by
  refine ⟨?_, ?_, ?_⟩
  · intro settings given aliases name specifier entry routes
    rw [Settings.reported_of_settings aliases entry, reported_iff, Routes.rejected_iff]
  · intro file settings loaded
    exact Settings.problems_of_load loaded
  · intro host settings calls accepted planned
    exact ⟨declare_of_accepted accepted planned, compile_of_accepted accepted planned⟩

def misnamed : Settings := { Settings.default with aliases := .ofList [(" d:b", "kv:a")] }

/-- A colon is refused on both sides; blanks around a name are refused on neither. -/
theorem validation_agrees_misnamed :
    (∃ error, (Routes.addAlias " d:b" "kv:a").result (Routes.empty : Routes Id) = .error error) ∧
    keyedHost.declare overriding = .ok (Routes.build (keyedCalls ++ overriding.definitions)) := by
  obtain ⟨agrees, -, deploys⟩ := @validation_agrees Id
  have member : (" d:b", "kv:a") ∈ misnamed.aliases.entries := List.mem_singleton_self _
  have refused : .invalidAlias " d:b" .name ∈ Settings.aliasProblems " d:b" "kv:a" := by decide
  have reported : .invalidAlias " d:b" .name ∈ misnamed.problems :=
    Settings.mem_problems_iff.mpr ⟨_, member, refused⟩
  have level : overriding.logLevel.toLower = "info" := Settings.toLower_logLevel
  have accepted : overriding.problems = [] := by
    rw [Settings.problems, level]
    decide
  have entry : misnamed.aliases.get? " d:b" = some "kv:a" := by decide
  have rejected := (agrees misnamed _ rfl " d:b" "kv:a" entry .empty).mp ⟨_, reported⟩
  exact ⟨rejected, (deploys keyedHost overriding keyedCalls accepted rfl).1⟩

end Host

end Switchboard
