import Mathlib.Data.List.Induction
import Switchboard.Deployment.Reload

/-!
Bringing a host up to date is all or nothing and forgets what came before: a call comes to what it
would have come to on the host as it was built.
-/

namespace Switchboard

namespace Host

variable {m : Type → Type}

def Call.settings : Call → Except SettingsError Settings
  | .start settings => .ok settings
  | .redeploy settings => .ok settings
  | .reload file => Settings.load file

def attempt (host : Host m) (call : Call) : Except CallError (Table m) := do
  let settings ← call.settings.mapError .unreadable
  (host.compile settings).result.mapError .undeployed

def isRejected : Except CallError (Table m) → Bool
  | .error (.undeployed (.rejected _)) => true
  | _ => false

def settle (host : Host m) (outcome : Except CallError (Table m)) : Host m :=
  match outcome with
  | .ok table => host.install table
  | .error _ => if isRejected outcome then host.recordFailed else host

theorem deploy_eq (host : Host m) (settings : Settings) :
    (host.deploy settings).host =
        host.settle ((host.compile settings).result.mapError .undeployed) ∧
      (host.deploy settings).result =
        ((host.compile settings).result.mapError CallError.undeployed).map fun _ => () := by
  rw [deploy, redeploy]
  split
  next table compiled =>
    rw [compiled]
    exact ⟨rfl, rfl⟩
  next error failed =>
    rw [failed]
    exact ⟨rfl, rfl⟩
  next failed =>
    rw [failed]
    exact ⟨rfl, rfl⟩

theorem call_eq (host : Host m) (call : Call) :
    (host.call call).host = host.settle (host.attempt call) ∧
      (host.call call).result = (host.attempt call).map fun _ => () := by
  cases call with
  | start settings => exact host.deploy_eq settings
  | redeploy settings => exact host.deploy_eq settings
  | reload file =>
      rw [Host.call, reload, attempt, Call.settings]
      cases Settings.load file with
      | ok settings => exact host.deploy_eq settings
      | error error => exact ⟨rfl, rfl⟩

theorem attempt_settle (host : Host m) (outcome : Except CallError (Table m)) :
    (host.settle outcome).attempt = host.attempt := by
  cases outcome with
  | ok table => rfl
  | error error =>
      rw [settle]
      split <;> rfl

theorem callAll_eq (host : Host m) (calls : List Call) :
    host.callAll calls = ((calls.map host.attempt).foldl settle host,
      (calls.map host.attempt).map (Except.map fun _ => ())) := by
  induction calls generalizing host with
  | nil => rfl
  | cons call calls ih =>
      obtain ⟨left, result⟩ := host.call_eq call
      rw [callAll, left, result, ih, attempt_settle]
      rfl

def installed (outcomes : List (Except CallError (Table m))) : List (Table m) :=
  outcomes.filterMap Except.toOption

/-- What a host that began empty shows of what its calls came to. -/
structure Reflects (fallback : Handler m) (outcomes : List (Except CallError (Table m)))
    (host : Host m) : Prop where
  table : host.table = (installed outcomes).getLast?.getD (.withFallback fallback)
  generation : host.generation = (installed outcomes).length
  succeeded : host.metrics.succeeded = (installed outcomes).length
  failed : host.metrics.failed = outcomes.countP isRejected
  routes : host.metrics.routes = (installed outcomes).getLast?.map Table.routeCount

theorem installed_append_ok (outcomes : List (Except CallError (Table m))) (table : Table m) :
    installed (outcomes ++ [.ok table]) = installed outcomes ++ [table] := by
  rw [installed, List.filterMap_append]
  rfl

theorem installed_append_error (outcomes : List (Except CallError (Table m))) (error : CallError) :
    installed (outcomes ++ [.error error]) = installed outcomes := by
  rw [installed, List.filterMap_append]
  exact List.append_nil _

theorem Reflects.settle {fallback : Handler m} {outcomes : List (Except CallError (Table m))}
    {host : Host m} (reflects : Reflects fallback outcomes host)
    (outcome : Except CallError (Table m)) :
    Reflects fallback (outcomes ++ [outcome]) (host.settle outcome) := by
  obtain ⟨table, generation, succeeded, failed, routes⟩ := reflects
  have count : (outcomes ++ [outcome]).countP isRejected =
      outcomes.countP isRejected + if isRejected outcome then 1 else 0 := by
    rw [List.countP_append, List.countP_singleton]
  cases outcome with
  | ok fresh =>
      constructor
      · rw [installed_append_ok, List.getLast?_concat]
        rfl
      · rw [installed_append_ok, List.length_append, ← generation]
        rfl
      · rw [installed_append_ok, List.length_append, ← succeeded]
        rfl
      · rw [count, ← failed]
        rfl
      · rw [installed_append_ok, List.getLast?_concat]
        rfl
  | error error =>
      rw [Host.settle]
      split
      next rejected =>
        constructor
        · rw [installed_append_error, ← table]
          rfl
        · rw [installed_append_error, ← generation]
          rfl
        · rw [installed_append_error, ← succeeded]
          rfl
        · rw [count, if_pos rejected, ← failed]
          rfl
        · rw [installed_append_error, ← routes]
          rfl
      next unrejected =>
        constructor
        · rw [installed_append_error, table]
        · rw [installed_append_error, generation]
        · rw [installed_append_error, succeeded]
        · rw [count, if_neg unrejected, failed, Nat.add_zero]
        · rw [installed_append_error, routes]

theorem reflects_foldl {fallback : Handler m} {host : Host m}
    (empty : Reflects fallback [] host) (outcomes : List (Except CallError (Table m))) :
    Reflects fallback outcomes (outcomes.foldl settle host) := by
  induction outcomes using List.reverseRecOn with
  | nil => exact empty
  | append_singleton outcomes outcome ih =>
      rw [List.foldl_append]
      exact ih.settle outcome

theorem attempt_foldl (host : Host m) (outcomes : List (Except CallError (Table m))) :
    (outcomes.foldl settle host).attempt = host.attempt := by
  induction outcomes generalizing host with
  | nil => rfl
  | cons outcome outcomes ih => rw [List.foldl_cons, ih, attempt_settle]

theorem ok_of_bind {ε α β : Type} {work : Except ε α} {next : α → Except ε β} {result : β}
    (bound : (work >>= next) = .ok result) :
    ∃ value, work = .ok value ∧ next value = .ok result := by
  cases work with
  | ok value => exact ⟨value, rfl, bound⟩
  | error error => cases bound

theorem reflects_build [Monad m] {blueprint : Blueprint m} {fresh : Host m}
    (built : build blueprint = .ok fresh) :
    Reflects (blueprint.fallback.getD Handler.notFound) [] fresh := by
  obtain ⟨registry, -, made⟩ := ok_of_bind built
  cases made
  exact ⟨rfl, rfl, rfl, rfl, rfl⟩

theorem run_root [Monad m] [LawfulMonad m] (host : Host m) (exchange : Exchange) :
    (root exchange).run host = (fun handled => (handled, host)) <$> host.table.handle exchange := by
  rw [root, StateT.run_bind, StateT.run_get, pure_bind, StateT.run_monadLift, bind_pure_comp]
  rfl

/-- Whatever calls were made, requests meet the table that the settings of the last successful call
compile to on the host as it was built, and the counters tell how the calls went, to an exporter
that was installed before the first of them. -/
theorem callAll_history_free [Monad m] [LawfulMonad m] {blueprint : Blueprint m} {fresh : Host m}
    (built : build blueprint = .ok fresh) (calls : List Call) :
    let host := (fresh.callAll calls).1
    let results := (fresh.callAll calls).2
    let outcomes := calls.map fresh.attempt
    let live := (installed outcomes).getLast?.getD
      (.withFallback (blueprint.fallback.getD Handler.notFound))
    results = outcomes.map (Except.map fun _ => ()) ∧
    (∀ exchange, (root exchange).run host =
      (fun handled => (handled, host)) <$> live.handle exchange) ∧
    host.generation = (installed outcomes).length ∧
    host.metrics.succeeded = (installed outcomes).length ∧
    host.metrics.failed = outcomes.countP isRejected ∧
    host.metrics.routes = (installed outcomes).getLast?.map Table.routeCount ∧
    ∀ call error, fresh.attempt call = .error error →
      (host.call call).host =
        if isRejected (fresh.attempt call) then
          { host with metrics := { host.metrics with failed := host.metrics.failed + 1 } }
        else host := by
  intro host results outcomes live
  have run := fresh.callAll_eq calls
  have reflects := reflects_foldl (reflects_build built) outcomes
  have reached : host = outcomes.foldl settle fresh := congrArg Prod.fst run
  rw [← reached] at reflects
  refine ⟨congrArg Prod.snd run, ?_, reflects.generation, reflects.succeeded, reflects.failed,
    reflects.routes, ?_⟩
  · intro exchange
    rw [run_root, reflects.table]
  · intro call error failed
    have same : host.attempt call = fresh.attempt call := by rw [reached, attempt_foldl]
    rw [(host.call_eq call).1, same, failed]
    rfl

def sample : Blueprint Id where
  providers := []
  parsers := []
  fallback := none
  plan := fun _ => EStateM.adaptExcept .rejected
    (Routes.register .get "/" none (.simple fun exchange _ => pure ⟨exchange, .succeeded⟩))

def sampleCalls : List Call :=
  [.start .default, .reload .missing,
    .redeploy { Settings.default with aliases := .ofList [("", "")] }]

theorem callAll_history_free_sample :
    ∃ fresh, build sample = .ok fresh ∧ (fresh.callAll sampleCalls).1.generation = 1 ∧
      (fresh.callAll sampleCalls).1.metrics.failed = 1 ∧
      (fresh.callAll sampleCalls).1.metrics.routes = some 1 := by
  refine ⟨_, rfl, ?_⟩
  obtain ⟨-, -, generation, -, failed, routes, -⟩ :=
    callAll_history_free (show build sample = .ok _ from rfl) sampleCalls
  exact ⟨generation, failed, routes⟩

end Host

end Switchboard
