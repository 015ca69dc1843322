import Switchboard.Proofs.Upkeep.Invariants
import Switchboard.Proofs.Validation

/-!
What two tasks that redeploy leave behind. Each stores in the order of its readings and records what
it stored, so when both are idle the live table is the last one stored and the number of routes that
is shown belongs to the last one recorded. Neither needs to be of the latest reading: a task may
store an older reading after the other stored a newer one.
-/

namespace Switchboard

namespace Upkeep

variable {m : Type → Type} {upkeep : Upkeep m} {first : Host m} {task : Task}

/-- The other task stored a later reading before. -/
def Overtaken (upkeep : Upkeep m) (live : Installation m) : Prop :=
  ∃ other ∈ upkeep.stored, other.task ≠ live.task ∧ live.reading.order < other.reading.order

variable {live : Installation m}

theorem filter_of_getLast? {installed : List (Installation m)}
    (last : installed.getLast? = some live) :
    ∃ front, installed.filter (·.task = live.task) = front ++ [live] := by
  obtain ⟨front, rfl⟩ := List.getLast?_eq_some_iff.mp last
  exact ⟨_, by rw [filter_concat, if_pos rfl]⟩

theorem mem_storedBy {installed : Installation m} :
    installed ∈ upkeep.storedBy task ↔ installed ∈ upkeep.stored ∧ installed.task = task := by
  simp [storedBy]

theorem Still.recordedBy (still : upkeep.Still) (accounted : Accounted first upkeep)
    (task : Task) : upkeep.recordedBy task = upkeep.storedBy task := by
  rw [← accounted.recorded task, still.idle task]
  exact (List.append_nil _).symm

theorem Still.stored_of_recorded (still : upkeep.Still) (accounted : Accounted first upkeep)
    {installed : Installation m} (recorded : installed ∈ upkeep.recorded) :
    installed ∈ upkeep.stored := by
  have member : installed ∈ upkeep.recordedBy installed.task := by
    simp [Upkeep.recordedBy, recorded]
  rw [still.recordedBy accounted] at member
  exact (mem_storedBy.mp member).1

theorem Still.generation (still : upkeep.Still) (accounted : Accounted first upkeep) :
    upkeep.host.generation = first.generation + upkeep.stored.length := by
  rw [← accounted.generation, uncounted, still.idle, still.idle]
  rfl

/-- A task stores in the order of its readings, so only the other task can have stored later
settings. -/
theorem fresh_iff (ordered : Ordered first upkeep) (last : upkeep.stored.getLast? = some live) :
    (∀ installed ∈ upkeep.stored, installed.reading.order ≤ live.reading.order) ↔
      ¬ upkeep.Overtaken live := by
  constructor
  · rintro fresh ⟨other, stored, -, later⟩
    exact absurd (fresh other stored) (Nat.not_le.mpr later)
  · intro first installed stored
    -- Within its own task the last one stored is the last one read; only the other task matters.
    by_cases own : installed.task = live.task
    · obtain ⟨front, own_stored⟩ := filter_of_getLast? last
      have ascending := (List.pairwise_append.mp (ordered.ascending live.task)).1
      change ((upkeep.stored.filter _).map _).Pairwise _ at ascending
      rw [own_stored, List.map_append, List.pairwise_append] at ascending
      have member : installed ∈ front ++ [live] := own_stored ▸ mem_storedBy.mpr ⟨stored, own⟩
      rcases List.mem_append.mp member with earlier | itself
      · exact (ascending.2.2 _ (List.mem_map_of_mem earlier) _ List.mem_cons_self).le
      · exact List.mem_singleton.mp itself ▸ Nat.le_refl _
    · by_contra later
      exact first ⟨installed, stored, own, Nat.not_le.mp later⟩

theorem exists_shown (still : upkeep.Still) (accounted : Accounted first upkeep)
    (last : upkeep.stored.getLast? = some live) :
    ∃ shown ∈ upkeep.stored, upkeep.recorded.getLast? = some shown ∧
      (shown.task = live.task → shown = live) := by
  have same := still.recordedBy accounted
  have stored : live ∈ upkeep.storedBy live.task :=
    mem_storedBy.mpr ⟨List.mem_of_getLast? last, rfl⟩
  have recorded : live ∈ upkeep.recorded := by
    rw [← same] at stored
    exact (List.mem_filter.mp stored).1
  obtain ⟨shown, ends⟩ := Option.ne_none_iff_exists'.mp
    (mt List.getLast?_eq_none_iff.mp (List.ne_nil_of_mem recorded))
  refine ⟨shown, ?_, ends, fun own => ?_⟩
  · exact still.stored_of_recorded accounted (List.mem_of_getLast? ends)
  -- A task records in the order it stores, so the last of one task is the same in both lists.
  · obtain ⟨front, recordedLast⟩ := filter_of_getLast? ends
    obtain ⟨back, storedLast⟩ := filter_of_getLast? last
    have joined : front ++ [shown] = back ++ [live] := by
      rw [← recordedLast, ← storedLast, own]
      exact same live.task
    exact List.singleton_inj.mp (List.append_inj_right' joined rfl)

/-- When both tasks are idle and nothing is queued, the generation counts what was stored, and the
live table is the last one stored. It is of the latest reading among those installed unless it was
overtaken; and the number of routes that is shown is its own if its task recorded last. -/
theorem run_still {host : Host m} {file : FileContent} {moves : List Move}
    (still : (run host file moves).Still) :
    let final := run host file moves
    final.host.generation = host.generation + final.stored.length ∧
    (∀ installed ∈ final.stored, final.Genuine installed.reading ∧
      (host.compile installed.reading.settings).result = .ok installed.table) ∧
    (final.stored = [] →
      final.host.table = host.table ∧ final.host.metrics.routes = host.metrics.routes) ∧
    ∀ live, final.stored.getLast? = some live →
      final.host.table = live.table ∧
      ((∀ installed ∈ final.stored, installed.reading.order ≤ live.reading.order) ↔
        ¬ final.Overtaken live) ∧
      ∃ shown ∈ final.stored, final.recorded.getLast? = some shown ∧
        (final.host.metrics.routes = some live.table.routeCount ↔
          shown.task = live.task ∨ shown.table.routeCount = live.table.routeCount) := by
  intro final
  obtain ⟨ordered, accounted⟩ := sound_run host file moves
  refine ⟨still.generation accounted, ?_, ?_, ?_⟩
  · intro installed stored
    refine ⟨ordered.genuine installed.task _ (List.mem_append_left _ ?_), ?_⟩
    · exact List.mem_map_of_mem (mem_storedBy.mpr ⟨stored, rfl⟩)
    · exact accounted.compiled installed stored
  · intro untouched
    have unrecorded : final.recorded = [] := by
      refine List.eq_nil_iff_forall_not_mem.mpr fun installed recorded => ?_
      have stored := still.stored_of_recorded accounted recorded
      rw [untouched] at stored
      cases stored
    refine ⟨accounted.table.trans ?_, accounted.routes.trans ?_⟩
    · rw [untouched]
      rfl
    · rw [unrecorded]
      rfl
  · intro live last
    obtain ⟨shown, stored, ends, own⟩ := exists_shown still accounted last
    have shows : final.host.metrics.routes = some shown.table.routeCount := by
      refine accounted.routes.trans ?_
      rw [ends]
      rfl
    refine ⟨accounted.table.trans ?_, fresh_iff ordered last, shown, stored, ends, ?_⟩
    · rw [last]
      rfl
    · rw [shows, Option.some_inj]
      constructor
      · exact .inr
      · rintro (same | equal)
        · rw [own same]
        · exact equal

def newRoute : Route Id where
  method := .get
  template := ⟨[], false⟩
  condition := none
  registration := .simple fun exchange _ => pure ⟨exchange, .succeeded⟩

def aliasPlan : Plan Id := fun settings =>
  if (settings.aliases.get? "new").isSome then
    EStateM.adaptExcept .rejected (Routes.register .get "/" none newRoute.registration)
  else pure ()

def aliasHost : Host Id := ⟨.initial, Handler.notFound, aliasPlan, .initial, 0, .initial⟩

def watchedText : String := "[deployment]\nhot_reload = true"

def aliasedText : String := watchedText ++ "\n[aliases]\nnew = 'x:y'"

def fileOf (text : String) : FileContent := .bytes (Text.bytes text)

def watchedSettings : Settings := { Settings.default with hotReload := true }

def aliasedSettings : Settings := { watchedSettings with aliases := .ofList [("new", "x:y")] }

theorem load_watchedText : Settings.load (fileOf watchedText) = .ok watchedSettings := by
  have decoded : Settings.ofToml? watchedText = some watchedSettings := by decide +kernel
  have read : (fileOf watchedText).text? = .ok watchedText := by decide +kernel
  exact Settings.load_of_text read decoded Settings.problems_default

theorem load_aliasedText : Settings.load (fileOf aliasedText) = .ok aliasedSettings := by
  have decoded : Settings.ofToml? aliasedText = some aliasedSettings := by decide +kernel
  have read : (fileOf aliasedText).text? = .ok aliasedText := by decide +kernel
  have valid : aliasedSettings.problems = [] := by
    have level : aliasedSettings.logLevel.toLower = "info" := Settings.toLower_logLevel
    rw [Settings.problems, level]
    decide
  exact Settings.load_of_text read decoded valid

theorem exists_compile_aliasHost :
    (aliasHost.compile watchedSettings).result = .ok (.withFallback Handler.notFound) ∧
      ∃ table, (aliasHost.compile aliasedSettings).result = .ok table ∧ table.routeCount = 1 :=
  ⟨rfl, _, rfl, rfl⟩

def overtakenReading : Upkeep Id :=
  run aliasHost (fileOf watchedText) (overtaking (fileOf aliasedText) 0 4)

def overtakenCount : Upkeep Id :=
  run aliasHost (fileOf watchedText) (overtaking (fileOf aliasedText) 2 2)

theorem run_still_overtaken : overtakenReading.Still ∧ overtakenReading.host.generation = 2 := by
  obtain ⟨compiled, table, recompiled, -⟩ := exists_compile_aliasHost
  obtain ⟨still, stored, -⟩ :=
    run_overtaking_read load_watchedText load_aliasedText compiled recompiled
  refine ⟨still, (run_still still).1.trans ?_⟩
  rw [stored]
  rfl

/-- Redeployments that overlap leave the settings of the older reading live, or show the number of
routes of a table that is not live. -/
theorem overtaken_reading_live :
    (overtakenReading.Still ∧ ∃ live later, overtakenReading.stored.getLast? = some live ∧
      later ∈ overtakenReading.stored ∧ live.reading.order < later.reading.order ∧
      overtakenReading.host.table.routeCount ≠ later.table.routeCount) ∧
    overtakenCount.Still ∧
      overtakenCount.host.metrics.routes ≠ some overtakenCount.host.table.routeCount := by
  obtain ⟨compiled, table, recompiled, count⟩ := exists_compile_aliasHost
  obtain ⟨still, stored, host⟩ :=
    run_overtaking_read load_watchedText load_aliasedText compiled recompiled
  obtain ⟨halted, live, routes⟩ :=
    run_overtaking_stored load_watchedText load_aliasedText compiled recompiled
  change overtakenReading.stored = _ at stored
  change overtakenReading.host = _ at host
  change overtakenCount.host.table = _ at live
  change overtakenCount.host.metrics.routes = _ at routes
  rw [stored, host, live, routes, count]
  refine ⟨⟨still, _, _, rfl, List.mem_cons_self, Nat.zero_lt_one, ?_⟩, halted, ?_⟩
  · rw [count]
    exact Nat.zero_ne_one
  · exact fun same => Nat.zero_ne_one (Option.some.inj same)

end Upkeep

end Switchboard
