import Mathlib.Logic.Function.Iterate
import Switchboard.Service.Upkeep

/-!
Stretches of a run in which one task moves alone. Left to itself a task redeploys or reloads as a
host does in one go. Two stretches of one task around one of the other are how an older reading gets
past a newer one.
-/

namespace Switchboard

namespace Upkeep

variable {m : Type → Type} {upkeep : Upkeep m} {task : Task} {reading : Reading}
  {table : Table m}

@[simp]
theorem progress_put_self (progress : Progress m) :
    (upkeep.put task progress).progress task = progress := if_pos rfl

theorem progress_put_of_ne (progress : Progress m) {other : Task}
    (different : other ≠ task) :
    (upkeep.put task progress).progress other = upkeep.progress other := if_neg different

/-! A task alone -/

theorem put_put (upkeep : Upkeep m) (task : Task) (before progress : Progress m) :
    (upkeep.put task before).put task progress = upkeep.put task progress := by
  have same : ((upkeep.put task before).put task progress).progress =
      (upkeep.put task progress).progress := by
    funext other
    by_cases itself : other = task
    · rw [itself, progress_put_self, progress_put_self]
    · rw [progress_put_of_ne _ itself, progress_put_of_ne _ itself, progress_put_of_ne _ itself]
  exact congrArg (fun progress => { upkeep with progress }) same

theorem proceed_of_asked {settings : Settings} (asked : upkeep.progress task = .asked)
    (loaded : Settings.load upkeep.file = .ok settings) :
    upkeep.proceed task =
      upkeep.read.put task (.holding ⟨upkeep.readings.length, settings⟩) := by
  have held : upkeep.reading? = some ⟨upkeep.readings.length, settings⟩ := by
    rw [reading?, loaded]
  simp only [proceed, asked, held]

theorem proceed_store (holding : upkeep.progress task = .holding reading)
    (compiled : (upkeep.host.compile reading.settings).result = .ok table) :
    (upkeep.proceed task).proceed task =
      (upkeep.store task reading table).put task (.stored reading table) := by
  have first : upkeep.proceed task = upkeep.put task (.compiled reading table) := by
    simp only [proceed, holding, compiled]
  rw [first, proceed, progress_put_self]
  exact put_put (upkeep.store task reading table) task _ _

theorem proceed_record (stored : upkeep.progress task = .stored reading table) :
    (upkeep.proceed task).proceed task =
      ({ upkeep with host := upkeep.host.advance }.record task reading table).put task .idle := by
  have first : upkeep.proceed task =
      { upkeep with host := upkeep.host.advance }.put task (.counted reading table) := by
    rw [proceed, stored]
  rw [first, proceed, progress_put_self]
  exact put_put ({ upkeep with host := upkeep.host.advance }.record task reading table) task _ _

def install (upkeep : Upkeep m) (task : Task) (reading : Reading) (table : Table m) : Upkeep m :=
  { upkeep with
    host := upkeep.host.install table
    stored := upkeep.stored ++ [⟨task, reading, table⟩]
    recorded := upkeep.recorded ++ [⟨task, reading, table⟩] }

theorem iterate_install (holding : upkeep.progress task = .holding reading)
    (compiled : (upkeep.host.compile reading.settings).result = .ok table) :
    (proceed · task)^[4] upkeep = (upkeep.install task reading table).put task .idle := by
  change ((((upkeep.proceed task).proceed task).proceed task).proceed task) = _
  rw [proceed_store holding compiled, proceed_record (progress_put_self _)]
  exact put_put (upkeep.install task reading table) task _ _

theorem iterate_install_put (compiled : (upkeep.host.compile reading.settings).result = .ok table) :
    (proceed · task)^[4] (upkeep.put task (.holding reading)) =
      (upkeep.install task reading table).put task .idle := by
  have holding : (upkeep.put task (.holding reading)).progress task = .holding reading :=
    progress_put_self _
  rw [iterate_install holding compiled]
  exact put_put (upkeep.install task reading table) task _ _

/-- With settings in hand, a task that nothing comes between redeploys. -/
theorem exists_redeployed (holding : upkeep.progress task = .holding reading) :
    ∃ steps, let left := (proceed · task)^[steps] upkeep
      left.progress task = .idle ∧
      left.host = (upkeep.host.redeploy reading.settings).host := by
  rw [Host.redeploy]
  cases compiled : (upkeep.host.compile reading.settings).result with
  | ok table =>
      refine ⟨4, ?_⟩
      rw [iterate_install holding compiled]
      exact ⟨progress_put_self _, rfl⟩
  | error failure =>
      refine ⟨1, ?_⟩
      cases failure with
      | rejected error =>
          have first : upkeep.proceed task =
              { upkeep with host := upkeep.host.recordFailed }.put task .idle := by
            simp only [proceed, holding, compiled]
          rw [Function.iterate_one, first]
          exact ⟨progress_put_self _, rfl⟩
      | panicked =>
          have first : upkeep.proceed task = upkeep.put task .idle := by
            simp only [proceed, holding, compiled]
          rw [Function.iterate_one, first]
          exact ⟨progress_put_self _, rfl⟩

theorem exists_reloaded (asked : upkeep.progress task = .asked) :
    ∃ steps, let left := (proceed · task)^[steps] upkeep
      left.progress task = .idle ∧ left.host = (upkeep.host.reload upkeep.file).host := by
  rw [Host.reload]
  cases loaded : Settings.load upkeep.file with
  | ok settings =>
      have first := proceed_of_asked asked loaded
      have holding := first ▸ progress_put_self _
      obtain ⟨steps, idle, host⟩ := exists_redeployed holding
      refine ⟨steps + 1, idle, host.trans ?_⟩
      rw [first]
      rfl
  | error error =>
      have unheld : upkeep.reading? = none := by
        rw [reading?, loaded]
      have first : upkeep.proceed task = upkeep.read.put task .idle := by
        simp only [proceed, asked, unheld]
      refine ⟨1, ?_⟩
      rw [Function.iterate_one, first]
      exact ⟨progress_put_self _, rfl⟩

/-! Overtaking -/

def change (newer : FileContent) : List Move :=
  [.write newer, .notice] ++ List.replicate 5 (.proceed .watch)

/-- The file changes after it was read for a request, and the watching task installs what it holds
then while the other task stands still: before it stores, or before it counts what it stored. -/
def overtaking (newer : FileContent) (before rest : Nat) : List Move :=
  [.request, .proceed .reload, .proceed .reload] ++ List.replicate before (.proceed .reload) ++
    change newer ++ List.replicate rest (.proceed .reload)

theorem foldl_change {newer : FileContent} {settings : Settings}
    (idle : upkeep.progress .watch = .idle) (unnoticed : upkeep.updates = [])
    (loaded : Settings.load newer = .ok settings)
    (compiled : (upkeep.host.compile settings).result = .ok table) :
    (change newer).foldl after upkeep =
      ({ upkeep with file := newer, readings := upkeep.readings ++ [newer] }.install .watch
        ⟨upkeep.readings.length, settings⟩ table).put .watch .idle := by
  have noticed : (upkeep.after (.write newer)).after .notice =
      { upkeep with
        file := newer
        readings := upkeep.readings ++ [newer]
        updates := [⟨upkeep.readings.length, settings⟩] } := by
    rw [after, after, reading?, loaded, unnoticed]
    rfl
  have taken : ((upkeep.after (.write newer)).after .notice).proceed .watch =
      { upkeep with file := newer, readings := upkeep.readings ++ [newer] }.put .watch
        (.holding ⟨upkeep.readings.length, settings⟩) := by
    obtain ⟨host, file, readings, requests, updates, progress, stored, recorded⟩ := upkeep
    obtain rfl : updates = [] := unnoticed
    rw [noticed, proceed, idle]
    rfl
  change (proceed · .watch)^[4] (((upkeep.after (.write newer)).after .notice).proceed .watch) = _
  rw [taken]
  exact iterate_install_put compiled

def begun (host : Host m) (file : FileContent) (settings : Settings) : Upkeep m :=
  { start host file with readings := [file] }.put .reload (.holding ⟨0, settings⟩)

section Overtaking

variable {host : Host m} {older newer : FileContent} {one other : Settings} {old new : Table m}
  (loaded : Settings.load older = .ok one) (changed : Settings.load newer = .ok other)
  (compiled : (host.compile one).result = .ok old)
  (recompiled : (host.compile other).result = .ok new)

include loaded

theorem run_read :
    run host older [.request, .proceed .reload, .proceed .reload] = begun host older one := by
  have asks : ((start host older).put .reload .asked).progress .reload = .asked :=
    progress_put_self _
  exact (proceed_of_asked asks loaded).trans
    (put_put { start host older with readings := [older] } .reload .asked (.holding ⟨0, one⟩))

include changed compiled recompiled

theorem run_overtaking_read :
    let final := run host older (overtaking newer 0 4)
    final.Still ∧ final.stored = [⟨.watch, ⟨1, other⟩, new⟩, ⟨.reload, ⟨0, one⟩, old⟩] ∧
      final.host = (host.install new).install old := by
  have idle : (begun host older one).progress .watch = .idle := rfl
  have installed := foldl_change idle rfl changed recompiled
  have holding : ((change newer).foldl after (begun host older one)).progress .reload =
      .holding ⟨0, one⟩ := by
    rw [installed]
    rfl
  have compiles : (((change newer).foldl after (begun host older one)).host.compile one).result =
      .ok old := by
    rw [installed]
    exact compiled
  have ran : run host older (overtaking newer 0 4) =
      (proceed · .reload)^[4] ((change newer).foldl after
        (run host older [.request, .proceed .reload, .proceed .reload])) := rfl
  rw [ran, run_read loaded, iterate_install holding compiles, installed]
  refine ⟨⟨rfl, rfl, fun task => ?_⟩, rfl, rfl⟩
  cases task <;> rfl

theorem run_overtaking_stored :
    let final := run host older (overtaking newer 2 2)
    final.Still ∧ final.host.table = new ∧ final.host.metrics.routes = some old.routeCount := by
  have holding : (begun host older one).progress .reload = .holding ⟨0, one⟩ := rfl
  have stored := proceed_store holding compiled
  have idle : (((begun host older one).store .reload ⟨0, one⟩ old).put .reload
      (.stored ⟨0, one⟩ old)).progress .watch = .idle := rfl
  have installed := foldl_change idle rfl changed recompiled
  have uncounted : ((change newer).foldl after (((begun host older one).store .reload ⟨0, one⟩
      old).put .reload (.stored ⟨0, one⟩ old))).progress .reload = .stored ⟨0, one⟩ old := by
    rw [installed]
    rfl
  have ran : run host older (overtaking newer 2 2) =
      (((change newer).foldl after
        (((run host older [.request, .proceed .reload, .proceed .reload]).proceed .reload).proceed
          .reload)).proceed .reload).proceed .reload := rfl
  rw [ran, run_read loaded, stored, proceed_record uncounted, installed]
  refine ⟨⟨rfl, rfl, fun task => ?_⟩, rfl, rfl⟩
  cases task <;> rfl

end Overtaking

end Upkeep

end Switchboard
