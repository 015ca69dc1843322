import Switchboard.Proofs.Upkeep.Alone

/-!
What one step may do. Until a table is stored, a step takes settings up, adds settings that were
just read or leaves some out. From then on the settings in hand are settings stored, and what is
left is to count and to record them.
-/

namespace Switchboard

variable {m : Type → Type}

namespace Progress

def ahead : Progress m → List Reading
  | .holding reading => [reading]
  | .compiled reading _ => [reading]
  | _ => []

def unrecorded (task : Task) : Progress m → List (Installation m)
  | .stored reading table => [⟨task, reading, table⟩]
  | .counted reading table => [⟨task, reading, table⟩]
  | _ => []

def uncounted : Progress m → Nat
  | .stored _ _ => 1
  | _ => 0

end Progress

namespace Upkeep

def waiting (upkeep : Upkeep m) : Task → List Reading
  | .reload => []
  | .watch => upkeep.updates

def ahead (upkeep : Upkeep m) (task : Task) : List Reading :=
  (upkeep.progress task).ahead ++ upkeep.waiting task

def storedBy (upkeep : Upkeep m) (task : Task) : List (Installation m) :=
  upkeep.stored.filter (·.task = task)

def recordedBy (upkeep : Upkeep m) (task : Task) : List (Installation m) :=
  upkeep.recorded.filter (·.task = task)

/-- The readings that a task stored, and then those it is yet to store. -/
def trail (upkeep : Upkeep m) (task : Task) : List Reading :=
  (upkeep.storedBy task).map (·.reading) ++ upkeep.ahead task

def uncounted (upkeep : Upkeep m) : Nat :=
  (upkeep.progress .reload).uncounted + (upkeep.progress .watch).uncounted

variable {upkeep later : Upkeep m} {task other : Task} {reading : Reading}
  {table : Table m}

/-! Steps before a table is stored -/

/-- What such a step may do to a task: it leaves settings out, or adds those that were read just
now. -/
structure PreparesBy (upkeep later : Upkeep m) (task : Task) : Prop where
  ahead : (later.ahead task).Sublist (upkeep.ahead task) ∨ ∃ reading,
    upkeep.reading? = some reading ∧ later.ahead task = upkeep.ahead task ++ [reading] ∧
    later.readings = upkeep.readings ++ [upkeep.file]
  unrecorded : (later.progress task).unrecorded task = (upkeep.progress task).unrecorded task
  uncounted : (later.progress task).uncounted = (upkeep.progress task).uncounted
  compiled : ∀ reading table, later.progress task = .compiled reading table →
    upkeep.progress task = .compiled reading table ∨
      (upkeep.host.compile reading.settings).result = .ok table
  asked : later.progress task = .asked → upkeep.progress task = .asked ∨ task = .reload

structure Prepares (upkeep later : Upkeep m) : Prop where
  stored : later.stored = upkeep.stored
  recorded : later.recorded = upkeep.recorded
  table : later.host.table = upkeep.host.table
  generation : later.host.generation = upkeep.host.generation
  routes : later.host.metrics.routes = upkeep.host.metrics.routes
  compile : later.host.compile = upkeep.host.compile
  readings : upkeep.readings <+: later.readings
  by_task : ∀ task, PreparesBy upkeep later task

theorem preparesBy_of_same (progress : later.progress task = upkeep.progress task)
    (waiting : later.waiting task = upkeep.waiting task) : PreparesBy upkeep later task := by
  have ahead : later.ahead task = upkeep.ahead task := by
    rw [Upkeep.ahead, Upkeep.ahead, progress, waiting]
  refine ⟨.inl ?_, ?_, ?_, ?_, ?_⟩
  · exact ahead ▸ List.Sublist.refl _
  · rw [progress]
  · rw [progress]
  · intro reading table compiled
    exact .inl (progress ▸ compiled)
  · intro asked
    exact .inl (progress ▸ asked)

theorem preparesBy_put {base : Upkeep m} {before progress : Progress m}
    (standing : upkeep.progress task = before) (same : base.progress = upkeep.progress)
    (waiting : ∀ other, other ≠ task → base.waiting other = upkeep.waiting other)
    (ahead : (progress.ahead ++ base.waiting task).Sublist (before.ahead ++ upkeep.waiting task) ∨
      ∃ reading, upkeep.reading? = some reading ∧
        progress.ahead ++ base.waiting task = before.ahead ++ upkeep.waiting task ++ [reading] ∧
        base.readings = upkeep.readings ++ [upkeep.file])
    (unrecorded : progress.unrecorded task = before.unrecorded task)
    (uncounted : progress.uncounted = before.uncounted)
    (compiled : ∀ reading table, progress = .compiled reading table →
      (upkeep.host.compile reading.settings).result = .ok table)
    (asked : progress = .asked → task = .reload) (other : Task) :
    PreparesBy upkeep (base.put task progress) other := by
  by_cases itself : other = task
  · subst itself
    have now : (base.put other progress).progress other = progress := progress_put_self progress
    constructor
    · rw [Upkeep.ahead, Upkeep.ahead, now, standing]
      exact ahead
    · rw [now, standing, unrecorded]
    · rw [now, standing, uncounted]
    · intro reading table made
      exact .inr (compiled reading table (now.symm.trans made))
    · intro questioned
      exact .inr (asked (now.symm.trans questioned))
  · refine preparesBy_of_same ?_ (waiting other itself)
    rw [progress_put_of_ne progress itself, same]

theorem prepares_take (idle : upkeep.progress task = .idle) :
    Prepares upkeep (upkeep.take task) := by
  cases task with
  | reload =>
      rw [take]
      split
      next =>
        exact ⟨rfl, rfl, rfl, rfl, rfl, rfl, List.prefix_refl _,
          fun task => preparesBy_of_same rfl rfl⟩
      next =>
        refine ⟨rfl, rfl, rfl, rfl, rfl, rfl, List.prefix_refl _, ?_⟩
        refine preparesBy_put idle rfl ?_ (.inl (List.Sublist.refl _)) rfl rfl (by simp)
          fun _ => rfl
        intro other different
        cases other <;> rfl
  | watch =>
      rw [take]
      split
      next =>
        exact ⟨rfl, rfl, rfl, rfl, rfl, rfl, List.prefix_refl _,
          fun task => preparesBy_of_same rfl rfl⟩
      next reading updates queued =>
        refine ⟨rfl, rfl, rfl, rfl, rfl, rfl, List.prefix_refl _, ?_⟩
        refine preparesBy_put idle rfl ?_ (.inl ?_) rfl rfl (by simp) (by simp)
        · intro other different
          cases other with
          | reload => rfl
          | watch => exact absurd rfl different
        · change ([reading] ++ updates).Sublist upkeep.updates
          rw [queued]
          exact List.Sublist.refl _

theorem prepares_read (asked : upkeep.progress .reload = .asked) :
    Prepares upkeep (upkeep.proceed .reload) := by
  simp only [proceed, asked]
  split
  next reading held =>
    refine ⟨rfl, rfl, rfl, rfl, rfl, rfl, List.prefix_append _ _, ?_⟩
    exact preparesBy_put asked rfl (fun _ _ => rfl) (.inr ⟨reading, held, rfl, rfl⟩) rfl rfl
      (by simp) (by simp)
  next =>
    refine ⟨rfl, rfl, rfl, rfl, rfl, rfl, List.prefix_append _ _, ?_⟩
    exact preparesBy_put asked rfl (fun _ _ => rfl) (.inl (List.Sublist.refl _)) rfl rfl
      (by simp) (by simp)

theorem prepares_compile (holding : upkeep.progress task = .holding reading) :
    Prepares upkeep (upkeep.proceed task) := by
  simp only [proceed, holding]
  split
  next table compiled =>
    refine ⟨rfl, rfl, rfl, rfl, rfl, rfl, List.prefix_refl _, ?_⟩
    refine preparesBy_put holding rfl (fun _ _ => rfl) (.inl (List.Sublist.refl _)) rfl rfl ?_
      (by simp)
    rintro _ _ ⟨⟩
    exact compiled
  next =>
    refine ⟨rfl, rfl, rfl, rfl, rfl, rfl, List.prefix_refl _, ?_⟩
    exact preparesBy_put holding rfl (fun _ _ => rfl) (.inl (List.sublist_append_right _ _)) rfl rfl
      (by simp) (by simp)
  next =>
    refine ⟨rfl, rfl, rfl, rfl, rfl, rfl, List.prefix_refl _, ?_⟩
    exact preparesBy_put holding rfl (fun _ _ => rfl) (.inl (List.sublist_append_right _ _)) rfl rfl
      (by simp) (by simp)

theorem prepares_notice (upkeep : Upkeep m) : Prepares upkeep (upkeep.after .notice) := by
  refine ⟨rfl, rfl, rfl, rfl, rfl, rfl, List.prefix_append _ _, fun task => ?_⟩
  refine ⟨?_, rfl, rfl, fun _ _ => .inl, .inl⟩
  cases task with
  | reload => exact .inl (List.Sublist.refl _)
  | watch =>
      have ahead : (upkeep.after .notice).ahead .watch =
          upkeep.ahead .watch ++ upkeep.reading?.toList := (List.append_assoc _ _ _).symm
      rw [ahead]
      cases upkeep.reading? with
      | none =>
          rw [Option.toList_none, List.append_nil]
          exact .inl (List.Sublist.refl _)
      | some reading => exact .inr ⟨reading, rfl, rfl, rfl⟩

theorem prepares_write (upkeep : Upkeep m) (file : FileContent) :
    Prepares upkeep (upkeep.after (.write file)) :=
  ⟨rfl, rfl, rfl, rfl, rfl, rfl, List.prefix_refl _, fun _ => preparesBy_of_same rfl rfl⟩

theorem prepares_request (upkeep : Upkeep m) : Prepares upkeep (upkeep.after .request) :=
  ⟨rfl, rfl, rfl, rfl, rfl, rfl, List.prefix_refl _, fun _ => preparesBy_of_same rfl rfl⟩

/-! Steps with a table at hand -/

structure Settles (upkeep base : Upkeep m) (task : Task) (before progress : Progress m) : Prop where
  standing : upkeep.progress task = before
  same : base.progress = upkeep.progress
  updates : base.updates = upkeep.updates
  readings : base.readings = upkeep.readings
  compile : base.host.compile = upkeep.host.compile
  stored : ∀ other, (base.storedBy other).map (·.reading) =
    (upkeep.storedBy other).map (·.reading) ++ if task = other then before.ahead else []
  nothing : progress.ahead = []
  unasked : progress ≠ .asked

variable {base : Upkeep m} {before progress : Progress m}

theorem Settles.trail (settles : Settles upkeep base task before progress) (other : Task) :
    (base.put task progress).trail other = upkeep.trail other := by
  have storedBy : ((base.put task progress).storedBy other).map (·.reading) = _ :=
    settles.stored other
  have waits : (base.put task progress).waiting other = upkeep.waiting other := by
    cases other with
    | reload => rfl
    | watch => exact settles.updates
  rw [Upkeep.trail, Upkeep.trail, ahead, ahead, storedBy, waits]
  by_cases itself : other = task
  · subst itself
    rw [progress_put_self, settles.nothing, settles.standing, if_pos rfl, List.nil_append,
      List.append_assoc]
  · rw [progress_put_of_ne progress itself, settles.same, if_neg (Ne.symm itself), List.append_nil]

theorem Settles.uncounted (settles : Settles upkeep base task before progress) :
    (base.put task progress).uncounted + before.uncounted =
      upkeep.uncounted + progress.uncounted := by
  have own : (base.put task progress).progress task = progress := progress_put_self progress
  have apart (other : Task) (different : other ≠ task) :
      (base.put task progress).progress other = upkeep.progress other := by
    rw [progress_put_of_ne progress different, settles.same]
  rw [Upkeep.uncounted, Upkeep.uncounted, ← settles.standing]
  cases task with
  | reload =>
      rw [own, apart .watch (by decide)]
      omega
  | watch =>
      rw [own, apart .reload (by decide)]
      omega

theorem filter_concat (installed : List (Installation m)) (last : Installation m) (task : Task) :
    (installed ++ [last]).filter (·.task = task) =
      installed.filter (·.task = task) ++ if last.task = task then [last] else [] := by
  rw [List.filter_append]
  by_cases same : last.task = task <;> simp [same]

theorem settles_store (compiled : upkeep.progress task = .compiled reading table) :
    Settles upkeep (upkeep.store task reading table) task (.compiled reading table)
      (.stored reading table) := by
  refine ⟨compiled, rfl, rfl, rfl, rfl, fun other => ?_, rfl, (by simp)⟩
  rw [storedBy, store, filter_concat, List.map_append]
  split <;> rfl

theorem settles_count (stored : upkeep.progress task = .stored reading table) :
    Settles upkeep { upkeep with host := upkeep.host.advance } task (.stored reading table)
      (.counted reading table) := by
  refine ⟨stored, rfl, rfl, rfl, rfl, fun other => ?_, rfl, (by simp)⟩
  exact ((congrArg _ (ite_self _)).trans (List.append_nil _)).symm

theorem settles_record (counted : upkeep.progress task = .counted reading table) :
    Settles upkeep (upkeep.record task reading table) task (.counted reading table) .idle := by
  refine ⟨counted, rfl, rfl, rfl, rfl, fun other => ?_, rfl, (by simp)⟩
  exact ((congrArg _ (ite_self _)).trans (List.append_nil _)).symm

end Upkeep

end Switchboard
