import Mathlib.Data.List.Induction
import Switchboard.Proofs.Upkeep.Steps

/-!
What every run keeps. Each task stores in the order of its readings, what it stored it records, and
the table, the number of routes and the generation that a host shows are those of what was stored
and recorded.
-/

namespace Switchboard

namespace Upkeep

variable {m : Type → Type} {upkeep later : Upkeep m} {task : Task} {reading : Reading}
  {table : Table m}

/-- Settings that the file held when it was read. -/
def Genuine (upkeep : Upkeep m) (reading : Reading) : Prop :=
  ∃ file, upkeep.readings[reading.order]? = some file ∧
    Settings.load file = .ok reading.settings

/-- What was read and compiled is in order, task by task. -/
structure Ordered (first : Host m) (upkeep : Upkeep m) : Prop where
  compile : upkeep.host.compile = first.compile
  asked : ∀ task, upkeep.progress task = .asked → task = .reload
  compiled : ∀ task reading table, upkeep.progress task = .compiled reading table →
    (first.compile reading.settings).result = .ok table
  genuine : ∀ task, ∀ reading ∈ upkeep.trail task, upkeep.Genuine reading
  ascending : ∀ task, (upkeep.trail task).Pairwise fun a b => a.order < b.order

/-- What the host shows is accounted for by what was stored and recorded. -/
structure Accounted (first : Host m) (upkeep : Upkeep m) : Prop where
  table : upkeep.host.table = (upkeep.stored.getLast?.map (·.table)).getD first.table
  routes : upkeep.host.metrics.routes =
    (upkeep.recorded.getLast?.map (·.table.routeCount)).or first.metrics.routes
  generation :
    upkeep.host.generation + upkeep.uncounted = first.generation + upkeep.stored.length
  compiled : ∀ installed ∈ upkeep.stored,
    (first.compile installed.reading.settings).result = .ok installed.table
  recorded : ∀ task,
    upkeep.recordedBy task ++ (upkeep.progress task).unrecorded task = upkeep.storedBy task

variable {first : Host m}

theorem Genuine.mono (genuine : upkeep.Genuine reading)
    (readings : upkeep.readings <+: later.readings) : later.Genuine reading := by
  obtain ⟨file, found, loaded⟩ := genuine
  obtain ⟨more, extended⟩ := readings
  have inside := (List.getElem?_eq_some_iff.mp found).1
  refine ⟨file, ?_, loaded⟩
  rw [← extended, List.getElem?_append_left inside, found]

theorem genuine_of_reading? (held : upkeep.reading? = some reading)
    (readings : later.readings = upkeep.readings ++ [upkeep.file]) :
    reading.order = upkeep.readings.length ∧ later.Genuine reading := by
  rw [reading?] at held
  split at held
  next settings loaded =>
    cases held
    refine ⟨rfl, upkeep.file, ?_, loaded⟩
    rw [readings, List.getElem?_concat_length]
  next => cases held

theorem Prepares.trail (prepares : Prepares upkeep later) (task : Task) :
    (later.trail task).Sublist (upkeep.trail task) ∨ ∃ reading,
      later.trail task = upkeep.trail task ++ [reading] ∧
        reading.order = upkeep.readings.length ∧ later.Genuine reading := by
  rw [Upkeep.trail, Upkeep.trail, Upkeep.storedBy, Upkeep.storedBy, prepares.stored]
  -- A reading is as late as there were readings before, and all earlier ones have a place there.
  rcases (prepares.by_task task).ahead with fewer | ⟨reading, held, more, read⟩
  · exact .inl (fewer.append_left _)
  · refine .inr ⟨reading, ?_, genuine_of_reading? held read⟩
    rw [more, List.append_assoc]

theorem Ordered.prepares (ordered : Ordered first upkeep) (prepares : Prepares upkeep later) :
    Ordered first later := by
  have old (task : Task) (reading : Reading) (member : reading ∈ upkeep.trail task) :
      later.Genuine reading := (ordered.genuine task reading member).mono prepares.readings
  constructor
  · exact prepares.compile.trans ordered.compile
  · intro task asked
    rcases (prepares.by_task task).asked asked with before | reload
    · exact ordered.asked task before
    · exact reload
  · intro task reading table compiled
    rcases (prepares.by_task task).compiled reading table compiled with before | made
    · exact ordered.compiled task reading table before
    · rw [← ordered.compile]
      exact made
  · intro task reading member
    rcases prepares.trail task with fewer | ⟨fresh, more, -, genuine⟩
    · exact old task reading (fewer.subset member)
    · rw [more, List.mem_append] at member
      rcases member with before | same
      · exact old task reading before
      · exact List.mem_singleton.mp same ▸ genuine
  · intro task
    rcases prepares.trail task with fewer | ⟨reading, more, last, -⟩
    · exact (ordered.ascending task).sublist fewer
    · rw [more, List.pairwise_append]
      refine ⟨ordered.ascending task, List.pairwise_singleton _ _, fun other member _ same => ?_⟩
      obtain ⟨file, found, -⟩ := ordered.genuine task other member
      rw [List.mem_singleton.mp same, last]
      exact (List.getElem?_eq_some_iff.mp found).1

theorem Accounted.prepares (accounted : Accounted first upkeep)
    (prepares : Prepares upkeep later) : Accounted first later := by
  obtain ⟨stored, recorded, table, generation, routes, -, -, tasks⟩ := prepares
  constructor
  · rw [table, stored, accounted.table]
  · rw [routes, recorded, accounted.routes]
  · rw [generation, stored, ← accounted.generation, uncounted, uncounted, (tasks _).uncounted,
      (tasks _).uncounted]
  · rw [stored]
    exact accounted.compiled
  · intro task
    rw [recordedBy, storedBy, recorded, stored, (tasks task).unrecorded]
    exact accounted.recorded task

variable {base : Upkeep m} {before progress : Progress m}

theorem Ordered.settles (ordered : Ordered first upkeep)
    (settles : Settles upkeep base task before progress) :
    Ordered first (base.put task progress) := by
  constructor
  · exact settles.compile.trans ordered.compile
  · intro other asked
    by_cases itself : other = task
    · subst itself
      rw [progress_put_self] at asked
      exact absurd asked settles.unasked
    · rw [progress_put_of_ne progress itself, settles.same] at asked
      exact ordered.asked other asked
  · intro other reading table compiled
    by_cases itself : other = task
    · subst itself
      rw [progress_put_self] at compiled
      have nothing := settles.nothing
      rw [compiled] at nothing
      cases nothing
    · rw [progress_put_of_ne progress itself, settles.same] at compiled
      exact ordered.compiled other reading table compiled
  · intro other reading member
    rw [settles.trail] at member
    refine (ordered.genuine other reading member).mono ?_
    rw [← settles.readings]
    exact List.prefix_refl _
  · intro other
    rw [settles.trail]
    exact ordered.ascending other

theorem recorded_put (accounted : Accounted first upkeep)
    (settles : Settles upkeep base task before progress)
    (own : base.recordedBy task ++ progress.unrecorded task = base.storedBy task)
    (others : ∀ other, other ≠ task → base.recordedBy other = upkeep.recordedBy other ∧
      base.storedBy other = upkeep.storedBy other) (other : Task) :
    (base.put task progress).recordedBy other ++
        ((base.put task progress).progress other).unrecorded other =
      (base.put task progress).storedBy other := by
  change base.recordedBy other ++ _ = base.storedBy other
  by_cases itself : other = task
  · subst itself
    rw [progress_put_self, own]
  · obtain ⟨recorded, stored⟩ := others other itself
    rw [progress_put_of_ne progress itself, settles.same, recorded, stored]
    exact accounted.recorded other

theorem Accounted.store (ordered : Ordered first upkeep) (accounted : Accounted first upkeep)
    (compiled : upkeep.progress task = .compiled reading table) :
    Accounted first ((upkeep.store task reading table).put task (.stored reading table)) := by
  have settles := settles_store compiled
  have storedBy (other : Task) : (upkeep.store task reading table).storedBy other =
      upkeep.storedBy other ++ if task = other then [⟨task, reading, table⟩] else [] :=
    filter_concat upkeep.stored ⟨task, reading, table⟩ other
  constructor
  · change table = ((upkeep.stored ++ [_]).getLast?.map _).getD _
    rw [List.getLast?_concat]
    rfl
  · exact accounted.routes
  · have uncounted : _ + 0 = upkeep.uncounted + 1 := settles.uncounted
    have generation := accounted.generation
    change upkeep.host.generation + _ = first.generation + (upkeep.stored ++ [_]).length
    rw [List.length_append, List.length_singleton]
    omega
  · intro installed member
    rcases List.mem_append.mp member with old | new
    · exact accounted.compiled installed old
    · rw [List.mem_singleton.mp new]
      exact ordered.compiled task reading table compiled
  · refine recorded_put accounted settles ?_ fun other different => ⟨rfl, ?_⟩
    · have recorded := accounted.recorded task
      rw [compiled] at recorded
      change upkeep.recordedBy task ++ [⟨task, reading, table⟩] = _
      rw [storedBy, if_pos rfl, ← recorded]
      exact congrArg (· ++ [_]) (List.append_nil _).symm
    · rw [storedBy, if_neg (Ne.symm different), List.append_nil]

theorem Accounted.count (accounted : Accounted first upkeep)
    (stored : upkeep.progress task = .stored reading table) :
    Accounted first
      ({ upkeep with host := upkeep.host.advance }.put task (.counted reading table)) := by
  have settles := settles_count stored
  constructor
  · exact accounted.table
  · exact accounted.routes
  · have uncounted : _ + 1 = upkeep.uncounted + 0 := settles.uncounted
    have generation := accounted.generation
    change upkeep.host.generation + 1 + _ = first.generation + upkeep.stored.length
    omega
  · exact accounted.compiled
  · refine recorded_put accounted settles ?_ fun other different => ⟨rfl, rfl⟩
    have recorded := accounted.recorded task
    rw [stored] at recorded
    exact recorded

theorem Accounted.record (accounted : Accounted first upkeep)
    (counted : upkeep.progress task = .counted reading table) :
    Accounted first ((upkeep.record task reading table).put task .idle) := by
  have settles := settles_record counted
  have recordedBy (other : Task) : (upkeep.record task reading table).recordedBy other =
      upkeep.recordedBy other ++ if task = other then [⟨task, reading, table⟩] else [] :=
    filter_concat upkeep.recorded ⟨task, reading, table⟩ other
  constructor
  · exact accounted.table
  · change some table.routeCount = ((upkeep.recorded ++ [_]).getLast?.map _).or _
    rw [List.getLast?_concat]
    rfl
  · have uncounted : _ + 0 = upkeep.uncounted + 0 := settles.uncounted
    have generation := accounted.generation
    change upkeep.host.generation + _ = first.generation + upkeep.stored.length
    omega
  · exact accounted.compiled
  · refine recorded_put accounted settles ?_ fun other different => ⟨?_, rfl⟩
    · have recorded := accounted.recorded task
      rw [counted] at recorded
      rw [recordedBy, if_pos rfl]
      exact (List.append_nil _).trans recorded
    · rw [recordedBy, if_neg (Ne.symm different), List.append_nil]

/-! Whole runs -/

structure Sound (first : Host m) (upkeep : Upkeep m) : Prop where
  ordered : Ordered first upkeep
  accounted : Accounted first upkeep

theorem Sound.prepares (sound : Sound first upkeep) (prepares : Prepares upkeep later) :
    Sound first later :=
  ⟨sound.ordered.prepares prepares, sound.accounted.prepares prepares⟩

theorem sound_start (host : Host m) (file : FileContent) : Sound host (start host file) := by
  have trail (task : Task) : (start host file).trail task = [] := by cases task <;> rfl
  constructor
  · constructor
    · rfl
    · intro task asked
      cases asked
    · intro task reading table compiled
      cases compiled
    · intro task reading member
      rw [trail] at member
      cases member
    · intro task
      rw [trail]
      exact .nil
  · refine ⟨rfl, rfl, rfl, fun installed stored => ?_, fun _ => rfl⟩
    cases stored

theorem Sound.proceed (sound : Sound first upkeep) (task : Task) :
    Sound first (upkeep.proceed task) := by
  -- Up to compiling, a step prepares; from storing on, the logs and the host change together.
  cases standing : upkeep.progress task with
  | idle =>
      rw [Upkeep.proceed, standing]
      exact sound.prepares (prepares_take standing)
  | asked =>
      obtain rfl := sound.ordered.asked task standing
      exact sound.prepares (prepares_read standing)
  | holding reading => exact sound.prepares (prepares_compile standing)
  | compiled reading table =>
      rw [Upkeep.proceed, standing]
      exact ⟨sound.ordered.settles (settles_store standing),
        sound.accounted.store sound.ordered standing⟩
  | stored reading table =>
      rw [Upkeep.proceed, standing]
      exact ⟨sound.ordered.settles (settles_count standing), sound.accounted.count standing⟩
  | counted reading table =>
      rw [Upkeep.proceed, standing]
      exact ⟨sound.ordered.settles (settles_record standing), sound.accounted.record standing⟩

theorem Sound.after (sound : Sound first upkeep) (move : Move) :
    Sound first (upkeep.after move) := by
  cases move with
  | write file => exact sound.prepares (upkeep.prepares_write file)
  | request => exact sound.prepares upkeep.prepares_request
  | notice => exact sound.prepares upkeep.prepares_notice
  | proceed task => exact sound.proceed task

theorem sound_run (host : Host m) (file : FileContent) (moves : List Move) :
    Sound host (run host file moves) := by
  induction moves using List.reverseRecOn with
  | nil => exact sound_start host file
  | append_singleton moves move ih =>
      rw [run, List.foldl_append]
      exact ih.after move

end Upkeep

end Switchboard
