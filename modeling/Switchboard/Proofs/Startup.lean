import Mathlib.Data.List.Nodup
import Switchboard.Proofs.Startup.Moves

/-!
Signals while a service comes up. A signal may come between any two stages, and only those who
listen when it comes ever learn of it: the event is announced once, so whoever begins to listen
later waits forever.
-/

namespace Switchboard

namespace Startup

variable {startup later : Startup} {subscriber : Subscriber}

/-! Before the first signal -/

structure Quiet (startup : Startup) : Prop where
  untriggered : startup.launch.shutdown.triggered = false
  unsent : startup.channel.sent = 0
  single : startup.channel.capacity = 1
  distinct : startup.launch.stages.Nodup
  unheard : ∀ subscriber, subscriber ∉ startup.received
  waiting : ∀ subscriber next, startup.channel.next? subscriber = some next →
    next = 0 ∧ subscriber.stage ∉ startup.launch.stages

theorem quiet_initial (settings : Settings) (file : Option FileContent) :
    (initial settings file).Quiet := by
  refine ⟨rfl, rfl, rfl, ?_, fun _ => List.not_mem_nil, fun _ _ none => by cases none⟩
  change (Launch.stagesOf settings file).Nodup
  rw [Launch.stagesOf]
  cases file.isSome <;> cases settings.hotReload <;> decide

theorem Quiet.after (quiet : startup.Quiet) {move : Move}
    (moved : startup.after move = .ok later) (unsignalled : move ≠ .signal) : later.Quiet := by
  obtain ⟨triggered, sent, capacity, stages, turn⟩ := steady_after moved unsignalled
  -- With nothing sent, whoever looks finds nothing and waits for the same message.
  have found (next : Nat) (waits : next = 0) :
      (startup.channel.reception next).1 ≠ .received ∧ (startup.channel.reception next).2 = 0 := by
    have nothing : startup.channel.sent ≤ next := Nat.le_of_eq (quiet.unsent.trans waits.symm)
    rw [Broadcast.reception, if_pos nothing]
    refine ⟨?_, waits⟩
    split <;> simp
  refine ⟨triggered.trans quiet.untriggered, sent.trans quiet.unsent, capacity.trans quiet.single,
    quiet.distinct.sublist stages.sublist, ?_, ?_⟩
  · intro subscriber received
    have unheard := quiet.unheard subscriber
    cases turn subscriber with
    | kept _ same => exact unheard (same.mp received)
    | joined _ _ same => exact unheard (same.mp received)
    | left _ same => exact unheard (same.mp received)
    | @looked next waits _ hears =>
        rcases hears.mp received with old | new
        · exact unheard old
        · exact (found next (quiet.waiting subscriber next waits).1).1 new
  · intro subscriber message listens
    cases turn subscriber with
    | kept same _ =>
        obtain ⟨first, passed⟩ := quiet.waiting subscriber message (same ▸ listens)
        exact ⟨first, fun member => passed (stages.subset member)⟩
    | joined begun waits _ =>
        have distinct := quiet.distinct
        rw [begun] at distinct
        obtain rfl : startup.channel.sent = message := Option.some.inj (waits.symm.trans listens)
        exact ⟨quiet.unsent, (List.nodup_cons.mp distinct).1⟩
    | left absent _ => rw [absent] at listens; cases listens
    | @looked next before waits _ =>
        obtain ⟨first, passed⟩ := quiet.waiting subscriber next before
        obtain rfl := Option.some.inj (waits.symm.trans listens)
        exact ⟨(found next first).2, fun member => passed (stages.subset member)⟩

/-! After the first signal -/

/-- A subscriber who listened when the event was sent. -/
structure Told (startup : Startup) (subscriber : Subscriber) : Prop where
  triggered : startup.launch.shutdown.triggered = true
  sent : startup.channel.sent = 1
  single : startup.channel.capacity = 1
  passed : subscriber.stage ∉ startup.launch.stages
  waiting : ∀ next, startup.channel.next? subscriber = some next →
    next = 0 ∨ subscriber ∈ startup.received

structure Missed (startup : Startup) (subscriber : Subscriber) : Prop where
  triggered : startup.launch.shutdown.triggered = true
  unheard : subscriber ∉ startup.received
  waiting : ∀ next, startup.channel.next? subscriber = some next → startup.channel.sent ≤ next

theorem Quiet.trigger (quiet : startup.Quiet) :
    startup.launch.shutdown.trigger = ⟨true, startup.channel.send⟩ :=
  Shutdown.trigger_of_untriggered quiet.untriggered

theorem Quiet.told (quiet : startup.Quiet) (signalled : startup.after .signal = .ok later)
    (listens : startup.Listens subscriber) : later.Told subscriber := by
  cases signalled
  obtain ⟨next, waits⟩ := Option.ne_none_iff_exists'.mp listens
  have sent := startup.channel.sent_send_of_next? subscriber waits
  have single : startup.channel.send.capacity = 1 :=
    startup.channel.capacity_send.trans quiet.single
  refine ⟨by rw [Launch.signal, quiet.trigger], ?_, ?_, (quiet.waiting _ _ waits).2, ?_⟩
  · rw [channel, Launch.signal, quiet.trigger, sent, quiet.unsent]
  · rw [channel, Launch.signal, quiet.trigger, single]
  · intro message found
    rw [channel, Launch.signal, quiet.trigger, Broadcast.next?_send] at found
    exact .inl (quiet.waiting _ _ found).1

theorem Quiet.missed (quiet : startup.Quiet) (signalled : startup.after .signal = .ok later)
    (absent : ¬ startup.Listens subscriber) : later.Missed subscriber := by
  cases signalled
  refine ⟨by rw [Launch.signal, quiet.trigger], quiet.unheard subscriber, ?_⟩
  intro message found
  rw [channel, Launch.signal, quiet.trigger, Broadcast.next?_send] at found
  rw [not_not.mp absent] at found
  cases found

theorem Told.after (told : startup.Told subscriber) {move : Move}
    (moved : startup.after move = .ok later) : later.Told subscriber := by
  obtain ⟨triggered, sent, capacity, stages, turn⟩ :=
    steady_after_of_triggered moved told.triggered
  refine ⟨triggered.trans told.triggered, sent.trans told.sent, capacity.trans told.single,
    fun member => told.passed (stages.subset member), ?_⟩
  intro message listens
  cases turn subscriber with
  | kept same hears => exact (told.waiting message (same ▸ listens)).imp id hears.mpr
  | joined begun _ _ => exact absurd (begun ▸ List.mem_cons_self) told.passed
  | left absent _ => rw [absent] at listens; cases listens
  | @looked next waits _ hears =>
      refine .inr (hears.mpr ?_)
      rcases told.waiting next waits with rfl | received
      · refine .inr ?_
        simp [Broadcast.reception, told.sent, told.single]
      · exact .inl received

theorem Missed.after (missed : startup.Missed subscriber) {move : Move}
    (moved : startup.after move = .ok later) : later.Missed subscriber := by
  obtain ⟨triggered, sent, -, -, turn⟩ := steady_after_of_triggered moved missed.triggered
  have unheard := missed.unheard
  cases turn subscriber with
  | kept same hears =>
      refine ⟨triggered.trans missed.triggered, mt hears.mp unheard, fun message listens => ?_⟩
      rw [sent]
      exact missed.waiting message (same ▸ listens)
  | joined _ waits hears =>
      refine ⟨triggered.trans missed.triggered, mt hears.mp unheard, fun message listens => ?_⟩
      obtain rfl := Option.some.inj (waits.symm.trans listens)
      exact Nat.le_of_eq sent
  | left absent hears =>
      refine ⟨triggered.trans missed.triggered, mt hears.mp unheard, fun message listens => ?_⟩
      rw [absent] at listens
      cases listens
  | @looked next before waits hears =>
      have nothing := missed.waiting next before
      rw [Broadcast.reception, if_pos nothing] at waits hears
      refine ⟨triggered.trans missed.triggered, fun received => ?_, fun message listens => ?_⟩
      · rcases hears.mp received with old | new
        · exact unheard old
        · split at new <;> cases new
      · obtain rfl := Option.some.inj (waits.symm.trans listens)
        exact Nat.le_trans (Nat.le_of_eq sent) nothing

theorem Told.informed (told : startup.Told subscriber) (listens : startup.Listens subscriber) :
    startup.Informed subscriber := by
  obtain ⟨next, waits⟩ := Option.ne_none_iff_exists'.mp listens
  rcases told.waiting next waits with rfl | received
  · right
    rw [receive?_of_next? waits]
    simp [Broadcast.reception, told.sent, told.single]
  · exact .inl received

theorem Missed.not_informed (missed : startup.Missed subscriber) :
    ¬ startup.Informed subscriber := by
  rintro (received | ⟨left, pending⟩)
  · exact missed.unheard received
  · cases listens : startup.channel.next? subscriber with
    | none =>
        rw [receive?_of_absent listens] at pending
        cases pending
    | some next =>
        rw [receive?_of_next? listens, Broadcast.reception,
          if_pos (missed.waiting next listens)] at pending
        split at pending <;> cases pending

/-! Whole runs -/

theorem foldlM_after_preserves (Holds : Startup → Prop) {moves : List Move}
    (kept : ∀ startup later move, move ∈ moves → Holds startup →
      startup.after move = .ok later → Holds later)
    (holds : Holds startup) (ran : moves.foldlM after startup = .ok later) : Holds later := by
  induction moves generalizing startup with
  | nil =>
      cases ran
      exact holds
  | cons move moves ih =>
      rw [List.foldlM_cons] at ran
      cases moved : startup.after move with
      | error error =>
          rw [moved] at ran
          cases ran
      | ok next =>
          rw [moved] at ran
          refine ih (fun startup later move member => ?_) ?_ ran
          · exact kept startup later move (List.mem_cons_of_mem _ member)
          · exact kept startup next move List.mem_cons_self holds moved

theorem quiet_of_run {settings : Settings} {file : Option FileContent} {moves : List Move}
    (ran : run settings file moves = .ok later) (unsignalled : .signal ∉ moves) : later.Quiet := by
  refine foldlM_after_preserves Quiet (fun startup later move member quiet moved => ?_)
    (quiet_initial settings file) ran
  exact quiet.after moved fun signal => unsignalled (signal ▸ member)

/-- The first signal decides who is told and who is not, whatever comes after it. -/
theorem told_or_missed {settings : Settings} {file : Option FileContent} {before rest : List Move}
    (ran : run settings file (before ++ .signal :: rest) = .ok later)
    (unsignalled : .signal ∉ before) :
    ∃ earlier, run settings file before = .ok earlier ∧
      (earlier.Listens subscriber → later.Told subscriber) ∧
      (¬ earlier.Listens subscriber → later.Missed subscriber) := by
  rw [run, List.foldlM_append, ← run] at ran
  cases started : run settings file before with
  | error error =>
      rw [started] at ran
      cases ran
  | ok earlier =>
      rw [started] at ran
      have quiet := quiet_of_run started unsignalled
      have continued : rest.foldlM after _ = .ok later := ran
      refine ⟨earlier, rfl, fun listens => ?_, fun absent => ?_⟩
      · exact foldlM_after_preserves (Told · subscriber)
          (fun _ _ _ _ told moved => Told.after told moved) (quiet.told rfl listens) continued
      · exact foldlM_after_preserves (Missed · subscriber)
          (fun _ _ _ _ missed moved => Missed.after missed moved)
          (quiet.missed rfl absent) continued

/-- Wherever a launch was triggered and a subscriber listens, the event waits for it or was received
exactly if it listened already when the first signal came. -/
theorem informed_iff {settings : Settings} {file : Option FileContent} {moves : List Move}
    {final : Startup} {subscriber : Subscriber} (ran : run settings file moves = .ok final)
    (triggered : final.launch.shutdown.triggered = true) (listens : final.Listens subscriber) :
    ∃ before rest earlier, moves = before ++ .signal :: rest ∧ .signal ∉ before ∧
      run settings file before = .ok earlier ∧
      (final.Informed subscriber ↔ earlier.Listens subscriber) := by
  have signalled : .signal ∈ moves := by
    by_contra unsignalled
    have untriggered := (quiet_of_run ran unsignalled).untriggered
    rw [triggered] at untriggered
    cases untriggered
  -- All that follows the first signal keeps a subscriber told or keeps it out.
  obtain ⟨before, rest, rfl, first⟩ := List.eq_append_cons_of_mem signalled
  obtain ⟨earlier, started, told, missed⟩ := told_or_missed ran first
  refine ⟨before, rest, earlier, rfl, first, started, ?_⟩
  by_cases listened : earlier.Listens subscriber
  · exact iff_of_true ((told listened).informed listens) listened
  · exact iff_of_false (missed listened).not_informed listened

def listeningFirst : List Move := [.advance, .advance, .signal]

theorem informed_iff_listeningFirst : ∃ final, run .default none listeningFirst = .ok final ∧
    ∃ before rest earlier, listeningFirst = before ++ .signal :: rest ∧ .signal ∉ before ∧
      run .default none before = .ok earlier ∧
      (final.Informed .server ↔ earlier.Listens .server) := by
  obtain ⟨final, ran, triggered, waits⟩ :
      ∃ final, run .default none listeningFirst = .ok final ∧
        final.launch.shutdown.triggered = true ∧ final.channel.next? .server = some 0 :=
    ⟨_, rfl, rfl, rfl⟩
  have listens : final.Listens .server := by
    rw [Listens, waits]
    exact Option.some_ne_none 0
  exact ⟨final, ran, informed_iff ran triggered listens⟩

def signalFirst : List Move := [.signal, .advance, .advance]

/-- A signal between two stages is lost on the server: it comes up, and stops by nothing that
follows. -/
theorem signalFirst_lost :
    (∃ final, run .default none signalFirst = .ok final ∧ final.launch.stages = [] ∧
      final.launch.shutdown.triggered = true ∧ final.Listens .server) ∧
    ∀ moves final, run .default none (signalFirst ++ moves) = .ok final →
      ¬ final.Informed .server := by
  refine ⟨⟨_, rfl, rfl, rfl, Option.some_ne_none 0⟩, fun moves final ran => ?_⟩
  have split : run .default none ([] ++ .signal :: .advance :: .advance :: moves) = .ok final := ran
  obtain ⟨earlier, started, -, missed⟩ := told_or_missed split List.not_mem_nil
  cases started
  exact Missed.not_informed (missed fun listens => listens rfl)

end Startup

end Switchboard
