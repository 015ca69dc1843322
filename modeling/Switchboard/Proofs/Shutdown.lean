import Switchboard.Proofs.Shutdown.Operations

/-!
What the receivers of a shutdown find over whole runs. Who was there at the first trigger finds the
event at the next look and at none after it, however often it is triggered again; who came later
finds nothing.
-/

namespace Switchboard

namespace Shutdown

namespace Course

variable {ι : Type} [DecidableEq ι] {course final : Course ι} {operation : Operation ι}
  {receiver : ι} {next : Nat}

/-! What one receiver finds -/

theorem kept_after (spares : operation.Spares receiver) (blind : operation ≠ .receive receiver)
    (settled : course.shutdown.triggered = true ∨ ∀ handle, operation ≠ .trigger handle) :
    (course.after operation).channel.sent = course.channel.sent ∧
      (course.after operation).channel.next? receiver = course.channel.next? receiver ∧
      (course.after operation).heard receiver = course.heard receiver := by
  cases operation with
  | clone handle => exact ⟨rfl, rfl, rfl⟩
  | subscribe handle other =>
      refine ⟨rfl, ?_, rfl⟩
      have apart : receiver ≠ other := fun same => spares.2 handle (same ▸ rfl)
      exact (course.channel.next?_subscribe other receiver).trans (if_neg apart)
  | trigger handle =>
      rcases settled with triggered | quiet
      · rw [after_trigger_of_triggered triggered]
        exact ⟨rfl, rfl, rfl⟩
      · exact absurd rfl (quiet handle)
  | drop other =>
      refine ⟨rfl, ?_, rfl⟩
      have apart : receiver ≠ other := fun same => spares.1 (same ▸ rfl)
      exact (course.channel.next?_without other receiver).trans (if_neg apart)
  | receive other =>
      have apart : receiver ≠ other := fun same => blind (same ▸ rfl)
      cases listens : course.channel.next? other with
      | none =>
          rw [after_receive_of_absent listens]
          exact ⟨rfl, rfl, rfl⟩
      | some next =>
          rw [after_receive listens]
          refine ⟨rfl, ?_, ?_⟩
          · exact (course.channel.next?_waitingFor other receiver _).trans (if_neg apart)
          · simp [heard, Ne.symm apart]

theorem Sound.heard_after_receive (sound : course.Sound)
    (waits : course.channel.next? receiver = some next) :
    (course.after (.receive receiver)).channel.next? receiver =
        some (course.after (.receive receiver)).channel.sent ∧
      (course.after (.receive receiver)).heard receiver = course.heard receiver ++
        [if next = course.channel.sent then .empty else .received] := by
  rw [sound.after_receive waits]
  refine ⟨?_, by simp [heard]⟩
  refine (course.channel.next?_waitingFor receiver receiver course.channel.sent).trans ?_
  rw [if_pos rfl, waits]
  rfl

theorem Sound.current_after (sound : course.Sound)
    (current : course.channel.next? receiver = some course.channel.sent)
    (spares : operation.Spares receiver)
    (settled : course.shutdown.triggered = true ∨ ∀ handle, operation ≠ .trigger handle) :
    (course.after operation).channel.next? receiver = some (course.after operation).channel.sent ∧
      (course.after operation).heard receiver = course.heard receiver ++
        .replicate ([operation].count (.receive receiver)) .empty := by
  by_cases look : operation = .receive receiver
  · subst look
    obtain ⟨waits, heard⟩ := sound.heard_after_receive current
    refine ⟨waits, heard.trans ?_⟩
    simp
  · obtain ⟨sent, waits, heard⟩ := kept_after spares look settled
    refine ⟨by rw [waits, sent, current], heard.trans ?_⟩
    simp [look]

theorem Sound.heard_of_current (sound : course.Sound) (operations : List (Operation ι))
    (current : course.channel.next? receiver = some course.channel.sent)
    (spared : ∀ operation ∈ operations, operation.Spares receiver)
    (settled : course.shutdown.triggered = true ∨ ¬Operation.Triggered operations) :
    (course.afterAll operations).channel.next? receiver =
        some (course.afterAll operations).channel.sent ∧
      (course.afterAll operations).heard receiver = course.heard receiver ++
        .replicate (operations.count (.receive receiver)) .empty := by
  induction operations generalizing course with
  | nil => exact ⟨current, by simp [afterAll]⟩
  | cons operation operations ih =>
      obtain ⟨spares, others⟩ := List.forall_mem_cons.mp spared
      rw [Operation.triggered_cons, not_or] at settled
      obtain ⟨waits, heard⟩ := sound.current_after current spares
        (settled.imp id fun quiet handle same => quiet.1 ⟨handle, same⟩)
      have later : (course.after operation).shutdown.triggered = true ∨
          ¬Operation.Triggered operations :=
        settled.imp (fun before => (triggered_after course operation).mpr (.inl before)) (·.2)
      obtain ⟨last, rest⟩ := ih (sound.after operation) waits others later
      refine ⟨last, rest.trans ?_⟩
      rw [heard, List.append_assoc, ← List.replicate_add, ← List.count_append,
        List.singleton_append]

def toldOnce : Nat → List Reception
  | 0 => []
  | looks + 1 => .received :: .replicate looks .empty

theorem Sound.heard_of_pending (sound : course.Sound) (operations : List (Operation ι))
    (waits : course.channel.next? receiver = some next) (pending : next ≠ course.channel.sent)
    (triggered : course.shutdown.triggered = true)
    (spared : ∀ operation ∈ operations, operation.Spares receiver) :
    (course.afterAll operations).heard receiver =
      course.heard receiver ++ toldOnce (operations.count (.receive receiver)) := by
  induction operations generalizing course with
  | nil => simp [afterAll, toldOnce]
  | cons operation operations ih =>
      obtain ⟨spares, others⟩ := List.forall_mem_cons.mp spared
      have later : (course.after operation).shutdown.triggered = true :=
        (triggered_after course operation).mpr (.inl triggered)
      -- After the one look that finds the event, the receiver waits for what is never sent.
      by_cases look : operation = .receive receiver
      · subst look
        obtain ⟨current, heard⟩ := sound.heard_after_receive waits
        rw [if_neg pending] at heard
        have rest := (sound.after _).heard_of_current operations current others (.inl later)
        refine rest.2.trans ?_
        rw [heard, List.count_cons_self, List.append_assoc]
        rfl
      · obtain ⟨sent, same, heard⟩ := kept_after spares look (.inl triggered)
        have rest := ih (sound.after operation) (same.trans waits) (sent ▸ pending) later others
        refine rest.trans ?_
        rw [heard, List.count_cons_of_ne look]

/-! Whole runs -/

theorem eq_afterAll {operations : List (Operation ι)}
    (ran : operations.foldlM after? course = some final) : final = course.afterAll operations := by
  induction operations generalizing course with
  | nil => exact (Option.some.inj ran).symm
  | cons operation operations ih =>
      rw [List.foldlM_cons] at ran
      obtain ⟨next, done, later⟩ := Option.bind_eq_some_iff.mp ran
      unfold after? at done
      split at done
      next =>
        obtain rfl := Option.some.inj done
        exact ih later
      next => cases done

theorem run?_split {before rest : List (Operation ι)} {handle : Nat}
    (ran : run? (before ++ .subscribe handle receiver :: rest) = some final) :
    run? before = some (initial.afterAll before) ∧
      final = ((initial.afterAll before).after (.subscribe handle receiver)).afterAll rest := by
  rw [run?, List.foldlM_append] at ran
  obtain ⟨earlier, started, later⟩ := Option.bind_eq_some_iff.mp ran
  obtain rfl := eq_afterAll started
  exact ⟨started, (eq_afterAll later).trans rfl⟩

theorem current_after_subscribe (course : Course ι) (handle : Nat) (receiver : ι) :
    (course.after (.subscribe handle receiver)).channel.next? receiver =
      some (course.after (.subscribe handle receiver)).channel.sent :=
  (course.channel.next?_subscribe receiver receiver).trans (if_pos rfl)

/-- The event is sent while a receiver waits: it finds the event at its next look, and no second
one. -/
theorem Tracks.heard_of_trigger {before rest : List (Operation ι)}
    (tracks : Tracks before course) (handle : Nat) (calm : ¬Operation.Triggered before)
    (current : course.channel.next? receiver = some course.channel.sent)
    (spared : ∀ operation ∈ rest, operation.Spares receiver) :
    (course.afterAll (.trigger handle :: rest)).heard receiver =
      course.heard receiver ++ toldOnce (rest.count (.receive receiver)) := by
  have untriggered : course.shutdown.triggered = false := by
    rw [← Bool.not_eq_true, tracks.flag]
    exact calm
  have done := after_trigger_of_untriggered untriggered handle
  have sent : course.channel.send.sent = course.channel.sent + 1 :=
    course.channel.sent_send_of_next? receiver current
  have waits : (course.after (.trigger handle)).channel.next? receiver =
      some course.channel.sent := by
    rw [done]
    exact (course.channel.next?_send receiver).trans current
  have pending : course.channel.sent ≠ (course.after (.trigger handle)).channel.sent := by
    rw [done]
    change course.channel.sent ≠ course.channel.send.sent
    omega
  have found := (tracks.sound.after (.trigger handle)).heard_of_pending rest waits pending
    ((triggered_after course _).mpr (.inr ⟨handle, rfl⟩)) spared
  refine found.trans ?_
  rw [done]
  rfl

theorem heard_of_told {before quiet rest : List (Operation ι)} {handle other : Nat}
    (ran : run? (before ++ .subscribe handle receiver :: (quiet ++ .trigger other :: rest)) =
      some final)
    (calm : ¬Operation.Triggered before) (still : ¬Operation.Triggered quiet)
    (spared : ∀ operation ∈ quiet ++ rest, operation.Spares receiver) :
    final.heard receiver = (initial.afterAll before).heard receiver ++
      (.replicate (quiet.count (.receive receiver)) .empty ++
        toldOnce (rest.count (.receive receiver))) := by
  obtain ⟨-, rfl⟩ := run?_split ran
  obtain ⟨sparedQuiet, sparedRest⟩ := List.forall_mem_append.mp spared
  have joined := (tracks_afterAll before).after (.subscribe handle receiver)
  obtain ⟨waits, silent⟩ := joined.sound.heard_of_current quiet
    (current_after_subscribe _ handle receiver) sparedQuiet (.inr still)
  have tracks := tracks_afterAll (before ++ .subscribe handle receiver :: quiet)
  have unsent : ¬Operation.Triggered (before ++ .subscribe handle receiver :: quiet) := by
    simp [Operation.triggered_append, Operation.triggered_cons, calm, still]
  rw [afterAll_append] at tracks
  have told := tracks.heard_of_trigger other unsent waits sparedRest
  rw [afterAll_append]
  refine told.trans ?_
  rw [← List.append_assoc]
  exact congrArg (· ++ _) silent

theorem heard_of_late {before rest : List (Operation ι)} {handle : Nat}
    (ran : run? (before ++ .subscribe handle receiver :: rest) = some final)
    (triggered : Operation.Triggered before)
    (spared : ∀ operation ∈ rest, operation.Spares receiver) :
    final.heard receiver = (initial.afterAll before).heard receiver ++
      .replicate (rest.count (.receive receiver)) .empty := by
  obtain ⟨-, rfl⟩ := run?_split ran
  have tracks := tracks_afterAll before
  have triggeredAfter := (triggered_after _ (.subscribe handle receiver)).mpr
    (.inl (tracks.flag.mpr triggered))
  exact ((tracks.sound.after _).heard_of_current rest (current_after_subscribe _ handle receiver)
    spared (.inl triggeredAfter)).2

/-- What a run says of its operations: how the flag stands on every handle, who is there, and what
each receiver found since it came. -/
structure Delivers (operations : List (Operation ι)) (final : Course ι) : Prop where
  handles : final.shutdown.handleCount = 1 + operations.countP Operation.isClone
  flag : ∀ handle < final.shutdown.handleCount, ∃ flag, final.isTriggered? handle = some flag ∧
    (flag = true ↔ Operation.Triggered operations)
  held : ∃ receivers : List ι, receivers.Nodup ∧
    (∀ receiver, receiver ∈ receivers ↔ Operation.Held operations receiver) ∧
    final.shutdown.receiverCount = receivers.length
  early : ¬Operation.Triggered operations → ∀ receiver, .received ∉ final.heard receiver
  unmissed : ∀ receiver missed, .lagged missed ∉ final.heard receiver
  told : ∀ before handle receiver quiet other rest,
    operations = before ++ .subscribe handle receiver :: (quiet ++ .trigger other :: rest) →
    ¬Operation.Triggered before → ¬Operation.Triggered quiet →
    (∀ operation ∈ quiet ++ rest, operation.Spares receiver) →
    ∃ earlier, run? before = some earlier ∧
      final.heard receiver = earlier.heard receiver ++
        (.replicate (quiet.count (.receive receiver)) .empty ++
          toldOnce (rest.count (.receive receiver)))
  late : ∀ before handle receiver rest,
    operations = before ++ .subscribe handle receiver :: rest → Operation.Triggered before →
    (∀ operation ∈ rest, operation.Spares receiver) →
    ∃ earlier, run? before = some earlier ∧
      final.heard receiver = earlier.heard receiver ++
        .replicate (rest.count (.receive receiver)) .empty

theorem Tracks.of_mem_heard {operations : List (Operation ι)} (tracks : Tracks operations course)
    {reception : Reception} (found : reception ∈ course.heard receiver) :
    reception = .empty ∨ reception = .received ∧ Operation.Triggered operations := by
  obtain ⟨entry, member, rfl⟩ := List.mem_map.mp found
  rw [← tracks.flag]
  exact tracks.found entry (List.mem_of_mem_filter member)

/-- Every receiver that was there at the first trigger finds the event once, and no other receiver
ever does. -/
theorem run?_delivers {operations : List (Operation ι)} {final : Course ι}
    (ran : run? operations = some final) : Delivers operations final := by
  obtain rfl := eq_afterAll ran
  have tracks := tracks_afterAll operations
  refine ⟨tracks.handles, ?_, ?_, ?_, ?_, ?_, ?_⟩
  · intro handle there
    exact ⟨_, if_pos there, tracks.flag⟩
  · exact ⟨_, tracks.distinct, tracks.held, (List.length_map _).symm⟩
  · intro untriggered receiver found
    rcases tracks.of_mem_heard found with none | ⟨-, triggered⟩
    · cases none
    · exact untriggered triggered
  · intro receiver missed found
    rcases tracks.of_mem_heard found with none | ⟨received, -⟩
    · cases none
    · cases received
  · rintro before handle receiver quiet other rest rfl calm still spared
    exact ⟨_, (run?_split ran).1, heard_of_told ran calm still spared⟩
  · rintro before handle receiver rest rfl triggered spared
    exact ⟨_, (run?_split ran).1, heard_of_late ran triggered spared⟩

def cloned : List (Operation String) :=
  [.clone 0, .subscribe 1 "server", .receive "server", .trigger 1, .subscribe 0 "late", .trigger 0,
    .receive "server", .receive "late", .receive "server"]

/-- Two triggers through two handles are one event, for the one who was there at the first. -/
theorem run?_delivers_cloned : ∃ final, run? cloned = some final ∧
    final.heard "server" = [.empty, .received, .empty] ∧ final.heard "late" = [.empty] := by
  obtain ⟨final, ran⟩ : ∃ final, run? cloned = some final := ⟨_, rfl⟩
  have delivers := run?_delivers ran
  refine ⟨final, ran, ?_, ?_⟩
  · obtain ⟨earlier, started, heard⟩ := delivers.told [.clone 0] 1 "server" [.receive "server"] 1
      [.subscribe 0 "late", .trigger 0, .receive "server", .receive "late", .receive "server"] rfl
      (by simp [Operation.Triggered]) (by simp [Operation.Triggered]) (by simp [Operation.Spares])
    cases started
    exact heard
  · obtain ⟨earlier, started, heard⟩ := delivers.late
      [.clone 0, .subscribe 1 "server", .receive "server", .trigger 1] 0 "late"
      [.trigger 0, .receive "server", .receive "late", .receive "server"] rfl
      (by simp [Operation.Triggered]) (by simp [Operation.Spares])
    cases started
    exact heard

end Course

end Shutdown

end Switchboard
