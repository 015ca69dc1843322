import Mathlib.Data.List.Induction
import Mathlib.Data.List.Nodup
import Switchboard.Proofs.Broadcast

/-!
A shutdown in use: handles are cloned, receivers come, look and go, and any handle may trigger at
any time. Only the first trigger sends, so there is one message at most, and nobody is ever behind
by more than that one.
-/

namespace Switchboard

namespace Shutdown

/-- What is done through a handle or with a receiver, who looks without waiting. All handles share
one shutdown. -/
inductive Operation (ι : Type) where
  | clone (handle : Nat)
  | subscribe (handle : Nat) (receiver : ι)
  | trigger (handle : Nat)
  | drop (receiver : ι)
  | receive (receiver : ι)
  deriving DecidableEq

namespace Operation

variable {ι : Type}

def isClone : Operation ι → Bool
  | .clone _ => true
  | _ => false

def Triggered (operations : List (Operation ι)) : Prop :=
  ∃ handle, .trigger handle ∈ operations

/-- A receiver that took its place and was not dropped since. -/
def Held (operations : List (Operation ι)) (receiver : ι) : Prop :=
  ∃ before handle later, operations = before ++ .subscribe handle receiver :: later ∧
    .drop receiver ∉ later

/-- A receiver stays, and no other comes under its name. -/
def Spares (operation : Operation ι) (receiver : ι) : Prop :=
  operation ≠ .drop receiver ∧ ∀ handle, operation ≠ .subscribe handle receiver

theorem held_concat {operations : List (Operation ι)} {operation : Operation ι} {receiver : ι} :
    Held (operations ++ [operation]) receiver ↔
      (∃ handle, operation = .subscribe handle receiver) ∨
        Held operations receiver ∧ operation ≠ .drop receiver := by
  constructor
  · rintro ⟨before, handle, later, split, undropped⟩
    rcases List.eq_nil_or_concat later with rfl | ⟨rest, last, rfl⟩
    · exact .inl ⟨handle, List.singleton_inj.mp (List.append_inj' split rfl).2⟩
    · rw [List.concat_eq_append] at split undropped
      rw [← List.cons_append, ← List.append_assoc] at split
      obtain ⟨rfl, same⟩ := List.append_inj' split rfl
      obtain rfl := List.singleton_inj.mp same
      rw [List.mem_append, List.mem_singleton, not_or] at undropped
      exact .inr ⟨⟨before, handle, rest, rfl, undropped.1⟩, Ne.symm undropped.2⟩
  · rintro (⟨handle, rfl⟩ | ⟨⟨before, handle, later, rfl, undropped⟩, stays⟩)
    · exact ⟨operations, handle, [], rfl, List.not_mem_nil⟩
    · refine ⟨before, handle, later ++ [operation], by simp, ?_⟩
      simp [undropped, Ne.symm stays]

theorem triggered_append {front back : List (Operation ι)} :
    Triggered (front ++ back) ↔ Triggered front ∨ Triggered back := by
  simp only [Triggered, List.mem_append, exists_or]

theorem triggered_singleton {operation : Operation ι} :
    Triggered [operation] ↔ ∃ handle, operation = .trigger handle := by
  simp only [Triggered, List.mem_singleton, eq_comm]

theorem triggered_cons {operation : Operation ι} {operations : List (Operation ι)} :
    Triggered (operation :: operations) ↔
      (∃ handle, operation = .trigger handle) ∨ Triggered operations := by
  rw [← List.singleton_append, triggered_append, triggered_singleton]

end Operation

/-- A shutdown in use, and what was found at each look so far. -/
structure Course (ι : Type) where
  shutdown : Shutdown ι
  found : List (ι × Reception)

variable {ι : Type} [DecidableEq ι]

namespace Course

def initial : Course ι := ⟨.initial, []⟩

def channel (course : Course ι) : Broadcast ι := course.shutdown.channel

def allows (course : Course ι) : Operation ι → Bool
  | .clone handle | .subscribe handle _ | .trigger handle => handle < course.shutdown.handleCount
  | .drop receiver | .receive receiver => (course.channel.next? receiver).isSome

def after (course : Course ι) : Operation ι → Course ι
  | .clone _ => { course with shutdown := course.shutdown.clone }
  | .subscribe _ receiver => { course with shutdown := course.shutdown.subscribe receiver }
  | .trigger _ => { course with shutdown := course.shutdown.trigger }
  | .drop receiver => { course with shutdown := course.shutdown.unsubscribe receiver }
  | .receive receiver =>
    match course.shutdown.receive? receiver with
    | none => course
    | some (reception, shutdown) => ⟨shutdown, course.found ++ [(receiver, reception)]⟩

def afterAll (course : Course ι) (operations : List (Operation ι)) : Course ι :=
  operations.foldl after course

theorem afterAll_append (course : Course ι) (front back : List (Operation ι)) :
    course.afterAll (front ++ back) = (course.afterAll front).afterAll back :=
  List.foldl_append

def after? (course : Course ι) (operation : Operation ι) : Option (Course ι) :=
  if course.allows operation then some (course.after operation) else none

def run? (operations : List (Operation ι)) : Option (Course ι) :=
  operations.foldlM after? initial

def isTriggered? (course : Course ι) (handle : Nat) : Option Bool :=
  if handle < course.shutdown.handleCount then some course.shutdown.triggered else none

def heard (course : Course ι) (receiver : ι) : List Reception :=
  (course.found.filter fun (other, _) => other = receiver).map Prod.snd

variable {course final : Course ι} {operation : Operation ι} {receiver : ι} {next : Nat}

theorem after_receive_of_absent (absent : course.channel.next? receiver = none) :
    course.after (.receive receiver) = course := by
  rw [after, receive?_of_absent absent]

theorem after_receive (waits : course.channel.next? receiver = some next) :
    course.after (.receive receiver) =
      ⟨{ course.shutdown with
          channel := course.channel.waitingFor receiver (course.channel.reception next).2 },
        course.found ++ [(receiver, (course.channel.reception next).1)]⟩ := by
  rw [after, receive?_of_next? waits]
  rfl

theorem after_trigger_of_triggered (triggered : course.shutdown.triggered = true) (handle : Nat) :
    course.after (.trigger handle) = course := by
  rw [after, trigger_of_triggered triggered]

theorem after_trigger_of_untriggered (untriggered : course.shutdown.triggered = false)
    (handle : Nat) :
    course.after (.trigger handle) = { course with shutdown := ⟨true, course.channel.send⟩ } := by
  rw [after, trigger_of_untriggered untriggered]
  rfl

/-! What every operation keeps -/

structure Sound (course : Course ι) : Prop where
  senders : 0 < course.channel.senders
  single : course.channel.capacity = 1
  unsent : course.shutdown.triggered = false → course.channel.sent = 0
  once : course.channel.sent ≤ 1
  reached : ∀ receiver next, course.channel.next? receiver = some next →
    next ≤ course.channel.sent

theorem sound_initial : (initial : Course ι).Sound :=
  ⟨Nat.one_pos, rfl, fun _ => rfl, Nat.zero_le 1, fun _ _ none => by cases none⟩

/-- With one message at most, a look finds it or nothing, and then there is nothing to come. -/
theorem Sound.reception (sound : course.Sound)
    (waits : course.channel.next? receiver = some next) :
    course.channel.reception next =
      (if next = course.channel.sent then .empty else .received, course.channel.sent) := by
  have reached := sound.reached receiver next waits
  have once := sound.once
  have senders := sound.senders
  unfold Broadcast.reception
  by_cases current : next = course.channel.sent
  · rw [if_pos (by omega), if_neg (by omega), if_pos current, current]
  · rw [if_neg (by omega), if_neg current]
    simp only [sound.single]
    rw [if_neg (by omega)]
    simp only [Prod.mk.injEq, true_and]
    omega

theorem Sound.after_receive (sound : course.Sound)
    (waits : course.channel.next? receiver = some next) :
    course.after (.receive receiver) =
      ⟨{ course.shutdown with
          channel := course.channel.waitingFor receiver course.channel.sent },
        course.found ++
          [(receiver, if next = course.channel.sent then .empty else .received)]⟩ := by
  rw [Course.after_receive waits, sound.reception waits]

theorem Sound.after (sound : course.Sound) (operation : Operation ι) :
    (course.after operation).Sound := by
  obtain ⟨senders, single, unsent, once, reached⟩ := id sound
  cases operation with
  | clone handle => exact ⟨Nat.succ_pos _, single, unsent, once, reached⟩
  | subscribe handle receiver =>
      refine ⟨senders, single, unsent, once, fun other next waits => ?_⟩
      change (course.channel.subscribe receiver).next? other = some next at waits
      rw [Broadcast.next?_subscribe] at waits
      split at waits
      next => exact Nat.le_of_eq (Option.some.inj waits).symm
      next => exact reached other next waits
  | trigger handle =>
      cases told : course.shutdown.triggered with
      | true =>
          rw [after_trigger_of_triggered told]
          exact sound
      | false =>
          have none := unsent told
          have sent := course.channel.sent_send
          rw [after_trigger_of_untriggered told]
          refine ⟨?_, course.channel.capacity_send.trans single, (by cases ·), ?_, ?_⟩
          · change 0 < course.channel.send.senders
            rwa [Broadcast.senders_send]
          · change course.channel.send.sent ≤ 1
            omega
          · intro other next waits
            change course.channel.send.next? other = some next at waits
            rw [Broadcast.next?_send] at waits
            have before := reached other next waits
            change next ≤ course.channel.send.sent
            omega
  | drop receiver =>
      refine ⟨senders, single, unsent, once, fun other next waits => ?_⟩
      change (course.channel.without receiver).next? other = some next at waits
      rw [Broadcast.next?_without] at waits
      split at waits
      next => cases waits
      next => exact reached other next waits
  | receive receiver =>
      cases listens : course.channel.next? receiver with
      | none =>
          rw [after_receive_of_absent listens]
          exact sound
      | some next =>
          rw [sound.after_receive listens]
          refine ⟨senders, single, unsent, once, fun other later waits => ?_⟩
          change (course.channel.waitingFor receiver course.channel.sent).next? other = some later
            at waits
          rw [Broadcast.next?_waitingFor] at waits
          split at waits
          next =>
            obtain ⟨_, -, rfl⟩ := Option.map_eq_some_iff.mp waits
            exact Nat.le_refl _
          next => exact reached other later waits

/-! What a run says of its operations -/

/-- The flag, the handles, the receivers there are and what was found, by the operations done. -/
structure Tracks (operations : List (Operation ι)) (course : Course ι) : Prop where
  sound : course.Sound
  flag : course.shutdown.triggered = true ↔ Operation.Triggered operations
  handles : course.shutdown.handleCount = 1 + operations.countP Operation.isClone
  distinct : course.channel.names.Nodup
  held : ∀ receiver, receiver ∈ course.channel.names ↔ Operation.Held operations receiver
  found : ∀ entry ∈ course.found,
    entry.2 = .empty ∨ entry.2 = .received ∧ course.shutdown.triggered = true

theorem tracks_initial : Tracks [] (initial : Course ι) := by
  refine ⟨sound_initial, ?_, rfl, List.nodup_nil, fun receiver => ?_, fun _ none => by cases none⟩
  · simp [initial, Shutdown.initial, Operation.Triggered]
  · simp [initial, Shutdown.initial, channel, Broadcast.initial, Broadcast.names, Operation.Held]

theorem triggered_after (course : Course ι) (operation : Operation ι) :
    (course.after operation).shutdown.triggered = true ↔
      course.shutdown.triggered = true ∨ ∃ handle, operation = .trigger handle := by
  cases operation with
  | clone handle => simp [after, clone]
  | subscribe handle receiver => simp [after, subscribe]
  | trigger handle =>
      cases told : course.shutdown.triggered with
      | true => simp [after_trigger_of_triggered told, told]
      | false => simp [after_trigger_of_untriggered told]
  | drop receiver => simp [after, unsubscribe]
  | receive receiver =>
      cases listens : course.channel.next? receiver with
      | none => simp [after_receive_of_absent listens]
      | some next => simp [after_receive listens]

theorem names_after (course : Course ι) (operation : Operation ι) :
    (course.after operation).channel.names =
      match operation with
      | .subscribe _ receiver =>
        (course.channel.names.filter fun name => name ≠ receiver) ++ [receiver]
      | .drop receiver => course.channel.names.filter fun name => name ≠ receiver
      | _ => course.channel.names := by
  cases operation with
  | clone handle => rfl
  | subscribe handle receiver => exact course.channel.names_subscribe receiver
  | trigger handle =>
      cases told : course.shutdown.triggered with
      | true => rw [after_trigger_of_triggered told]
      | false =>
          rw [after_trigger_of_untriggered told]
          exact course.channel.names_send
  | drop receiver => exact course.channel.names_without receiver
  | receive receiver =>
      cases listens : course.channel.next? receiver with
      | none => rw [after_receive_of_absent listens]
      | some next =>
          rw [after_receive listens]
          exact course.channel.names_waitingFor receiver _

theorem handleCount_after (course : Course ι) (operation : Operation ι) :
    (course.after operation).shutdown.handleCount =
      course.shutdown.handleCount + if operation.isClone then 1 else 0 := by
  cases operation with
  | trigger handle =>
      cases told : course.shutdown.triggered with
      | true => rw [after_trigger_of_triggered told]; rfl
      | false =>
          rw [after_trigger_of_untriggered told]
          exact course.channel.senders_send
  | receive receiver =>
      cases listens : course.channel.next? receiver with
      | none => rw [after_receive_of_absent listens]; rfl
      | some next => rw [after_receive listens]; rfl
  | _ => rfl

theorem Sound.found_after (sound : course.Sound) (operation : Operation ι) :
    (course.after operation).found = course.found ∨
      ∃ receiver next, course.channel.next? receiver = some next ∧
        (course.after operation).found = course.found ++
          [(receiver, if next = course.channel.sent then .empty else .received)] := by
  cases operation with
  | receive receiver =>
      cases listens : course.channel.next? receiver with
      | none => exact .inl (by rw [after_receive_of_absent listens])
      | some next =>
          rw [sound.after_receive listens]
          exact .inr ⟨receiver, next, listens, rfl⟩
  | _ => exact .inl rfl

theorem Tracks.after {operations : List (Operation ι)} (tracks : Tracks operations course)
    (operation : Operation ι) : Tracks (operations ++ [operation]) (course.after operation) := by
  obtain ⟨sound, flag, handles, distinct, held, found⟩ := tracks
  refine ⟨sound.after operation, ?_, ?_, ?_, fun receiver => ?_, ?_⟩
  · rw [triggered_after, Operation.triggered_append, Operation.triggered_singleton, flag]
  · rw [handleCount_after, handles, List.countP_append, List.countP_singleton, Nat.add_assoc]
  · rw [names_after]
    split
    next handle receiver => simp [List.nodup_append, distinct.filter]
    next receiver => exact distinct.filter _
    next => exact distinct
  · rw [names_after, Operation.held_concat, ← held]
    cases operation with
    | subscribe handle other =>
        by_cases same : other = receiver
        · simp [same]
        · simp [same, Ne.symm same]
    | drop other => simp [eq_comm (a := receiver)]
    | _ => simp
  · have triggered (before : course.shutdown.triggered = true) :
        (course.after operation).shutdown.triggered = true :=
      (triggered_after course operation).mpr (.inl before)
    intro entry member
    rcases sound.found_after operation with same | ⟨receiver, next, waits, more⟩
    · exact (found entry (same ▸ member)).imp id fun ⟨received, before⟩ =>
        ⟨received, triggered before⟩
    · rw [more, List.mem_append, List.mem_singleton] at member
      rcases member with old | rfl
      · exact (found entry old).imp id fun ⟨received, before⟩ => ⟨received, triggered before⟩
      · by_cases current : next = course.channel.sent
        · exact .inl (if_pos current)
        · refine .inr ⟨if_neg current, triggered ?_⟩
          by_contra untriggered
          have unsent := sound.unsent (Bool.not_eq_true _ ▸ untriggered)
          have reached := sound.reached receiver next waits
          omega

theorem tracks_afterAll (operations : List (Operation ι)) :
    Tracks operations (initial.afterAll operations) := by
  induction operations using List.reverseRecOn with
  | nil => exact tracks_initial
  | append_singleton operations operation ih =>
      rw [afterAll, List.foldl_append]
      exact ih.after operation

end Course

end Shutdown

end Switchboard
