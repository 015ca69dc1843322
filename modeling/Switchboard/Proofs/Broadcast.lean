import Switchboard.Dictionary
import Switchboard.Service.Shutdown

/-!
The receivers of a channel by the message each waits for: what joining, leaving, looking and sending
do to it.
-/

namespace Switchboard

namespace Broadcast

variable {ι : Type}

def names (channel : Broadcast ι) : List ι := channel.receivers.map Prod.fst

section Send

variable (channel : Broadcast ι)

theorem names_send : channel.send.names = channel.names := by
  rw [send]
  split <;> rfl

theorem capacity_send : channel.send.capacity = channel.capacity := by
  rw [send]
  split <;> rfl

theorem senders_send : channel.send.senders = channel.senders := by
  rw [send]
  split <;> rfl

theorem sent_send : channel.send.sent = channel.sent ∨ channel.send.sent = channel.sent + 1 := by
  rw [send]
  split
  · exact .inl rfl
  · exact .inr rfl

end Send

variable [DecidableEq ι] (channel : Broadcast ι) (receiver other : ι)

def next? : Option Nat := channel.receivers.lookup receiver

theorem next?_without :
    (channel.without receiver).next? other =
      if other = receiver then none else channel.next? other :=
  Dictionary.lookup_filter_ne receiver other channel.receivers

theorem next?_subscribe :
    (channel.subscribe receiver).next? other =
      if other = receiver then some channel.sent else channel.next? other := by
  rw [next?, subscribe, List.lookup_append, ← next?, next?_without, Dictionary.lookup_cons_eq_if]
  by_cases same : other = receiver
  · simp [same]
  · simp [same]

theorem next?_waitingFor (message : Nat) :
    (channel.waitingFor receiver message).next? other =
      if other = receiver then (channel.next? other).map fun _ => message
      else channel.next? other := by
  simp only [next?, waitingFor]
  induction channel.receivers with
  | nil => simp
  | cons first receivers ih =>
      obtain ⟨name, next⟩ := first
      by_cases moved : name = receiver
      · subst moved
        simp only [List.map_cons, if_true, Dictionary.lookup_cons_eq_if, ih]
        by_cases same : other = name <;> simp [same]
      · simp only [List.map_cons, if_neg moved, Dictionary.lookup_cons_eq_if, ih]
        by_cases same : other = name
        · subst same
          simp [moved]
        · simp [same]

theorem next?_send : channel.send.next? other = channel.next? other := by
  rw [send]
  split <;> rfl

theorem sent_send_of_next? {next : Nat} (listens : channel.next? other = some next) :
    channel.send.sent = channel.sent + 1 := by
  rw [send]
  split
  next alone =>
    rw [next?, List.isEmpty_iff.mp alone] at listens
    cases listens
  next => rfl

theorem names_without :
    (channel.without receiver).names = channel.names.filter fun name => name ≠ receiver := by
  simp only [names, without, List.filter_map]
  rfl

theorem names_subscribe :
    (channel.subscribe receiver).names =
      (channel.names.filter fun name => name ≠ receiver) ++ [receiver] := by
  rw [← names_without]
  simp [names, subscribe]

theorem names_waitingFor (message : Nat) :
    (channel.waitingFor receiver message).names = channel.names := by
  simp only [names, waitingFor, List.map_map]
  apply List.map_congr_left
  intro entry _
  simp only [Function.comp_apply]
  split <;> rfl

end Broadcast

namespace Shutdown

variable {ι : Type} {shutdown : Shutdown ι}

theorem trigger_of_triggered (triggered : shutdown.triggered = true) :
    shutdown.trigger = shutdown := by
  rw [trigger, if_pos triggered]

theorem trigger_of_untriggered (untriggered : shutdown.triggered = false) :
    shutdown.trigger = ⟨true, shutdown.channel.send⟩ := by
  rw [trigger, if_neg (by simp [untriggered])]

variable [DecidableEq ι] {receiver : ι}

theorem receive?_of_next? {next : Nat} (listens : shutdown.channel.next? receiver = some next) :
    shutdown.receive? receiver =
      some ((shutdown.channel.reception next).1,
        { shutdown with
          channel :=
            shutdown.channel.waitingFor receiver (shutdown.channel.reception next).2 }) := by
  rw [receive?, Broadcast.receive?, ← Broadcast.next?, listens]
  rfl

theorem receive?_of_absent (absent : shutdown.channel.next? receiver = none) :
    shutdown.receive? receiver = none := by
  rw [receive?, Broadcast.receive?, ← Broadcast.next?, absent]
  rfl

end Shutdown

end Switchboard
