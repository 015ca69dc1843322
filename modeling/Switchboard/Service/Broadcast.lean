/-!
A channel from many senders to many receivers. A message goes to the receivers subscribed when it is
sent. Only the last few messages are kept, so a receiver that is slower learns how many it missed.
-/

namespace Switchboard

inductive Reception where
  | received
  | empty
  | lagged (missed : Nat)
  | closed
  deriving DecidableEq, Repr

/-- Receivers by name, each with the number of the message it waits for. -/
structure Broadcast (ι : Type) where
  capacity : Nat
  sent : Nat
  senders : Nat
  receivers : List (ι × Nat)

namespace Broadcast

variable {ι : Type} [DecidableEq ι]

def initial (capacity : Nat) : Broadcast ι := ⟨capacity, 0, 1, []⟩

def without (channel : Broadcast ι) (receiver : ι) : Broadcast ι :=
  { channel with receivers := channel.receivers.filter fun (other, _) => other ≠ receiver }

def subscribe (channel : Broadcast ι) (receiver : ι) : Broadcast ι :=
  { channel with receivers := (channel.without receiver).receivers ++ [(receiver, channel.sent)] }

def send (channel : Broadcast ι) : Broadcast ι :=
  if channel.receivers.isEmpty then channel else { channel with sent := channel.sent + 1 }

def addSender (channel : Broadcast ι) : Broadcast ι :=
  { channel with senders := channel.senders + 1 }

def close (channel : Broadcast ι) : Broadcast ι := { channel with senders := 0 }

def waitingFor (channel : Broadcast ι) (receiver : ι) (message : Nat) : Broadcast ι :=
  { channel with
    receivers := channel.receivers.map fun (other, next) =>
      if other = receiver then (other, message) else (other, next) }

/-- What a receiver that waits for a message finds, and the message it then waits for. -/
def reception (channel : Broadcast ι) (next : Nat) : Reception × Nat :=
  if channel.sent ≤ next then (if channel.senders = 0 then .closed else .empty, next)
  else
    let oldest := channel.sent - channel.capacity
    if next < oldest then (.lagged (oldest - next), oldest) else (.received, next + 1)

def receive? (channel : Broadcast ι) (receiver : ι) : Option (Reception × Broadcast ι) :=
  (channel.receivers.lookup receiver).map fun next =>
    let (found, next) := channel.reception next
    (found, channel.waitingFor receiver next)

end Broadcast

end Switchboard
