import Switchboard.Service.Broadcast

/-!
Shutdown is announced once. The first trigger sends the one event there is to all who listen then;
later triggers do nothing.
-/

namespace Switchboard

structure Shutdown (ι : Type) where
  triggered : Bool
  channel : Broadcast ι

namespace Shutdown

variable {ι : Type} [DecidableEq ι]

def initial : Shutdown ι := ⟨false, .initial 1⟩

def subscribe (shutdown : Shutdown ι) (receiver : ι) : Shutdown ι :=
  { shutdown with channel := shutdown.channel.subscribe receiver }

def unsubscribe (shutdown : Shutdown ι) (receiver : ι) : Shutdown ι :=
  { shutdown with channel := shutdown.channel.without receiver }

def trigger (shutdown : Shutdown ι) : Shutdown ι :=
  if shutdown.triggered then shutdown
  else ⟨true, shutdown.channel.send⟩

def clone (shutdown : Shutdown ι) : Shutdown ι :=
  { shutdown with channel := shutdown.channel.addSender }

def release (shutdown : Shutdown ι) : Shutdown ι :=
  { shutdown with channel := shutdown.channel.close }

def receive? (shutdown : Shutdown ι) (receiver : ι) : Option (Reception × Shutdown ι) :=
  (shutdown.channel.receive? receiver).map fun (found, channel) =>
    (found, { shutdown with channel })

def handleCount (shutdown : Shutdown ι) : Nat := shutdown.channel.senders

def receiverCount (shutdown : Shutdown ι) : Nat := shutdown.channel.receivers.length

end Shutdown

end Switchboard
