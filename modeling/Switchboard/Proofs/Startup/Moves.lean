import Switchboard.Proofs.Broadcast
import Switchboard.Service.Startup

/-!
A launch in progress: its stages, and signals between them, while those who listen already look for
the event or leave. Nothing but a first signal sends the event, so all other moves keep what was
sent, and someone begins to listen at one stage only.
-/

namespace Switchboard

def Subscriber.stage : Subscriber → Stage
  | .reloads => .listenForReloads
  | .server => .listenForShutdown

/-- A launch in progress, and who received the event so far. -/
structure Startup where
  launch : Launch
  received : List Subscriber

namespace Startup

/-- What may happen next: a stage, a signal, or that someone who listens looks for the event or
leaves. -/
inductive Move where
  | advance
  | signal
  | look (subscriber : Subscriber)
  | leave (subscriber : Subscriber)

def initial (settings : Settings) (file : Option FileContent) : Startup :=
  ⟨.initial settings file, []⟩

def withShutdown (startup : Startup) (shutdown : Shutdown Subscriber) : Startup :=
  { startup with launch := { startup.launch with shutdown } }

def look (startup : Startup) (subscriber : Subscriber) : Startup :=
  match startup.launch.shutdown.receive? subscriber with
  | none => startup
  | some (.received, shutdown) =>
    { startup.withShutdown shutdown with received := startup.received ++ [subscriber] }
  | some (_, shutdown) => startup.withShutdown shutdown

def after (startup : Startup) : Move → Except StartupError Startup
  | .advance => do return { startup with launch := ← startup.launch.advance }
  | .signal => .ok { startup with launch := startup.launch.signal }
  | .look subscriber => .ok (startup.look subscriber)
  | .leave subscriber =>
    .ok (startup.withShutdown (startup.launch.shutdown.unsubscribe subscriber))

def run (settings : Settings) (file : Option FileContent) (moves : List Move) :
    Except StartupError Startup :=
  moves.foldlM after (initial settings file)

def channel (startup : Startup) : Broadcast Subscriber := startup.launch.shutdown.channel

def Listens (startup : Startup) (subscriber : Subscriber) : Prop :=
  startup.channel.next? subscriber ≠ none

/-- The event waits for a subscriber, or was received. -/
def Informed (startup : Startup) (subscriber : Subscriber) : Prop :=
  subscriber ∈ startup.received ∨
    ∃ left, startup.launch.shutdown.receive? subscriber = some (.received, left)

variable {startup later : Startup} {subscriber : Subscriber} {next : Nat}

theorem receive?_of_next? (listens : startup.channel.next? subscriber = some next) :
    startup.launch.shutdown.receive? subscriber =
      some ((startup.channel.reception next).1,
        { startup.launch.shutdown with
          channel := startup.channel.waitingFor subscriber (startup.channel.reception next).2 }) :=
  Shutdown.receive?_of_next? listens

theorem receive?_of_absent (absent : startup.channel.next? subscriber = none) :
    startup.launch.shutdown.receive? subscriber = none :=
  Shutdown.receive?_of_absent absent

theorem look_of_absent (absent : startup.channel.next? subscriber = none) :
    startup.look subscriber = startup := by
  rw [look, receive?_of_absent absent]

theorem look_of_next? (listens : startup.channel.next? subscriber = some next) :
    startup.look subscriber =
      ⟨{ startup.launch with shutdown := { startup.launch.shutdown with
          channel := startup.channel.waitingFor subscriber (startup.channel.reception next).2 } },
        startup.received ++
          if (startup.channel.reception next).1 = .received then [subscriber] else []⟩ := by
  rw [look, receive?_of_next? listens]
  cases (startup.channel.reception next).1 <;> simp [withShutdown]

theorem shutdown_of_perform {launch left : Launch} {stage : Stage}
    (performed : launch.perform stage = .ok left) :
    left.stages = launch.stages ∧
      (left.shutdown = launch.shutdown ∨
        ∃ subscriber, Subscriber.stage subscriber = stage ∧
          left.shutdown = launch.shutdown.subscribe subscriber) := by
  cases stage with
  | listenForReloads =>
      cases performed
      exact ⟨rfl, .inr ⟨.reloads, rfl, rfl⟩⟩
  | watchFile =>
      unfold Launch.perform at performed
      dsimp only at performed
      split at performed
      next => cases performed
      next => cases performed; exact ⟨rfl, .inl rfl⟩
  | bindListener =>
      unfold Launch.perform at performed
      dsimp only at performed
      split at performed
      next => cases performed
      next => cases performed; exact ⟨rfl, .inl rfl⟩
  | listenForShutdown =>
      cases performed
      exact ⟨rfl, .inr ⟨.server, rfl, rfl⟩⟩

theorem after_advance (moved : startup.after .advance = .ok later) :
    later = startup ∨
      later.received = startup.received ∧
      ∃ stage stages, startup.launch.stages = stage :: stages ∧ later.launch.stages = stages ∧
        (later.launch.shutdown = startup.launch.shutdown ∨
          ∃ subscriber, Subscriber.stage subscriber = stage ∧
            later.launch.shutdown = startup.launch.shutdown.subscribe subscriber) := by
  obtain ⟨launch, received⟩ := startup
  cases advanced : launch.advance with
  | error error =>
      rw [after, advanced] at moved
      cases moved
  | ok left =>
      rw [after, advanced] at moved
      obtain rfl : ⟨left, received⟩ = later := Except.ok.inj moved
      unfold Launch.advance at advanced
      split at advanced
      next =>
        cases advanced
        exact .inl rfl
      next stage stages before =>
        obtain ⟨rest, shutdown⟩ := shutdown_of_perform advanced
        exact .inr ⟨rfl, stage, stages, before, rest, shutdown⟩

inductive Turn (startup later : Startup) (subscriber : Subscriber) : Prop
  | kept : later.channel.next? subscriber = startup.channel.next? subscriber →
      (subscriber ∈ later.received ↔ subscriber ∈ startup.received) →
      Turn startup later subscriber
  | joined : startup.launch.stages = subscriber.stage :: later.launch.stages →
      later.channel.next? subscriber = some startup.channel.sent →
      (subscriber ∈ later.received ↔ subscriber ∈ startup.received) →
      Turn startup later subscriber
  | left : later.channel.next? subscriber = none →
      (subscriber ∈ later.received ↔ subscriber ∈ startup.received) →
      Turn startup later subscriber
  | looked {next : Nat} : startup.channel.next? subscriber = some next →
      later.channel.next? subscriber = some (startup.channel.reception next).2 →
      (subscriber ∈ later.received ↔ subscriber ∈ startup.received ∨
        (startup.channel.reception next).1 = .received) →
      Turn startup later subscriber

structure Steady (startup later : Startup) : Prop where
  triggered : later.launch.shutdown.triggered = startup.launch.shutdown.triggered
  sent : later.channel.sent = startup.channel.sent
  capacity : later.channel.capacity = startup.channel.capacity
  stages : later.launch.stages <:+ startup.launch.stages
  turn : ∀ subscriber, Turn startup later subscriber

theorem Steady.refl (startup : Startup) : Steady startup startup :=
  ⟨rfl, rfl, rfl, List.suffix_refl _, fun _ => .kept rfl .rfl⟩

theorem steady_advance (moved : startup.after .advance = .ok later) : Steady startup later := by
  obtain rfl | ⟨received, stage, stages, before, rest, same | ⟨joined, rfl, same⟩⟩ :=
    after_advance moved
  · exact .refl later
  · have channel : later.channel = startup.channel := congrArg Shutdown.channel same
    refine ⟨by rw [same], by rw [channel], by rw [channel], ?_, fun other => ?_⟩
    · rw [before, rest]
      exact List.suffix_cons stage stages
    · exact .kept (by rw [channel]) (by rw [received])
  · have channel : later.channel = startup.channel.subscribe joined :=
      congrArg Shutdown.channel same
    refine ⟨by rw [same]; rfl, by rw [channel]; rfl, by rw [channel]; rfl, ?_, fun other => ?_⟩
    · rw [before, rest]
      exact List.suffix_cons _ stages
    · have next : later.channel.next? other = _ :=
        channel ▸ Broadcast.next?_subscribe startup.channel joined other
      by_cases itself : other = joined
      · subst itself
        exact .joined (by rw [before, rest]) (by rw [next, if_pos rfl]) (by rw [received])
      · exact .kept (by rw [next, if_neg itself]) (by rw [received])

theorem steady_look (startup : Startup) (subscriber : Subscriber) :
    Steady startup (startup.look subscriber) := by
  cases listens : startup.channel.next? subscriber with
  | none =>
      rw [look_of_absent listens]
      exact .refl startup
  | some next =>
      rw [look_of_next? listens]
      refine ⟨rfl, rfl, rfl, List.suffix_refl _, fun other => ?_⟩
      have waits := Broadcast.next?_waitingFor startup.channel subscriber other
        (startup.channel.reception next).2
      by_cases itself : other = subscriber
      · subst itself
        rw [if_pos rfl, listens] at waits
        exact .looked listens waits (by simp)
      · rw [if_neg itself] at waits
        exact .kept waits (by simp [itself])

theorem steady_leave (startup : Startup) (subscriber : Subscriber) :
    Steady startup (startup.withShutdown (startup.launch.shutdown.unsubscribe subscriber)) := by
  refine ⟨rfl, rfl, rfl, List.suffix_refl _, fun other => ?_⟩
  have waits := Broadcast.next?_without startup.channel subscriber other
  by_cases itself : other = subscriber
  · rw [if_pos itself] at waits
    exact .left waits .rfl
  · rw [if_neg itself] at waits
    exact .kept waits .rfl

theorem steady_after {move : Move} (moved : startup.after move = .ok later)
    (unsignalled : move ≠ .signal) : Steady startup later := by
  cases move with
  | advance => exact steady_advance moved
  | signal => exact absurd rfl unsignalled
  | look subscriber => cases moved; exact steady_look startup subscriber
  | leave subscriber => cases moved; exact steady_leave startup subscriber

theorem after_signal_of_triggered (triggered : startup.launch.shutdown.triggered = true) :
    startup.after .signal = .ok startup := by
  obtain ⟨⟨settings, file, ⟨told, channel⟩, stages⟩, received⟩ := startup
  obtain rfl : told = true := triggered
  rfl

/-- Once the shutdown was triggered, nothing else is sent. -/
theorem steady_after_of_triggered {move : Move} (moved : startup.after move = .ok later)
    (triggered : startup.launch.shutdown.triggered = true) : Steady startup later := by
  by_cases signalled : move = .signal
  · subst signalled
    rw [after_signal_of_triggered triggered] at moved
    cases moved
    exact .refl startup
  · exact steady_after moved signalled

end Startup

end Switchboard
