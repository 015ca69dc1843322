/-!
Operations on a state that may fail. What an operation did before it failed stays done; an atomic
one has then done nothing.
-/

namespace Switchboard

abbrev Change (ε σ : Type) : Type → Type := EStateM ε σ

namespace Change

variable {ε σ : Type}

def after (change : Change ε σ Unit) (state : σ) : σ :=
  match change.run state with
  | .ok () left => left
  | .error _ left => left

def result (change : Change ε σ Unit) (state : σ) : Except ε σ :=
  match change.run state with
  | .ok () left => .ok left
  | .error error _ => .error error

def Atomic (change : Change ε σ Unit) : Prop :=
  ∀ state error left, change.run state = .error error left → left = state

end Change

end Switchboard
