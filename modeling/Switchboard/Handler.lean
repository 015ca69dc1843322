import Switchboard.Exchange

/-!
Handlers work on an exchange in a monad of their own and say how they ended. A handler that
panicked leaves an exchange that nobody reads.
-/

namespace Switchboard

inductive HandlerError where
  | exchange (cause : ExchangeError)
  | other (message : String)
  deriving DecidableEq, Repr

def HandlerError.message : HandlerError → String
  | .exchange cause => cause.message
  | .other message => message

inductive Outcome where
  | succeeded
  | failed (error : HandlerError)
  | panicked
  deriving DecidableEq, Repr

/-- The exchange that a handler leaves behind, and how it ended. -/
structure Handled where
  exchange : Exchange
  outcome : Outcome

abbrev Handler (m : Type → Type) := Exchange → m Handled

def Handled.ofChange (change : Change ExchangeError Exchange Unit) (exchange : Exchange) :
    Handled :=
  match change.run exchange with
  | .ok () left => ⟨left, .succeeded⟩
  | .error error left => ⟨left, .failed (.exchange error)⟩

def Handler.fixed [Monad m] (status : UInt16) (body : Bytes) : Handler m :=
  fun exchange => pure (.ofChange (Exchange.respond status body) exchange)

def Handler.notFound [Monad m] : Handler m :=
  Handler.fixed 404 []

end Switchboard
