import Switchboard.Deployment.Host
import Switchboard.Settings.Load

/-!
Calls that bring a host up to date: the first deployment, a redeployment, and one with the settings
of a file. A file that does not load changes nothing.
-/

namespace Switchboard

inductive Host.Call where
  | start (settings : Settings)
  | redeploy (settings : Settings)
  | reload (file : FileContent)

inductive CallError where
  | unreadable (error : SettingsError)
  | undeployed (failure : Failure)
  deriving DecidableEq, Repr

structure Called (m : Type → Type) where
  host : Host m
  notices : List Notice
  events : List Event
  result : Except CallError Unit

namespace Host

variable {m : Type → Type}

def deploy (host : Host m) (settings : Settings) : Called m :=
  let deployed := host.redeploy settings
  { deployed with result := deployed.result.mapError .undeployed }

def reload (host : Host m) (file : FileContent) : Called m :=
  match Settings.load file with
  | .ok settings => host.deploy settings
  | .error error =>
    { host
      notices := []
      events := [.reloadFailed]
      result := .error (.unreadable error) }

def call (host : Host m) : Call → Called m
  | .start settings => host.deploy settings
  | .redeploy settings => host.deploy settings
  | .reload file => host.reload file

def callAll (host : Host m) : List Call → Host m × List (Except CallError Unit)
  | [] => (host, [])
  | call :: calls =>
    let called := host.call call
    let (final, results) := called.host.callAll calls
    (final, called.result :: results)

end Host

end Switchboard
