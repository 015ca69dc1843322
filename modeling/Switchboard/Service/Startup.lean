import Switchboard.Deployment.Host
import Switchboard.Service.Binding
import Switchboard.Service.Shutdown
import Switchboard.Settings.Load

/-!
Bringing a service up. The first deployment comes first and the listener last, so that nothing is
accepted before there are routes. From the first stage on a signal may trigger the shutdown.
-/

namespace Switchboard

inductive StartupError where
  | deployment (error : DeployError)
  | panicked
  | unwatchable
  | bind (fault : BindFault)
  deriving DecidableEq, Repr

def StartupError.message : StartupError → String
  | .deployment error => "initial deployment failed: " ++ error.message
  | .panicked => "deployment task failed"
  | .unwatchable => "failed to watch config file"
  | .bind fault => fault.message

def StartupError.inspected : StartupError → String
  | .deployment error => "Deployment(" ++ error.inspected ++ ")"
  | .panicked => "Join"
  | .unwatchable => "Watch"
  | .bind fault => "Io(" ++ fault.inspected ++ ")"

inductive Subscriber where
  | reloads
  | server
  deriving DecidableEq, Repr

inductive Stage where
  | listenForReloads
  | watchFile
  | bindListener
  | listenForShutdown
  deriving DecidableEq, Repr

structure Launch where
  settings : Settings
  file : Option FileContent
  shutdown : Shutdown Subscriber
  stages : List Stage

namespace Launch

def stagesOf (settings : Settings) (file : Option FileContent) : List Stage :=
  (if file.isSome then [.listenForReloads] else []) ++
    (if file.isSome && settings.hotReload then [.watchFile] else []) ++
    [.bindListener, .listenForShutdown]

def initial (settings : Settings) (file : Option FileContent) : Launch :=
  ⟨settings, file, .initial, stagesOf settings file⟩

def listen (launch : Launch) (subscriber : Subscriber) : Launch :=
  { launch with shutdown := launch.shutdown.subscribe subscriber }

def perform (launch : Launch) : Stage → Except StartupError Launch
  | .listenForReloads => .ok (launch.listen .reloads)
  | .watchFile =>
    match launch.file with
    | some .missing => .error .unwatchable
    | _ => .ok launch
  | .bindListener =>
    match SocketAddress.bindFault? launch.settings.bindAddress with
    | some fault => .error (.bind fault)
    | none => .ok launch
  | .listenForShutdown => .ok (launch.listen .server)

def advance (launch : Launch) : Except StartupError Launch :=
  match launch.stages with
  | [] => .ok launch
  | stage :: stages => perform { launch with stages } stage

def signal (launch : Launch) : Launch :=
  { launch with shutdown := launch.shutdown.trigger }

def complete (launch : Launch) : Except StartupError Launch :=
  launch.stages.foldlM perform { launch with stages := [] }

end Launch

structure Started (m : Type → Type) where
  host : Host m
  notices : List Notice
  events : List Event
  result : Except StartupError Launch

/-- Deploy, then go through the stages. -/
def Host.start {m : Type → Type} (host : Host m) (settings : Settings) (file : Option FileContent) :
    Started m :=
  let deployed := host.redeploy settings
  { host := deployed.host
    notices := deployed.notices
    events := deployed.events
    result :=
      match deployed.result with
      | .error (.rejected error) => .error (.deployment error)
      | .error .panicked => .error .panicked
      | .ok () => (Launch.initial settings file).complete }

end Switchboard
