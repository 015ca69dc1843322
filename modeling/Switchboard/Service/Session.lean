import Switchboard.Deployment.Reload
import Switchboard.Gateway
import Switchboard.Service.Startup

/-!
A service that is up. Requests go to the table that is live when they arrive; limits are those it
was started with. Reloading the file redeploys, and a file that does not load changes nothing.
-/

namespace Switchboard

structure Session (m : Type → Type) where
  host : Host m
  launch : Launch

namespace Session

variable {m : Type → Type}

def withFile (session : Session m) (file : FileContent) : Session m :=
  { session with launch := { session.launch with file := some file } }

def reload (session : Session m) : Session m × List Event :=
  let called := session.host.reload (session.launch.file.getD .missing)
  ({ session with host := called.host }, called.events)

def change (session : Session m) (file : FileContent) : Session m × List Event :=
  (session.withFile file).reload

def gateway [Monad m] (session : Session m) : Gateway (StateT (Host m) m) :=
  ⟨Host.root, session.launch.settings.maxBodySize⟩

/-- A response that has no content says nothing of its length. -/
def transmitted (response : Response) : Response :=
  if response.status = 204 then { response with headers := response.headers.erase .contentLength }
  else response

def answer [Monad m] (session : Session m) (generated : HeaderValue) (inbound : Inbound) :
    m (Response × Session m) := do
  let (answer, host) ←
    (session.gateway.answer generated session.host.metrics inbound).run session.host
  let host := { host with metrics := answer.metrics }
  return (transmitted answer.response, { session with host })

def isStopping (session : Session m) : Bool :=
  match session.launch.shutdown.receive? .server with
  | some (.received, _) => true
  | _ => false

def stop (session : Session m) : Session m :=
  { session with launch := session.launch.signal }

end Session

end Switchboard
