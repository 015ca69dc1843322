import Switchboard.Handler
import Switchboard.Metrics

/-!
The way from an inbound request to its response. The body is read up to a limit, the handler runs
once, and how it ended decides the response: an exchange that was left incomplete by a failure, or
by a panic in any state, is never shown.
-/

namespace Switchboard

/-- A request as it arrives, with a body in chunks that may break off. -/
structure Inbound where
  method : Method
  uri : Uri
  headers : Headers
  chunks : List Bytes
  broken : Bool

inductive BodyFault where
  | tooLarge
  | broken
  deriving DecidableEq, Repr

def readBody (limit : Nat) (broken : Bool) : List Bytes → Except BodyFault Bytes
  | [] => if broken then .error .broken else .ok []
  | chunk :: chunks =>
    if limit < chunk.length then .error .tooLarge
    else (readBody (limit - chunk.length) broken chunks).map (chunk ++ ·)

namespace BodyFault

def status : BodyFault → UInt16
  | .tooLarge => 413
  | .broken => 400

def message : BodyFault → String
  | .tooLarge => "Request body too large"
  | .broken => "Failed to read request body"

end BodyFault

def plainText : HeaderValue :=
  ⟨Text.utf8 "text/plain; charset=utf-8".toList, by decide⟩

def Response.bare (status : UInt16) : Response := ⟨status, .empty, []⟩

def BodyFault.response (fault : BodyFault) : Response :=
  { status := fault.status
    headers := Headers.empty.append .contentType plainText
    body := Text.bytes fault.message }

def Inbound.request (inbound : Inbound) (body : Bytes) : Request :=
  ⟨inbound.method, inbound.uri, inbound.headers, body⟩

def Handled.response (handled : Handled) : Response × List Notice :=
  match handled.outcome with
  | .succeeded => handled.exchange.render
  | .failed _ => if handled.exchange.complete then handled.exchange.render else (.bare 500, [])
  | .panicked => (.bare 500, [])

structure Gateway (m : Type → Type) where
  handler : Handler m
  maxBodySize : Nat

/-- What a request came to: the response, what was logged, and the counters after it. -/
structure Answer where
  response : Response
  notices : List Notice
  metrics : Metrics

namespace Gateway

variable {m : Type → Type} [Monad m]

def run (gateway : Gateway m) (inbound : Inbound) : m (Response × List Notice) :=
  match readBody gateway.maxBodySize inbound.broken inbound.chunks with
  | .error fault => pure (fault.response, [])
  | .ok body => do
    let handled ← gateway.handler (.ofRequest (inbound.request body))
    return handled.response

def dispatch (gateway : Gateway m) (metrics : Metrics) (inbound : Inbound) : m Answer := do
  let (response, notices) ← gateway.run inbound
  return ⟨response, notices, metrics.recordAnswer inbound.method response.status⟩

def dispatchAll (gateway : Gateway m) (metrics : Metrics) :
    List Inbound → m (List Response × Metrics)
  | [] => pure ([], metrics)
  | inbound :: rest => do
    let answer ← gateway.dispatch metrics inbound
    let (responses, metrics) ← gateway.dispatchAll answer.metrics rest
    return (answer.response :: responses, metrics)

/-- Only paths are routed; an asterisk or a bare authority is not found. -/
def isRouted (uri : Uri) : Bool := uri.path.toList.head? = some '/'

def route (gateway : Gateway m) (metrics : Metrics) (inbound : Inbound) : m Answer :=
  if isRouted inbound.uri then gateway.dispatch metrics inbound
  else pure ⟨.bare 404, [], metrics⟩

def withLength (response : Response) : Response :=
  if response.headers.contains .contentLength then response
  else
    match HeaderValue.ofText? (toString response.body.length) with
    | some length => { response with headers := response.headers.append .contentLength length }
    | none => response

def isSuccess (status : UInt16) : Bool := 200 ≤ status && status < 300

/-- What is sent of a response: a tunnel that opens has neither length nor body, and an answer to
HEAD only the length. -/
def framed (method : Method) (response : Response) : Response :=
  if method = .connect && isSuccess response.status then { response with body := [] }
  else if method = .head then { withLength response with body := [] }
  else withLength response

def requestId (headers : Headers) (generated : HeaderValue) : HeaderValue :=
  (headers.values .requestId).head?.getD generated

def identified (inbound : Inbound) (generated : HeaderValue) : Inbound :=
  if inbound.headers.contains .requestId then inbound
  else { inbound with headers := inbound.headers.append .requestId generated }

def withRequestId (response : Response) (id : HeaderValue) : Response :=
  if response.headers.contains .requestId then response
  else { response with headers := response.headers.append .requestId id }

def answer (gateway : Gateway m) (generated : HeaderValue) (metrics : Metrics)
    (inbound : Inbound) : m Answer := do
  let routed ← gateway.route metrics (identified inbound generated)
  let response := withRequestId routed.response (requestId inbound.headers generated)
  return { routed with response := framed inbound.method response }

end Gateway

end Switchboard
