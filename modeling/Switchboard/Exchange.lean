import Switchboard.Change
import Switchboard.Message.Header
import Switchboard.Message.Query
import Switchboard.Message.Uri
import Switchboard.Notice
import Switchboard.Payload
import Switchboard.Text.Quoted

/-!
An exchange: one request and the response being built for it. Completing the response freezes it;
the request side stays writable.
-/

namespace Switchboard

structure Request where
  method : Method
  uri : Uri
  headers : Headers
  body : Bytes

structure Response where
  status : UInt16
  headers : Headers
  body : Bytes

structure Exchange where
  request : Request
  parameters : Parameters
  response : Response
  complete : Bool

inductive ExchangeError where
  | alreadyComplete
  | invalidHeaderName (name : String)
  | invalidHeaderValue (name : String)
  deriving DecidableEq, Repr

def ExchangeError.message : ExchangeError → String
  | .alreadyComplete => "response already complete"
  | .invalidHeaderName name => "invalid header name: " ++ Text.quoted name
  | .invalidHeaderValue name => "invalid value for header " ++ Text.quoted name

def headerName (name : String) : Except ExchangeError HeaderName :=
  match HeaderName.ofText? name with
  | some name => .ok name
  | none => .error (.invalidHeaderName name)

def headerValue (name : HeaderName) (value : String) : Except ExchangeError HeaderValue :=
  match HeaderValue.ofText? value with
  | some value => .ok value
  | none => .error (.invalidHeaderValue name.text)

def headerField (name value : String) : Except ExchangeError (HeaderName × HeaderValue) := do
  let name ← headerName name
  return (name, ← headerValue name value)

namespace Response

def ok : Response := ⟨200, .empty, []⟩

def withStatus (response : Response) (status : UInt16) : Response := { response with status }

def withHeaders (response : Response) (headers : Headers) : Response := { response with headers }

def withBody (response : Response) (body : Bytes) : Response := { response with body }

end Response

namespace Exchange

def ofRequest (request : Request) : Exchange :=
  { request
    parameters := match request.uri.query with
      | some query => .ofQuery query
      | none => .empty
    response := .ok
    complete := false }

def method (exchange : Exchange) : Method := exchange.request.method

def path (exchange : Exchange) : String := exchange.request.uri.path

def withRequestHeaders (exchange : Exchange) (headers : Headers) : Exchange :=
  { exchange with request := { exchange.request with headers } }

def withRequestHeader (exchange : Exchange) (name value : String) :
    Except ExchangeError Exchange := do
  let (name, value) ← headerField name value
  return exchange.withRequestHeaders (exchange.request.headers.append name value)

def setRequestHeader (name value : String) : Change ExchangeError Exchange Unit := do
  let (name, value) ← MonadExcept.ofExcept (headerField name value)
  modify fun exchange => exchange.withRequestHeaders (exchange.request.headers.insert name value)

def addParameters (exchange : Exchange) (pairs : List (String × String)) : Exchange :=
  { exchange with parameters := exchange.parameters.addAll pairs }

def addParameter (name value : String) : Change ExchangeError Exchange Unit :=
  modify fun exchange => exchange.addParameters [(name, value)]

def ensureOpen : Change ExchangeError Exchange Unit := do
  if (← get).complete then throw .alreadyComplete

def withResponse (exchange : Exchange) (response : Response) : Exchange :=
  { exchange with response }

def editResponseHeaders (edit : Headers → Headers) : Change ExchangeError Exchange Unit := do
  ensureOpen
  modify fun exchange =>
    exchange.withResponse (exchange.response.withHeaders (edit exchange.response.headers))

def setResponseHeader (name value : String) : Change ExchangeError Exchange Unit := do
  ensureOpen
  let (name, value) ← MonadExcept.ofExcept (headerField name value)
  modify fun exchange =>
    exchange.withResponse
      (exchange.response.withHeaders (exchange.response.headers.insert name value))

def setStatus (status : UInt16) : Change ExchangeError Exchange Unit := do
  ensureOpen
  modify fun exchange => exchange.withResponse (exchange.response.withStatus status)

def finish : Change ExchangeError Exchange Unit :=
  modify fun exchange => { exchange with complete := true }

def send (body : Bytes) : Change ExchangeError Exchange Unit := do
  ensureOpen
  modify fun exchange => exchange.withResponse (exchange.response.withBody body)
  finish

def sendRedirect (location : String) : Change ExchangeError Exchange Unit := do
  ensureOpen
  let value ← MonadExcept.ofExcept (headerValue .location location)
  editResponseHeaders fun headers => headers.insert .location value
  setStatus 302
  finish

def respond (status : UInt16) (body : Bytes) : Change ExchangeError Exchange Unit := do
  setStatus status
  send body

/-- The response to give, where a status that HTTP cannot carry becomes 500. -/
def render (exchange : Exchange) : Response × List Notice :=
  let response := exchange.response
  if 100 ≤ response.status && response.status ≤ 999 then (response, [])
  else (response.withStatus 500, [.unrepresentableStatus response.status exchange.path])

end Exchange

inductive Edit where
  | setRequestHeader (name value : String)
  | addParameter (name value : String)
  | setResponseHeader (name value : String)
  | editResponseHeaders (edit : Headers → Headers)
  | setStatus (status : UInt16)
  | send (payload : Payload)
  | sendRedirect (location : String)
  | respond (status : UInt16) (body : Bytes)
  | finish

def Edit.change : Edit → Change ExchangeError Exchange Unit
  | .setRequestHeader name value => Exchange.setRequestHeader name value
  | .addParameter name value => Exchange.addParameter name value
  | .setResponseHeader name value => Exchange.setResponseHeader name value
  | .editResponseHeaders edit => Exchange.editResponseHeaders edit
  | .setStatus status => Exchange.setStatus status
  | .send payload => Exchange.send payload.content
  | .sendRedirect location => Exchange.sendRedirect location
  | .respond status body => Exchange.respond status body
  | .finish => Exchange.finish

end Switchboard
