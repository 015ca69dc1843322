import Switchboard.Deployment.Host

/-! The host that the command line serves, with a few routes to try. -/

namespace Switchboard.Demo

variable {m : Type → Type} [Monad m]

def edit (change : Change ExchangeError Exchange Unit) : RouteHandler m :=
  fun exchange _ => pure (.ofChange change exchange)

def sendText (text : String) : RouteHandler m :=
  edit (Exchange.send (Payload.text text).content)

def sendHeader (name : String) : RouteHandler m := edit do
  match (← get).request.headers.text? name with
  | some value => Exchange.send (Payload.text value).content
  | none => Exchange.send Payload.nothing.content

def echo : RouteHandler m := fun exchange params =>
  match params.get? 0 with
  | some (.json body) => edit (Exchange.send (Payload.json body).content) exchange params
  | _ => edit (Exchange.respond 400 (Text.bytes "expected a JSON body")) exchange params

def greet : RouteHandler m := edit do
  let name := (← get).parameters.first? "name"
  Exchange.send (Payload.text ("hi " ++ name.getD "")).content

def entityJson : String := "$entity:json"

def routes : Change DeployError (Routes m) Unit := do
  Routes.addAlias "ds" "jndi:java:datasources/DefaultDS"
  Routes.onGet "/testResponseSender" (.simple (sendText "Response Sender"))
  Routes.onGet "/testRequestHeaders" (.simple (sendHeader "my-header"))
  Routes.onGet "/testResponseHeaders"
    (.simple (edit (Exchange.setResponseHeader "my-header" "my-header-value")))
  Routes.onGet "/testArrayParam" (.injected [entityJson, "ds"] (sendText "Array Param"))
  Routes.onGet "/testSendRedirect" (.simple (edit (Exchange.sendRedirect "/testResponseSender")))
  Routes.onPost "/echo" (.injected [entityJson] echo)
  Routes.onGetIf "/hello" "query[name]" (.simple greet)
  Routes.onGet "/hello" (.simple (sendText "hi"))

def blueprint (environment : List (String × String)) : Blueprint m where
  providers :=
    [("jndi", .fixed [("java:datasources/DefaultDS", .string "DefaultDS")]),
      ("env", .environment environment)]
  parsers := []
  fallback := some (.fixed 200 (Text.bytes "Default Response"))
  plan := fun _ => EStateM.adaptExcept .rejected routes

end Switchboard.Demo
