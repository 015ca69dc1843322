import Switchboard.Json.Printer
import Switchboard.Text.Utf8

/-! What can be sent as the body of a response. -/

namespace Switchboard

inductive Payload where
  | bytes (content : Bytes)
  | text (value : String)
  | json (value : Json)
  | nothing

def Payload.content : Payload → Bytes
  | .bytes content => content
  | .text value => Text.bytes value
  | .json value => Text.bytes value.written
  | .nothing => []

end Switchboard
