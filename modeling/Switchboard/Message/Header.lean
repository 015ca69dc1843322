import Switchboard.Message.Token
import Switchboard.Text.Utf8

/-!
Header fields. Names are compared without regard to case and may carry several values, kept in the
order they were added. A value may hold bytes that do not read as text.
-/

namespace Switchboard

def maxHeaderName : Nat := 65535

def isHeaderName (text : String) : Bool :=
  isToken text && text.toList.all fun c => !c.isUpper

/-- A header name, held in lower case. -/
structure HeaderName where
  text : String
  valid : isHeaderName text
  deriving DecidableEq

namespace HeaderName

def ofText? (text : String) : Option HeaderName :=
  if valid : isHeaderName text.toLower then
    if text.length ≤ maxHeaderName then some ⟨text.toLower, valid⟩ else none
  else none

def location : HeaderName := ⟨"location", by decide⟩

def contentLength : HeaderName := ⟨"content-length", by decide⟩

def contentType : HeaderName := ⟨"content-type", by decide⟩

def requestId : HeaderName := ⟨"x-request-id", by decide⟩

end HeaderName

def isHeaderByte (byte : UInt8) : Bool :=
  byte = 0x09 || (0x20 ≤ byte && byte ≠ 0x7F)

def isTextByte (byte : UInt8) : Bool :=
  byte = 0x09 || (0x20 ≤ byte && byte < 0x7F)

structure HeaderValue where
  bytes : Bytes
  valid : bytes.all isHeaderByte

namespace HeaderValue

def ofBytes? (bytes : Bytes) : Option HeaderValue :=
  if valid : bytes.all isHeaderByte then some ⟨bytes, valid⟩ else none

def ofText? (text : String) : Option HeaderValue :=
  ofBytes? (Text.bytes text)

def text? (value : HeaderValue) : Option String :=
  if value.bytes.all isTextByte then
    some (String.ofList (value.bytes.map fun byte => Char.ofNat byte.toNat))
  else none

end HeaderValue

structure Headers where
  fields : List (HeaderName × HeaderValue)

namespace Headers

def empty : Headers := ⟨[]⟩

def values (headers : Headers) (name : HeaderName) : List HeaderValue :=
  (headers.fields.filter fun (other, _) => other = name).map Prod.snd

def append (headers : Headers) (name : HeaderName) (value : HeaderValue) : Headers :=
  ⟨headers.fields ++ [(name, value)]⟩

def erase (headers : Headers) (name : HeaderName) : Headers :=
  ⟨headers.fields.filter fun (other, _) => other ≠ name⟩

/-- The value replaces all that the header had. -/
def insert (headers : Headers) (name : HeaderName) (value : HeaderValue) : Headers :=
  (headers.erase name).append name value

def contains (headers : Headers) (name : HeaderName) : Bool :=
  headers.fields.any fun (other, _) => other = name

def valuesNamed (headers : Headers) (name : String) : List HeaderValue :=
  match HeaderName.ofText? name with
  | some name => headers.values name
  | none => []

def text? (headers : Headers) (name : String) : Option String :=
  match headers.valuesNamed name with
  | value :: _ => value.text?
  | [] => none

def names (headers : Headers) : List HeaderName :=
  (headers.fields.map Prod.fst).eraseDups.mergeSort fun a b => decide (a.text ≤ b.text)

end Headers

end Switchboard
