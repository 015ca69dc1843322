/-!
Text as bytes and back. Reading never fails: each longest piece of a malformed sequence becomes
one replacement character.
-/

namespace Switchboard

abbrev Bytes := List UInt8

namespace Text

def utf8 (text : List Char) : Bytes :=
  text.flatMap String.utf8EncodeChar

def bytes (text : String) : Bytes :=
  text.toUTF8.toList

def replacement : Char := '\uFFFD'

/-- A character under way: the bytes it still needs, its bits so far, the range of the next byte. -/
structure Partial where
  needed : Nat
  bits : Nat
  low : UInt8
  high : UInt8

structure Decoder where
  read : List Char
  current : Option Partial

namespace Decoder

def initial : Decoder := ⟨[], none⟩

def lead (read : List Char) (byte : UInt8) : Decoder :=
  let bits := byte.toNat
  if byte < 0x80 then ⟨Char.ofNat bits :: read, none⟩
  else if byte < 0xC2 then ⟨replacement :: read, none⟩
  else if byte < 0xE0 then ⟨read, some ⟨1, bits - 0xC0, 0x80, 0xBF⟩⟩
  else if byte = 0xE0 then ⟨read, some ⟨2, 0, 0xA0, 0xBF⟩⟩
  else if byte = 0xED then ⟨read, some ⟨2, 0xD, 0x80, 0x9F⟩⟩
  else if byte < 0xF0 then ⟨read, some ⟨2, bits - 0xE0, 0x80, 0xBF⟩⟩
  else if byte = 0xF0 then ⟨read, some ⟨3, 0, 0x90, 0xBF⟩⟩
  else if byte < 0xF4 then ⟨read, some ⟨3, bits - 0xF0, 0x80, 0xBF⟩⟩
  else if byte = 0xF4 then ⟨read, some ⟨3, 4, 0x80, 0x8F⟩⟩
  else ⟨replacement :: read, none⟩

def step (decoder : Decoder) (byte : UInt8) : Decoder :=
  match decoder.current with
  | none => lead decoder.read byte
  | some ⟨needed, bits, low, high⟩ =>
    if low ≤ byte && byte ≤ high then
      let bits := bits * 64 + (byte.toNat - 0x80)
      if needed ≤ 1 then ⟨Char.ofNat bits :: decoder.read, none⟩
      else ⟨decoder.read, some ⟨needed - 1, bits, 0x80, 0xBF⟩⟩
    else lead (replacement :: decoder.read) byte

def finish (decoder : Decoder) : List Char :=
  match decoder.current with
  | none => decoder.read.reverse
  | some _ => (replacement :: decoder.read).reverse

end Decoder

def decodeLossy (bytes : Bytes) : List Char :=
  (bytes.foldl Decoder.step Decoder.initial).finish

def ofBytes? (bytes : Bytes) : Option String :=
  String.fromUTF8? bytes.toByteArray

def ofBytesLossy (bytes : Bytes) : String :=
  String.ofList (decodeLossy bytes)

end Text

end Switchboard
