/-! Tokens, the words that request methods and header names are made of, and methods. -/

namespace Switchboard

def isTokenCharacter (c : Char) : Bool :=
  c.isAlphanum ||
    c ∈ ['!', '#', '$', '%', '&', '\x27', '*', '+', '-', '.', '^', '_', '\x60', '|', '~']

def isToken (text : String) : Bool :=
  !text.toList.isEmpty && text.toList.all isTokenCharacter

structure Method where
  name : String
  valid : isToken name
  deriving DecidableEq

namespace Method

def ofName? (name : String) : Option Method :=
  if valid : isToken name then some ⟨name, valid⟩ else none

theorem ofName?_eq_some (name : String) (method : Method) :
    ofName? name = some method ↔ method.name = name := by
  rw [ofName?]
  split
  next valid =>
    rw [Option.some.injEq]
    constructor
    · rintro rfl
      rfl
    · rintro rfl
      rfl
  next invalid =>
    simp only [reduceCtorEq, false_iff]
    rintro rfl
    exact invalid method.valid

def get : Method := ⟨"GET", by decide⟩

def post : Method := ⟨"POST", by decide⟩

def put : Method := ⟨"PUT", by decide⟩

def delete : Method := ⟨"DELETE", by decide⟩

def head : Method := ⟨"HEAD", by decide⟩

def connect : Method := ⟨"CONNECT", by decide⟩

end Method

end Switchboard
