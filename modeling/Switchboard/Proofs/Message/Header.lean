import Switchboard.Message.Header
import Switchboard.Proofs.Text.Casing
import Switchboard.Proofs.Text.Encoding

/-!
Header fields by name. All that is read of a header is in the bytes that stand under its name, in
any case of the letters; what reads as text is what was written, where it is plain.
-/

namespace Switchboard

def IsFieldName (text : String) : Prop := isToken text = true ∧ text.length ≤ maxHeaderName

def IsFieldValue (text : String) : Prop :=
  ∀ byte ∈ Text.bytes text, byte = 0x09 ∨ 0x20 ≤ byte ∧ byte ≠ 0x7F

def IsPlain (text : String) : Prop :=
  ∀ byte ∈ Text.bytes text, byte = 0x09 ∨ 0x20 ≤ byte ∧ byte ≤ 0x7E

/-- The values of the header of a name in any case, as bytes. -/
def Headers.under (headers : Headers) (name : String) : List Bytes :=
  (headers.fields.filter fun (held, _) => held.text = name.toLower).map fun (_, value) =>
    value.bytes

/-! Names -/

theorem isToken_toLower (text : String) : isToken text.toLower = isToken text := by
  have each : isTokenCharacter ∘ Char.toLower = isTokenCharacter := by
    funext c
    exact Text.toLower_cases (motive := fun c lower => isTokenCharacter lower = isTokenCharacter c)
      (by decide) (fun _ _ => rfl) c
  rw [isToken, isToken, Text.toList_toLower, List.isEmpty_map, List.all_map, each]

theorem isHeaderName_toLower (text : String) : isHeaderName text.toLower = isToken text := by
  have lower : ((fun c : Char => !c.isUpper) ∘ Char.toLower) = fun _ => true :=
    funext Text.not_isUpper_toLower
  rw [isHeaderName, isToken_toLower, Text.toList_toLower, List.all_map, lower]
  simp

namespace HeaderName

theorem eq_iff {name other : HeaderName} : name = other ↔ name.text = other.text := by
  constructor
  · exact congrArg text
  · intro same
    cases name
    cases other
    cases same
    rfl

theorem ofText?_eq_some_iff {text : String} {name : HeaderName} :
    ofText? text = some name ↔ IsFieldName text ∧ name.text = text.toLower := by
  rw [ofText?, IsFieldName, ← isHeaderName_toLower]
  split
  next valid =>
    split
    next short =>
      simp [valid, short, eq_iff, eq_comm]
    next long => simp [long]
  next invalid => simp [invalid]

theorem exists_ofText?_eq_some {text : String} (named : IsFieldName text) :
    ∃ name, ofText? text = some name ∧ name.text = text.toLower := by
  have valid : isHeaderName text.toLower = true := (isHeaderName_toLower text).trans named.1
  exact ⟨⟨text.toLower, valid⟩, ofText?_eq_some_iff.mpr ⟨named, rfl⟩, rfl⟩

theorem ofText?_eq_none {text : String} (unnamed : ¬ IsFieldName text) : ofText? text = none := by
  cases read : ofText? text with
  | none => rfl
  | some name => exact absurd (ofText?_eq_some_iff.mp read).1 unnamed

end HeaderName

theorem isFieldName_congr {text other : String} (same : text.toLower = other.toLower) :
    IsFieldName text ↔ IsFieldName other := by
  have length (text : String) : text.toLower.length = text.length := String.length_map
  rw [IsFieldName, IsFieldName, ← isToken_toLower, ← isToken_toLower other, ← length,
    ← length other, same]

/-! Values -/

namespace HeaderValue

theorem isHeaderByte_iff (byte : UInt8) :
    isHeaderByte byte = true ↔ byte = 0x09 ∨ 0x20 ≤ byte ∧ byte ≠ 0x7F := by
  simp [isHeaderByte]

theorem isTextByte_iff (byte : UInt8) :
    isTextByte byte = true ↔ byte = 0x09 ∨ 0x20 ≤ byte ∧ byte ≤ 0x7E := by
  have last : byte < 0x7F ↔ byte ≤ 0x7E := Nat.lt_succ_iff
  simp [isTextByte, last]

theorem all_isHeaderByte_iff (text : String) :
    (Text.bytes text).all isHeaderByte = true ↔ IsFieldValue text := by
  simp only [List.all_eq_true, isHeaderByte_iff, IsFieldValue]

theorem ofText?_eq_some_iff {text : String} {value : HeaderValue} :
    ofText? text = some value ↔ IsFieldValue text ∧ value.bytes = Text.bytes text := by
  rw [ofText?, ofBytes?, ← all_isHeaderByte_iff]
  split
  next valid =>
    rw [Option.some.injEq]
    constructor
    · rintro rfl
      exact ⟨valid, rfl⟩
    · rintro ⟨-, same⟩
      cases value
      cases same
      rfl
  next invalid => simp [invalid]

theorem exists_ofText?_eq_some {text : String} (writable : IsFieldValue text) :
    ∃ value, ofText? text = some value ∧ value.bytes = Text.bytes text := by
  have valid := (all_isHeaderByte_iff text).mpr writable
  exact ⟨⟨Text.bytes text, valid⟩, ofText?_eq_some_iff.mpr ⟨writable, rfl⟩, rfl⟩

theorem ofText?_eq_none {text : String} (unwritable : ¬ IsFieldValue text) :
    ofText? text = none := by
  cases read : ofText? text with
  | none => rfl
  | some value => exact absurd (ofText?_eq_some_iff.mp read).1 unwritable

/-- A value reads as the one text that it was written from, if that is plain. -/
theorem text?_eq_some_iff {text : String} {value : HeaderValue} :
    value.text? = some text ↔ IsPlain text ∧ value.bytes = Text.bytes text := by
  have plain (bytes : Bytes) : bytes.all isTextByte = true ↔
      ∀ byte ∈ bytes, byte = 0x09 ∨ 0x20 ≤ byte ∧ byte ≤ 0x7E := by
    simp only [List.all_eq_true, isTextByte_iff]
  rw [text?]
  split
  next passed =>
    have printable := (plain value.bytes).mp passed
    have small : ∀ byte ∈ value.bytes, byte < 0x80 := by
      intro byte member
      rcases printable byte member with rfl | ⟨-, below⟩
      · decide
      · exact Nat.lt_of_le_of_lt (show byte.toNat ≤ 126 from below) (by decide)
    have written : Text.bytes (String.ofList (value.bytes.map fun byte => Char.ofNat byte.toNat)) =
        value.bytes := by
      rw [Text.bytes_eq_utf8, String.toList_ofList, Text.utf8_map_ofNat small]
    rw [Option.some.injEq]
    constructor
    · rintro rfl
      rw [IsPlain, written]
      exact ⟨printable, rfl⟩
    · rintro ⟨-, same⟩
      exact Text.bytes_injective (written.trans same)
  next obscure =>
    simp only [reduceCtorEq, false_iff]
    rintro ⟨printable, same⟩
    rw [same] at obscure
    exact obscure ((plain _).mpr printable)

end HeaderValue

/-! Fields -/

namespace Headers

variable {headers : Headers} {name : String}

theorem under_insert (headers : Headers) (header : HeaderName) (value : HeaderValue)
    (name : String) :
    (headers.insert header value).under name =
      if name.toLower = header.text then [value.bytes] else headers.under name := by
  have kept : ((headers.fields.filter fun (held, _) => held ≠ header).filter
      fun (held, _) => held.text = name.toLower) =
      if name.toLower = header.text then [] else
        headers.fields.filter fun (held, _) => held.text = name.toLower := by
    rw [List.filter_filter]
    split
    next same =>
      apply List.filter_eq_nil_iff.mpr
      rintro ⟨held, _⟩ _
      simp [same, HeaderName.eq_iff]
    next different =>
      apply List.filter_congr
      rintro ⟨held, _⟩ _
      by_cases found : held.text = name.toLower
      · simp [found, HeaderName.eq_iff, different]
      · simp [found]
  rw [insert, append, erase, under, List.filter_append, kept]
  split
  next same => simp [same]
  next different => simp [Ne.symm different, under]

theorem map_bytes_valuesNamed (named : IsFieldName name) (headers : Headers) :
    (headers.valuesNamed name).map (·.bytes) = headers.under name := by
  obtain ⟨header, read, text⟩ := HeaderName.exists_ofText?_eq_some named
  rw [valuesNamed, read]
  simp only [values, under, List.map_map, HeaderName.eq_iff, text]
  rfl

theorem valuesNamed_eq_nil (unnamed : ¬ IsFieldName name) (headers : Headers) :
    headers.valuesNamed name = [] := by
  rw [valuesNamed, HeaderName.ofText?_eq_none unnamed]

theorem text?_eq_some_iff {text : String} :
    headers.text? name = some text ↔
      IsFieldName name ∧ IsPlain text ∧ (headers.under name).head? = some (Text.bytes text) := by
  by_cases named : IsFieldName name
  · rw [← map_bytes_valuesNamed named, Headers.text?]
    cases headers.valuesNamed name with
    | nil => simp
    | cons value values => simp [HeaderValue.text?_eq_some_iff, named]
  · simp [Headers.text?, valuesNamed_eq_nil named, named]

end Headers

end Switchboard
