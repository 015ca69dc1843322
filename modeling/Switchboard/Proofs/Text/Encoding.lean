import Mathlib.Tactic.IntervalCases
import Switchboard.Text.Percent

/-!
Encoding before decoding. A decoder fed with the bytes of a character reads that character and is
again between two characters, so decoding gives every encoded text back; percent-encoding each byte
in between changes nothing. What is not empty never decodes to nothing.
-/

namespace Switchboard.Text

namespace Decoder

theorem toNat_ofNat_of_lt {n : Nat} (below : n < 256) : (UInt8.ofNat n).toNat = n := by
  rw [UInt8.toNat_ofNat']
  exact Nat.mod_eq_of_lt below

theorem step_continued {read : List Char} {needed bits n : Nat} {low high : UInt8}
    (below : n < 64) (above : low.toNat ≤ n + 0x80) (within : n + 0x80 ≤ high.toNat) :
    step ⟨read, some ⟨needed, bits, low, high⟩⟩ (UInt8.ofNat (n + 0x80)) =
      if needed ≤ 1 then ⟨Char.ofNat (bits * 64 + n) :: read, none⟩
      else ⟨read, some ⟨needed - 1, bits * 64 + n, 0x80, 0xBF⟩⟩ := by
  have value : (UInt8.ofNat (n + 0x80)).toNat = n + 0x80 := toNat_ofNat_of_lt (by omega)
  simp only [step, UInt8.le_iff_toNat_le, value, Bool.and_eq_true, decide_eq_true_eq, above,
    within, and_self, if_true, Nat.add_sub_cancel]

theorem lead_one {read : List Char} {n : Nat} (below : n < 0x80) :
    lead read (UInt8.ofNat n) = ⟨Char.ofNat n :: read, none⟩ := by
  have value : (UInt8.ofNat n).toNat = n := toNat_ofNat_of_lt (by omega)
  have small : UInt8.ofNat n < 0x80 := by
    rw [UInt8.lt_iff_toNat_lt, value]
    exact below
  simp only [lead, small, if_true, value]

theorem lead_two {read : List Char} {n : Nat} (above : 2 ≤ n) (below : n < 32) :
    lead read (UInt8.ofNat (n + 0xC0)) = ⟨read, some ⟨1, n, 0x80, 0xBF⟩⟩ := by
  interval_cases n <;> rfl

theorem lead_three {read : List Char} {n : Nat} (below : n < 16) :
    lead read (UInt8.ofNat (n + 0xE0)) =
      ⟨read, some ⟨2, n, if n = 0 then 0xA0 else 0x80, if n = 13 then 0x9F else 0xBF⟩⟩ := by
  interval_cases n <;> rfl

theorem lead_four {read : List Char} {n : Nat} (below : n < 5) :
    lead read (UInt8.ofNat (n + 0xF0)) =
      ⟨read, some ⟨3, n, if n = 0 then 0x90 else 0x80, if n = 4 then 0x8F else 0xBF⟩⟩ := by
  interval_cases n <;> rfl

theorem foldl_lead (read : List Char) (first : UInt8) (rest : Bytes) :
    (first :: rest).foldl step ⟨read, none⟩ = rest.foldl step (lead read first) := rfl

theorem foldl_two {read : List Char} {v : Nat} (above : 0x7F < v) (below : v ≤ 0x7FF) :
    [UInt8.ofNat (v / 64 % 0x20 + 0xC0), UInt8.ofNat (v % 0x40 + 0x80)].foldl step ⟨read, none⟩ =
      ⟨Char.ofNat v :: read, none⟩ := by
  rw [foldl_lead, lead_two (by omega) (by omega), List.foldl_cons, List.foldl_nil,
    step_continued (by omega) (by simp) (by simp; omega), if_pos (by omega)]
  rw [show v / 64 % 0x20 * 64 + v % 0x40 = v by omega]

theorem foldl_three {read : List Char} {v : Nat} (above : 0x7FF < v) (below : v ≤ 0xFFFF)
    (scalar : v < 0xD800 ∨ 0xDFFF < v) :
    [UInt8.ofNat (v / 4096 % 0x10 + 0xE0), UInt8.ofNat (v / 64 % 0x40 + 0x80),
      UInt8.ofNat (v % 0x40 + 0x80)].foldl step ⟨read, none⟩ = ⟨Char.ofNat v :: read, none⟩ := by
  have low : (if v / 4096 % 0x10 = 0 then 0xA0 else 0x80 : UInt8).toNat ≤ v / 64 % 0x40 + 0x80 := by
    split
    · simp only [UInt8.reduceToNat]; omega
    · simp only [UInt8.reduceToNat]; omega
  have high :
      v / 64 % 0x40 + 0x80 ≤ (if v / 4096 % 0x10 = 13 then 0x9F else 0xBF : UInt8).toNat := by
    split <;> simp <;> omega
  rw [foldl_lead, lead_three (by omega), List.foldl_cons, step_continued (by omega) low high,
    if_neg (by omega), List.foldl_cons, List.foldl_nil,
    step_continued (by omega) (by simp) (by simp; omega), if_pos (by omega)]
  rw [show (v / 4096 % 0x10 * 64 + v / 64 % 0x40) * 64 + v % 0x40 = v by omega]

theorem foldl_four {read : List Char} {v : Nat} (above : 0xFFFF < v) (below : v < 0x110000) :
    [UInt8.ofNat (v / 262144 % 0x08 + 0xF0), UInt8.ofNat (v / 4096 % 0x40 + 0x80),
      UInt8.ofNat (v / 64 % 0x40 + 0x80), UInt8.ofNat (v % 0x40 + 0x80)].foldl step ⟨read, none⟩ =
      ⟨Char.ofNat v :: read, none⟩ := by
  have low : (if v / 262144 % 0x08 = 0 then 0x90 else 0x80 : UInt8).toNat ≤
      v / 4096 % 0x40 + 0x80 := by
    split
    · simp only [UInt8.reduceToNat]; omega
    · simp only [UInt8.reduceToNat]; omega
  have high : v / 4096 % 0x40 + 0x80 ≤
      (if v / 262144 % 0x08 = 4 then 0x8F else 0xBF : UInt8).toNat := by
    split <;> simp <;> omega
  rw [foldl_lead, lead_four (by omega), List.foldl_cons, step_continued (by omega) low high,
    if_neg (by omega), List.foldl_cons, step_continued (by omega) (by simp) (by simp; omega),
    if_neg (by omega), List.foldl_cons, List.foldl_nil,
    step_continued (by omega) (by simp) (by simp; omega), if_pos (by omega)]
  rw [show ((v / 262144 % 0x08 * 64 + v / 4096 % 0x40) * 64 + v / 64 % 0x40) * 64 + v % 0x40 = v by
    omega]

/-- A character at a boundary is read in whole, and the next one begins. -/
theorem foldl_utf8EncodeChar (c : Char) (read : List Char) :
    (String.utf8EncodeChar c).foldl step ⟨read, none⟩ = ⟨c :: read, none⟩ := by
  have scalar : c.val.toNat < 0xD800 ∨ 0xDFFF < c.val.toNat ∧ c.val.toNat < 0x110000 := c.valid
  have whole : Char.ofNat c.val.toNat = c := Char.ofNat_toNat c
  unfold String.utf8EncodeChar
  dsimp only
  split
  next one => rw [foldl_lead, lead_one (by omega), List.foldl_nil, whole]
  next more =>
    split
    next two => rw [foldl_two (by omega) two, whole]
    next more =>
      split
      next three => rw [foldl_three (by omega) three (by omega), whole]
      next four => rw [foldl_four (by omega) (by omega), whole]

end Decoder

theorem foldl_utf8 (text read : List Char) :
    (utf8 text).foldl Decoder.step ⟨read, none⟩ = ⟨text.reverse ++ read, none⟩ := by
  induction text generalizing read with
  | nil => rfl
  | cons c text ih =>
      rw [utf8, List.flatMap_cons, List.foldl_append, Decoder.foldl_utf8EncodeChar, ← utf8, ih,
        List.reverse_cons, List.append_assoc]
      rfl

@[simp]
theorem decodeLossy_utf8 (text : List Char) : decodeLossy (utf8 text) = text := by
  rw [decodeLossy, Decoder.initial, foldl_utf8]
  simp [Decoder.finish]

theorem utf8_injective {text other : List Char} (same : utf8 text = utf8 other) : text = other := by
  rw [← decodeLossy_utf8 text, same, decodeLossy_utf8]

theorem loop_toList (packed : ByteArray) (position : Nat) (read : Bytes) :
    ByteArray.toList.loop packed position read =
      read.reverse ++ packed.data.toList.drop position := by
  fun_induction ByteArray.toList.loop packed position read with
  | case1 position read inside ih =>
      have within : position < packed.data.toList.length := inside
      have byte : packed.get! position = packed.data.toList[position] :=
        getElem!_pos packed.data position inside
      rw [ih, List.drop_eq_getElem_cons within, byte, List.reverse_cons, List.append_assoc,
        List.singleton_append]
  | case2 position read outside =>
      rw [List.drop_eq_nil_of_le (Nat.le_of_not_lt outside), List.append_nil]

theorem bytes_eq_utf8 (text : String) : bytes text = utf8 text.toList := by
  have whole : text.toByteArray = (utf8 text.toList).toByteArray := (String.utf8Encode_toList).symm
  rw [bytes, String.toUTF8_eq_toByteArray, ByteArray.toList, loop_toList, whole,
    List.toList_data_toByteArray]
  rfl

theorem bytes_injective {text other : String} (same : bytes text = bytes other) : text = other := by
  rw [bytes_eq_utf8, bytes_eq_utf8] at same
  exact String.toList_injective (utf8_injective same)

theorem utf8EncodeChar_ofNat :
    ∀ n < 128, String.utf8EncodeChar (Char.ofNat n) = [UInt8.ofNat n] := by
  decide

theorem utf8_map_ofNat {bytes : Bytes} (small : ∀ byte ∈ bytes, byte < 0x80) :
    utf8 (bytes.map fun byte => Char.ofNat byte.toNat) = bytes := by
  induction bytes with
  | nil => rfl
  | cons byte bytes ih =>
      have below : byte.toNat < 128 := small byte List.mem_cons_self
      have rest := ih fun other member => small other (List.mem_cons_of_mem _ member)
      rw [List.map_cons, utf8, List.flatMap_cons, utf8EncodeChar_ofNat _ below, ← utf8, rest,
        UInt8.ofNat_toNat, List.singleton_append]

/-! Percent-encoding -/

inductive IsHexDigit (value : Nat) : Char → Prop where
  | lower : IsHexDigit value (Nat.digitChar value)
  | upper : IsHexDigit value (Nat.digitChar value).toUpper

/-- Bytes of which each is written as a percent sign and two hexadecimal digits. -/
inductive PercentSpells : List Char → Bytes → Prop where
  | nil : PercentSpells [] []
  | byte {byte : UInt8} {first second : Char} {spelling : List Char} {bytes : Bytes}
      (high : IsHexDigit (byte.toNat / 16) first) (low : IsHexDigit (byte.toNat % 16) second)
      (rest : PercentSpells spelling bytes) :
      PercentSpells ('%' :: first :: second :: spelling) (byte :: bytes)

def percentEncodedByte (byte : UInt8) : List Char :=
  ['%', Nat.digitChar (byte.toNat / 16), Nat.digitChar (byte.toNat % 16)]

def percentEncoded (text : List Char) : List Char :=
  (utf8 text).flatMap percentEncodedByte

theorem utf8_append (front back : List Char) : utf8 (front ++ back) = utf8 front ++ utf8 back :=
  List.flatMap_append

namespace IsHexDigit

variable {value : Nat} {c : Char}

theorem hexValue? (digit : IsHexDigit value c) (below : value < 16) :
    ∃ byte, utf8 [c] = [byte] ∧ Text.hexValue? byte = some (UInt8.ofNat value) := by
  cases digit with
  | lower => interval_cases value <;> exact ⟨_, rfl, rfl⟩
  | upper => interval_cases value <;> exact ⟨_, rfl, rfl⟩

theorem isAlphanum (digit : IsHexDigit value c) (below : value < 16) : c.isAlphanum := by
  cases digit with
  | lower => interval_cases value <;> rfl
  | upper => interval_cases value <;> rfl

end IsHexDigit

theorem percentDecode_digits {high low : Nat} {first second : Char} (highBelow : high < 16)
    (lowBelow : low < 16) (digit : IsHexDigit high first) (next : IsHexDigit low second)
    (rest : Bytes) :
    percentDecode (utf8 ['%', first, second] ++ rest) =
      UInt8.ofNat (high * 16 + low) :: percentDecode rest := by
  obtain ⟨highByte, highBytes, highValue⟩ := digit.hexValue? highBelow
  obtain ⟨lowByte, lowBytes, lowValue⟩ := next.hexValue? lowBelow
  have bytes : utf8 ['%', first, second] = [percentSign, highByte, lowByte] := by
    change utf8 (['%'] ++ ([first] ++ [second])) = _
    rw [utf8_append, utf8_append, highBytes, lowBytes]
    rfl
  rw [bytes, UInt8.ofNat_add, UInt8.ofNat_mul]
  simp [percentDecode, hexByte?, highValue, lowValue]

namespace PercentSpells

variable {spelling : List Char} {bytes : Bytes}

theorem encoded (bytes : Bytes) : PercentSpells (bytes.flatMap percentEncodedByte) bytes := by
  induction bytes with
  | nil => exact .nil
  | cons byte bytes ih => exact .byte .lower .lower ih

theorem percentDecode (spells : PercentSpells spelling bytes) :
    Text.percentDecode (utf8 spelling) = bytes := by
  induction spells with
  | nil => rfl
  | @byte byte first second spelling bytes high low _ ih =>
      have below : byte.toNat < 256 := byte.toNat_lt
      change Text.percentDecode (utf8 (['%', first, second] ++ spelling)) = _
      rw [utf8_append, percentDecode_digits (by omega) (by omega) high low, ih,
        show byte.toNat / 16 * 16 + byte.toNat % 16 = byte.toNat by omega, UInt8.ofNat_toNat]

theorem eq_percent_or_isAlphanum (spells : PercentSpells spelling bytes) :
    ∀ c ∈ spelling, c = '%' ∨ c.isAlphanum := by
  induction spells with
  | nil => simp
  | @byte byte _ _ _ _ high low _ ih =>
      have below : byte.toNat < 256 := byte.toNat_lt
      refine List.forall_mem_cons.mpr ⟨.inl rfl, List.forall_mem_cons.mpr ⟨?_, ?_⟩⟩
      · exact .inr (high.isAlphanum (by omega))
      · exact List.forall_mem_cons.mpr ⟨.inr (low.isAlphanum (by omega)), ih⟩

theorem not_mem (spells : PercentSpells spelling bytes) {c : Char} (sign : c ≠ '%')
    (separator : c.isAlphanum = false) : c ∉ spelling := by
  intro member
  rcases spells.eq_percent_or_isAlphanum c member with same | alphanumeric
  · exact sign same
  · rw [separator] at alphanumeric
    cases alphanumeric

end PercentSpells

theorem percentDecode_encoded (bytes : Bytes) :
    percentDecode (utf8 (bytes.flatMap percentEncodedByte)) = bytes :=
  (PercentSpells.encoded bytes).percentDecode

@[simp]
theorem percentDecoded_percentEncoded (text : List Char) :
    percentDecoded (percentEncoded text) = text := by
  rw [percentDecoded, percentEncoded, percentDecode_encoded, decodeLossy_utf8]

theorem slash_not_mem_percentEncoded (text : List Char) : '/' ∉ percentEncoded text :=
  (PercentSpells.encoded (utf8 text)).not_mem (by decide) (by decide)

theorem percentEncoded_ne_nil {text : List Char} (nonempty : text ≠ []) :
    percentEncoded text ≠ [] := by
  intro empty
  apply nonempty
  rw [← percentDecoded_percentEncoded text, empty]
  rfl

/-! Decoding something never gives nothing -/

theorem utf8_ne_nil {text : List Char} (nonempty : text ≠ []) : utf8 text ≠ [] := by
  cases text with
  | nil => exact absurd rfl nonempty
  | cons c text => simp [utf8]

theorem percentDecode_ne_nil {bytes : Bytes} (nonempty : bytes ≠ []) :
    percentDecode bytes ≠ [] := by
  fun_cases percentDecode bytes with
  | case1 => exact absurd rfl nonempty
  | case2 | case3 | case4 | case5 => exact List.cons_ne_nil _ _

theorem Decoder.finish_ne_nil_iff {decoder : Decoder} :
    decoder.finish ≠ [] ↔ decoder.read ≠ [] ∨ decoder.current ≠ none := by
  unfold finish
  split
  next between => simp [between]
  next within => simp [within]

theorem Decoder.finish_lead_ne_nil (read : List Char) (byte : UInt8) :
    (lead read byte).finish ≠ [] := by
  rw [finish_ne_nil_iff]
  unfold lead
  grind

theorem Decoder.finish_step_ne_nil (decoder : Decoder) (byte : UInt8) :
    (decoder.step byte).finish ≠ [] := by
  unfold step
  split
  next => exact finish_lead_ne_nil _ _
  next =>
    split
    next =>
      rw [finish_ne_nil_iff]
      grind
    next => exact finish_lead_ne_nil _ _

theorem decodeLossy_ne_nil {bytes : Bytes} (nonempty : bytes ≠ []) : decodeLossy bytes ≠ [] := by
  rw [decodeLossy, ← List.dropLast_concat_getLast nonempty, List.foldl_append]
  exact Decoder.finish_step_ne_nil _ _

theorem percentDecoded_ne_nil {text : List Char} (nonempty : text ≠ []) :
    percentDecoded text ≠ [] :=
  decodeLossy_ne_nil (percentDecode_ne_nil (utf8_ne_nil nonempty))

end Switchboard.Text
