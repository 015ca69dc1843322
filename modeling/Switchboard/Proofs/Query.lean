import Mathlib.Data.List.Forall2
import Switchboard.Message.Query
import Switchboard.Proofs.Text.Encoding
import Switchboard.Text.Reading

/-!
Query strings. What two query strings give is kept in order when an ampersand joins them, and pairs
that are written with every byte encoded are read back as they were, whatever stands in them.
-/

namespace Switchboard.Parameters

open Text (PercentSpells utf8)

def queryPieces (query : List Char) : List (List Char) :=
  (query.splitOn '&').filter fun piece => !piece.isEmpty

theorem queryPieces_append (front back : List Char) :
    queryPieces (front ++ '&' :: back) = queryPieces front ++ queryPieces back := by
  rw [queryPieces, List.splitOn_append_cons_self, List.filter_append]
  rfl

theorem pairs_ofQuery_append (front back : String) :
    (ofQuery (front ++ "&" ++ back)).pairs = (ofQuery front).pairs ++ (ofQuery back).pairs := by
  have joined : (front ++ "&" ++ back).toList = front.toList ++ '&' :: back.toList := by simp
  change (queryPieces (front ++ "&" ++ back).toList).map pairOfPiece = _
  rw [joined, queryPieces_append, List.map_append]
  rfl

theorem values_of_append {parameters front back : Parameters}
    (pairs : parameters.pairs = front.pairs ++ back.pairs) (name : String) :
    parameters.values name = front.values name ++ back.values name := by
  rw [values, pairs, List.filter_append, List.map_append]
  rfl

theorem isSome_values? {parameters : Parameters} {name : String} :
    (parameters.values? name).isSome ↔ parameters.values name ≠ [] := by
  unfold values?
  split
  next absent => simp [absent]
  next present => simpa using present

theorem values_ne_nil {parameters : Parameters} {name : String} :
    parameters.values name ≠ [] ↔ name ∈ parameters.pairs.map Prod.fst := by
  simp [values, List.filter_eq_nil_iff]

/-! Pairs with every byte encoded -/

/-- A name and its value around an equals sign, which may be left out where the value is empty. -/
inductive SpellsPair : List Char → String × String → Prop where
  | both {name value : String} {nameSpelling valueSpelling : List Char}
      (spellsName : PercentSpells nameSpelling (utf8 name.toList))
      (spellsValue : PercentSpells valueSpelling (utf8 value.toList)) :
      SpellsPair (nameSpelling ++ '=' :: valueSpelling) (name, value)
  | bare {name : String} {spelling : List Char}
      (spellsName : PercentSpells spelling (utf8 name.toList)) : SpellsPair spelling (name, "")

theorem formDecoded_of_spells {spelling : List Char} {text : String}
    (spells : PercentSpells spelling (utf8 text.toList)) :
    String.ofList (Text.formDecoded spelling) = text := by
  have plusless : '+' ∉ spelling := spells.not_mem (by decide) (by decide)
  have same : spelling.map (fun c => if c = '+' then ' ' else c) = spelling := by
    conv_rhs => rw [← List.map_id' spelling]
    apply List.map_congr_left
    intro c member
    rw [if_neg]
    rintro rfl
    exact plusless member
  rw [Text.formDecoded, same, Text.percentDecoded, spells.percentDecode, Text.decodeLossy_utf8,
    String.ofList_toList]

theorem split_of_spells {name : List Char} {bytes : Bytes} (spells : PercentSpells name bytes)
    (rest : List Char) (stops : ∀ c ∈ rest.head?, c = '=') :
    (name ++ rest).takeWhile (· ≠ '=') = name ∧ (name ++ rest).dropWhile (· ≠ '=') = rest := by
  rw [Text.span_iff]
  refine ⟨rfl, ?_, ?_⟩
  · intro c member
    have absent : '=' ∉ name := spells.not_mem (by decide) (by decide)
    simp only [ne_eq, decide_eq_true_eq]
    rintro rfl
    exact absent member
  · intro c first
    simp [stops c first]

namespace SpellsPair

variable {piece : List Char} {pair : String × String}

theorem pairOfPiece (spells : SpellsPair piece pair) : Parameters.pairOfPiece piece = pair := by
  cases spells with
  | @both name value nameSpelling valueSpelling spellsName spellsValue =>
      obtain ⟨front, back⟩ := split_of_spells spellsName ('=' :: valueSpelling) (by simp)
      rw [Parameters.pairOfPiece, front, back, List.drop_one, List.tail_cons,
        formDecoded_of_spells spellsName, formDecoded_of_spells spellsValue]
  | @bare name _ spellsName =>
      obtain ⟨front, back⟩ := split_of_spells spellsName [] (by simp)
      rw [List.append_nil] at front back
      rw [Parameters.pairOfPiece, front, back, formDecoded_of_spells spellsName]
      rfl

theorem ampersand_not_mem (spells : SpellsPair piece pair) : '&' ∉ piece := by
  have absent {spelling : List Char} {bytes : Bytes} (spells : PercentSpells spelling bytes) :
      '&' ∉ spelling := spells.not_mem (by decide) (by decide)
  cases spells with
  | both spellsName spellsValue => simp [absent spellsName, absent spellsValue]
  | bare spellsName => exact absent spellsName

theorem ne_nil (spells : SpellsPair piece pair) (named : pair.1 ≠ "") : piece ≠ [] := by
  cases spells with
  | both => simp
  | bare spellsName =>
      rintro rfl
      exact named (formDecoded_of_spells spellsName).symm

theorem of_forall₂ {pieces : List (List Char)} {pairs : List (String × String)}
    (spelled : List.Forall₂ SpellsPair pieces pairs) (named : ∀ pair ∈ pairs, pair.1 ≠ "") :
    (∀ piece ∈ pieces, '&' ∉ piece ∧ piece ≠ []) ∧ pieces.map Parameters.pairOfPiece = pairs := by
  induction spelled with
  | nil => simp
  | cons spells _ ih =>
      obtain ⟨first, rest⟩ := List.forall_mem_cons.mp named
      obtain ⟨each, read⟩ := ih rest
      refine ⟨List.forall_mem_cons.mpr ⟨⟨spells.ampersand_not_mem, spells.ne_nil first⟩, each⟩, ?_⟩
      rw [List.map_cons, spells.pairOfPiece, read]

end SpellsPair

theorem queryPieces_intercalate {pieces : List (List Char)}
    (each : ∀ piece ∈ pieces, '&' ∉ piece ∧ piece ≠ []) :
    queryPieces (['&'].intercalate pieces) = pieces := by
  cases pieces with
  | nil => rfl
  | cons piece pieces =>
      rw [queryPieces, List.splitOn_intercalate _ (fun other member => (each other member).1)
        (List.cons_ne_nil _ _), List.filter_eq_self]
      intro other member
      simpa using (each other member).2

theorem pairs_ofQuery_spelled {pieces : List (List Char)} {pairs : List (String × String)}
    (spelled : List.Forall₂ SpellsPair pieces pairs) (named : ∀ pair ∈ pairs, pair.1 ≠ "") :
    (ofQuery (String.ofList (['&'].intercalate pieces))).pairs = pairs := by
  obtain ⟨each, read⟩ := SpellsPair.of_forall₂ spelled named
  change (queryPieces (String.ofList (['&'].intercalate pieces)).toList).map pairOfPiece = pairs
  rw [String.toList_ofList, queryPieces_intercalate each, read]

/-- Joining two query strings joins the values of every name, and pairs that are spelled with every
byte encoded are read back: each name has its values in order, and no other name is there. -/
theorem ofQuery_keeps :
    (∀ (front back : String) (name : String),
      let joined := ofQuery (front ++ "&" ++ back)
      joined.values name = (ofQuery front).values name ++ (ofQuery back).values name ∧
        ((joined.values? name).isSome ↔
          ((ofQuery front).values? name).isSome ∨ ((ofQuery back).values? name).isSome)) ∧
    ∀ (pairs : List (String × String)) (pieces : List (List Char)),
      (∀ pair ∈ pairs, pair.1 ≠ "") → List.Forall₂ SpellsPair pieces pairs →
      ∀ name,
        let read := ofQuery (String.ofList (['&'].intercalate pieces))
        read.values name = (pairs.filter fun pair => pair.1 = name).map Prod.snd ∧
          ((read.values? name).isSome ↔ name ∈ pairs.map Prod.fst) := by
  constructor
  · intro front back name joined
    have values := values_of_append (pairs_ofQuery_append front back) name
    refine ⟨values, ?_⟩
    rw [isSome_values?, isSome_values?, isSome_values?, values, Ne, List.append_eq_nil_iff,
      Decidable.not_and_iff_or_not]
  · intro pairs pieces named spelled name read
    have pairsRead : read.pairs = pairs := pairs_ofQuery_spelled spelled named
    refine ⟨?_, ?_⟩
    · rw [values, pairsRead]
    · rw [isSome_values?, values_ne_nil, pairsRead]

theorem ofQuery_keeps_encoded :
    let query := "%C3%a9=%61%26%3D%2b&%66&%c3%A9="
    (ofQuery query).values "é" = ["a&=+", ""] ∧ ((ofQuery query).values? "f").isSome ∧
      (ofQuery (query ++ "&" ++ "f=+")).values "f" = ["", " "] := by
  have accented : PercentSpells ['%', 'C', '3', '%', 'a', '9'] (utf8 "é".toList) :=
    .byte .upper .lower (.byte .lower .lower .nil)
  have accentedAgain : PercentSpells ['%', 'c', '3', '%', 'A', '9'] (utf8 "é".toList) :=
    .byte .lower .lower (.byte .upper .lower .nil)
  have value : PercentSpells ['%', '6', '1', '%', '2', '6', '%', '3', 'D', '%', '2', 'b']
      (utf8 "a&=+".toList) :=
    .byte .lower .lower (.byte .lower .lower (.byte .lower .upper (.byte .lower .lower .nil)))
  have letter : PercentSpells ['%', '6', '6'] (utf8 "f".toList) := .byte .lower .lower .nil
  have spelled : List.Forall₂ SpellsPair
      ["%C3%a9=%61%26%3D%2b".toList, "%66".toList, "%c3%A9=".toList]
      [("é", "a&=+"), ("f", ""), ("é", "")] :=
    .cons (.both accented value) (.cons (.bare letter) (.cons (.both accentedAgain .nil) .nil))
  obtain ⟨joining, reading⟩ := ofQuery_keeps
  have read := reading _ _ (by decide) spelled
  refine ⟨(read "é").1, (read "f").2.mpr (by decide), ?_⟩
  exact (joining _ _ "f").1.trans (congrArg₂ (· ++ ·) (read "f").1 rfl)

end Switchboard.Parameters
