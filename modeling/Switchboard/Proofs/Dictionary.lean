import Mathlib.Data.List.Induction
import Mathlib.Data.String.Basic
import Switchboard.Dictionary

/-!
The entries of a dictionary. They stay in the order of their names, so each name has one entry and
what is found under a name is what stands there.
-/

namespace Switchboard

namespace Dictionary

variable {α : Type}

def Ordered (entries : List (String × α)) : Prop := entries.Pairwise fun a b => a.1 < b.1

theorem name_of_mem_insertEntry {name : String} {value : α} {entries : List (String × α)}
    {entry : String × α} (member : entry ∈ insertEntry name value entries) :
    entry.1 = name ∨ entry ∈ entries := by
  induction entries with
  | nil => exact .inl (by simp [List.mem_singleton.mp member])
  | cons first entries ih =>
      rw [insertEntry] at member
      split at member
      next =>
        rcases List.mem_cons.mp member with rfl | old
        · exact .inl rfl
        · exact .inr old
      next =>
        split at member
        next =>
          rcases List.mem_cons.mp member with rfl | old
          · exact .inl rfl
          · exact .inr (List.mem_cons_of_mem _ old)
        next =>
          rcases List.mem_cons.mp member with rfl | later
          · exact .inr List.mem_cons_self
          · exact (ih later).imp id (List.mem_cons_of_mem _)

theorem ordered_insertEntry (name : String) (value : α) {entries : List (String × α)}
    (ordered : Ordered entries) : Ordered (insertEntry name value entries) := by
  induction entries with
  | nil => exact List.pairwise_singleton _ _
  | cons first entries ih =>
      obtain ⟨other, kept⟩ := first
      obtain ⟨above, later⟩ := List.pairwise_cons.mp ordered
      rw [insertEntry]
      split
      next below =>
        refine List.pairwise_cons.mpr ⟨?_, ordered⟩
        intro entry member
        rcases List.mem_cons.mp member with rfl | inside
        · exact below
        · exact lt_trans below (above entry inside)
      next atLeast =>
        split
        next same =>
          subst same
          exact List.pairwise_cons.mpr ⟨above, later⟩
        next different =>
          refine List.pairwise_cons.mpr ⟨?_, ih later⟩
          intro entry member
          rcases name_of_mem_insertEntry member with named | inside
          · rw [named]
            exact lt_of_le_of_ne (not_lt.mp atLeast) (Ne.symm different)
          · exact above entry inside

theorem ordered_ofList (entries : List (String × α)) : Ordered (ofList entries).entries := by
  induction entries using List.reverseRecOn with
  | nil => exact .nil
  | append_singleton entries entry ih =>
      rw [ofList, List.foldl_append]
      exact ordered_insertEntry entry.1 entry.2 ih

theorem mem_iff_lookup_of_ordered {entries : List (String × α)} (ordered : Ordered entries)
    {name : String} {value : α} :
    (name, value) ∈ entries ↔ entries.lookup name = some value := by
  constructor
  · intro member
    induction entries with
    | nil => cases member
    | cons first entries ih =>
        obtain ⟨other, kept⟩ := first
        obtain ⟨above, later⟩ := List.pairwise_cons.mp ordered
        rw [lookup_cons_eq_if]
        rcases List.mem_cons.mp member with same | inside
        · cases same
          exact if_pos rfl
        · rw [if_neg (above _ inside).ne', ih later inside]
  · intro found
    obtain ⟨front, back, rfl, -⟩ := List.lookup_eq_some_iff.mp found
    simp

end Dictionary

end Switchboard
