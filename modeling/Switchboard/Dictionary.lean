/-! Values by name, in the order of the names. -/

namespace Switchboard

structure Dictionary (α : Type) where
  entries : List (String × α)
  deriving DecidableEq

namespace Dictionary

variable {α : Type}

def empty : Dictionary α := ⟨[]⟩

def get? (dictionary : Dictionary α) (name : String) : Option α :=
  dictionary.entries.lookup name

def size (dictionary : Dictionary α) : Nat := dictionary.entries.length

def insertEntry (name : String) (value : α) : List (String × α) → List (String × α)
  | [] => [(name, value)]
  | (other, kept) :: entries =>
    if name < other then (name, value) :: (other, kept) :: entries
    else if name = other then (name, value) :: entries
    else (other, kept) :: insertEntry name value entries

def insert (dictionary : Dictionary α) (name : String) (value : α) : Dictionary α :=
  ⟨insertEntry name value dictionary.entries⟩

def ofList (entries : List (String × α)) : Dictionary α :=
  entries.foldl (fun dictionary (name, value) => dictionary.insert name value) empty

def erase (dictionary : Dictionary α) (name : String) : Dictionary α :=
  ⟨dictionary.entries.filter fun (other, _) => other ≠ name⟩

@[simp]
theorem get?_empty (name : String) : (empty : Dictionary α).get? name = none := rfl

section Lookup

variable {κ : Type} [BEq κ] [LawfulBEq κ] [DecidableEq κ] (name other : κ)

theorem lookup_cons_eq_if (value : α) (entries : List (κ × α)) :
    ((name, value) :: entries).lookup other =
      if other = name then some value else entries.lookup other := by
  by_cases same : other = name
  · simp [same]
  · simp [List.lookup_cons, same, beq_eq_false_iff_ne.mpr same]

theorem lookup_filter_ne (entries : List (κ × α)) :
    (entries.filter fun (kept, _) => kept ≠ name).lookup other =
      if other = name then none else entries.lookup other := by
  induction entries with
  | nil => exact (ite_self none).symm
  | cons entry entries ih =>
      obtain ⟨kept, value⟩ := entry
      by_cases same : kept = name
      · rw [List.filter_cons_of_neg (by simpa using same), ih, lookup_cons_eq_if, same]
        split <;> rfl
      · rw [List.filter_cons_of_pos (by simpa using same), lookup_cons_eq_if, lookup_cons_eq_if, ih]
        split
        next hit => rw [if_neg (hit ▸ same)]
        next => rfl

end Lookup

theorem lookup_insertEntry (name other : String) (value : α) (entries : List (String × α)) :
    (insertEntry name value entries).lookup other =
      if other = name then some value else entries.lookup other := by
  induction entries with
  | nil => exact lookup_cons_eq_if name other value []
  | cons entry entries ih =>
      obtain ⟨kept, old⟩ := entry
      rw [insertEntry]
      split
      next => exact lookup_cons_eq_if name other value _
      next =>
        split
        next same =>
          subst same
          simp only [lookup_cons_eq_if]
          split <;> rfl
        next different =>
          simp only [lookup_cons_eq_if, ih]
          split
          next hit => rw [if_neg (hit ▸ Ne.symm different)]
          next => rfl

@[simp]
theorem get?_insert (dictionary : Dictionary α) (name other : String) (value : α) :
    (dictionary.insert name value).get? other =
      if other = name then some value else dictionary.get? other :=
  lookup_insertEntry name other value dictionary.entries

theorem get?_erase_of_ne (dictionary : Dictionary α) {name other : String}
    (different : other ≠ name) : (dictionary.erase name).get? other = dictionary.get? other := by
  rw [get?, erase, lookup_filter_ne, if_neg different]
  rfl

theorem size_erase_lt {dictionary : Dictionary α} {name : String} {value : α}
    (found : dictionary.get? name = some value) :
    (dictionary.erase name).size < dictionary.size := by
  obtain ⟨entries⟩ := dictionary
  simp only [get?, erase, size] at found ⊢
  have member : (name, value) ∈ entries := by
    induction entries with
    | nil => cases found
    | cons entry entries ih =>
      obtain ⟨other, kept⟩ := entry
      rw [List.lookup_cons] at found
      split at found
      next same =>
        simp only [beq_iff_eq] at same
        cases found
        simp [same]
      next => exact List.mem_cons_of_mem _ (ih found)
  exact List.length_filter_lt_length_iff_exists.mpr ⟨(name, value), member, by simp⟩

end Dictionary

end Switchboard
