/-! What a reader of the front of a text gives: a value and the rest, which is shorter. -/

namespace Switchboard.Text

structure Reading (text : List Char) (α : Type) where
  value : α
  rest : List Char
  shorter : rest.length < text.length

namespace Reading

def map (transform : α → β) {text : List Char} (reading : Reading text α) : Reading text β :=
  ⟨transform reading.value, reading.rest, reading.shorter⟩

def widen {later text : List Char} (reading : Reading later α)
    (within : later.length ≤ text.length) : Reading text α :=
  ⟨reading.value, reading.rest, Nat.lt_of_lt_of_le reading.shorter within⟩

end Reading

theorem length_dropWhile_le (test : Char → Bool) (text : List Char) :
    (text.dropWhile test).length ≤ text.length :=
  (List.dropWhile_sublist test).length_le

/-- A run of characters is split off where it is maximal. -/
theorem span_iff {text rest : List Char} (test : Char → Bool) (front : List Char) :
    text.takeWhile test = front ∧ text.dropWhile test = rest ↔
      text = front ++ rest ∧ (∀ c ∈ front, test c) ∧ ∀ c ∈ rest.head?, test c = false := by
  constructor
  · rintro ⟨rfl, rfl⟩
    refine ⟨List.takeWhile_append_dropWhile.symm, List.all_eq_true.mp List.all_takeWhile, ?_⟩
    intro c first
    have stopped := List.head?_dropWhile_not test text
    rw [Option.mem_def.mp first] at stopped
    exact stopped
  · rintro ⟨rfl, all, stops⟩
    rw [List.takeWhile_append_of_pos all, List.dropWhile_append_of_pos all]
    cases rest with
    | nil => simp
    | cons c rest => simp [stops c rfl]

end Switchboard.Text
