/-!
Letters in either case. Only the letters from A to Z have another case, so what relates characters
to their lower or upper case is checked on these and on characters that stay as they are.
-/

namespace Switchboard.Text

variable {motive : Char → Char → Prop}

theorem toLower_cases
    (capitals : ∀ n < 91, 65 ≤ n → motive (Char.ofNat n) (Char.ofNat n).toLower)
    (others : ∀ c : Char, ¬ (c.val ≥ 'A'.val ∧ c.val ≤ 'Z'.val) → motive c c) (c : Char) :
    motive c c.toLower := by
  by_cases capital : c.val ≥ 'A'.val ∧ c.val ≤ 'Z'.val
  · have held := capitals c.toNat (Nat.lt_succ_of_le capital.2) capital.1
    rwa [Char.ofNat_toNat] at held
  · have kept : c.toLower = c := dif_neg capital
    rw [kept]
    exact others c capital

theorem toUpper_cases
    (small : ∀ n < 123, 97 ≤ n → motive (Char.ofNat n) (Char.ofNat n).toUpper)
    (others : ∀ c : Char, ¬ ('a'.val ≤ c.val ∧ c.val ≤ 'z'.val) → motive c c) (c : Char) :
    motive c c.toUpper := by
  by_cases letter : 'a'.val ≤ c.val ∧ c.val ≤ 'z'.val
  · have held := small c.toNat (Nat.lt_succ_of_le letter.2) letter.1
    rwa [Char.ofNat_toNat] at held
  · have kept : c.toUpper = c := dif_neg letter
    rw [kept]
    exact others c letter

theorem not_isUpper_toLower (c : Char) : (!c.toLower.isUpper) = true :=
  toLower_cases (motive := fun _ lower => (!lower.isUpper) = true) (by decide)
    (fun _ outside => congrArg (! ·) (decide_eq_false outside)) c

theorem toList_toLower (text : String) : text.toLower.toList = text.toList.map Char.toLower :=
  String.toList_map

theorem toList_toUpper (text : String) : text.toUpper.toList = text.toList.map Char.toUpper :=
  String.toList_map

theorem toUpper_toUpper (text : String) : text.toUpper.toUpper = text.toUpper := by
  have each (c : Char) : c.toUpper.toUpper = c.toUpper :=
    toUpper_cases (motive := fun _ upper => upper.toUpper = upper) (by decide)
      (fun _ outside => dif_neg outside) c
  rw [← String.toList_inj, toList_toUpper, toList_toUpper, List.map_map]
  exact List.map_congr_left fun c _ => each c

end Switchboard.Text
