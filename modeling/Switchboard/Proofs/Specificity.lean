import Mathlib.Data.List.Find
import Mathlib.Data.List.Induction
import Switchboard.Template

/-! How narrow templates are: a strict order in which what is not below is above or level. -/

namespace Switchboard.Specificity

theorem lt_iff (a b : Specificity) :
    a < b ↔ a.literals < b.literals ∨ a.literals = b.literals ∧
      (a.closed.toNat < b.closed.toNat ∨ a.closed.toNat = b.closed.toNat ∧
        b.parameters < a.parameters) := by
  change compare a b = .lt ↔ _
  simp only [compare, Ordering.then_eq_lt, Nat.compare_eq_lt, Nat.compare_eq_eq]

theorem lt_irrefl (a : Specificity) : ¬a < a := by
  simp only [lt_iff]
  omega

theorem lt_trans {a b c : Specificity} (first : a < b) (second : b < c) : a < c := by
  simp only [lt_iff] at first second ⊢
  omega

theorem lt_of_not_lt_of_lt {a b c : Specificity} (first : ¬b < a) (second : b < c) : a < c := by
  simp only [lt_iff] at first second ⊢
  omega

theorem eq_of_not_lt {a b : Specificity} (first : ¬a < b) (second : ¬b < a) : a = b := by
  obtain ⟨literals, closed, parameters⟩ := a
  obtain ⟨otherLiterals, otherClosed, otherParameters⟩ := b
  simp only [lt_iff] at first second
  have injective : ∀ one other : Bool, one.toNat = other.toNat → one = other := by decide
  obtain rfl := injective closed otherClosed (by omega)
  simp only [Specificity.mk.injEq, true_and]
  omega

end Switchboard.Specificity
