import Mathlib.Algebra.BigOperators.Group.Finset.Basic
import Mathlib.Algebra.Order.BigOperators.Group.Finset
import Mathlib.Data.Fintype.Basic

/-! Weights summed over a finite family of states, one member of which moves at a
time. -/
namespace TinyRtsp
variable {I A : Type} [Fintype I]

def tally (weight : A → Nat) (family : I → A) : Nat := ∑ i, weight (family i)

theorem tally_congr {weight : A → Nat} {family other : I → A}
    (same : ∀ i, weight (family i) = weight (other i)) : tally weight family = tally weight other :=
  Finset.sum_congr rfl fun i _ => same i

theorem tally_eq_zero_iff {weight : A → Nat} {family : I → A} :
    tally weight family = 0 ↔ ∀ i, weight (family i) = 0 := by
  simp [tally]

theorem tally_le {weight : A → Nat} {family : I → A} {bound : Nat} (most : ∀ a, weight a ≤ bound) :
    tally weight family ≤ Fintype.card I * bound := by
  calc tally weight family
      ≤ ∑ _ : I, bound := Finset.sum_le_sum fun i _ => most (family i)
    _ = Fintype.card I * bound := Finset.sum_const_nat fun _ _ => rfl

theorem tally_update [DecidableEq I] (weight : A → Nat) (family : I → A) (i : I) (a : A) :
    tally weight (Function.update family i a) + weight (family i) =
      tally weight family + weight a := by
  have rest : ∀ j ∈ Finset.univ.erase i,
      weight (Function.update family i a j) = weight (family j) := by
    intro j member
    rw [Function.update_of_ne (Finset.ne_of_mem_erase member)]
  rw [tally, tally, ← Finset.add_sum_erase _ _ (Finset.mem_univ i),
    ← Finset.add_sum_erase Finset.univ (fun j => weight (family j)) (Finset.mem_univ i),
    Finset.sum_congr rfl rest, Function.update_self]
  omega

theorem tally_update_same [DecidableEq I] {weight : A → Nat} {family : I → A} {i : I} {a : A}
    (same : weight a = weight (family i)) :
    tally weight (Function.update family i a) = tally weight family := by
  have moved := tally_update weight family i a
  rw [same] at moved
  exact Nat.add_right_cancel moved

end TinyRtsp
