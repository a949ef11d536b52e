import Mathlib.Algebra.Order.Floor.Div
import Mathlib.Data.Prod.Lex

/-! Fixed-point numbers: a whole part above a fraction that counts parts of a
unit. A fraction given in parts of one size is counted again in parts of another
and rounded down; as long as the new parts are no coarser, nothing is lost. -/
namespace TinyRtsp.FixedPoint
variable {m n u v w x : Nat}

/-- `u` of `m` parts of a unit, counted in `n` parts. -/
def rescale (m n u : Nat) : Nat := u * n / m

theorem rescale_lt (proper : u < m) (parts : 0 < n) : rescale m n u < n := by
  apply (Nat.div_lt_iff_lt_mul (Nat.zero_lt_of_lt proper)).mpr
  rw [Nat.mul_comm n m]
  exact Nat.mul_lt_mul_of_pos_right proper parts

theorem rescale_strictMono (parts : 0 < m) (finer : m ≤ n) : StrictMono (rescale m n) := by
  intro u v less
  have step : u * n + m ≤ v * n := calc
    u * n + m ≤ u * n + n := Nat.add_le_add_left finer _
    _ = (u + 1) * n := (Nat.succ_mul u n).symm
    _ ≤ v * n := Nat.mul_le_mul_right n less
  calc
    rescale m n u < u * n / m + 1 := Nat.lt_succ_self _
    _ = (u * n + m) / m := (Nat.add_div_right _ parts).symm
    _ ≤ rescale m n v := Nat.div_le_div_right step

theorem ceilDiv_rescale (parts : 0 < m) (finer : m ≤ n) (u : Nat) : (rescale m n u * m) ⌈/⌉ n = u := by
  have units : 0 < n := Nat.lt_of_lt_of_le parts finer
  apply Nat.le_antisymm
  · rw [ceilDiv_le_iff_le_mul units, Nat.mul_comm n u]
    exact Nat.div_mul_le_self _ _
  · by_contra fewer
    -- a smaller count loses a whole unit of `n`, rounding down less than `m`
    have above : rescale m n u * m ≤ n * ((rescale m n u * m) ⌈/⌉ n) :=
      (ceilDiv_le_iff_le_mul units).mp (Nat.le_refl _)
    have lost : n * ((rescale m n u * m) ⌈/⌉ n + 1) ≤ n * u :=
      Nat.mul_le_mul_left n (Nat.lt_of_not_le fewer)
    have rounded : u * n < rescale m n u * m + m := Nat.lt_div_mul_add parts
    rw [Nat.mul_succ] at lost
    rw [Nat.mul_comm u n] at rounded
    omega

/-- `w` units and `u` of `m` parts, in parts of which a unit has `n`. -/
def stamp (m n w u : Nat) : Nat := w * n + rescale m n u

theorem stamp_div (proper : u < m) (parts : 0 < n) : stamp m n w u / n = w := by
  rw [stamp, Nat.mul_comm, Nat.mul_add_div parts, Nat.div_eq_of_lt (rescale_lt proper parts),
    Nat.add_zero]

theorem stamp_mod (proper : u < m) (parts : 0 < n) : stamp m n w u % n = rescale m n u := by
  rw [stamp, Nat.mul_comm, Nat.mul_add_mod, Nat.mod_eq_of_lt (rescale_lt proper parts)]

theorem stamp_lt (proper : u < m) (parts : 0 < n) (whole : w < v) : stamp m n w u < v * n := calc
  stamp m n w u < w * n + n := Nat.add_lt_add_left (rescale_lt proper parts) _
  _ = (w + 1) * n := (Nat.succ_mul w n).symm
  _ ≤ v * n := Nat.mul_le_mul_right n whole

theorem stamp_lt_stamp_iff (finer : m ≤ n) (left : u < m) (right : v < m) :
    stamp m n w u < stamp m n x v ↔ toLex (w, u) < toLex (x, v) := by
  have parts : 0 < m := Nat.zero_lt_of_lt left
  have units : 0 < n := Nat.lt_of_lt_of_le parts finer
  rw [Prod.Lex.toLex_lt_toLex]
  rcases Nat.lt_trichotomy w x with before | rfl | after
  · have below : stamp m n w u < stamp m n x v :=
      Nat.lt_of_lt_of_le (stamp_lt left units before) (Nat.le_add_right _ _)
    exact iff_of_true below (.inl before)
  · rw [stamp, stamp, Nat.add_lt_add_iff_left, (rescale_strictMono parts finer).lt_iff_lt]
    simp
  · have above : stamp m n x v < stamp m n w u :=
      Nat.lt_of_lt_of_le (stamp_lt right units after) (Nat.le_add_right _ _)
    exact iff_of_false (Nat.lt_asymm above) (by simp only; omega)

end TinyRtsp.FixedPoint
