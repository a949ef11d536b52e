import Mathlib.Data.Fin.Basic
import Mathlib.Tactic.Ring

/-! Windows of a ring of `n` slots. A window starts at one slot, follows the
ring and ends just before another; with fewer than `n` items its end points
tell how many it holds. -/
namespace TinyRtsp.Ring
variable {α : Type} {n : Nat}

def succ (p : Fin n) : Fin n := ⟨(p + 1) % n, Nat.mod_lt _ (Nat.zero_lt_of_lt p.isLt)⟩

theorem succ_ne (large : 2 ≤ n) (p : Fin n) : succ p ≠ p := by
  intro same
  have value := congrArg Fin.val same
  have bound := p.isLt
  simp only [succ] at value
  by_cases wraps : p.val + 1 < n
  · rw [Nat.mod_eq_of_lt wraps] at value
    omega
  · rw [Nat.mod_eq_sub_mod (by omega), Nat.mod_eq_of_lt (by omega)] at value
    omega

theorem succ_injective : Function.Injective (succ : Fin n → Fin n) := by
  intro p q same
  have value := congrArg Fin.val same
  have first := p.isLt
  have second := q.isLt
  simp only [succ] at value
  apply Fin.ext
  by_cases wraps : p.val + 1 < n
  · rw [Nat.mod_eq_of_lt wraps] at value
    by_cases other : q.val + 1 < n
    · rw [Nat.mod_eq_of_lt other] at value
      omega
    · obtain last : q.val + 1 = n := by omega
      rw [last, Nat.mod_self] at value
      omega
  · obtain last : p.val + 1 = n := by omega
    rw [last, Nat.mod_self] at value
    by_cases other : q.val + 1 < n
    · rw [Nat.mod_eq_of_lt other] at value
      omega
    · omega

/-- The number of slots from `p` up to `w`, exclusive. -/
def distance (p w : Fin n) : Nat := if p.val ≤ w.val then w - p else w + n - p

theorem distance_self (p : Fin n) : distance p p = 0 := by
  simp [distance]

theorem succ_val (p : Fin n) : (succ p).val = if p.val + 1 = n then 0 else p.val + 1 := by
  have bound := p.isLt
  unfold succ
  split
  · rename_i last
    show (p.val + 1) % n = 0
    rw [last, Nat.mod_self]
  · exact Nat.mod_eq_of_lt (by omega)

theorem distance_eq_pred_iff {p w : Fin n} : distance p w + 1 = n ↔ p = succ w := by
  have bounds := p.isLt
  have ends := w.isLt
  rw [Fin.ext_iff, succ_val]
  unfold distance
  split
  · split
    · omega
    · omega
  · split
    · omega
    · omega

theorem distance_succ {p w : Fin n} (notLast : p ≠ succ w) :
    distance p (succ w) = distance p w + 1 := by
  have bounds := p.isLt
  have ends := w.isLt
  have apart : p.val ≠ (succ w).val := fun same => notLast (Fin.ext same)
  have value := succ_val w
  unfold distance
  by_cases last : w.val + 1 = n
  · rw [if_pos last] at value
    rw [value, if_neg (by omega), if_pos (by omega)]
    omega
  · rw [if_neg last] at value
    rw [value] at apart ⊢
    by_cases wraps : p.val ≤ w.val
    · rw [if_pos wraps, if_pos (by omega)]
      omega
    · rw [if_neg wraps, if_neg (by omega)]
      omega

theorem distance_succ_left {p w : Fin n} (apart : p ≠ w) : distance (succ p) w + 1 = distance p w := by
  have bounds := p.isLt
  have ends := w.isLt
  have differ : p.val ≠ w.val := fun same => apart (Fin.ext same)
  have value := succ_val p
  unfold distance
  by_cases last : p.val + 1 = n
  · rw [if_pos last] at value
    rw [value, if_pos (by omega), if_neg (by omega)]
    omega
  · rw [if_neg last] at value
    rw [value]
    by_cases before : p.val ≤ w.val
    · rw [if_pos before, if_pos (by omega)]
      omega
    · rw [if_neg before, if_neg (by omega)]
      omega

/-- The slots from `p` up to `w`, exclusive, hold exactly `items`. -/
def Window (slots : Vector α n) : Fin n → List α → Fin n → Prop
  | p, [], w => p = w
  | p, x :: items, w => slots[p] = x ∧ Window slots (succ p) items w

namespace Window
variable {slots : Vector α n} {p w : Fin n} {items : List α}

theorem end_val (window : Window slots p items w) : w.val = (p.val + items.length) % n := by
  induction items generalizing p with
  | nil =>
    obtain rfl : p = w := window
    exact (Nat.mod_eq_of_lt p.isLt).symm
  | cons x rest ih =>
    rw [ih window.2]
    simp only [succ, Nat.mod_add_mod, List.length_cons]
    congr 1
    omega

theorem start_eq_end_iff (window : Window slots p items w) (fits : items.length < n) :
    p = w ↔ items = [] := by
  have last := window.end_val
  have bound := p.isLt
  rw [Fin.ext_iff, last, ← List.length_eq_zero_iff]
  constructor
  · intro same
    by_cases wraps : p.val + items.length < n
    · rw [Nat.mod_eq_of_lt wraps] at same
      omega
    · rw [Nat.mod_eq_sub_mod (by omega), Nat.mod_eq_of_lt (by omega)] at same
      omega
  · intro empty
    rw [empty, Nat.add_zero, Nat.mod_eq_of_lt bound]

/-- One slot stays unused, so a full window starts right after its end. -/
theorem start_eq_succ_end_iff (window : Window slots p items w) (fits : items.length < n) :
    p = succ w ↔ items.length + 1 = n := by
  have last := window.end_val
  have bound := p.isLt
  simp only [Fin.ext_iff, succ, last, Nat.mod_add_mod]
  by_cases wraps : p.val + items.length + 1 < n
  · rw [Nat.mod_eq_of_lt wraps]
    omega
  · rw [Nat.mod_eq_sub_mod (by omega), Nat.mod_eq_of_lt (by omega)]
    omega

theorem push (window : Window slots p items w) (fits : items.length < n) (x : α) :
    Window (slots.set w x) p (items ++ [x]) (succ w) := by
  induction items generalizing p with
  | nil =>
    obtain rfl : p = w := window
    exact ⟨by simp, rfl⟩
  | cons y rest ih =>
    have short : rest.length < n := by simp only [List.length_cons] at fits; omega
    have apart : p ≠ w := fun same => by
      simpa using (window.start_eq_end_iff fits).mp same
    have kept : (slots.set w x)[p] = slots[p] := by
      simp only [Fin.getElem_fin]
      exact Vector.getElem_set_ne w.isLt p.isLt (fun same => apart (Fin.ext same.symm))
    exact ⟨kept.trans window.1, ih window.2 short⟩

end Window
end TinyRtsp.Ring
