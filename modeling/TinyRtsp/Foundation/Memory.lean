import Mathlib.Data.Fin.Basic
import Mathlib.Data.List.OfFn

/-! Buffers of a fixed size as functions of the position, with `memcpy` out of
them and into them. Nothing here names a particular system. -/
namespace TinyRtsp

abbrev Memory (A : Type) (size : Nat) := Fin size → A

namespace Memory
variable {A : Type} {size length bound offset other start : Nat} {memory left right : Memory A size}

/-- `memcpy` from `memory + offset`. -/
def read (memory : Memory A size) (offset length : Nat) (inside : offset + length ≤ size) :
    Memory A length :=
  fun i => memory ⟨offset + i.val, by omega⟩

/-- `memcpy` to `memory + offset`. -/
def write (memory : Memory A size) (offset : Nat) (values : Memory A length) : Memory A size :=
  fun i => if here : offset ≤ i.val ∧ i.val < offset + length then
    values ⟨i.val - offset, by omega⟩ else memory i

def Agree (bound : Nat) (left right : Memory A size) : Prop :=
  ∀ i : Fin size, i.val < bound → left i = right i

theorem Agree.symm (agree : Agree bound left right) : Agree bound right left :=
  fun i inside => (agree i inside).symm

theorem Agree.read (agree : Agree bound left right) {inside : offset + length ≤ size}
    (ends : offset + length ≤ bound) : left.read offset length inside = right.read offset length inside := by
  funext i
  apply agree
  show offset + i.val < bound
  omega

theorem read_write {values : Memory A length} {inside : start + other ≤ size} (begins : offset ≤ start)
    (ends : start + other ≤ offset + length) :
    (memory.write offset values).read start other inside =
      values.read (start - offset) other (by omega) := by
  funext i
  have here : offset ≤ start + i.val ∧ start + i.val < offset + length := by omega
  simp only [Memory.read, write, here, and_self, dite_true]
  congr 1
  apply Fin.ext
  show start + i.val - offset = start - offset + i.val
  omega

theorem read_write_other {values : Memory A length} {inside : start + other ≤ size}
    (apart : start + other ≤ offset ∨ offset + length ≤ start) :
    (memory.write offset values).read start other inside = memory.read start other inside := by
  funext i
  have outside : ¬ (offset ≤ start + i.val ∧ start + i.val < offset + length) := by omega
  simp only [Memory.read, write, outside, dite_false]

/-- Two memories that agree on the first `bound` positions, one of them with any
value at a position beyond these. -/
theorem agree_update {position : Fin size} {value : A}
    (beyond : bound ≤ position.val) : Agree bound memory (Function.update memory position value) := by
  intro i inside
  rw [Function.update_of_ne]
  rintro rfl
  omega

def Holds (memory : Memory A size) (offset : Nat) (values : List A) : Prop :=
  offset + values.length ≤ size ∧ ∀ (i : Fin size) (value : A), values[i.val - offset]? = some value →
    offset ≤ i.val → memory i = value

theorem holds_append {front back : List A} :
    memory.Holds offset (front ++ back) ↔
      memory.Holds offset front ∧ memory.Holds (offset + front.length) back := by
  simp only [Holds, List.length_append]
  constructor
  · rintro ⟨inside, same⟩
    refine ⟨⟨by omega, fun i value here begins => same i value ?_ begins⟩, by omega,
      fun i value here begins => same i value ?_ (by omega)⟩
    · obtain ⟨short, _⟩ := List.getElem?_eq_some_iff.mp here
      rwa [List.getElem?_append_left short]
    · rw [List.getElem?_append_right (by omega)]
      rwa [show i.val - offset - front.length = i.val - (offset + front.length) by omega]
  · rintro ⟨⟨_, first⟩, inside, second⟩
    refine ⟨by omega, fun i value here begins => ?_⟩
    rw [List.getElem?_append] at here
    split at here
    · exact first i value here begins
    · refine second i value ?_ (by omega)
      rwa [show i.val - (offset + front.length) = i.val - offset - front.length by omega]

theorem holds_write {values : Memory A length} (inside : offset + length ≤ size) :
    (memory.write offset values).Holds offset (List.ofFn values) := by
  refine ⟨by rwa [List.length_ofFn], fun i value here begins => ?_⟩
  obtain ⟨short, same⟩ := List.getElem?_eq_some_iff.mp here
  rw [List.length_ofFn] at short
  rw [write, dif_pos ⟨begins, by omega⟩, ← same, List.getElem_ofFn]

theorem Holds.prefix_ofFn {values : List A} (holds : memory.Holds 0 values) : values <+: List.ofFn memory := by
  obtain ⟨inside, same⟩ := holds
  rw [Nat.zero_add] at inside
  rw [List.prefix_iff_getElem?]
  intro i short
  rw [List.getElem?_ofFn, dif_pos (Nat.lt_of_lt_of_le short inside)]
  exact congrArg some (same ⟨i, _⟩ _ (List.getElem?_eq_getElem short) (Nat.zero_le i))

theorem Holds.write {values : List A} {later : Memory A length} (holds : memory.Holds offset values)
    (apart : offset + values.length ≤ start) : (memory.write start later).Holds offset values := by
  refine ⟨holds.1, fun i value here begins => ?_⟩
  obtain ⟨short, _⟩ := List.getElem?_eq_some_iff.mp here
  rw [Memory.write, dif_neg (by omega)]
  exact holds.2 i value here begins

end Memory
end TinyRtsp
