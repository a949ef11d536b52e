import Mathlib.Data.List.Basic

/-! Cutting a list into pieces of a fixed size, the last one possibly shorter, or before
each item that opens a piece. -/
namespace TinyRtsp
variable {α : Type} {size : Nat} {items : List α}

def chunks (size : Nat) (items : List α) : List (List α) :=
  if 0 < size ∧ items ≠ [] then items.take size :: chunks size (items.drop size) else []
  termination_by items.length
  decreasing_by
    obtain ⟨_, nonempty⟩ := ‹_ ∧ _›
    have := List.length_pos_iff.mpr nonempty
    simp only [List.length_drop]
    omega

@[simp] theorem chunks_nil : chunks size ([] : List α) = [] := by
  rw [chunks, if_neg (by simp)]

theorem chunks_cons (positive : 0 < size) (nonempty : items ≠ []) :
    chunks size items = items.take size :: chunks size (items.drop size) := by
  rw [chunks, if_pos ⟨positive, nonempty⟩]

theorem chunks_flatten (positive : 0 < size) : (chunks size items).flatten = items := by
  fun_induction chunks size items with
  | case1 items _ ih => rw [List.flatten_cons, ih, List.take_append_drop]
  | case2 items done =>
    have : items = [] := not_not.mp fun nonempty => done ⟨positive, nonempty⟩
    simp [this]

theorem mem_chunks {piece : List α} (member : piece ∈ chunks size items) :
    piece ≠ [] ∧ piece.length ≤ size := by
  fun_induction chunks size items with
  | case1 items more ih =>
    obtain ⟨positive, nonempty⟩ := more
    rcases List.mem_cons.mp member with rfl | rest
    · have := List.length_pos_iff.mpr nonempty
      constructor
      · apply List.ne_nil_of_length_pos
        rw [List.length_take]
        omega
      · exact List.length_take_le size items
    · exact ih rest
  | case2 => contradiction

/-- One piece, and one more for each `size` items that are left behind the first
item. -/
theorem chunks_length (positive : 0 < size) (nonempty : items ≠ []) :
    (chunks size items).length = 1 + (items.length - 1) / size := by
  fun_induction chunks size items with
  | case1 items more ih =>
    have length := List.length_pos_iff.mpr nonempty
    rw [List.length_cons]
    by_cases last : items.drop size = []
    · have short : items.length ≤ size := List.drop_eq_nil_iff.mp last
      rw [last, chunks_nil, Nat.div_eq_of_lt (by omega)]
      rfl
    · have long : size < items.length := by
        by_contra short
        exact last (List.drop_eq_nil_of_le (Nat.le_of_not_lt short))
      have behind : items.length - 1 = items.length - size - 1 + size := by omega
      rw [ih last, List.length_drop, behind, Nat.add_div_right _ positive]
      omega
  | case2 items done => exact absurd ⟨positive, nonempty⟩ done

theorem two_le_chunks_length (positive : 0 < size) (long : size < items.length) :
    2 ≤ (chunks size items).length := by
  have nonempty : items ≠ [] := List.ne_nil_of_length_pos (by omega)
  have more : items.drop size ≠ [] := by
    apply List.ne_nil_of_length_pos
    rw [List.length_drop]
    omega
  rw [chunks_cons positive nonempty, chunks_cons positive more]
  simp

/-- What stands before the first item that opens a piece, and the pieces. -/
def sections (opens : α → Bool) : List α → List α × List (List α)
  | [] => ([], [])
  | item :: rest =>
    if opens item then ([], (item :: (sections opens rest).1) :: (sections opens rest).2)
    else (item :: (sections opens rest).1, (sections opens rest).2)

theorem sections_append {opens : α → Bool} {before : List α} (plain : ∀ item ∈ before, opens item = false)
    (rest : List α) :
    sections opens (before ++ rest) = (before ++ (sections opens rest).1, (sections opens rest).2) := by
  induction before with
  | nil => rfl
  | cons item before ih =>
    have here := plain item List.mem_cons_self
    have later := ih fun other member => plain other (List.mem_cons_of_mem _ member)
    rw [List.cons_append, sections, here, if_neg Bool.false_ne_true, later]
    rfl

theorem sections_pieces {opens : α → Bool} {before : List α} {pieces : List (α × List α)}
    (plain : ∀ item ∈ before, opens item = false)
    (opened : ∀ piece ∈ pieces, opens piece.1 = true ∧ ∀ item ∈ piece.2, opens item = false) :
    sections opens (before ++ pieces.flatMap fun piece => piece.1 :: piece.2) =
      (before, pieces.map fun piece => piece.1 :: piece.2) := by
  rw [sections_append plain]
  suffices same : sections opens (pieces.flatMap fun piece => piece.1 :: piece.2) =
      ([], pieces.map fun piece => piece.1 :: piece.2) by
    rw [same, List.append_nil]
  induction pieces with
  | nil => rfl
  | cons piece pieces ih =>
    obtain ⟨first, others⟩ := opened piece List.mem_cons_self
    have later := ih fun other member => opened other (List.mem_cons_of_mem _ member)
    rw [List.flatMap_cons, List.cons_append, sections, if_pos first, sections_append others, later,
      List.append_nil, List.map_cons]

end TinyRtsp
