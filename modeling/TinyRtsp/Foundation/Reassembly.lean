import Mathlib.Data.List.Basic

/-! Messages cut into numbered fragments, and an assembler that gets what is left of
them after losses. A fragment that is not the first of its message is taken only right
behind its predecessor, so no message comes out damaged, and while too few fragments
in a row are lost for a number to come round again, exactly those come out of which
everything has arrived. Nothing here names a particular format. -/
namespace TinyRtsp.Reassembly
variable {N B : Type}

structure Fragment (B : Type) where
  first : Bool
  last : Bool
  piece : List B

def cut (first : Bool) : List (List B) → List (Fragment B)
  | [] => []
  | piece :: rest => ⟨first, rest.isEmpty, piece⟩ :: cut false rest

/-- A message being put together has the number of its next fragment. -/
structure Assembler (N B : Type) where
  pending : Option (N × List B)
  messages : List (List B)

namespace Assembler
variable [DecidableEq N]

def before (a : Assembler N B) (number : N) (first : Bool) : Option (List B) :=
  if first then some []
  else match a.pending with
    | some (next, bytes) => if next = number then some bytes else none
    | none => none

def receive (following : N → N) (a : Assembler N B) (number : N) (fragment : Fragment B) : Assembler N B :=
  match a.before number fragment.first with
  | none => { a with pending := none }
  | some bytes =>
    if fragment.last then ⟨none, a.messages ++ [bytes ++ fragment.piece]⟩
    else ⟨some (following number, bytes ++ fragment.piece), a.messages⟩

theorem receive_continues {a : Assembler N B} {number : N} {fragment : Fragment B} {bytes : List B}
    (continues : a.before number fragment.first = some bytes) (following : N → N) :
    a.receive following number fragment =
      if fragment.last then ⟨none, a.messages ++ [bytes ++ fragment.piece]⟩
      else ⟨some (following number, bytes ++ fragment.piece), a.messages⟩ := by
  rw [receive, continues]

end Assembler

def survivors {A : Type} : List A → List Bool → List A
  | a :: rest, kept :: others => if kept then a :: survivors rest others else survivors rest others
  | _, _ => []

/-- How many were lost at the end, with those lost before. -/
def trailing (lost : Nat) (kept : List Bool) : Nat :=
  kept.foldl (fun lost here => if here then 0 else lost + 1) lost

/-- Fewer than `window` in a row are lost, counting those lost before. -/
def Bounded (window : Nat) : Nat → List Bool → Prop
  | _, [] => True
  | _, true :: rest => Bounded window 0 rest
  | lost, false :: rest => lost + 1 < window ∧ Bounded window (lost + 1) rest

instance (window lost : Nat) (kept : List Bool) : Decidable (Bounded window lost kept) := by
  induction kept generalizing lost with
  | nil => exact inferInstanceAs (Decidable True)
  | cons here rest ih =>
    cases here with
    | true => exact ih 0
    | false => exact inferInstanceAs (Decidable (_ ∧ _))

def intact {A : Type} : List A → List (List Bool) → List A
  | a :: rest, parts :: others => if parts.all id then a :: intact rest others else intact rest others
  | _, _ => []

section Masks
variable {A C : Type} {window lost : Nat}

theorem survivors_append {front : List A} {kept : List Bool} (same : kept.length = front.length)
    (back : List A) (others : List Bool) :
    survivors (front ++ back) (kept ++ others) = survivors front kept ++ survivors back others := by
  induction front generalizing kept with
  | nil =>
    obtain rfl := List.length_eq_zero_iff.mp same
    rfl
  | cons a rest ih =>
    obtain ⟨here, kept, rfl⟩ := List.exists_cons_of_length_eq_add_one same
    have length := Nat.succ.inj same
    cases here with
    | true => simp [survivors, ih length]
    | false => simp [survivors, ih length]

theorem survivors_related {R : A → C → Prop} {items : List A} {others : List C}
    (related : List.Forall₂ R items others) (kept : List Bool) :
    List.Forall₂ R (survivors items kept) (survivors others kept) := by
  induction related generalizing kept with
  | nil => exact .nil
  | cons same _ ih =>
    cases kept with
    | nil => exact .nil
    | cons here rest =>
      rw [survivors, survivors]
      split
      · exact .cons same (ih rest)
      · exact ih rest

theorem survivors_map (f : A → C) (items : List A) (kept : List Bool) :
    survivors (items.map f) kept = (survivors items kept).map f := by
  induction items generalizing kept with
  | nil => rfl
  | cons a rest ih =>
    cases kept with
    | nil => rfl
    | cons here others =>
      rw [List.map_cons, survivors, survivors, ih]
      split <;> rfl

theorem survivors_replicate (items : List A) : survivors items (List.replicate items.length true) = items := by
  induction items with
  | nil => rfl
  | cons a rest ih => rw [List.length_cons, List.replicate_succ, survivors, if_pos rfl, ih]

theorem intact_map (f : A → C) (items : List A) (kept : List (List Bool)) :
    intact (items.map f) kept = (intact items kept).map f := by
  induction items generalizing kept with
  | nil => rfl
  | cons a rest ih =>
    cases kept with
    | nil => rfl
    | cons parts others =>
      rw [List.map_cons, intact, intact, ih]
      split <;> rfl

theorem intact_replicate {parts : List (List A)} (items : List C) (same : items.length = parts.length) :
    intact items (parts.map fun part => List.replicate part.length true) = items := by
  induction items generalizing parts with
  | nil => cases parts <;> rfl
  | cons item rest ih =>
    obtain ⟨part, parts, rfl⟩ := List.exists_cons_of_length_eq_add_one same.symm
    rw [List.map_cons, intact, if_pos (by simp), ih (Nat.succ.inj same)]

theorem mem_of_mem_intact {a : A} {items : List A} {kept : List (List Bool)} (member : a ∈ intact items kept) :
    a ∈ items := by
  induction items generalizing kept with
  | nil => exact member
  | cons item rest ih =>
    cases kept with
    | nil => contradiction
    | cons parts others =>
      rw [intact] at member
      split at member
      · rcases List.mem_cons.mp member with rfl | later
        · exact List.mem_cons_self
        · exact List.mem_cons_of_mem _ (ih later)
      · exact List.mem_cons_of_mem _ (ih member)

theorem bounded_append (front back : List Bool) :
    Bounded window lost (front ++ back) ↔ Bounded window lost front ∧ Bounded window (trailing lost front) back := by
  induction front generalizing lost with
  | nil => simp [Bounded, trailing]
  | cons here rest ih =>
    cases here with
    | true => exact ih
    | false =>
      have step := @ih (lost + 1)
      rw [List.cons_append, Bounded, Bounded, step, and_assoc]
      rfl

theorem bounded_replicate (window count : Nat) : Bounded window 0 (List.replicate count true) := by
  induction count with
  | zero => trivial
  | succ count ih => exact ih

theorem flatten_replicate (parts : List (List A)) :
    (parts.map fun part => List.replicate part.length true).flatten = List.replicate parts.flatten.length true := by
  induction parts with
  | nil => rfl
  | cons part rest ih => simp [ih]

end Masks

/-- Numbers that go on by `following` and do not come round within a window. -/
structure Numbering (number : Nat → N) (following : N → N) (window : Nat) : Prop where
  next : ∀ k, following (number k) = number (k + 1)
  apart : ∀ k lost, 0 < lost → lost < window → number k ≠ number (k + lost)

section Numbered
variable {number : Nat → N} {k lost : Nat} {a : Assembler N B}

def numbered (number : Nat → N) (k : Nat) : List (Fragment B) → List (N × Fragment B)
  | [] => []
  | fragment :: rest => (number k, fragment) :: numbered number (k + 1) rest

@[simp] theorem numbered_length (k : Nat) (fragments : List (Fragment B)) :
    (numbered number k fragments).length = fragments.length := by
  induction fragments generalizing k with
  | nil => rfl
  | cons fragment rest ih => simp [numbered, ih]

theorem numbered_append (k : Nat) (front back : List (Fragment B)) :
    numbered number k (front ++ back) =
      numbered number k front ++ numbered number (k + front.length) back := by
  induction front generalizing k with
  | nil => rfl
  | cons fragment rest ih =>
    rw [List.cons_append, numbered, numbered, ih, List.length_cons, List.cons_append,
      Nat.add_right_comm, Nat.add_assoc]

@[simp] theorem cut_length (first : Bool) (pieces : List (List B)) : (cut first pieces).length = pieces.length := by
  induction pieces generalizing first with
  | nil => rfl
  | cons piece rest ih => simp [cut, ih]

/-- What is pending waits for a fragment that has been lost, `lost` before the `k`-th. -/
def Stale (number : Nat → N) (k lost : Nat) (a : Assembler N B) : Prop :=
  ∀ next bytes, a.pending = some (next, bytes) → ∃ i, 0 < i ∧ i ≤ lost ∧ i ≤ k ∧ next = number (k - i)

theorem Stale.idle (k lost : Nat) (messages : List (List B)) : Stale number k lost ⟨none, messages⟩ := by
  rintro next bytes ⟨⟩

theorem Stale.lose (stale : Stale number k lost a) : Stale number (k + 1) (lost + 1) a := by
  intro next bytes waiting
  obtain ⟨i, positive, recent, old, rfl⟩ := stale next bytes waiting
  refine ⟨i + 1, Nat.succ_pos i, Nat.succ_le_succ recent, Nat.succ_le_succ old, ?_⟩
  rw [Nat.add_sub_add_right]

end Numbered

section Assembly
variable [DecidableEq N] {number : Nat → N} {following : N → N} {window k lost : Nat} {a : Assembler N B}

def assemble (following : N → N) (a : Assembler N B) (arrivals : List (N × Fragment B)) : Assembler N B :=
  arrivals.foldl (fun a arrival => a.receive following arrival.1 arrival.2) a

theorem assemble_cons (n : N) (fragment : Fragment B) (rest : List (N × Fragment B)) :
    assemble following a ((n, fragment) :: rest) =
      assemble following (a.receive following n fragment) rest := rfl

theorem assemble_append (front back : List (N × Fragment B)) :
    assemble following a (front ++ back) = assemble following (assemble following a front) back :=
  List.foldl_append

theorem Stale.receive (numbering : Numbering number following window) (stale : Stale number k lost a)
    (few : lost < window) (fragment : Fragment B) (later : fragment.first = false) :
    a.receive following (number k) fragment = { a with pending := none } := by
  have nothing : a.before (number k) fragment.first = none := by
    unfold Assembler.before
    rw [later, if_neg Bool.false_ne_true]
    split
    · rename_i next bytes waiting
      obtain ⟨i, positive, recent, old, rfl⟩ := stale next bytes waiting
      have differs := numbering.apart (k - i) i positive (Nat.lt_of_le_of_lt recent few)
      rw [Nat.sub_add_cancel old] at differs
      rw [if_neg differs]
    · rfl
  rw [Assembler.receive, nothing]

theorem assemble_broken (numbering : Numbering number following window) (pieces : List (List B))
    (kept : List Bool) (same : kept.length = pieces.length) (stale : Stale number k lost a)
    (few : lost < window) (bounded : Bounded window lost kept) :
    (assemble following a (survivors (numbered number k (cut false pieces)) kept)).messages = a.messages ∧
      Stale number (k + pieces.length) (trailing lost kept)
        (assemble following a (survivors (numbered number k (cut false pieces)) kept)) := by
  induction pieces generalizing kept k lost a with
  | nil =>
    obtain rfl := List.length_eq_zero_iff.mp same
    exact ⟨rfl, stale⟩
  | cons piece rest ih =>
    obtain ⟨here, kept, rfl⟩ := List.exists_cons_of_length_eq_add_one same
    have length := Nat.succ.inj same
    rw [cut, numbered, survivors, List.length_cons, ← Nat.add_assoc, Nat.add_right_comm]
    cases here with
    | true =>
      rw [if_pos rfl, assemble_cons, stale.receive numbering few ⟨false, rest.isEmpty, piece⟩ rfl]
      exact ih kept length (.idle _ _ _) (Nat.zero_lt_of_lt few) bounded
    | false =>
      rw [if_neg Bool.false_ne_true]
      exact ih kept length stale.lose bounded.1 bounded.2

theorem assemble_rest (numbering : Numbering number following window) (pieces : List (List B))
    (nonempty : pieces ≠ []) (kept : List Bool) (same : kept.length = pieces.length) (soFar : List B)
    (waiting : a.pending = some (number k, soFar)) (wide : 1 < window) (bounded : Bounded window 0 kept) :
    (assemble following a (survivors (numbered number k (cut false pieces)) kept)).messages =
        a.messages ++ (if kept.all id then [soFar ++ pieces.flatten] else []) ∧
      Stale number (k + pieces.length) (trailing 0 kept)
        (assemble following a (survivors (numbered number k (cut false pieces)) kept)) := by
  induction pieces generalizing kept k a soFar with
  | nil => contradiction
  | cons piece rest ih =>
    obtain ⟨here, kept, rfl⟩ := List.exists_cons_of_length_eq_add_one same
    have length := Nat.succ.inj same
    rw [cut, numbered, survivors, List.length_cons, ← Nat.add_assoc, Nat.add_right_comm]
    cases here with
    | true =>
      have continues : a.before (number k) false = some soFar := by
        rw [Assembler.before, if_neg Bool.false_ne_true, waiting]
        exact if_pos rfl
      rw [if_pos rfl, assemble_cons, Assembler.receive_continues continues]
      cases rest with
      | nil =>
        obtain rfl := List.length_eq_zero_iff.mp length
        refine ⟨?_, .idle _ _ _⟩
        simp [cut, numbered, survivors, assemble]
      | cons next others =>
        have later := ih (List.cons_ne_nil _ _) kept length
          (a := ⟨some (number (k + 1), soFar ++ piece), a.messages⟩) (soFar ++ piece) rfl bounded
        rw [if_neg (by simp), numbering.next, List.all_cons, List.flatten_cons, ← List.append_assoc]
        exact later
    | false =>
      have stale : Stale number (k + 1) 1 a := by
        intro next bytes found
        obtain ⟨rfl, _⟩ := Prod.mk.inj (Option.some.inj (waiting.symm.trans found))
        exact ⟨1, Nat.one_pos, Nat.le_refl 1, Nat.le_add_left 1 k, rfl⟩
      obtain ⟨quiet, stale⟩ := assemble_broken numbering rest kept length stale wide bounded.2
      rw [if_neg Bool.false_ne_true]
      exact ⟨quiet.trans (List.append_nil _).symm, stale⟩

/-- A message comes out if everything of it has arrived, whatever came before it. -/
theorem assemble_message (numbering : Numbering number following window) (pieces : List (List B))
    (nonempty : pieces ≠ []) (kept : List Bool) (same : kept.length = pieces.length)
    (stale : Stale number k lost a) (wide : 1 < window) (bounded : Bounded window lost kept) :
    (assemble following a (survivors (numbered number k (cut true pieces)) kept)).messages =
        a.messages ++ (if kept.all id then [pieces.flatten] else []) ∧
      Stale number (k + pieces.length) (trailing lost kept)
        (assemble following a (survivors (numbered number k (cut true pieces)) kept)) := by
  obtain ⟨piece, rest, rfl⟩ := List.exists_cons_of_ne_nil nonempty
  obtain ⟨here, kept, rfl⟩ := List.exists_cons_of_length_eq_add_one same
  have length := Nat.succ.inj same
  rw [cut, numbered, survivors, List.length_cons, ← Nat.add_assoc, Nat.add_right_comm]
  cases here with
  | true =>
    have starts : a.before (number k) true = some [] := if_pos rfl
    rw [if_pos rfl, assemble_cons, Assembler.receive_continues starts, List.nil_append]
    cases rest with
    | nil =>
      obtain rfl := List.length_eq_zero_iff.mp length
      refine ⟨?_, .idle _ _ _⟩
      simp [cut, numbered, survivors, assemble]
    | cons next others =>
      have later := assemble_rest (a := ⟨some (number (k + 1), piece), a.messages⟩) numbering
        (next :: others) (List.cons_ne_nil _ _) kept length piece rfl wide bounded
      rw [if_neg (by simp), numbering.next, List.all_cons, List.flatten_cons]
      exact later
  | false =>
    obtain ⟨quiet, stale⟩ := assemble_broken numbering rest kept length stale.lose bounded.1 bounded.2
    rw [if_neg Bool.false_ne_true]
    exact ⟨quiet.trans (List.append_nil _).symm, stale⟩

/-- Of a stream of messages exactly those come out of which everything has arrived. -/
theorem assemble_survivors (numbering : Numbering number following window) (wide : 1 < window)
    (messages : List (List (List B))) (nonempty : ∀ pieces ∈ messages, pieces ≠ [])
    (kept : List (List Bool)) (same : List.Forall₂ (fun pieces parts => parts.length = pieces.length) messages kept)
    (stale : Stale number k lost a) (bounded : Bounded window lost kept.flatten) :
    (assemble following a (survivors (numbered number k (messages.flatMap (cut true))) kept.flatten)).messages =
      a.messages ++ (intact messages kept).map List.flatten := by
  induction same generalizing k lost a with
  | nil => simp [intact, numbered, survivors, assemble]
  | @cons pieces parts messages kept same _ ih =>
    obtain ⟨some, nonempty⟩ := List.forall_mem_cons.mp nonempty
    obtain ⟨here, later⟩ := (bounded_append _ _).mp bounded
    obtain ⟨out, stale⟩ := assemble_message (a := a) numbering pieces some parts same stale wide here
    rw [List.flatMap_cons, numbered_append, List.flatten_cons, survivors_append (by simpa using same),
      assemble_append, cut_length, ih nonempty stale later, out, intact]
    split <;> simp

end Assembly
end TinyRtsp.Reassembly
