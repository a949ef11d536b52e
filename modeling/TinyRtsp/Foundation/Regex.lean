import Mathlib.Data.List.Basic
import Mathlib.Logic.Function.Basic

/-! Regular expressions with ECMAScript backtracking. A quantifier tries its
longest match first, the leftmost start wins, and a group keeps the text it
matched; a group that takes no part in the match is empty. -/
namespace TinyRtsp

inductive Regex (A : Type) where
  | one (accepts : A → Bool)
  | many (accepts : A → Bool)
  | seq (first rest : Regex A)
  | opt (body : Regex A)
  | group (index : Nat) (body : Regex A)

namespace Regex
variable {A R : Type}

abbrev Captures (A : Type) := Nat → List A

def goMany (accepts : A → Bool) (next : List A → Option R) : List A → Option R
  | [] => next []
  | a :: rest =>
    if accepts a then (goMany accepts next rest).or (next (a :: rest)) else next (a :: rest)

/-- Matches a prefix of the text and goes on with what follows it. -/
def go : Regex A → List A → Captures A → (List A → Captures A → Option R) → Option R
  | one accepts, text, captures, next =>
    match text with
    | a :: rest => if accepts a then next rest captures else none
    | [] => none
  | many accepts, text, captures, next => goMany accepts (next · captures) text
  | seq first rest, text, captures, next =>
    first.go text captures fun text captures => rest.go text captures next
  | opt body, text, captures, next => (body.go text captures next).or (next text captures)
  | group index body, text, captures, next =>
    body.go text captures fun rest captures =>
      next rest (Function.update captures index (text.take (text.length - rest.length)))

def matchAt (r : Regex A) (text : List A) : Option (Captures A) :=
  r.go text (fun _ => []) fun _ captures => some captures

def search (r : Regex A) : List A → Option (Captures A)
  | [] => r.matchAt []
  | a :: rest => (r.matchAt (a :: rest)).or (search r rest)

theorem goMany_some {accepts : A → Bool} {next : List A → Option R} {text : List A} {result : R}
    (found : goMany accepts next text = some result) :
    ∃ run rest, text = run ++ rest ∧ (∀ a ∈ run, accepts a = true) ∧ next rest = some result := by
  induction text with
  | nil => exact ⟨[], [], rfl, nofun, found⟩
  | cons a rest ih =>
    rw [goMany] at found
    split at found
    · rename_i accepted
      rcases Option.or_eq_some_iff.mp found with longer | ⟨_, here⟩
      · obtain ⟨run, last, rfl, all, done⟩ := ih longer
        exact ⟨a :: run, last, rfl, List.forall_mem_cons.mpr ⟨accepted, all⟩, done⟩
      · exact ⟨[], a :: rest, rfl, nofun, here⟩
    · exact ⟨[], a :: rest, rfl, nofun, found⟩

/-- What comes first is tried with the longest run. -/
theorem goMany_longest {accepts : A → Bool} {next : List A → Option R} {run rest : List A}
    {result : R} (all : ∀ a ∈ run, accepts a = true) (stops : ∀ a ∈ rest.head?, accepts a = false)
    (found : next rest = some result) : goMany accepts next (run ++ rest) = some result := by
  induction run with
  | nil =>
    cases rest with
    | nil => exact found
    | cons a others =>
      have blocked : accepts a = false := stops a rfl
      rw [List.nil_append, goMany, blocked]
      exact found
  | cons a others ih =>
    rw [List.cons_append, goMany, if_pos (all a List.mem_cons_self),
      ih fun b member => all b (List.mem_cons_of_mem _ member)]
    rfl

/-- A match goes on at a suffix of the text, and what it has captured by then is
made of the text. -/
theorem go_some {r : Regex A} {text whole : List A} {captures : Captures A}
    {next : List A → Captures A → Option R} {result : R}
    (found : r.go text captures next = some result) (inside : text ⊆ whole)
    (captured : ∀ i, captures i ⊆ whole) :
    ∃ rest captures', rest <:+ text ∧ (∀ i, captures' i ⊆ whole) ∧
      next rest captures' = some result := by
  induction r generalizing text captures next with
  | one accepts =>
    cases text with
    | nil => contradiction
    | cons a rest =>
      simp only [go, Option.ite_none_right_eq_some] at found
      exact ⟨rest, captures, List.suffix_cons _ _, captured, found.2⟩
  | many accepts =>
    obtain ⟨run, rest, rfl, _, done⟩ := goMany_some found
    exact ⟨rest, captures, List.suffix_append _ _, captured, done⟩
  | seq first second ihFirst ihSecond =>
    obtain ⟨middle, captures', before, captured', found⟩ := ihFirst found inside captured
    obtain ⟨rest, last, after, kept, done⟩ :=
      ihSecond found (fun _ member => inside (before.subset member)) captured'
    exact ⟨rest, last, after.trans before, kept, done⟩
  | opt body ih =>
    rcases Option.or_eq_some_iff.mp found with taken | ⟨_, skipped⟩
    · exact ih taken inside captured
    · exact ⟨text, captures, List.suffix_refl _, captured, skipped⟩
  | group index body ih =>
    obtain ⟨rest, captures', suffix, captured', done⟩ := ih found inside captured
    refine ⟨rest, _, suffix, fun i => ?_, done⟩
    by_cases same : i = index
    · rw [same, Function.update_self]
      exact fun _ member => inside (List.mem_of_mem_take member)
    · rw [Function.update_of_ne same]
      exact captured' i

theorem search_some {r : Regex A} {text : List A} {captures : Captures A}
    (found : r.search text = some captures) :
    ∃ before here, text = before ++ here ∧ r.matchAt here = some captures := by
  induction text with
  | nil => exact ⟨[], [], rfl, found⟩
  | cons a rest ih =>
    rcases Option.or_eq_some_iff.mp found with now | ⟨_, later⟩
    · exact ⟨[], a :: rest, rfl, now⟩
    · obtain ⟨before, here, rfl, matched⟩ := ih later
      exact ⟨a :: before, here, rfl, matched⟩

theorem search_subset {r : Regex A} {text : List A} {captures : Captures A}
    (found : r.search text = some captures) (i : Nat) : captures i ⊆ text := by
  obtain ⟨before, here, rfl, matched⟩ := search_some found
  obtain ⟨_, captures', _, captured, done⟩ := go_some matched (List.Subset.refl here) fun _ => nofun
  obtain rfl := Option.some.inj done
  exact fun _ member => List.mem_append_right before (captured i member)

end Regex
end TinyRtsp
