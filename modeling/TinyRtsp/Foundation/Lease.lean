import Mathlib.Data.List.Nodup
import Mathlib.Logic.Function.Basic

/-! Resources that holders take from the front of a pool, each under a name, and
when those that are not in the pool are exactly those that are held. Nothing here
names a particular system. -/
namespace TinyRtsp

structure Lease (R Id Name : Type) where
  free : List R
  held : Id → Name → Option R

namespace Lease
variable {R Id Name : Type} {initial : List R} {l : Lease R Id Name} {id : Id} {n : Name} {absent : R}

/-- What is missing from the pool is what somebody holds. -/
def Conserved (initial : List R) (l : Lease R Id Name) : Prop :=
  ∀ r, (r ∈ initial ∧ r ∉ l.free) ↔ ∃ id n, l.held id n = some r

/-- The pool has each resource once, only resources it started with, and no two
holders share one. -/
structure Sound (initial : List R) (l : Lease R Id Name) : Prop where
  nodup : l.free.Nodup
  within : ∀ r ∈ l.free, r ∈ initial
  once : ∀ {id n other m r}, l.held id n = some r → l.held other m = some r → id = other ∧ n = m

theorem Sound.first {first : R} {rest : List R} (sound : l.Sound initial)
    (pool : l.free = first :: rest) : first ∈ initial ∧ first ∈ l.free ∧ first ∉ rest := by
  have nodup := sound.nodup
  have inside : first ∈ l.free := by
    rw [pool]
    exact List.mem_cons_self
  rw [pool] at nodup
  exact ⟨sound.within first inside, inside, (List.nodup_cons.mp nodup).1⟩

def spend (l : Lease R Id Name) : Lease R Id Name := { l with free := l.free.tail }

theorem Sound.spend (sound : l.Sound initial) : l.spend.Sound initial where
  nodup := sound.nodup.tail
  within r member := sound.within r (List.mem_of_mem_tail member)
  once := sound.once

theorem conserved_spend_iff (sound : l.Sound initial) (conserved : l.Conserved initial) :
    l.spend.Conserved initial ↔ l.free = [] := by
  cases pool : l.free with
  | nil =>
    have same : l.spend.free = l.free := by rw [spend, pool, List.tail_nil]
    refine iff_of_true (fun r => ?_) rfl
    rw [same]
    exact conserved r
  | cons first rest =>
    obtain ⟨known, inside, last⟩ := sound.first pool
    refine iff_of_false (fun after => ?_) (List.cons_ne_nil _ _)
    have taken : first ∉ l.spend.free := by
      rw [spend, pool]
      exact last
    have held := (after first).mp ⟨known, taken⟩
    exact ((conserved first).mpr held).2 inside

variable [DecidableEq Id]

def drop (l : Lease R Id Name) (id : Id) : Lease R Id Name :=
  { l with held := fun i m => if i = id then none else l.held i m }

theorem held_drop {other : Id} {m : Name} {r : R} :
    (l.drop id).held other m = some r ↔ other ≠ id ∧ l.held other m = some r := by
  unfold drop
  dsimp only
  split
  · simp [*]
  · simp [*]

theorem Sound.drop (sound : l.Sound initial) : (l.drop id).Sound initial where
  nodup := sound.nodup
  within := sound.within
  once one two := sound.once (held_drop.mp one).2 (held_drop.mp two).2

theorem conserved_drop_iff (sound : l.Sound initial) (conserved : l.Conserved initial) :
    (l.drop id).Conserved initial ↔ ∀ n, l.held id n = none := by
  constructor
  · intro after n
    cases held : l.held id n with
    | none => rfl
    | some r =>
      have out := (conserved r).mpr ⟨id, n, held⟩
      obtain ⟨other, m, still⟩ := (after r).mp out
      obtain ⟨apart, before⟩ := held_drop.mp still
      exact absurd (sound.once before held).1 apart
  · intro nothing r
    refine (conserved r).trans ?_
    constructor
    · rintro ⟨other, m, held⟩
      refine ⟨other, m, held_drop.mpr ⟨?_, held⟩⟩
      rintro rfl
      rw [nothing m] at held
      contradiction
    · rintro ⟨other, m, held⟩
      exact ⟨other, m, (held_drop.mp held).2⟩

variable [DecidableEq Name]

/-- The holder gets the resource under the name, in place of what it had there. -/
def grant (l : Lease R Id Name) (id : Id) (n : Name) (r : R) : Lease R Id Name :=
  { l with held := fun i m => if i = id ∧ m = n then some r else l.held i m }

theorem held_grant {other : Id} {m : Name} {r s : R} :
    (l.grant id n r).held other m = some s ↔
      (other = id ∧ m = n) ∧ r = s ∨ ¬ (other = id ∧ m = n) ∧ l.held other m = some s := by
  unfold grant
  dsimp only
  split
  · simp [*]
  · simp [*]

/-- Taking a resource for a free name conserves; an empty pool gives out `absent`,
which is no resource, and a name that is not free loses the one it had. -/
theorem conserved_grant_iff (sound : l.Sound initial) (conserved : l.Conserved initial)
    (outside : absent ∉ initial) :
    (l.spend.grant id n (l.free.headD absent)).Conserved initial ↔
      l.free ≠ [] ∧ l.held id n = none := by
  cases pool : l.free with
  | nil =>
    refine iff_of_false (fun after => ?_) fun both => both.1 rfl
    have held := (after absent).mpr ⟨id, n, held_grant.mpr (.inl ⟨⟨rfl, rfl⟩, rfl⟩)⟩
    exact outside held.1
  | cons first rest =>
    obtain ⟨known, inside, last⟩ := sound.first pool
    have tail : (l.spend.grant id n first).free = rest := by
      show l.free.tail = rest
      rw [pool, List.tail_cons]
    rw [List.headD_cons]
    constructor
    · intro after
      refine ⟨List.cons_ne_nil _ _, ?_⟩
      cases before : l.held id n with
      | none => rfl
      | some old =>
        -- what was held there is neither in the pool nor held any more
        obtain ⟨oldKnown, oldTaken⟩ := (conserved old).mpr ⟨id, n, before⟩
        have gone : old ∉ (l.spend.grant id n first).free := by
          rw [tail]
          intro member
          rw [pool] at oldTaken
          exact oldTaken (List.mem_cons_of_mem _ member)
        obtain ⟨other, m, held⟩ := (after old).mp ⟨oldKnown, gone⟩
        rcases held_grant.mp held with ⟨_, rfl⟩ | ⟨apart, still⟩
        · exact absurd inside oldTaken
        · exact absurd (sound.once still before) apart
    · rintro ⟨_, vacant⟩ r
      rw [tail]
      constructor
      · rintro ⟨rKnown, rTaken⟩
        by_cases same : r = first
        · subst same
          exact ⟨id, n, held_grant.mpr (.inl ⟨⟨rfl, rfl⟩, rfl⟩)⟩
        · have missing : r ∉ l.free := by
            rw [pool]
            exact fun member => (List.mem_cons.mp member).elim same rTaken
          obtain ⟨other, m, held⟩ := (conserved r).mp ⟨rKnown, missing⟩
          refine ⟨other, m, held_grant.mpr (.inr ⟨?_, held⟩)⟩
          rintro ⟨rfl, rfl⟩
          rw [vacant] at held
          contradiction
      · rintro ⟨other, m, held⟩
        rcases held_grant.mp held with ⟨_, rfl⟩ | ⟨_, before⟩
        · exact ⟨known, last⟩
        · obtain ⟨rKnown, missing⟩ := (conserved r).mpr ⟨other, m, before⟩
          rw [pool] at missing
          exact ⟨rKnown, fun member => missing (List.mem_cons_of_mem _ member)⟩

theorem Sound.grant (sound : l.Sound initial) (conserved : l.Conserved initial)
    (filled : l.free ≠ []) : (l.spend.grant id n (l.free.headD absent)).Sound initial := by
  cases pool : l.free with
  | nil => exact absurd pool filled
  | cons first rest =>
    have inside := (sound.first pool).2.1
    rw [List.headD_cons]
    have elsewhere {other m} : l.spend.held other m ≠ some first := by
      intro held
      exact ((conserved first).mpr ⟨other, m, held⟩).2 inside
    refine ⟨sound.spend.nodup, sound.spend.within, ?_⟩
    intro i a j b r one two
    rcases held_grant.mp one with ⟨⟨rfl, rfl⟩, rfl⟩ | ⟨_, one⟩
    · rcases held_grant.mp two with ⟨⟨rfl, rfl⟩, _⟩ | ⟨_, two⟩
      · exact ⟨rfl, rfl⟩
      · exact absurd two elsewhere
    · rcases held_grant.mp two with ⟨_, rfl⟩ | ⟨_, two⟩
      · exact absurd one elsewhere
      · exact sound.once one two

end Lease
end TinyRtsp
