import Mathlib.Data.Set.Defs
import Mathlib.Logic.Function.Basic

/-! Subscriptions recorded at both ends: each source has a set of subscribers,
and each subscriber holds at most one source under a name. Nothing here names a
particular system. -/
namespace TinyRtsp

structure Registry (Source Name Id : Type) where
  live : Source → Prop
  consumer : Source → Id → Prop
  held : Id → Name → Option Source

namespace Registry
variable {Source Name Id : Type} {r : Registry Source Name Id} {name : Source → Name}
  {source : Source} {id : Id}

/-- The consumers of each source are exactly the subscribers that hold it. -/
def NoOrphans (r : Registry Source Name Id) : Prop :=
  ∀ source, r.live source → ∀ id, r.consumer source id ↔ ∃ n, r.held id n = some source

/-- Whoever holds a source holds it under the source's own name and consumes it. -/
structure Sound (name : Source → Name) (r : Registry Source Name Id) : Prop where
  named : ∀ {id n source}, r.held id n = some source → name source = n
  live : ∀ {id n source}, r.held id n = some source → r.live source
  consumer : ∀ {id n source}, r.held id n = some source → r.consumer source id

def register (r : Registry Source Name Id) (source : Source) (id : Id) : Registry Source Name Id :=
  { r with consumer := fun s i => (s = source ∧ i = id) ∨ r.consumer s i }

/-- The subscriber holds the source, in place of what it held under the name. -/
def hold [DecidableEq Id] [DecidableEq Name] (r : Registry Source Name Id) (id : Id) (n : Name)
    (source : Source) : Registry Source Name Id :=
  { r with held := fun i m => if i = id ∧ m = n then some source else r.held i m }

def leave [DecidableEq Id] (r : Registry Source Name Id) (id : Id) : Registry Source Name Id where
  live := r.live
  consumer s i := r.consumer s i ∧ ¬ (i = id ∧ ∃ n, r.held id n = some s)
  held i n := if i = id then none else r.held i n

theorem Sound.noOrphans_iff (sound : r.Sound name) :
    r.NoOrphans ↔ ∀ source, r.live source → ∀ id, r.consumer source id →
      r.held id (name source) = some source := by
  constructor
  · intro clean source live id consumer
    obtain ⟨n, held⟩ := (clean source live id).mp consumer
    rw [sound.named held]
    exact held
  · intro holds source live id
    constructor
    · exact fun consumer => ⟨name source, holds source live id consumer⟩
    · rintro ⟨n, held⟩
      exact sound.consumer held

theorem Sound.register (sound : r.Sound name) : (r.register source id).Sound name where
  named held := sound.named held
  live held := sound.live held
  consumer held := .inr (sound.consumer held)

/-- Registering a consumer alone leaves no orphan exactly when it already holds
the source. -/
theorem noOrphans_register_iff (sound : r.Sound name) (clean : r.NoOrphans) (live : r.live source) :
    (r.register source id).NoOrphans ↔ r.held id (name source) = some source := by
  have before := sound.noOrphans_iff.mp clean
  have after : (r.register source id).Sound name := sound.register
  rw [after.noOrphans_iff]
  constructor
  · intro holds
    exact holds source live id (.inl ⟨rfl, rfl⟩)
  · rintro held other otherLive i (⟨rfl, rfl⟩ | consumer)
    · exact held
    · exact before other otherLive i consumer

variable [DecidableEq Id]

theorem Sound.leave (sound : r.Sound name) : (r.leave id).Sound name := by
  have kept {i n s} (held : (r.leave id).held i n = some s) : i ≠ id ∧ r.held i n = some s := by
    unfold Registry.leave at held
    dsimp only at held
    split at held
    · contradiction
    · exact ⟨‹_›, held⟩
  constructor
  · exact fun held => sound.named (kept held).2
  · exact fun held => sound.live (kept held).2
  · exact fun held => ⟨sound.consumer (kept held).2, fun same => (kept held).1 same.1⟩

theorem noOrphans_leave (sound : r.Sound name) (clean : r.NoOrphans) : (r.leave id).NoOrphans := by
  have before := sound.noOrphans_iff.mp clean
  rw [sound.leave.noOrphans_iff]
  rintro source live i ⟨consumer, stays⟩
  have held := before source live i consumer
  have other : i ≠ id := by
    rintro rfl
    exact stays ⟨rfl, _, held⟩
  show (if i = id then none else r.held i (name source)) = some source
  rw [if_neg other, held]

variable [DecidableEq Name]

theorem Sound.enrol (sound : r.Sound name) (live : r.live source) :
    ((r.register source id).hold id (name source) source).Sound name := by
  have cases {i n s} (held : ((r.register source id).hold id (name source) source).held i n = some s) :
      (i = id ∧ n = name source ∧ s = source) ∨ r.held i n = some s := by
    unfold hold at held
    dsimp only at held
    split at held
    · exact .inl ⟨‹_ ∧ _›.1, ‹_ ∧ _›.2, (Option.some.inj held).symm⟩
    · exact .inr held
  constructor
  · intro i n s held
    rcases cases held with ⟨_, rfl, rfl⟩ | before
    · rfl
    · exact sound.named before
  · intro i n s held
    rcases cases held with ⟨_, _, rfl⟩ | before
    · exact live
    · exact sound.live before
  · intro i n s held
    rcases cases held with ⟨rfl, _, rfl⟩ | before
    · exact .inl ⟨rfl, rfl⟩
    · exact .inr (sound.consumer before)

/-- Registering a consumer that then holds the source leaves no orphan exactly
when it held no other source under that name. -/
theorem noOrphans_enrol_iff (sound : r.Sound name) (clean : r.NoOrphans) (live : r.live source) :
    ((r.register source id).hold id (name source) source).NoOrphans ↔
      r.held id (name source) = none ∨ r.held id (name source) = some source := by
  have before := sound.noOrphans_iff.mp clean
  rw [(sound.enrol live).noOrphans_iff]
  constructor
  · intro holds
    cases held : r.held id (name source) with
    | none => exact .inl rfl
    | some other =>
      -- the source held before still has this consumer and now has to be the new one
      have still := holds other (sound.live held) id (.inr (sound.consumer held))
      unfold hold at still
      dsimp only at still
      rw [if_pos ⟨rfl, sound.named held⟩] at still
      exact .inr (Option.some.inj still ▸ rfl)
  · rintro free other otherLive i (⟨rfl, rfl⟩ | consumer)
    · exact if_pos ⟨rfl, rfl⟩
    · have held := before other otherLive i consumer
      show (if i = id ∧ name other = name source then some source else r.held i (name other)) = some other
      split
      · obtain ⟨rfl, same⟩ := ‹_ ∧ _›
        rw [← same, held] at free
        rcases free with none | some
        · contradiction
        · exact some.symm
      · exact held

end Registry
end TinyRtsp
