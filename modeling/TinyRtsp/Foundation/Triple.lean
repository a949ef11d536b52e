import Mathlib.Control.Basic

/-! Preconditions and postconditions of computations that keep their state when
they throw. Nothing here names a particular system. -/
namespace TinyRtsp
variable {E S A B : Type}

/-- From a state with `P`, the computation returns with `Q` or throws with `R`. -/
def Triple (P : S → Prop) (x : EStateM E S A) (Q : A → S → Prop) (R : E → S → Prop) : Prop :=
  ∀ s, P s → match x.run s with
    | .ok a t => Q a t
    | .error e t => R e t

namespace Triple
variable {P P' : S → Prop} {Q Q' : A → S → Prop} {R R' : E → S → Prop} {x : EStateM E S A}

theorem pure {a : A} (holds : ∀ s, P s → Q a s) : Triple P (Pure.pure a : EStateM E S A) Q R :=
  holds

theorem throw {e : E} (holds : ∀ s, P s → R e s) :
    Triple P (MonadExcept.throw e : EStateM E S A) Q R :=
  holds

theorem bind {T : B → S → Prop} {f : A → EStateM E S B} (first : Triple P x Q R)
    (next : ∀ a, Triple (Q a) (f a) T R) : Triple P (x >>= f) T R := by
  intro s before
  have here := first s before
  simp only [EStateM.run, Bind.bind, EStateM.bind] at here ⊢
  cases ended : x s with
  | ok a t =>
    rw [ended] at here
    exact next a t here
  | error e t =>
    rw [ended] at here
    exact here

theorem get {f : S → EStateM E S B} {T : B → S → Prop}
    (next : ∀ s, P s → Triple (· = s) (f s) T R) : Triple P (MonadState.get >>= f) T R :=
  fun s before => next s before s rfl

theorem fact {p : Prop} (spec : p → Triple P x Q R) : Triple (fun s => p ∧ P s) x Q R :=
  fun s before => spec before.1 s before.2

theorem read {f : S → EStateM E S B} {T : B → S → Prop} (next : ∀ s, Triple P (f s) T R) :
    Triple P (MonadState.get >>= f) T R :=
  fun s before => next s s before

theorem modify {f : S → S} {T : PUnit → S → Prop} (holds : ∀ s, P s → T ⟨⟩ (f s)) :
    Triple P (modify f : EStateM E S PUnit) T R :=
  holds

theorem weaken (spec : Triple P x Q R) (before : ∀ s, P' s → P s) (returned : ∀ a s, Q a s → Q' a s)
    (thrown : ∀ e s, R e s → R' e s) : Triple P' x Q' R' := by
  intro s here
  have after := spec s (before s here)
  cases ended : x.run s with
  | ok a t =>
    rw [ended] at after
    exact returned a t after
  | error e t =>
    rw [ended] at after
    exact thrown e t after

theorem returned {s t : S} {a : A} (spec : Triple P x Q R) (before : P s) (ended : x.run s = .ok a t) :
    Q a t := by
  have after := spec s before
  rwa [ended] at after

end Triple

def finalState (x : EStateM E S A) (s : S) : S :=
  match x.run s with
  | .ok _ t | .error _ t => t

theorem Triple.finalState {P T : S → Prop} {x : EStateM E S A} {s : S}
    (spec : Triple P x (fun _ => T) fun _ => T) (before : P s) : T (finalState x s) := by
  have after := spec s before
  unfold TinyRtsp.finalState
  cases ended : x.run s with
  | ok a t | error e t =>
    rw [ended] at after
    exact after

end TinyRtsp
