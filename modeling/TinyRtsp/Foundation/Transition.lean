import Mathlib.Data.List.Induction

/-! Labelled runs of a step relation. A run records its labels in order and
grows at the end, so a history folded over the labels grows with it. Nothing
here names a particular system. -/
namespace TinyRtsp.Transition
variable {S T L : Type}

/-- `Run step init trace s`: the labels of `trace`, taken in order from `init`,
lead to `s`. -/
inductive Run (step : S → L → S → Prop) (init : S) : List L → S → Prop where
  | start : Run step init [] init
  | snoc : Run step init trace s → step s label t → Run step init (trace ++ [label]) t

/-- The relation of a partial step function. -/
def Takes (next : S → L → Option S) (s : S) (label : L) (t : S) : Prop :=
  next s label = some t

/-- Only the steps that satisfy `condition` in the state they start from. -/
def Guarded (condition : S → L → Prop) (step : S → L → S → Prop) (s : S) (label : L) (t : S) : Prop :=
  condition s label ∧ step s label t

def checked (condition : S → L → Prop) [∀ s label, Decidable (condition s label)]
    (next : S → L → Option S) (s : S) (label : L) : Option S :=
  if condition s label then next s label else none

namespace Run
variable {step : S → L → S → Prop} {init s t : S} {trace : List L}

theorem invariant {P : S → Prop} (run : Run step init trace s) (initial : P init)
    (preserves : ∀ {s label t}, P s → step s label t → P t) : P s := by
  induction run with
  | start => exact initial
  | snoc _ taken ih => exact preserves ih taken

theorem history {P : List L → S → Prop} (run : Run step init trace s) (initial : P [] init)
    (preserves : ∀ {trace s label t}, P trace s → step s label t → P (trace ++ [label]) t) :
    P trace s := by
  induction run with
  | start => exact initial
  | snoc _ taken ih => exact preserves ih taken

theorem weaken {W : S → L → S → Prop} (run : Run step init trace s)
    (implied : ∀ {s label t}, step s label t → W s label t) : Run W init trace s := by
  induction run with
  | start => exact .start
  | snoc _ taken ih => exact .snoc ih (implied taken)

theorem guard {condition : L → Prop} (run : Run step init trace s) (all : ∀ label ∈ trace, condition label) :
    Run (Guarded (fun _ label => condition label) step) init trace s := by
  induction run with
  | start => exact .start
  | snoc _ taken ih =>
    obtain ⟨earlier, last⟩ := List.forall_mem_append.mp all
    exact .snoc (ih earlier) ⟨last _ List.mem_cons_self, taken⟩

theorem cons {u : S} (taken : step s label t) (run : Run step t trace u) :
    Run step s (label :: trace) u := by
  induction run with
  | start =>
    have first : Run step s ([] ++ [label]) t := .snoc .start taken
    exact first
  | snoc _ last ih => exact .snoc ih last

theorem last (run : Run step init (trace ++ [label]) t) : ∃ s, Run step init trace s ∧ step s label t := by
  generalize whole : trace ++ [label] = labels at run
  cases run with
  | start => exact absurd whole (by simp)
  | @snoc before s final _ earlier taken =>
    obtain ⟨rfl, same⟩ := List.append_inj' whole rfl
    obtain rfl : label = final := by simpa using same
    exact ⟨s, earlier, taken⟩

theorem functional {next : S → L → Option S} (first : Run (Takes next) init trace s)
    (second : Run (Takes next) init trace t) : s = t := by
  induction first generalizing t with
  | start =>
    generalize whole : [] = labels at second
    cases second with
    | start => rfl
    | snoc => simp at whole
  | snoc _ taken ih =>
    obtain ⟨middle, earlier, other⟩ := second.last
    obtain rfl := ih earlier
    exact Option.some.inj (taken.symm.trans other)

/-- Lockstep forward simulation: related states take the same label to related
states, so a whole run is matched by a run with the same trace. -/
theorem simulation {A : T → L → T → Prop} {R : S → T → Prop} {init' : T}
    (run : Run step init trace s) (initial : R init init')
    (matched : ∀ {s label t s'}, R s s' → step s label t → ∃ t', A s' label t' ∧ R t t') :
    ∃ s', Run A init' trace s' ∧ R s s' := by
  induction run with
  | start => exact ⟨init', .start, initial⟩
  | snoc _ taken ih =>
    obtain ⟨s', run', rel⟩ := ih
    obtain ⟨t', taken', rel'⟩ := matched rel taken
    exact ⟨t', .snoc run' taken', rel'⟩

/-- The runs whose steps all meet a condition and those whose states all have a
property are the same, if from a state with the property a step leads to one with
it exactly when it meets the condition. -/
theorem guarded_iff {next : S → L → Option S} {condition : S → L → Prop} {I P : S → Prop}
    (invariant : I init) (initial : P init)
    (exactly : ∀ {s label t}, I s → P s → next s label = some t →
      (P t ↔ condition s label) ∧ (condition s label → I t)) (trace : List L) :
    (∀ s, Run (Guarded condition (Takes next)) init trace s → P s) ∧
      ∀ s, Run (fun s label t => next s label = some t ∧ P t) init trace s →
        Run (Guarded condition (Takes next)) init trace s := by
  constructor
  · intro s run
    refine (run.invariant (P := fun s => I s ∧ P s) ⟨invariant, initial⟩ ?_).2
    rintro s label t ⟨kept, holds⟩ ⟨meets, taken⟩
    obtain ⟨iff, keeps⟩ := exactly kept holds taken
    exact ⟨keeps meets, iff.mpr meets⟩
  · intro s run
    refine (run.history (P := fun trace s =>
      Run (Guarded condition (Takes next)) init trace s ∧ I s ∧ P s)
      ⟨.start, invariant, initial⟩ ?_).1
    rintro trace s label t ⟨run, kept, holds⟩ ⟨taken, after⟩
    obtain ⟨iff, keeps⟩ := exactly kept holds taken
    have meets := iff.mp after
    exact ⟨.snoc run ⟨meets, taken⟩, keeps meets, after⟩

/-- The same for a property of a state and the trace that led to it: it holds along a
run exactly when all steps of the run meet the condition. -/
theorem guarded_history_iff {next : S → L → Option S} {condition : S → L → Prop}
    {P : List L → S → Prop} (initial : P [] init)
    (exactly : ∀ {trace s label t}, P trace s → next s label = some t →
      (P (trace ++ [label]) t ↔ condition s label)) (trace : List L) :
    (∀ s, Run (Guarded condition (Takes next)) init trace s → P trace s) ∧
      ∀ s, Run (Takes next) init trace s →
        (∀ before s₀, before <+: trace → Run (Takes next) init before s₀ → P before s₀) →
        Run (Guarded condition (Takes next)) init trace s := by
  constructor
  · intro s run
    refine run.history initial ?_
    rintro trace s label t holds ⟨meets, taken⟩
    exact (exactly holds taken).mpr meets
  · intro s run
    induction run with
    | start => exact fun _ => .start
    | snoc run taken ih =>
      intro along
      have here := along _ _ (List.prefix_append _ _) run
      have after := along _ _ (List.prefix_refl _) (.snoc run taken)
      refine .snoc (ih fun before s₀ shorter => ?_) ⟨(exactly here taken).mp after, taken⟩
      exact along before s₀ (shorter.trans (List.prefix_append _ _))

/-- A condition on the step to be taken and a law about the step, which agree in every
state that can be reached, select the same runs. -/
theorem guarded_step_iff {condition : S → L → Prop} {law : S → L → S → Prop} {I : S → Prop}
    (invariant : I init) (keeps : ∀ {s label t}, I s → step s label t → I t)
    (exactly : ∀ {s label t}, I s → step s label t → (law s label t ↔ condition s label)) :
    Run (fun s label t => step s label t ∧ law s label t) init trace s ↔
      Run (Guarded condition step) init trace s := by
  constructor
  · intro run
    refine (run.history (P := fun trace s => Run (Guarded condition step) init trace s ∧ I s)
      ⟨.start, invariant⟩ ?_).1
    rintro trace s label t ⟨run, kept⟩ ⟨taken, holds⟩
    exact ⟨.snoc run ⟨(exactly kept taken).mp holds, taken⟩, keeps kept taken⟩
  · intro run
    refine (run.history (P := fun trace s =>
      Run (fun s label t => step s label t ∧ law s label t) init trace s ∧ I s)
      ⟨.start, invariant⟩ ?_).1
    rintro trace s label t ⟨run, kept⟩ ⟨meets, taken⟩
    exact ⟨.snoc run ⟨taken, (exactly kept taken).mpr meets⟩, keeps kept taken⟩

theorem of_foldlM {next : S → L → Option S} (done : trace.foldlM next init = some s) :
    Run (Takes next) init trace s := by
  induction trace using List.reverseRecOn generalizing s with
  | nil =>
    obtain rfl : init = s := by simpa using done
    exact .start
  | append_singleton rest label ih =>
    simp only [List.foldlM_append, List.foldlM_cons, List.foldlM_nil, bind_pure,
      Option.bind_eq_bind, Option.bind_eq_some_iff] at done
    obtain ⟨middle, first, last⟩ := done
    exact .snoc (ih first) last

theorem of_checked {condition : S → L → Prop} [∀ s label, Decidable (condition s label)]
    {next : S → L → Option S} (done : trace.foldlM (checked condition next) init = some s) :
    Run (Guarded condition (Takes next)) init trace s := by
  apply (of_foldlM done).weaken
  intro s label t taken
  exact Option.ite_none_right_eq_some.mp taken

end Run
end TinyRtsp.Transition
