import TinyRtsp.Server.ThreadPool

/-! What the destructor of the thread pool leaves behind. A worker that has passed the
test of its loop takes one more task, and one that is about to sleep misses the
notification: both depend on where the workers are when the destructor makes its steps. -/
namespace TinyRtsp.ThreadPool
open Transition
variable {n : Nat} {s t : ThreadPool n} {label : Label n} {w : Fin n}

/-- After `notify_all` no worker sleeps, and when the destructor returns every task
enqueued before it began has run once. -/
structure ShutDown (s : ThreadPool n) : Prop where
  awake : s.notified = true → ∀ w, s.worker w ≠ .asleep
  ran : s.Returned → ∀ task < s.before, s.ran.count task = 1

/-- When the destructor sets `stop_` there is a worker inside its loop for every task
that waits, and when it calls `notify_all` no worker is between test and sleep. -/
def Orderly (s : ThreadPool n) : Label n → Prop
  | .setStop => s.tasks.length ≤ s.inside
  | .notifyAll => ∀ w, s.worker w ≠ .dozing
  | _ => True

instance (s : ThreadPool n) (label : Label n) : Decidable (s.Orderly label) := by
  cases label <;> unfold Orderly <;> infer_instance

/-- What a step changes once `stop_` is set: the workers inside pay for the tasks that
are taken, unless none of the tasks before waits, and nobody dozes off. -/
structure Advances (s t : ThreadPool n) : Prop where
  stop : t.stop = true
  before : t.before = s.before
  reach : t.popped + t.inside = s.popped + s.inside ∨ s.before ≤ s.popped ∧ t.popped = s.popped
  dozing : ∀ w, t.worker w = .dozing → s.worker w = .dozing
  asleep : ∀ w, t.worker w = .asleep → s.worker w = .asleep ∨ s.worker w = .dozing
  dozed : ∀ w, s.worker w = .dozing → t.worker w = .dozing ∨ t.worker w = .asleep

theorem Advances.of_same (stopped : s.stop = true) (stop : t.stop = s.stop)
    (before : t.before = s.before) (popped : t.popped = s.popped) (same : t.worker = s.worker) :
    s.Advances t := by
  refine ⟨stop.trans stopped, before, .inl ?_, fun w => ?_, fun w => ?_, fun w => ?_⟩
  · rw [popped, inside, inside, same]
  · rw [same]
    exact id
  · rw [same]
    exact .inl
  · rw [same]
    exact .inl

theorem Advances.of_go {next : Worker} (stopped : s.stop = true)
    (worker : t.worker = Function.update s.worker w next) (stop : t.stop = s.stop)
    (before : t.before = s.before)
    (reach : t.popped + t.inside = s.popped + s.inside ∨ s.before ≤ s.popped ∧ t.popped = s.popped)
    (awake : next ≠ .dozing) (sleeps : next = .asleep ↔ s.worker w = .dozing) : s.Advances t := by
  have moved : ∀ v, t.worker v = if v = w then next else s.worker v := by
    intro v
    rw [worker]
    exact Function.update_apply ..
  refine ⟨stop.trans stopped, before, reach, fun v here => ?_, fun v here => ?_, fun v here => ?_⟩
  · rw [moved] at here
    split at here
    · exact absurd here awake
    · exact here
  · rw [moved] at here
    split at here
    · subst v
      exact .inr (sleeps.mp here)
    · exact .inl here
  · rw [moved]
    split
    · subst v
      exact .inr (sleeps.mpr here)
    · exact .inl here

theorem Moves.stopped {here next : Worker} (moves : s.Moves here next) (stopped : s.stop = true) :
    (next.inside = here.inside ∨ s.tasks = []) ∧ next ≠ .dozing ∧
      (next = .asleep ↔ here = .dozing) := by
  cases moves with
  | enters running | dozes _ running =>
    rw [stopped] at running
    contradiction
  | returns empty _ => exact ⟨.inr empty, Worker.noConfusion, by simp⟩
  | leaves | locks | relocks | passes | sleeps =>
    exact ⟨.inl rfl, Worker.noConfusion, by simp⟩

theorem Valid.advances (valid : s.Valid) (stopped : s.stop = true) (taken : s.act label = some t) :
    s.Advances t := by
  cases steps_of_act taken with
  | moves w next moves =>
    obtain ⟨weight, awake, sleeps⟩ := moves.stopped stopped
    refine Advances.of_go stopped rfl rfl rfl ?_ awake sleeps
    rcases weight with same | empty
    · exact .inl (congrArg (s.popped + ·) (tally_update_same same))
    · have submitted := valid.submitted
      have before := valid.before
      rw [empty, List.length_nil] at submitted
      exact .inr ⟨by omega, rfl⟩
  | takes w task rest here front =>
    refine Advances.of_go stopped rfl rfl rfl (.inl ?_) Worker.noConfusion (by simp [here])
    have moved := tally_update Worker.inside s.worker w (.running task)
    have submitted := valid.submitted
    rw [front, List.length_cons] at submitted
    rw [here] at moved
    change s.submitted - rest.length + tally Worker.inside (Function.update s.worker w _) =
      s.popped + tally Worker.inside s.worker
    simp only [Worker.inside] at moved
    omega
  | ends w task here =>
    have same : Worker.inside .testing = (s.worker w).inside := by
      rw [here]
      rfl
    exact Advances.of_go stopped rfl rfl rfl (.inl (congrArg (s.popped + ·) (tally_update_same same)))
      Worker.noConfusion (by simp [here])
  | wakes w sleeps =>
    have same : Worker.inside .waking = (s.worker w).inside := by
      rw [sleeps]
      rfl
    exact Advances.of_go stopped rfl rfl rfl (.inl (congrArg (s.popped + ·) (tally_update_same same)))
      Worker.noConfusion (by simp [sleeps])
  | enqueues => exact .of_same stopped rfl rfl s.popped_enqueue rfl
  | wakesNone | joins => exact .of_same stopped rfl rfl rfl rfl
  | stops runs =>
    rw [stopped] at runs
    contradiction
  | notifies =>
    refine ⟨stopped, rfl, .inl ?_, fun w => ?_, fun w => ?_, fun w => ?_⟩
    · refine congrArg (s.popped + ·) (tally_congr fun w => ?_)
      change (s.worker w).wake.inside = (s.worker w).inside
      cases s.worker w <;> rfl
    all_goals
      dsimp only
      cases s.worker w <;> simp [Worker.wake]

theorem flags_act (taken : s.act label = some t) :
    (label = .setStop ∨ t.stop = s.stop) ∧ (label = .notifyAll ∨ t.notified = s.notified) := by
  cases steps_of_act taken with
  | stops => exact ⟨.inl rfl, .inr rfl⟩
  | notifies => exact ⟨.inr rfl, .inl rfl⟩
  | _ => exact ⟨.inr rfl, .inr rfl⟩

/-- The states of an orderly run: the workers inside can take all tasks from before
`stop_` was set, and after `notify_all` none of them sleeps or is about to. -/
structure Prepared (s : ThreadPool n) : Prop where
  covered : s.stop = true → s.before ≤ s.popped + s.inside
  awake : s.notified = true →
    s.stop = true ∧ ∀ w, s.worker w ≠ .dozing ∧ s.worker w ≠ .asleep

theorem prepared_init : (init n).Prepared := ⟨nofun, nofun⟩

theorem Advances.covered (advances : s.Advances t) (covered : s.before ≤ s.popped + s.inside) :
    t.before ≤ t.popped + t.inside := by
  rw [advances.before]
  rcases advances.reach with same | ⟨enough, same⟩ <;> omega

theorem Prepared.act (prepared : s.Prepared) (valid : s.Valid) (orderly : s.Orderly label)
    (taken : s.act label = some t) : t.Prepared := by
  obtain ⟨stops, notifies⟩ := flags_act taken
  constructor
  · intro stopped
    rcases stops with rfl | same
    · cases steps_of_act taken
      have waiting : s.tasks.length ≤ s.inside := orderly
      have submitted := valid.submitted
      change s.submitted ≤ s.popped + s.inside
      omega
    · have before := same.symm.trans stopped
      exact (valid.advances before taken).covered (prepared.covered before)
  · intro notified
    rcases notifies with rfl | same
    · cases steps_of_act taken with
      | notifies stopped first =>
        have advances := valid.advances stopped taken
        refine ⟨stopped, fun w => ⟨fun dozes => orderly w (advances.dozing w dozes), fun sleeps => ?_⟩⟩
        change (s.worker w).wake = .asleep at sleeps
        cases here : s.worker w <;> simp [here, Worker.wake] at sleeps
    · obtain ⟨stopped, awake⟩ := prepared.awake (same.symm.trans notified)
      have advances := valid.advances stopped taken
      refine ⟨advances.stop, fun w => ⟨fun dozes => ?_, fun sleeps => ?_⟩⟩
      · exact (awake w).1 (advances.dozing w dozes)
      · rcases advances.asleep w sleeps with slept | dozed
        · exact (awake w).2 slept
        · exact (awake w).1 dozed

theorem Valid.returned (valid : s.Valid) (returned : s.Returned) :
    (∀ w, s.worker w = .exited) ∧ s.inside = 0 ∧
      ∀ task, s.ran.count task = if task < s.popped then 1 else 0 := by
  have gone : ∀ w, s.worker w = .exited := fun w =>
    valid.exited w (w.isLt.trans_le returned.2)
  refine ⟨gone, tally_eq_zero_iff.mpr fun w => ?_, fun task => ?_⟩
  · rw [gone]
    rfl
  · have idle : tally (Worker.runs task) s.worker = 0 := by
      refine tally_eq_zero_iff.mpr fun w => ?_
      rw [gone]
      rfl
    have once := valid.once task
    rw [idle] at once
    exact once

theorem Prepared.shutDown (prepared : s.Prepared) (valid : s.Valid) : s.ShutDown := by
  refine ⟨fun notified w => ((prepared.awake notified).2 w).2, fun returned task early => ?_⟩
  obtain ⟨_, empty, counts⟩ := valid.returned returned
  have covered := prepared.covered (prepared.awake returned.1).1
  rw [counts, if_pos]
  omega

/-- A run that was not orderly: too few workers are left for the tasks from before, or
one of them is going to sleep behind the notification. -/
def Doomed (s : ThreadPool n) : Prop :=
  s.stop = true ∧ (s.popped + s.inside < s.before ∨
    s.notified = true ∧ ∃ w, s.worker w = .dozing)

theorem doomed_of_not_orderly (valid : s.Valid) (disorderly : ¬ s.Orderly label)
    (taken : s.act label = some t) : t.Doomed := by
  cases steps_of_act taken with
  | stops =>
    refine ⟨rfl, .inl ?_⟩
    have crowded : ¬ s.tasks.length ≤ s.inside := disorderly
    have submitted := valid.submitted
    change s.popped + s.inside < s.submitted
    omega
  | notifies stopped =>
    simp only [Orderly, not_forall, not_not] at disorderly
    obtain ⟨w, dozes⟩ := disorderly
    refine ⟨stopped, .inr ⟨rfl, w, ?_⟩⟩
    change (s.worker w).wake = .dozing
    rw [dozes]
    rfl
  | _ => exact absurd trivial disorderly

theorem Doomed.act (doomed : s.Doomed) (valid : s.Valid) (taken : s.act label = some t)
    (kept : t.ShutDown) : t.Doomed := by
  obtain ⟨stopped, reason⟩ := doomed
  have advances := valid.advances stopped taken
  refine ⟨advances.stop, ?_⟩
  rcases reason with short | ⟨notified, w, dozes⟩
  · refine .inl ?_
    rw [advances.before]
    rcases advances.reach with same | ⟨enough, _⟩ <;> omega
  · have still : t.notified = true := by
      cases steps_of_act taken with
      | notifies => rfl
      | _ => exact notified
    rcases advances.dozed w dozes with here | sleeps
    · exact .inr ⟨still, w, here⟩
    · exact absurd sleeps (kept.awake still w)

theorem Doomed.not_returned (doomed : s.Doomed) (valid : s.Valid) (kept : s.ShutDown) :
    ¬ s.Returned := by
  intro returned
  obtain ⟨gone, empty, counts⟩ := valid.returned returned
  rcases doomed.2 with short | ⟨_, w, dozes⟩
  · have ran := kept.ran returned s.popped (by omega)
    rw [counts, if_neg (lt_irrefl _)] at ran
    contradiction
  · rw [gone w] at dozes
    contradiction

section Progress

def remaining (s : ThreadPool n) : Nat := tally Worker.remaining s.worker + (n - s.joined)

def Label.Finishing : Label n → Prop
  | .worker _ | .join _ => True
  | _ => False

theorem Moves.remaining {here next : Worker} (moves : s.Moves here next) (stopped : s.stop = true)
    (awake : here ≠ .dozing) : next.remaining < here.remaining := by
  cases moves with
  | enters running | dozes _ running =>
    rw [stopped] at running
    contradiction
  | sleeps => contradiction
  | leaves | locks | relocks | passes | returns => decide

theorem remaining_worker (prepared : s.Prepared) (notified : s.notified = true)
    (taken : s.act (.worker w) = some t) : t.remaining < s.remaining := by
  obtain ⟨stopped, awake⟩ := prepared.awake notified
  have lighter : ∀ next : Worker, next.remaining < (s.worker w).remaining →
      tally Worker.remaining (Function.update s.worker w next) + (n - s.joined) < s.remaining := by
    intro next less
    have moved := tally_update Worker.remaining s.worker w next
    rw [ThreadPool.remaining]
    omega
  cases steps_of_act taken with
  | moves _ next moves => exact lighter next (moves.remaining stopped (awake w).1)
  | takes _ task rest here => exact lighter (.running task) (by rw [here]; exact Nat.lt_succ_self 2)
  | ends _ task here => exact lighter .testing (by rw [here]; exact Nat.lt_succ_self 1)

theorem remaining_join (taken : s.act (.join w) = some t) : t.remaining < s.remaining := by
  cases steps_of_act taken with
  | joins _ _ turn =>
    have more : s.joined < n := turn ▸ w.isLt
    change tally Worker.remaining s.worker + (n - (s.joined + 1)) <
      tally Worker.remaining s.worker + (n - s.joined)
    omega

theorem worker_enabled (prepared : s.Prepared) (notified : s.notified = true)
    (left : s.worker w ≠ .exited) (free : s.MutexFree ∨ (s.worker w).Holds) :
    ∃ t, s.act (.worker w) = some t := by
  obtain ⟨stopped, awake⟩ := prepared.awake notified
  simp only [act]
  cases here : s.worker w with
  | testing | deciding | dozing | running task => exact ⟨_, rfl⟩
  | locking | waking =>
    rw [here] at free
    exact ⟨_, if_pos (free.resolve_right id)⟩
  | passed =>
    cases s.tasks with
    | nil => exact ⟨_, if_pos stopped⟩
    | cons task rest => exact ⟨_, rfl⟩
  | asleep => exact absurd here (awake w).2
  | exited => exact absurd here left

theorem finishing_enabled (prepared : s.Prepared) (notified : s.notified = true)
    (waits : ¬ s.Returned) : ∃ label t, label.Finishing ∧ s.act label = some t := by
  by_cases done : ∀ w, s.worker w = .exited
  · have more : s.joined < n := Nat.lt_of_not_le fun all => waits ⟨notified, all⟩
    exact ⟨.join ⟨s.joined, more⟩, _, trivial, if_pos ⟨notified, rfl, done _⟩⟩
  · obtain ⟨w, left⟩ := not_forall.mp done
    by_cases free : s.MutexFree
    · obtain ⟨t, taken⟩ := worker_enabled prepared notified left (.inl free)
      exact ⟨.worker w, t, trivial, taken⟩
    · obtain ⟨v, holds⟩ := not_forall_not.mp free
      have stays : s.worker v ≠ .exited := by
        intro gone
        rw [gone] at holds
        exact holds
      obtain ⟨t, taken⟩ := worker_enabled prepared notified stays (.inr holds)
      exact ⟨.worker v, t, trivial, taken⟩

theorem finishing_act (prepared : s.Prepared) (valid : s.Valid) (notified : s.notified = true)
    (finishing : label.Finishing) (taken : s.act label = some t) :
    t.Prepared ∧ t.Valid ∧ t.notified = true ∧ s.Orderly label ∧ t.remaining < s.remaining := by
  have still : t.notified = true := by
    rcases (flags_act taken).2 with rfl | same
    · exact finishing.elim
    · exact same.trans notified
  cases label with
  | worker w =>
    have orderly : s.Orderly (.worker w) := trivial
    exact ⟨prepared.act valid orderly taken, valid.act taken, still, orderly,
      remaining_worker prepared notified taken⟩
  | join w =>
    have orderly : s.Orderly (.join w) := trivial
    exact ⟨prepared.act valid orderly taken, valid.act taken, still, orderly, remaining_join taken⟩
  | _ => exact absurd finishing id

/-- Behind the notification the destructor returns: each step of the workers and each
join lowers `remaining`, and one of them is enabled until then. -/
theorem returns_of_prepared (prepared : s.Prepared) (valid : s.Valid) (notified : s.notified = true) :
    ∃ rest t, Run (Guarded Orderly (Takes act)) s rest t ∧ t.Returned := by
  induction steps : s.remaining using Nat.strong_induction_on generalizing s with
  | _ steps ih =>
    by_cases returned : s.Returned
    · exact ⟨[], s, .start, returned⟩
    · obtain ⟨label, t, finishing, taken⟩ := finishing_enabled prepared notified returned
      obtain ⟨prepared', valid', notified', orderly, fewer⟩ :=
        finishing_act prepared valid notified finishing taken
      obtain ⟨rest, u, run, done⟩ := ih t.remaining (steps ▸ fewer) prepared' valid' notified' rfl
      exact ⟨label :: rest, u, .cons ⟨orderly, taken⟩ run, done⟩

end Progress

/-- In an orderly run no worker sleeps behind `notify_all`, the destructor can go on to
its return and every task from before it has run once then. A run that returns and is
not orderly fails one of these. -/
theorem shut_down_iff_orderly (n : Nat) (trace : List (Label n)) :
    (∀ s, Run (Guarded Orderly (Takes act)) (init n) trace s → s.ShutDown ∧
      (s.notified = true → ∃ rest t, Run (Guarded Orderly (Takes act)) s rest t ∧ t.Returned)) ∧
    ∀ s, Run (fun s label t => act s label = some t ∧ t.ShutDown) (init n) trace s → s.Returned →
      Run (Guarded Orderly (Takes act)) (init n) trace s := by
  constructor
  · intro s run
    have kept : s.Prepared ∧ s.Valid := by
      refine run.invariant (P := fun s => s.Prepared ∧ s.Valid) ⟨prepared_init, valid_init⟩ ?_
      rintro s label t ⟨prepared, valid⟩ ⟨orderly, taken⟩
      exact ⟨prepared.act valid orderly taken, valid.act taken⟩
    exact ⟨kept.1.shutDown kept.2, returns_of_prepared kept.1 kept.2⟩
  · intro s run returned
    have kept : (Run (Guarded Orderly (Takes act)) (init n) trace s ∨ s.Doomed) ∧ s.Valid ∧
        s.ShutDown := by
      refine run.history (P := fun trace s =>
        (Run (Guarded Orderly (Takes act)) (init n) trace s ∨ s.Doomed) ∧ s.Valid ∧ s.ShutDown)
        ⟨.inl .start, valid_init, prepared_init.shutDown valid_init⟩ ?_
      rintro trace s label t ⟨so_far, valid, _⟩ ⟨taken, kept⟩
      refine ⟨?_, valid.act taken, kept⟩
      rcases so_far with run | doomed
      · by_cases orderly : s.Orderly label
        · exact .inl (.snoc run ⟨orderly, taken⟩)
        · exact .inr (doomed_of_not_orderly valid orderly taken)
      · exact .inr (doomed.act valid taken kept)
    exact kept.1.resolve_right fun doomed => doomed.not_returned kept.2.1 kept.2.2 returned

/-- A task waits while the only worker runs another one and is never run; and a worker
that has tested its predicate sleeps behind the notification, so that the destructor
never returns. -/
theorem shutdown_loses : (∃ trace s, Run (Takes act) (init 1) trace s ∧ s.Returned ∧
      s.before = 2 ∧ s.ran = [0] ∧ ¬ s.ShutDown) ∧
    ∃ trace s, Run (Takes act) (init 1) trace s ∧ s.notified = true ∧ s.worker 0 = .asleep ∧
      ¬ s.ShutDown := by
  constructor
  · obtain ⟨trace, outcome⟩ : ∃ trace : List (Label 1),
        (trace.foldlM act (init 1)).map (fun s => (s.notified, s.joined, s.before, s.ran)) =
          some (true, 1, 2, [0]) :=
      ⟨[.enqueue, .notifyOne none, .worker 0, .worker 0, .worker 0, .worker 0, .enqueue,
        .notifyOne none, .setStop, .notifyAll, .worker 0, .worker 0, .join 0], by decide +kernel⟩
    obtain ⟨s, done, same⟩ := Option.map_eq_some_iff.mp outcome
    simp only [Prod.mk.injEq] at same
    obtain ⟨notified, joined, before, ran⟩ := same
    have returned : s.Returned := ⟨notified, joined.ge⟩
    refine ⟨trace, s, .of_foldlM done, returned, before, ran, fun kept => ?_⟩
    have lost := kept.ran returned 1 (by omega)
    rw [ran] at lost
    contradiction
  · obtain ⟨trace, outcome⟩ : ∃ trace : List (Label 1),
        (trace.foldlM act (init 1)).map (fun s => (s.notified, s.worker 0)) = some (true, .asleep) :=
      ⟨[.worker 0, .worker 0, .worker 0, .setStop, .notifyAll, .worker 0], by decide +kernel⟩
    obtain ⟨s, done, same⟩ := Option.map_eq_some_iff.mp outcome
    obtain ⟨notified, sleeps⟩ := Prod.mk.inj same
    exact ⟨trace, s, .of_foldlM done, notified, sleeps, fun kept => kept.awake notified 0 sleeps⟩

end TinyRtsp.ThreadPool
