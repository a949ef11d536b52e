import TinyRtsp.Server.Shutdown

/-! How a pool that is not stopped gets its tasks, one for each connection, to the
workers. A `notify_one` that finds nobody asleep is lost, and still no task is left
waiting beside a worker that could take it. -/
namespace TinyRtsp

namespace Worker

def Running : Worker → Prop
  | running _ => True
  | _ => False

instance : DecidablePred Running
  | running _ => .isTrue trivial
  | testing | locking | deciding | dozing | asleep | waking | passed | exited => .isFalse id

def seeks : Worker → Nat
  | testing | locking | deciding | waking | passed => 1
  | dozing | asleep | running _ | exited => 0

def work : Worker → Nat
  | running _ => 5
  | testing => 4
  | locking | waking => 3
  | deciding => 2
  | dozing | passed => 1
  | asleep | exited => 0

theorem work_le (worker : Worker) : worker.work ≤ 5 := by
  cases worker <;> simp only [work] <;> omega

end Worker

namespace ThreadPool
open Transition
variable {n : Nat} {s t : ThreadPool n} {label : Label n} {w : Fin n}

/-- Who sleeps has tasks to miss only if as many notifications or seekers are on their
way, and nobody falls asleep beside a task. -/
structure Attended (s : ThreadPool n) : Prop where
  stays : ∀ w, s.worker w ≠ .exited
  dozing : ∀ w, s.worker w = .dozing → s.tasks = []
  asleep : ∀ w, s.worker w = .asleep → s.tasks.length ≤ s.notifying + tally Worker.seeks s.worker

theorem attended_init : (init n).Attended := ⟨fun _ => Worker.noConfusion, fun _ => nofun, fun _ => nofun⟩

theorem Attended.of_go (attended : s.Attended) {next : Worker}
    (worker : t.worker = Function.update s.worker w next) (stays : next ≠ .exited)
    (dozing : next = .dozing → t.tasks = []) (fewer : s.tasks = [] → t.tasks = [])
    (asleep : (next = .asleep ∨ ∃ v, s.worker v = .asleep) →
      t.tasks.length ≤ t.notifying + tally Worker.seeks (Function.update s.worker w next)) :
    t.Attended := by
  have moved : ∀ v, t.worker v = if v = w then next else s.worker v := by
    intro v
    rw [worker]
    exact Function.update_apply ..
  refine ⟨fun v gone => ?_, fun v dozes => ?_, fun v sleeps => ?_⟩
  · rw [moved] at gone
    split at gone
    · exact stays gone
    · exact attended.stays v gone
  · rw [moved] at dozes
    split at dozes
    · exact dozing dozes
    · exact fewer (attended.dozing v dozes)
  · rw [worker]
    rw [moved] at sleeps
    split at sleeps
    · exact asleep (.inl sleeps)
    · exact asleep (.inr ⟨v, sleeps⟩)

theorem notifyOne_none (taken : s.act (.notifyOne none) = some t) :
    s.notifying ≠ 0 ∧ (∀ w, s.worker w ≠ .asleep) ∧ t = { s with notifying := s.notifying - 1 } := by
  simp only [act] at taken
  split at taken
  · contradiction
  · split at taken
    · exact ⟨‹_›, ‹_›, (Option.some.inj taken).symm⟩
    · contradiction

theorem Attended.act (attended : s.Attended) (runs : s.stop = false) (taken : s.act label = some t)
    (still : t.stop = false) : t.Attended := by
  have covered : (∃ v, s.worker v = .asleep) →
      s.tasks.length ≤ s.notifying + tally Worker.seeks s.worker := fun ⟨v, sleeps⟩ => attended.asleep v sleeps
  cases steps_of_act taken with
  | enqueues free =>
    refine ⟨attended.stays, fun v dozes => ?_, fun v sleeps => ?_⟩
    · exact absurd (by rw [show s.worker v = .dozing from dozes]; trivial) (free v)
    · have before := attended.asleep v sleeps
      change (s.tasks ++ [s.submitted]).length ≤ s.notifying + 1 + tally Worker.seeks s.worker
      rw [List.length_append, List.length_singleton]
      omega
  | wakes w sleeps =>
    refine attended.of_go rfl Worker.noConfusion Worker.noConfusion id fun _ => ?_
    have before := attended.asleep w sleeps
    have moved := tally_update Worker.seeks s.worker w .waking
    rw [sleeps] at moved
    simp only [Worker.seeks] at moved
    change s.tasks.length ≤ s.notifying - 1 + _
    omega
  | wakesNone =>
    obtain ⟨_, awake, _⟩ := notifyOne_none taken
    exact ⟨attended.stays, attended.dozing, fun v sleeps => absurd sleeps (awake v)⟩
  | moves w next moves =>
    have seeking (same : next.seeks = (s.worker w).seeks) (awake : next ≠ .asleep) :
        next = .asleep ∨ (∃ v, s.worker v = .asleep) → s.tasks.length ≤
          s.notifying + tally Worker.seeks (Function.update s.worker w next) := by
      rw [tally_update_same same]
      exact fun sleeps => covered (sleeps.resolve_left awake)
    generalize here : s.worker w = place at moves seeking
    cases moves with
    | leaves stopped | returns _ stopped =>
      rw [runs] at stopped
      contradiction
    | enters | locks | relocks | passes =>
      exact attended.of_go rfl Worker.noConfusion Worker.noConfusion id (seeking rfl Worker.noConfusion)
    | dozes empty =>
      refine attended.of_go rfl Worker.noConfusion (fun _ => empty) id fun _ => ?_
      change s.tasks.length ≤ _
      rw [empty]
      exact Nat.zero_le _
    | sleeps =>
      refine attended.of_go rfl Worker.noConfusion Worker.noConfusion id fun _ => ?_
      change s.tasks.length ≤ _
      rw [attended.dozing w here]
      exact Nat.zero_le _
  | takes w task rest here front =>
    refine attended.of_go rfl Worker.noConfusion Worker.noConfusion (fun empty => ?_) fun sleeps => ?_
    · rw [front] at empty
      contradiction
    · have before := covered (sleeps.resolve_left Worker.noConfusion)
      have moved := tally_update Worker.seeks s.worker w (.running task)
      rw [here] at moved
      rw [front, List.length_cons] at before
      simp only [Worker.seeks] at moved
      change rest.length ≤ s.notifying + _
      omega
  | ends w task here =>
    refine attended.of_go rfl Worker.noConfusion Worker.noConfusion id fun sleeps => ?_
    have before := covered (sleeps.resolve_left Worker.noConfusion)
    have moved := tally_update Worker.seeks s.worker w .testing
    rw [here] at moved
    simp only [Worker.seeks] at moved
    change s.tasks.length ≤ s.notifying + _
    omega
  | stops => exact absurd still Bool.noConfusion
  | notifies stopped =>
    rw [runs] at stopped
    contradiction
  | joins => exact ⟨attended.stays, attended.dozing, attended.asleep⟩

/-- Steps of the workers and pending notifications: what the pool does by itself. -/
def Label.Working : Label n → Prop
  | .worker _ | .notifyOne _ => True
  | _ => False

instance : DecidablePred (Label.Working (n := n))
  | .worker _ | .notifyOne _ => .isTrue trivial
  | .enqueue | .setStop | .notifyAll | .join _ => .isFalse id

def Dispatching (s : ThreadPool n) : Label n → Prop
  | .worker w => ¬ (s.worker w).Running
  | .notifyOne _ => True
  | _ => False

instance (s : ThreadPool n) : DecidablePred s.Dispatching
  | .worker w => inferInstanceAs (Decidable (¬ (s.worker w).Running))
  | .notifyOne _ => .isTrue trivial
  | .enqueue | .setStop | .notifyAll | .join _ => .isFalse id

def Busy (s : ThreadPool n) : Prop := ∀ w, (s.worker w).Running

/-- The steps that the pool has left by itself, at most. -/
def work (s : ThreadPool n) : Nat :=
  tally Worker.work s.worker + 5 * s.tasks.length + 4 * s.notifying

theorem work_bound (s : ThreadPool n) : s.work ≤ 5 * (n + s.tasks.length) + 4 * s.notifying := by
  have most : tally Worker.work s.worker ≤ Fintype.card (Fin n) * 5 := tally_le Worker.work_le
  rw [Fintype.card_fin] at most
  rw [work]
  omega

theorem Moves.work {here next : Worker} (moves : s.Moves here next) : next.work < here.work := by
  cases moves <;> decide

theorem work_act (working : label.Working) (taken : s.act label = some t) : t.work < s.work := by
  have worked (w : Fin n) (next : Worker) := tally_update Worker.work s.worker w next
  cases label with
  | worker w =>
    cases steps_of_act taken with
    | moves _ next moves =>
      have less := moves.work
      have moved := worked w next
      change tally Worker.work (Function.update s.worker w next) + 5 * s.tasks.length + 4 * s.notifying < s.work
      rw [work]
      omega
    | takes _ task rest here front =>
      have moved := worked w (.running task)
      rw [here] at moved
      simp only [Worker.work] at moved
      change tally Worker.work (Function.update s.worker w _) + 5 * rest.length + 4 * s.notifying < s.work
      rw [work, front, List.length_cons]
      omega
    | ends _ task here =>
      have moved := worked w .testing
      rw [here] at moved
      simp only [Worker.work] at moved
      change tally Worker.work (Function.update s.worker w _) + 5 * s.tasks.length + 4 * s.notifying < s.work
      rw [work]
      omega
  | notifyOne woken =>
    have pending : s.notifying ≠ 0 := by
      intro none
      simp only [act, if_pos none] at taken
      contradiction
    cases steps_of_act taken with
    | wakes w sleeps =>
      have moved := worked w .waking
      rw [sleeps] at moved
      simp only [Worker.work] at moved
      change tally Worker.work (Function.update s.worker w _) + 5 * s.tasks.length + 4 * (s.notifying - 1) <
        s.work
      rw [work]
      omega
    | wakesNone =>
      change tally Worker.work s.worker + 5 * s.tasks.length + 4 * (s.notifying - 1) < s.work
      rw [work]
      omega
  | enqueue | setStop | notifyAll | join w => exact working.elim

/-- A worker that neither sleeps nor has ended goes on, unless it needs the mutex of
another. -/
theorem worker_goes (locked : s.Locked) (runs : s.stop = false) (awake : s.worker w ≠ .asleep)
    (stays : s.worker w ≠ .exited) (free : s.MutexFree ∨ (s.worker w).Holds) :
    ∃ t, s.act (.worker w) = some t := by
  simp only [act]
  cases here : s.worker w with
  | testing | deciding | dozing | running task => exact ⟨_, rfl⟩
  | locking | waking =>
    rw [here] at free
    exact ⟨_, if_pos (free.resolve_right id)⟩
  | passed =>
    rcases locked.ready w here with waiting | stopped
    · obtain ⟨task, rest, front⟩ := List.exists_cons_of_ne_nil waiting
      rw [front]
      exact ⟨_, rfl⟩
    · rw [runs] at stopped
      contradiction
  | asleep => exact absurd here awake
  | exited => exact absurd here stays

/-- As long as a task waits and a worker runs none, the pool can go on without one that
ends: no notification was lost that is still needed. -/
theorem Attended.dispatches (attended : s.Attended) (locked : s.Locked) (runs : s.stop = false)
    (waits : s.tasks ≠ []) (idle : ¬ s.Busy) : ∃ label t, s.Dispatching label ∧ s.act label = some t := by
  have goes (w : Fin n) (free : s.MutexFree ∨ (s.worker w).Holds) (awake : s.worker w ≠ .asleep)
      (apart : ¬ (s.worker w).Running) : ∃ label t, s.Dispatching label ∧ s.act label = some t := by
    obtain ⟨t, taken⟩ := worker_goes locked runs awake (attended.stays w) free
    exact ⟨.worker w, t, apart, taken⟩
  by_cases free : s.MutexFree
  · by_cases sleeps : ∃ w, s.worker w = .asleep
    · obtain ⟨w, sleeps⟩ := sleeps
      by_cases pending : s.notifying = 0
      · -- then a seeker covers the task
        have covered := attended.asleep w sleeps
        have some_task := List.length_pos_iff.mpr waits
        have seekers : tally Worker.seeks s.worker ≠ 0 := by omega
        rw [Ne, tally_eq_zero_iff, not_forall] at seekers
        obtain ⟨v, seeks⟩ := seekers
        refine goes v (.inl free) (fun here => seeks ?_) fun running => seeks ?_
        · rw [here]
          rfl
        · generalize s.worker v = here at running
          cases here with
          | running => rfl
          | _ => exact running.elim
      · exact ⟨.notifyOne (some w), _, trivial, (if_neg pending).trans (if_pos sleeps)⟩
    · obtain ⟨w, apart⟩ := not_forall.mp idle
      exact goes w (.inl free) (fun here => sleeps ⟨w, here⟩) apart
  · obtain ⟨v, holds⟩ := not_forall_not.mp free
    refine goes v (.inr holds) (fun here => ?_) fun running => ?_
    · rw [here] at holds
      exact holds
    · generalize s.worker v = here at running holds
      cases here with
      | running => exact holds
      | _ => exact running

structure Serving (s : ThreadPool n) : Prop where
  runs : s.stop = false
  valid : s.Valid
  locked : s.Locked
  attended : s.Attended

theorem serving_of_run {trace : List (Label n)} (run : Run (Takes ThreadPool.act) (init n) trace s)
    (runs : s.stop = false) : s.Serving := by
  have kept := run.invariant (P := fun s => s.Valid ∧ s.Locked ∧ (s.stop = false → s.Attended))
    ⟨valid_init, locked_init, fun _ => attended_init⟩ ?_
  · exact ⟨runs, kept.1, kept.2.1, kept.2.2 runs⟩
  · rintro s label t ⟨valid, locked, attended⟩ taken
    refine ⟨valid.act taken, locked.act taken, fun still => ?_⟩
    have before : s.stop = false := by
      rcases (flags_act taken).1 with rfl | same
      · cases steps_of_act taken
        exact absurd still Bool.noConfusion
      · exact same.symm.trans still
    exact (attended before).act before taken still

theorem Serving.act (serving : s.Serving) (working : label.Working) (taken : s.act label = some t) :
    t.Serving := by
  have still : t.stop = false := by
    rcases (flags_act taken).1 with rfl | same
    · exact working.elim
    · exact same.trans serving.runs
  exact ⟨still, serving.valid.act taken, serving.locked.act taken,
    serving.attended.act serving.runs taken still⟩

theorem Serving.works (serving : s.Serving) {rest : List (Label n)}
    (more : Run (Guarded (fun _ label => label.Working) (Takes ThreadPool.act)) s rest t) :
    t.Serving ∧ t.submitted = s.submitted ∧ rest.length + t.work ≤ s.work := by
  refine more.history (P := fun rest t => t.Serving ∧ t.submitted = s.submitted ∧
    rest.length + t.work ≤ s.work) ⟨serving, rfl, (Nat.zero_add _).le⟩ ?_
  rintro rest t label u ⟨kept, same, bounded⟩ ⟨working, taken⟩
  have less := work_act working taken
  refine ⟨kept.act working taken, ?_, ?_⟩
  · rw [← same]
    cases steps_of_act taken with
    | enqueues => exact working.elim
    | _ => rfl
  · rw [List.length_append, List.length_singleton]
    omega

theorem Dispatching.working (dispatching : s.Dispatching label) : label.Working := by
  cases label with
  | worker _ | notifyOne _ => trivial
  | enqueue | setStop | notifyAll | join _ => exact dispatching

def Started (s : ThreadPool n) (task : Nat) : Prop := task ∈ s.ran ∨ ∃ w, s.worker w = .running task

theorem Valid.started_iff (valid : s.Valid) {task : Nat} : s.Started task ↔ task < s.popped := by
  have once := valid.once task
  have running : tally (Worker.runs task) s.worker ≠ 0 ↔ ∃ w, s.worker w = .running task := by
    rw [Ne, tally_eq_zero_iff, not_forall]
    refine exists_congr fun w => ?_
    cases here : s.worker w with
    | running other => simp [Worker.runs]
    | _ => simp [Worker.runs]
  have ended : s.ran.count task ≠ 0 ↔ task ∈ s.ran := by
    rw [← Nat.pos_iff_ne_zero, List.count_pos_iff]
  rw [Started, ← running, ← ended]
  split at once <;> omega

/-- A pool that is not stopped lets a task wait only for workers that are all busy. From
any state that it can reach it comes to rest by itself, in any order of its steps and
without the end of a task, and then no task waits or every worker runs one. Tasks start
in the order of their `enqueue`. -/
theorem waits_only_if_busy {trace rest : List (Label n)} (run : Run (Takes act) (init n) trace s)
    (runs : s.stop = false) (more : Run (Guarded Dispatching (Takes act)) s rest t) :
    (∀ task, t.Started task → ∀ earlier < task, t.Started earlier) ∧
    rest.length ≤ 5 * (n + s.tasks.length) + 4 * s.notifying ∧
    ((∀ label u, t.Dispatching label → t.act label ≠ some u) → t.tasks = [] ∨ t.Busy) := by
  obtain ⟨serving, _, bounded⟩ := (serving_of_run run runs).works (more.weaken (W := Guarded
    (fun _ label => label.Working) (Takes act)) fun ⟨dispatching, taken⟩ => ⟨dispatching.working, taken⟩)
  have most := s.work_bound
  refine ⟨fun task started earlier less => ?_, by omega, fun rests => ?_⟩
  · rw [serving.valid.started_iff] at started ⊢
    exact less.trans started
  · by_contra left
    obtain ⟨waits, idle⟩ := not_or.mp left
    obtain ⟨label, u, dispatching, taken⟩ := serving.attended.dispatches serving.locked serving.runs waits idle
    exact rests label u dispatching taken

/-- One worker takes the first of two tasks; the second waits for it. -/
theorem waits_only_if_busy_one : ∃ t : ThreadPool 1, t.Busy ∧ t.tasks = [1] := by
  let before : List (Label 1) := [.enqueue, .notifyOne none, .enqueue, .notifyOne none]
  have outcome : (before.foldlM act (init 1)).bind (fun s =>
      ((List.replicate 4 (.worker 0)).foldlM (checked Dispatching act) s).map fun t =>
        (s.stop, t.worker 0, t.notifying, t.tasks)) = some (false, .running 0, 0, [1]) := by decide +kernel
  obtain ⟨s, enqueued, outcome⟩ := Option.bind_eq_some_iff.mp outcome
  obtain ⟨t, done, same⟩ := Option.map_eq_some_iff.mp outcome
  simp only [Prod.mk.injEq] at same
  obtain ⟨runs, here, pending, waiting⟩ := same
  have spec := waits_only_if_busy (.of_foldlM enqueued) runs (.of_checked done)
  refine ⟨t, (spec.2.2 fun label u dispatching taken => ?_).resolve_left ?_, waiting⟩
  · cases label with
    | worker w =>
      obtain rfl := Subsingleton.elim w 0
      have still : ¬ (t.worker 0).Running := dispatching
      rw [here] at still
      exact still trivial
    | notifyOne woken =>
      simp only [act, if_pos pending] at taken
      contradiction
    | enqueue | setStop | notifyAll | join _ => exact dispatching
  · rw [waiting]
    exact List.cons_ne_nil _ _

/-- If tasks come to an end, a pool that has a worker runs all of them, each once: with
no more enqueued it comes to rest, in any order of its steps, and then has run them. -/
theorem runs_every_task {trace rest : List (Label n)} (workers : 0 < n)
    (run : Run (Takes act) (init n) trace s) (runs : s.stop = false)
    (more : Run (Guarded (fun _ label => label.Working) (Takes act)) s rest t) :
    rest.length ≤ 5 * (n + s.tasks.length) + 4 * s.notifying ∧
    ((∀ label u, label.Working → t.act label ≠ some u) →
      t.tasks = [] ∧ ∀ task, t.ran.count task = if task < s.submitted then 1 else 0) := by
  obtain ⟨serving, same, bounded⟩ := (serving_of_run run runs).works more
  have most := s.work_bound
  refine ⟨by omega, fun rests => ?_⟩
  have quiet : ∀ w, ¬ (t.worker w).Running := by
    intro w running
    cases here : t.worker w with
    | running task =>
      have taken : t.act (.worker w) = some { t.go w .testing with ran := t.ran ++ [task] } := by
        simp only [act, here]
      have working : (Label.worker w).Working := trivial
      exact rests _ _ working taken
    | _ =>
      rw [here] at running
      exact running
  have empty : t.tasks = [] := by
    by_contra waits
    have idle : ¬ t.Busy := fun busy => quiet ⟨0, workers⟩ (busy ⟨0, workers⟩)
    obtain ⟨label, u, dispatching, taken⟩ := serving.attended.dispatches serving.locked serving.runs waits idle
    exact rests label u dispatching.working taken
  refine ⟨empty, fun task => ?_⟩
  have submitted := serving.valid.submitted
  have once := serving.valid.once task
  have none : tally (Worker.runs task) t.worker = 0 := by
    refine tally_eq_zero_iff.mpr fun w => ?_
    cases here : t.worker w with
    | running other => exact absurd (by rw [here]; trivial) (quiet w)
    | _ => rfl
  rw [empty, List.length_nil, same] at submitted
  rw [none] at once
  rw [← submitted]
  exact once

/-- Two workers, three tasks. -/
theorem runs_every_task_two : ∃ t : ThreadPool 2, ∀ task, t.ran.count task = if task < 3 then 1 else 0 := by
  let before : List (Label 2) := [.enqueue, .notifyOne none, .enqueue, .notifyOne none, .enqueue, .notifyOne none]
  let work : List (Label 2) := List.replicate 4 (.worker 0) ++ List.replicate 4 (.worker 1) ++
    List.replicate 10 (.worker 0) ++ List.replicate 5 (.worker 1)
  have outcome : (before.foldlM act (init 2)).bind (fun s =>
      (work.foldlM (checked (fun _ label => label.Working) act) s).map fun t =>
        (s.stop, s.submitted, decide (∀ w, t.worker w = .asleep), t.notifying)) =
      some (false, 3, true, 0) := by decide +kernel
  obtain ⟨s, enqueued, outcome⟩ := Option.bind_eq_some_iff.mp outcome
  obtain ⟨t, done, same⟩ := Option.map_eq_some_iff.mp outcome
  simp only [Prod.mk.injEq, decide_eq_true_eq] at same
  obtain ⟨runs, submitted, asleep, pending⟩ := same
  have spec := runs_every_task (Nat.succ_pos 1) (.of_foldlM enqueued) runs (.of_checked done)
  rw [submitted] at spec
  refine ⟨t, (spec.2 fun label u working taken => ?_).2⟩
  cases label with
  | worker w =>
    simp only [act, asleep] at taken
    contradiction
  | notifyOne woken =>
    simp only [act, if_pos pending] at taken
    contradiction
  | enqueue | setStop | notifyAll | join _ => exact working

end ThreadPool
end TinyRtsp
