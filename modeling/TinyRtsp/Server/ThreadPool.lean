import TinyRtsp.Foundation.Tally
import TinyRtsp.Foundation.Transition

/-! The thread pool: `enqueue`, the workers and the destructor over one mutex and one
condition variable. A worker's wait is split between its test and its sleep, because
`stop_` is set without the mutex and its notification can fall in between. -/
namespace TinyRtsp
open Transition

/-- Where a worker is. A `dozing` one has found the wait predicate false and still
holds the mutex, an `asleep` one has released it, and a `waking` one has been notified
and has to lock it again. -/
inductive Worker where
  | testing
  | locking
  | deciding
  | dozing
  | asleep
  | waking
  | passed
  | running (task : Nat)
  | exited
  deriving DecidableEq

namespace Worker

def Holds : Worker → Prop
  | deciding | dozing | passed => True
  | _ => False

instance : DecidablePred Holds := fun worker => by cases worker <;> unfold Holds <;> infer_instance

def wake : Worker → Worker
  | asleep => waking
  | worker => worker

def inside : Worker → Nat
  | locking | deciding | dozing | asleep | waking | passed => 1
  | testing | running _ | exited => 0

def runs (task : Nat) : Worker → Nat
  | running other => if other = task then 1 else 0
  | _ => 0

/-- The steps a worker that does not sleep has left once `stop_` is set. -/
def remaining : Worker → Nat
  | locking | waking | dozing | asleep => 5
  | deciding => 4
  | passed => 3
  | running _ => 2
  | testing => 1
  | exited => 0

end Worker

/-- Tasks are numbered as they are enqueued. `notifying` counts the calls of `enqueue`
between their push and their `notify_one`; `before` is the number of tasks at the
moment the destructor sets `stop_`, which is how it begins. -/
structure ThreadPool (n : Nat) where
  tasks : List Nat
  stop : Bool
  worker : Fin n → Worker
  submitted : Nat
  notifying : Nat
  ran : List Nat
  before : Nat
  notified : Bool
  joined : Nat

namespace ThreadPool
variable {n : Nat}

inductive Label (n : Nat) where
  | enqueue
  | notifyOne (woken : Option (Fin n))
  | worker (w : Fin n)
  | setStop
  | notifyAll
  | join (w : Fin n)

def init (n : Nat) : ThreadPool n where
  tasks := []
  stop := false
  worker _ := .testing
  submitted := 0
  notifying := 0
  ran := []
  before := 0
  notified := false
  joined := 0

def MutexFree (s : ThreadPool n) : Prop := ∀ w, ¬ (s.worker w).Holds

instance (s : ThreadPool n) : Decidable s.MutexFree := inferInstanceAs (Decidable (∀ _, _))

def Returned (s : ThreadPool n) : Prop := s.notified = true ∧ n ≤ s.joined

instance (s : ThreadPool n) : Decidable s.Returned := inferInstanceAs (Decidable (_ ∧ _))

def go (s : ThreadPool n) (w : Fin n) (next : Worker) : ThreadPool n :=
  { s with worker := Function.update s.worker w next }

def act (s : ThreadPool n) : Label n → Option (ThreadPool n)
  | .enqueue =>
    if s.MutexFree ∧ ¬ s.Returned then
      some { s with
        tasks := s.tasks ++ [s.submitted]
        submitted := s.submitted + 1
        notifying := s.notifying + 1 }
    else none
  | .notifyOne woken =>
    if s.notifying = 0 then none
    else match woken with
      | some w =>
        if s.worker w = .asleep then some { s.go w .waking with notifying := s.notifying - 1 }
        else none
      | none =>
        if ∀ w, s.worker w ≠ .asleep then some { s with notifying := s.notifying - 1 } else none
  | .worker w =>
    match s.worker w with
    | .testing => some (s.go w (if s.stop then .exited else .locking))
    | .locking | .waking => if s.MutexFree then some (s.go w .deciding) else none
    | .deciding => some (s.go w (if s.tasks = [] ∧ s.stop = false then .dozing else .passed))
    | .dozing => some (s.go w .asleep)
    | .passed =>
      match s.tasks with
      | [] => if s.stop then some (s.go w .exited) else none
      | task :: rest => some { s.go w (.running task) with tasks := rest }
    | .running task => some { s.go w .testing with ran := s.ran ++ [task] }
    | .asleep | .exited => none
  | .setStop => if s.stop then none else some { s with stop := true, before := s.submitted }
  | .notifyAll =>
    if s.stop = true ∧ s.notified = false then
      some { s with worker := fun w => (s.worker w).wake, notified := true }
    else none
  | .join w =>
    if s.notified = true ∧ w.val = s.joined ∧ s.worker w = .exited then
      some { s with joined := s.joined + 1 }
    else none

def popped (s : ThreadPool n) : Nat := s.submitted - s.tasks.length

def inside (s : ThreadPool n) : Nat := tally Worker.inside s.worker

/-- The steps of a worker that neither take a task nor end one. -/
inductive Moves (s : ThreadPool n) : Worker → Worker → Prop where
  | leaves (stopped : s.stop = true) : Moves s .testing .exited
  | enters (runs : s.stop = false) : Moves s .testing .locking
  | locks (free : s.MutexFree) : Moves s .locking .deciding
  | relocks (free : s.MutexFree) : Moves s .waking .deciding
  | dozes (empty : s.tasks = []) (runs : s.stop = false) : Moves s .deciding .dozing
  | passes (ready : s.tasks ≠ [] ∨ s.stop = true) : Moves s .deciding .passed
  | sleeps : Moves s .dozing .asleep
  | returns (empty : s.tasks = []) (stopped : s.stop = true) : Moves s .passed .exited

/-- What each step does, with what it has found. -/
inductive Steps (s : ThreadPool n) : Label n → ThreadPool n → Prop where
  | enqueues (free : s.MutexFree) : Steps s .enqueue { s with
      tasks := s.tasks ++ [s.submitted]
      submitted := s.submitted + 1
      notifying := s.notifying + 1 }
  | wakes (w : Fin n) (sleeps : s.worker w = .asleep) :
      Steps s (.notifyOne (some w)) { s.go w .waking with notifying := s.notifying - 1 }
  | wakesNone : Steps s (.notifyOne none) { s with notifying := s.notifying - 1 }
  | moves (w : Fin n) (next : Worker) (moves : s.Moves (s.worker w) next) :
      Steps s (.worker w) (s.go w next)
  | takes (w : Fin n) (task : Nat) (rest : List Nat) (here : s.worker w = .passed)
      (front : s.tasks = task :: rest) :
      Steps s (.worker w) { s.go w (.running task) with tasks := rest }
  | ends (w : Fin n) (task : Nat) (here : s.worker w = .running task) :
      Steps s (.worker w) { s.go w .testing with ran := s.ran ++ [task] }
  | stops (runs : s.stop = false) :
      Steps s .setStop { s with stop := true, before := s.submitted }
  | notifies (stopped : s.stop = true) (first : s.notified = false) :
      Steps s .notifyAll { s with worker := fun w => (s.worker w).wake, notified := true }
  | joins (w : Fin n) (notified : s.notified = true) (turn : w.val = s.joined)
      (gone : s.worker w = .exited) : Steps s (.join w) { s with joined := s.joined + 1 }

variable {s t : ThreadPool n} {label : Label n} {w v : Fin n}

theorem steps_worker (taken : s.act (.worker w) = some t) : s.Steps (.worker w) t := by
  simp only [act] at taken
  split at taken
  · rename_i here
    obtain rfl := Option.some.inj taken
    refine .moves w _ ?_
    rw [here]
    cases stopped : s.stop with
    | true => exact .leaves stopped
    | false => exact .enters stopped
  · rename_i here
    split at taken
    · rename_i free
      obtain rfl := Option.some.inj taken
      exact .moves w _ (here ▸ .locks free)
    · contradiction
  · rename_i here
    split at taken
    · rename_i free
      obtain rfl := Option.some.inj taken
      exact .moves w _ (here ▸ .relocks free)
    · contradiction
  · rename_i here
    obtain rfl := Option.some.inj taken
    refine .moves w _ ?_
    rw [here]
    split
    · rename_i waits
      exact .dozes waits.1 waits.2
    · rename_i ready
      refine .passes ?_
      rwa [not_and_or, Bool.not_eq_false] at ready
  · rename_i here
    obtain rfl := Option.some.inj taken
    exact .moves w _ (here ▸ .sleeps)
  · rename_i here
    split at taken
    · rename_i empty
      split at taken
      · rename_i stopped
        obtain rfl := Option.some.inj taken
        exact .moves w _ (here ▸ .returns empty stopped)
      · contradiction
    · rename_i task rest front
      obtain rfl := Option.some.inj taken
      exact .takes w task rest here front
  · rename_i task here
    obtain rfl := Option.some.inj taken
    exact .ends w task here
  · contradiction
  · contradiction

theorem steps_of_act (taken : s.act label = some t) : s.Steps label t := by
  cases label with
  | worker w => exact steps_worker taken
  | enqueue =>
    simp only [act] at taken
    split at taken
    · rename_i free
      obtain rfl := Option.some.inj taken
      exact .enqueues free.1
    · contradiction
  | notifyOne woken =>
    simp only [act] at taken
    split at taken
    · contradiction
    · split at taken
      · rename_i w
        split at taken
        · rename_i sleeps
          obtain rfl := Option.some.inj taken
          exact .wakes w sleeps
        · contradiction
      · split at taken
        · obtain rfl := Option.some.inj taken
          exact .wakesNone
        · contradiction
  | setStop =>
    simp only [act] at taken
    split at taken
    · contradiction
    · rename_i runs
      obtain rfl := Option.some.inj taken
      exact .stops (Bool.eq_false_iff.mpr runs)
  | notifyAll =>
    simp only [act] at taken
    split at taken
    · rename_i free
      obtain rfl := Option.some.inj taken
      exact .notifies free.1 free.2
    · contradiction
  | join w =>
    simp only [act] at taken
    split at taken
    · rename_i free
      obtain rfl := Option.some.inj taken
      exact .joins w free.1 free.2.1 free.2.2
    · contradiction

/-- Every task waits, runs or has run, once and in order; joined workers have exited. -/
structure Valid (s : ThreadPool n) : Prop where
  waiting : s.tasks = List.range' s.popped s.tasks.length
  submitted : s.popped + s.tasks.length = s.submitted
  once : ∀ task, s.ran.count task + tally (Worker.runs task) s.worker =
    if task < s.popped then 1 else 0
  before : s.before ≤ s.submitted
  exited : ∀ w, w.val < s.joined → s.worker w = .exited

theorem valid_init : (init n).Valid := by
  refine ⟨rfl, rfl, fun task => ?_, le_rfl, fun w impossible => absurd impossible (Nat.not_lt_zero _)⟩
  have idle : tally (Worker.runs task) (init n).worker = 0 := tally_eq_zero_iff.mpr fun _ => rfl
  rw [idle]
  exact (if_neg (Nat.not_lt_zero task)).symm

theorem Valid.of_same (valid : s.Valid) (tasks : t.tasks = s.tasks)
    (submitted : t.submitted = s.submitted) (ran : t.ran = s.ran)
    (running : ∀ task w, (t.worker w).runs task = (s.worker w).runs task)
    (before : t.before ≤ s.submitted) (exited : ∀ w, w.val < t.joined → t.worker w = .exited) :
    t.Valid := by
  have popped : t.popped = s.popped := by rw [popped, popped, tasks, submitted]
  refine ⟨?_, ?_, fun task => ?_, ?_, exited⟩
  · rw [tasks, popped]
    exact valid.waiting
  · rw [tasks, popped, submitted]
    exact valid.submitted
  · rw [ran, popped, tally_congr (running task)]
    exact valid.once task
  · rw [submitted]
    exact before

theorem Moves.runs {here next : Worker} (moves : s.Moves here next) (task : Nat) :
    next.runs task = here.runs task := by
  cases moves <;> rfl

theorem Moves.not_exited {here next : Worker} (moves : s.Moves here next) : here ≠ .exited := by
  cases moves <;> exact Worker.noConfusion

theorem worker_go (s : ThreadPool n) (w v : Fin n) (next : Worker) :
    (s.go w next).worker v = if v = w then next else s.worker v :=
  Function.update_apply ..

theorem Valid.exited_go (valid : s.Valid) {next : Worker} (goes : s.worker w ≠ .exited) :
    ∀ v, v.val < s.joined → (s.go w next).worker v = .exited := by
  intro v joined
  have gone := valid.exited v joined
  rw [worker_go, if_neg]
  · exact gone
  · rintro rfl
    exact goes gone

theorem popped_enqueue (s : ThreadPool n) : popped { s with
    tasks := s.tasks ++ [s.submitted]
    submitted := s.submitted + 1
    notifying := s.notifying + 1 } = s.popped := by
  simp only [popped, List.length_append, List.length_singleton, Nat.add_sub_add_right]

theorem Valid.enqueues (valid : s.Valid) : Valid { s with
    tasks := s.tasks ++ [s.submitted]
    submitted := s.submitted + 1
    notifying := s.notifying + 1 } := by
  have submitted := valid.submitted
  have popped := s.popped_enqueue
  refine ⟨?_, ?_, fun task => ?_, valid.before.trans (Nat.le_succ _), valid.exited⟩
  · rw [popped, List.length_append, List.length_singleton, List.range'_1_concat,
      ← valid.waiting, submitted]
  · rw [popped, List.length_append, List.length_singleton]
    change s.popped + (s.tasks.length + 1) = s.submitted + 1
    omega
  · rw [popped]
    exact valid.once task

theorem Valid.takes (valid : s.Valid) {task : Nat} {rest : List Nat} (here : s.worker w = .passed)
    (front : s.tasks = task :: rest) : Valid { s.go w (.running task) with tasks := rest } := by
  have waiting := valid.waiting
  have submitted := valid.submitted
  rw [front, List.length_cons, List.range'_succ] at waiting
  rw [front, List.length_cons] at submitted
  obtain ⟨same, later⟩ := List.cons.inj waiting
  have popped : ThreadPool.popped { s.go w (.running task) with tasks := rest } = s.popped + 1 := by
    change s.submitted - rest.length = s.popped + 1
    omega
  refine ⟨?_, ?_, fun other => ?_, valid.before, valid.exited_go (by rw [here]; nofun)⟩
  · rw [popped]
    exact later
  · rw [popped]
    change s.popped + 1 + rest.length = s.submitted
    omega
  · have once := valid.once other
    have moved := tally_update (Worker.runs other) s.worker w (.running task)
    rw [here] at moved
    rw [popped]
    change s.ran.count other + tally (Worker.runs other) (Function.update s.worker w _) = _
    simp only [Worker.runs] at moved
    split at moved <;> split at once <;> split <;> omega

theorem Valid.ends (valid : s.Valid) {task : Nat} (here : s.worker w = .running task) :
    Valid { s.go w .testing with ran := s.ran ++ [task] } := by
  refine ⟨valid.waiting, valid.submitted, fun other => ?_, valid.before,
    valid.exited_go (by rw [here]; nofun)⟩
  have once := valid.once other
  have moved := tally_update (Worker.runs other) s.worker w .testing
  rw [here] at moved
  change (s.ran ++ [task]).count other + tally (Worker.runs other) (Function.update s.worker w _) =
    if other < s.popped then 1 else 0
  rw [List.count_append, List.count_singleton, ← once]
  simp only [Worker.runs, beq_iff_eq] at moved ⊢
  omega

theorem Valid.act (valid : s.Valid) (taken : s.act label = some t) : t.Valid := by
  cases steps_of_act taken with
  | enqueues => exact valid.enqueues
  | takes w task rest here front => exact valid.takes here front
  | ends w task here => exact valid.ends here
  | moves w next moves =>
    refine valid.of_same rfl rfl rfl (fun task v => ?_) valid.before (valid.exited_go moves.not_exited)
    rw [worker_go]
    split
    · subst v
      exact moves.runs task
    · rfl
  | wakes w sleeps =>
    refine valid.of_same rfl rfl rfl (fun task v => ?_) valid.before
      (valid.exited_go (by rw [sleeps]; nofun))
    change ((s.go w .waking).worker v).runs task = _
    rw [worker_go]
    split
    · subst v
      rw [sleeps]
      rfl
    · rfl
  | wakesNone => exact valid.of_same rfl rfl rfl (fun _ _ => rfl) valid.before valid.exited
  | stops => exact valid.of_same rfl rfl rfl (fun _ _ => rfl) le_rfl valid.exited
  | notifies =>
    refine valid.of_same rfl rfl rfl (fun task w => ?_) valid.before fun w joined => ?_
    · change (s.worker w).wake.runs task = _
      cases s.worker w <;> rfl
    · change (s.worker w).wake = .exited
      rw [valid.exited w joined]
      rfl
  | joins w _ turn gone =>
    refine valid.of_same rfl rfl rfl (fun _ _ => rfl) valid.before fun v joined => ?_
    change v.val < s.joined + 1 at joined
    by_cases last : v.val < s.joined
    · exact valid.exited v last
    · obtain rfl : v = w := Fin.ext (by omega)
      exact gone

/-- One worker holds the mutex, and one that has passed its wait finds a task unless
`stop_` is set: `front` is not called on an empty queue. -/
structure Locked (s : ThreadPool n) : Prop where
  sole : ∀ v w, (s.worker v).Holds → (s.worker w).Holds → v = w
  ready : ∀ w, s.worker w = .passed → s.tasks ≠ [] ∨ s.stop = true

theorem locked_init : (init n).Locked := ⟨fun _ _ impossible => impossible.elim, fun _ => nofun⟩

theorem Locked.of_fewer (locked : s.Locked) (holds : ∀ w, (t.worker w).Holds → (s.worker w).Holds)
    (ready : ∀ w, t.worker w = .passed → s.tasks ≠ [] ∨ s.stop = true →
      t.tasks ≠ [] ∨ t.stop = true)
    (passed : ∀ w, t.worker w = .passed → s.worker w = .passed) : t.Locked :=
  ⟨fun v w first second => locked.sole v w (holds v first) (holds w second),
    fun w here => ready w here (locked.ready w (passed w here))⟩

theorem Locked.of_leaves (locked : s.Locked) {next : Worker}
    (worker : t.worker = Function.update s.worker w next) (outside : ¬ next.Holds)
    (ready : ∀ v, v ≠ w → s.worker v = .passed → t.tasks ≠ [] ∨ t.stop = true) : t.Locked := by
  have elsewhere : ∀ v, (t.worker v).Holds → v ≠ w ∧ t.worker v = s.worker v := by
    intro v holds
    by_cases same : v = w
    · rw [same, worker, Function.update_self] at holds
      exact absurd holds outside
    · exact ⟨same, by rw [worker, Function.update_of_ne same]⟩
  have before : ∀ v, (t.worker v).Holds → (s.worker v).Holds := fun v holds =>
    (elsewhere v holds).2 ▸ holds
  refine ⟨fun v u first second => locked.sole v u (before v first) (before u second), fun v here => ?_⟩
  obtain ⟨apart, same⟩ := elsewhere v (by rw [here]; trivial)
  exact ready v apart (same.symm.trans here)

theorem Moves.holds {here next : Worker} (moves : s.Moves here next) (holds : next.Holds) :
    here.Holds ∨ s.MutexFree := by
  cases moves with
  | locks free | relocks free => exact .inr free
  | dozes | passes => exact .inl trivial
  | leaves | enters | sleeps | returns => exact holds.elim

theorem Moves.ready {here : Worker} (moves : s.Moves here .passed) : s.tasks ≠ [] ∨ s.stop = true := by
  cases moves with
  | passes ready => exact ready

theorem Locked.of_moves (locked : s.Locked) {next : Worker} (moves : s.Moves (s.worker w) next) :
    (s.go w next).Locked := by
  have before : ∀ v, v ≠ w → ((s.go w next).worker v).Holds → (s.worker v).Holds := by
    intro v apart holds
    rwa [worker_go, if_neg apart] at holds
  have alone : ∀ v, v ≠ w → ((s.go w next).worker w).Holds → ((s.go w next).worker v).Holds → False := by
    intro v apart first second
    rw [worker_go, if_pos rfl] at first
    rcases moves.holds first with held | free
    · exact apart (locked.sole v w (before v apart second) held)
    · exact free v (before v apart second)
  refine ⟨fun v u first second => ?_, fun v here => ?_⟩
  · by_cases left : v = w
    · by_contra apart
      subst v
      exact alone u (Ne.symm apart) first second
    · by_cases right : u = w
      · subst u
        exact (alone v left second first).elim
      · exact locked.sole v u (before v left first) (before u right second)
  · rw [worker_go] at here
    split at here
    · subst here
      exact moves.ready
    · exact locked.ready v here

theorem Locked.act (locked : s.Locked) (taken : s.act label = some t) : t.Locked := by
  cases steps_of_act taken with
  | moves w next moves => exact locked.of_moves moves
  | takes w task rest here front =>
    refine locked.of_leaves rfl id fun v apart passed => ?_
    exact absurd (locked.sole v w (by rw [passed]; trivial) (by rw [here]; trivial)) apart
  | ends | wakes => exact locked.of_leaves rfl id fun v _ => locked.ready v
  | enqueues => exact locked.of_fewer (fun _ => id) (fun _ _ _ => .inl (by simp)) fun _ => id
  | stops => exact locked.of_fewer (fun _ => id) (fun _ _ _ => .inr rfl) fun _ => id
  | wakesNone | joins => exact locked.of_fewer (fun _ => id) (fun _ _ => id) fun _ => id
  | notifies =>
    refine locked.of_fewer (fun w => ?_) (fun _ _ => id) fun w => ?_
    · dsimp only
      cases s.worker w <;> exact id
    · dsimp only
      cases s.worker w <;> simp [Worker.wake]

theorem front_exists {trace : List (Label n)} (run : Run (Takes ThreadPool.act) (init n) trace s)
    (passed : s.worker w = .passed) (runs : s.stop = false) : ∃ task rest, s.tasks = task :: rest := by
  have locked := run.invariant locked_init fun locked taken => locked.act taken
  rcases locked.ready w passed with waiting | stopped
  · exact List.exists_cons_of_ne_nil waiting
  · rw [runs] at stopped
    contradiction

end ThreadPool
end TinyRtsp
