import Mathlib.Logic.Function.Basic

/-! Threads that sleep on condition variables of one mutex. A sleeper keeps a
description of its call; a notification makes it runnable and it tests its
condition again. There are no spurious wake-ups, so a sleeper whose condition
changed without a notification sleeps on. -/
namespace TinyRtsp

inductive Thread (W : Type) where
  | idle
  | ready (wait : W)
  | asleep (wait : W)
  deriving DecidableEq

/-- The protected data and the threads that call on it. -/
structure Monitor (D W T : Type) where
  data : D
  thread : T → Thread W

namespace Thread
variable {W : Type}

def isIdle : Thread W → Bool
  | .idle => true
  | _ => false

def isAsleep : Thread W → Bool
  | .asleep _ => true
  | _ => false

theorem isAsleep_iff {thread : Thread W} : thread.isAsleep = true ↔ ∃ wait, thread = .asleep wait := by
  cases thread with
  | idle | ready => simp [isAsleep]
  | asleep wait => simp [isAsleep]

def wake (notified : W → Bool) : Thread W → Thread W
  | .asleep wait => if notified wait then .ready wait else .asleep wait
  | other => other

theorem wake_asleep_iff {notified : W → Bool} {thread : Thread W} {wait : W} :
    thread.wake notified = .asleep wait ↔ thread = .asleep wait ∧ notified wait = false := by
  cases thread with
  | idle | ready => simp [wake]
  | asleep held =>
    simp only [wake]
    split
    · rename_i yes
      simp only [reduceCtorEq, asleep.injEq, false_iff, not_and]
      rintro rfl
      simp [yes]
    · rename_i no
      simp only [asleep.injEq]
      constructor
      · rintro rfl
        exact ⟨rfl, by simpa using no⟩
      · exact And.left

def Holds (thread : Thread W) (wait : W) : Prop := thread = .ready wait ∨ thread = .asleep wait

theorem holds_wake_iff {notified : W → Bool} {thread : Thread W} {wait : W} :
    (thread.wake notified).Holds wait ↔ thread.Holds wait := by
  cases thread with
  | idle | ready => simp [wake, Holds]
  | asleep held =>
    simp only [wake, Holds]
    split <;> simp

end Thread

namespace Monitor
variable {D W T : Type} {m : Monitor D W T} {good : D → W → Prop} {notified : W → Bool}
  {d : D} {t : T} {wait : W}

/-- `notify_all` on the condition variable of the calls `notified` selects. -/
def notify (notified : W → Bool) (m : Monitor D W T) : Monitor D W T :=
  { m with thread := fun t => (m.thread t).wake notified }

def set (m : Monitor D W T) (d : D) : Monitor D W T := { m with data := d }

def put [DecidableEq T] (m : Monitor D W T) (t : T) (thread : Thread W) : Monitor D W T :=
  { m with thread := Function.update m.thread t thread }

def Sleeps (m : Monitor D W T) (t : T) : Prop := ∃ wait, m.thread t = .asleep wait

instance (m : Monitor D W T) (t : T) : Decidable (m.Sleeps t) :=
  decidable_of_iff ((m.thread t).isAsleep = true) Thread.isAsleep_iff

/-- Every sleeper still has its reason to sleep. -/
def Sound (good : D → W → Prop) (m : Monitor D W T) : Prop :=
  ∀ t wait, m.thread t = .asleep wait → good m.data wait

def Pending (kept : D → T → W → Prop) (m : Monitor D W T) : Prop :=
  ∀ t wait, (m.thread t).Holds wait → kept m.data t wait

/-- After an update and its notification, only the sleepers that were not
notified need their reason again. -/
theorem sound_notify_iff : Sound good ((m.set d).notify notified) ↔
    ∀ t wait, m.thread t = .asleep wait → notified wait = false → good d wait := by
  simp only [Sound, notify, set, Thread.wake_asleep_iff, and_imp]

theorem not_sleeps_of_eq {thread : Thread W} (here : m.thread t = thread)
    (awake : ∀ wait, thread ≠ .asleep wait) : ¬ m.Sleeps t := by
  rintro ⟨wait, asleep⟩
  exact awake wait (here.symm.trans asleep)

theorem Sleeps.of_notify (sleeps : (m.notify notified).Sleeps t) : m.Sleeps t := by
  obtain ⟨wait, asleep⟩ := sleeps
  exact ⟨wait, (Thread.wake_asleep_iff.mp asleep).1⟩

theorem not_sleeps_notify (all : ∀ wait, m.thread t = .asleep wait → notified wait = true) :
    ¬ (m.notify notified).Sleeps t := by
  rintro ⟨wait, asleep⟩
  obtain ⟨before, missed⟩ := Thread.wake_asleep_iff.mp asleep
  rw [all wait before] at missed
  contradiction

theorem Pending.notify {kept : D → T → W → Prop} (pending : Pending kept m) :
    Pending kept (m.notify notified) :=
  fun t wait holds => pending t wait (Thread.holds_wake_iff.mp holds)

variable [DecidableEq T]

theorem sound_put_asleep (sound : Sound good m) (reason : good m.data wait) :
    Sound good (m.put t (.asleep wait)) := by
  intro other held asleep
  by_cases same : other = t
  · subst other
    obtain rfl : wait = held := by simpa [put] using asleep
    exact reason
  · exact sound other held (by simpa [put, same] using asleep)

theorem sleeps_put_ne {thread : Thread W} {other : T} (apart : other ≠ t) :
    (m.put t thread).Sleeps other ↔ m.Sleeps other := by
  simp only [Sleeps, put, Function.update_of_ne apart]

theorem not_sleeps_put_idle : ¬ (m.put t .idle).Sleeps t :=
  not_sleeps_of_eq (Function.update_self ..) nofun

theorem not_sleeps_returned : ¬ (((m.put t .idle).set d).notify notified).Sleeps t :=
  fun sleeps => not_sleeps_put_idle sleeps.of_notify

theorem put_idle_asleep_iff {other : T} :
    (m.put t .idle).thread other = .asleep wait ↔ other ≠ t ∧ m.thread other = .asleep wait := by
  by_cases same : other = t
  · subst other
    simp [put]
  · simp [put, same]

theorem sound_put_idle (sound : Sound good m) : Sound good (m.put t .idle) :=
  fun other held asleep => sound other held (put_idle_asleep_iff.mp asleep).2

theorem put_idle_holds_iff {other : T} :
    ((m.put t .idle).thread other).Holds wait ↔ other ≠ t ∧ (m.thread other).Holds wait := by
  by_cases same : other = t
  · subst other
    simp [put, Thread.Holds]
  · simp [put, same]

theorem Pending.put_idle {kept : D → T → W → Prop} (pending : Pending kept m) :
    Pending kept (m.put t .idle) :=
  fun other held holds => pending other held (put_idle_holds_iff.mp holds).2

theorem put_asleep_holds_iff {other : T} {held : W} : ((m.put t (.asleep wait)).thread other).Holds held ↔
    other = t ∧ wait = held ∨ other ≠ t ∧ (m.thread other).Holds held := by
  by_cases same : other = t
  · subst other
    simp [put, Thread.Holds]
  · simp [put, same]

theorem Pending.put_asleep {kept : D → T → W → Prop} (pending : Pending kept m)
    (entered : kept m.data t wait) : Pending kept (m.put t (.asleep wait)) := by
  intro other held holds
  rcases put_asleep_holds_iff.mp holds with ⟨rfl, rfl⟩ | ⟨_, before⟩
  · exact entered
  · exact pending other held before

end Monitor
end TinyRtsp
