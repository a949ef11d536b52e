import TinyRtsp.Foundation.Transition
import TinyRtsp.Media.MediaTrack

/-! The calls on one track, one after the other, with every thread they have started
on `run_producer`. `stop` waits for its thread in the middle of a call, and the
threads go on between and inside the calls. -/
namespace TinyRtsp
open Transition

/-- Where a thread is in `run_producer`; an `ending` one has left the loop and has yet
to call `set_exit`. -/
inductive ProducerThread where
  | testing
  | reading
  | producing (frame : List UInt8)
  | ending
  | ended
  deriving DecidableEq

namespace ProducerThread

def Loops : ProducerThread → Prop
  | .testing | .reading | .producing _ => True
  | .ending | .ended => False

instance : DecidablePred Loops := fun thread => by cases thread <;> unfold Loops <;> infer_instance

theorem Loops.ne_ended {thread : ProducerThread} (loops : thread.Loops) : thread ≠ .ended := by
  rintro rfl
  exact loops

end ProducerThread

/-- `run_producer` up to its next access to the track; `read` is the frame that
`read_next_frame` finds, or `none` at the end of the file. -/
def MediaTrack.runProducer (read : Option (List UInt8)) (t : MediaTrack) :
    ProducerThread → Option (MediaTrack × ProducerThread)
  | .testing => some (t, if t.isActive then .reading else .ending)
  | .reading => some (t, read.elim .ending .producing)
  | .producing frame => (t.frameQueue.produce (some frame)).map fun frameQueue =>
      ({ t with frameQueue }, .testing)
  | .ending => some ({ t with frameQueue := t.frameQueue.setExit }, .ended)
  | .ended => none

/-- What a thread does to the track: only its last step sets the queue's flag. -/
theorem MediaTrack.runProducer_spec {read : Option (List UInt8)} {t u : MediaTrack}
    {thread next : ProducerThread} (taken : t.runProducer read thread = some (u, next)) :
    thread ≠ .ended ∧ u.isActive = t.isActive ∧ u.produceThread = t.produceThread ∧
      (next = .ended ∨ u.frameQueue.exit = t.frameQueue.exit) := by
  cases thread with
  | testing | reading =>
    obtain ⟨rfl, _⟩ := Prod.mk.inj (Option.some.inj taken)
    exact ⟨ProducerThread.noConfusion, rfl, rfl, .inr rfl⟩
  | producing frame =>
    obtain ⟨frameQueue, stored, same⟩ := Option.map_eq_some_iff.mp taken
    obtain ⟨rfl, _⟩ := Prod.mk.inj same
    exact ⟨ProducerThread.noConfusion, rfl, rfl, .inr (CircularQueue.exit_produce stored)⟩
  | ending =>
    obtain ⟨rfl, same⟩ := Prod.mk.inj (Option.some.inj taken)
    exact ⟨ProducerThread.noConfusion, rfl, rfl, .inl same.symm⟩
  | ended => contradiction

namespace Lifecycle

/-- What waits for the thread. -/
inductive Caller where
  | stop
  | unregisterSession
  | destructor
  deriving DecidableEq

/-- How far the call being made is: `unregister_session` has removed the consumer, or
has found no other; the flag has been cleared; the thread is being joined. -/
inductive Call where
  | idle
  | leaving
  | deserted
  | stopping (caller : Caller)
  | joining (caller : Caller)
  | destroyed
  deriving DecidableEq

def Call.Stops : Call → Prop
  | .stopping _ | .joining _ => True
  | _ => False

def Caller.finish : Caller → MediaTrack → MediaTrack
  | .stop, t => t.stop
  | .unregisterSession, t => { t.stop with fileOpen := false }
  | .destructor, t => { t with produceThread := false, fileOpen := false }

def Caller.next : Caller → Call
  | .destructor => .destroyed
  | _ => .idle

inductive Label where
  | registerSession (sessionId : SessionId)
  | unregisterSession (sessionId : SessionId)
  | noConsumer
  | start (opens : Bool)
  | stop
  | destroy
  | setExit
  | join
  | getNextFrame (sessionId : SessionId)
  | producer (thread : Nat) (read : Option (List UInt8))

end Lifecycle

/-- A track, every thread ever started for it, the call being made, and whether a
`start` has overwritten a joinable `produce_thread_`. The thread that pointer holds is
the last one started. -/
structure Lifecycle where
  track : MediaTrack
  threads : List ProducerThread
  call : Lifecycle.Call
  overwritten : Bool

namespace Lifecycle

def init (mediaType : MediaType) (trackName : TrackName) (url : String) : Lifecycle where
  track := .new mediaType trackName url
  threads := []
  call := .idle
  overwritten := false

/-- `start` is one step: where it passes its test no thread is left that could act in
between (`Sole.quiet`). -/
def act (s : Lifecycle) : Label → Option Lifecycle
  | .registerSession sessionId =>
    if s.call = .idle then some { s with track := s.track.registerSession sessionId } else none
  | .unregisterSession sessionId =>
    if s.call = .idle then
      some { s with
        track := { s.track with frameQueue := s.track.frameQueue.unregisterConsumer sessionId }
        call := .leaving }
    else none
  | .noConsumer =>
    if s.call = .leaving then
      some { s with call := if s.track.frameQueue.noConsumer then .deserted else .idle }
    else none
  | .start opens =>
    if s.call = .idle then
      some (match s.track.start opens with
        | .returned track => { s with
            track
            threads := if s.track.isActive then s.threads else s.threads ++ [.testing] }
        | .thrown _ track => { s with track }
        | .terminated => { s with threads := s.threads ++ [.testing], overwritten := true })
    else none
  | .stop =>
    match s.call with
    | .idle => some { s with track := { s.track with isActive := false }, call := .stopping .stop }
    | .deserted =>
      some { s with track := { s.track with isActive := false }, call := .stopping .unregisterSession }
    | _ => none
  | .destroy =>
    if s.call = .idle then
      some { s with track := { s.track with isActive := false }, call := .joining .destructor }
    else none
  | .setExit =>
    match s.call with
    | .stopping caller => some { s with
        track := { s.track with frameQueue := s.track.frameQueue.setExit }
        call := .joining caller }
    | _ => none
  | .join =>
    match s.call with
    | .joining caller =>
      if s.track.produceThread = true ∧ s.threads.getLast? ≠ some .ended then none
      else some { s with track := caller.finish s.track, call := caller.next }
    | _ => none
  | .getNextFrame sessionId =>
    if s.call = .destroyed then none
    else (s.track.frameQueue.consume sessionId).map fun (_, frameQueue) =>
      { s with track := { s.track with frameQueue } }
  | .producer k read =>
    (s.threads[k]?).bind fun thread => (s.track.runProducer read thread).map fun (track, next) =>
      { s with track, threads := s.threads.set k next }

def Runs (s : Lifecycle) (k : Nat) : Prop :=
  ∃ thread, s.threads[k]? = some thread ∧ thread ≠ .ended

def Producing (s : Lifecycle) : Prop := ∃ thread ∈ s.threads, thread.Loops

instance (s : Lifecycle) : Decidable s.Producing := inferInstanceAs (Decidable (∃ _ ∈ _, _))

/-- The threads and the flags in every state. -/
structure Sole (s : Lifecycle) : Prop where
  last : ∀ k, s.Runs k → k + 1 = s.threads.length ∧ s.track.produceThread = true
  thread : s.track.produceThread = true → s.track.isActive = true ∨ s.call.Stops
  stopped : s.call.Stops → s.track.isActive = false
  running : s.track.isActive = true → ∀ k, s.Runs k → s.track.frameQueue.exit = false
  kept : s.overwritten = false

variable {s t : Lifecycle} {label : Label}

/-- Between calls an inactive track has no thread left. -/
theorem Sole.quiet (sole : s.Sole) (free : ¬ s.call.Stops) (inactive : s.track.isActive = false) :
    s.track.produceThread = false ∧ ∀ k, ¬ s.Runs k := by
  have unheld : s.track.produceThread = false := by
    cases held : s.track.produceThread with
    | false => rfl
    | true =>
      rcases sole.thread held with active | stops
      · rw [inactive] at active
        contradiction
      · exact absurd stops free
  refine ⟨unheld, fun k runs => ?_⟩
  have held := (sole.last k runs).2
  rw [unheld] at held
  contradiction

theorem Sole.of_same (sole : s.Sole) (threads : t.threads = s.threads)
    (held : t.track.produceThread = s.track.produceThread)
    (active : t.track.isActive = s.track.isActive)
    (exit : t.track.frameQueue.exit = s.track.frameQueue.exit)
    (stops : t.call.Stops ↔ s.call.Stops) (kept : t.overwritten = s.overwritten) : t.Sole := by
  have runs : ∀ k, t.Runs k ↔ s.Runs k := by
    intro k
    rw [Runs, Runs, threads]
  refine ⟨fun k here => ?_, fun now => ?_, fun now => ?_, fun now k here => ?_, kept.trans sole.kept⟩
  · rw [threads, held]
    exact sole.last k ((runs k).mp here)
  · rw [active, stops]
    exact sole.thread (held.symm.trans now)
  · rw [active]
    exact sole.stopped (stops.mp now)
  · rw [exit]
    exact sole.running (active.symm.trans now) k ((runs k).mp here)

theorem Sole.of_stops (sole : s.Sole) (threads : t.threads = s.threads)
    (held : t.track.produceThread = s.track.produceThread) (inactive : t.track.isActive = false)
    (stops : t.call.Stops) (kept : t.overwritten = s.overwritten) : t.Sole := by
  refine ⟨fun k here => ?_, fun _ => .inr stops, fun _ => inactive, fun now => ?_,
    kept.trans sole.kept⟩
  · rw [threads, held]
    rw [Runs, threads] at here
    exact sole.last k here
  · rw [inactive] at now
    contradiction

theorem Sole.of_joined (none : ∀ k, ¬ t.Runs k) (held : t.track.produceThread = false)
    (free : ¬ t.call.Stops) (kept : t.overwritten = false) : t.Sole := by
  refine ⟨fun k here => absurd here (none k), fun now => ?_, fun now => absurd now free,
    fun _ k here => absurd here (none k), kept⟩
  rw [held] at now
  contradiction

theorem Call.not_stops_idle : ¬ Call.idle.Stops := id

theorem runs_append {threads : List ProducerThread} {track : MediaTrack} {call : Call}
    {overwritten : Bool} {k : Nat} (none : ∀ j, ¬ Runs ⟨track, threads, call, overwritten⟩ j)
    {other : MediaTrack} (here : Runs ⟨other, threads ++ [.testing], call, overwritten⟩ k) :
    k = threads.length := by
  obtain ⟨thread, found, running⟩ := here
  rw [List.getElem?_append] at found
  split at found
  · exact absurd ⟨thread, found, running⟩ (none k)
  · obtain ⟨inside, _⟩ := List.getElem?_eq_some_iff.mp found
    simp only [List.length_singleton] at inside
    omega

theorem Sole.start (sole : s.Sole) {opens : Bool} (taken : s.act (.start opens) = some t) :
    t.Sole := by
  simp only [act] at taken
  split at taken
  · rename_i idle
    obtain rfl := Option.some.inj taken
    have free : ¬ s.call.Stops := by
      rw [idle]
      exact Call.not_stops_idle
    cases active : s.track.isActive with
    | true =>
      have same : s.track.start opens = .returned s.track := by rw [MediaTrack.start, if_pos active]
      rw [same]
      exact sole.of_same rfl rfl rfl rfl Iff.rfl rfl
    | false =>
      obtain ⟨unheld, none⟩ := sole.quiet free active
      cases outcome : s.track.start opens with
      | terminated =>
        have held := (MediaTrack.start_terminated outcome).2
        rw [unheld] at held
        contradiction
      | returned track =>
        obtain ⟨on, runs, ⟨_, held⟩ | ⟨⟨e, threw⟩, _⟩⟩ :=
          MediaTrack.start_inactive active (congrArg Outcome.session outcome)
        · refine ⟨fun k here => ⟨?_, held⟩, fun _ => .inl on, fun stops => absurd stops free,
            fun _ _ _ => runs, sole.kept⟩
          have last : k = s.threads.length := runs_append none here
          simp [last]
        · rw [outcome] at threw
          contradiction
      | thrown e track =>
        obtain ⟨_, _, ⟨returned, _⟩ | ⟨_, same⟩⟩ :=
          MediaTrack.start_inactive active (congrArg Outcome.session outcome)
        · rw [outcome] at returned
          contradiction
        · exact Sole.of_joined none (same.trans unheld) free sole.kept
  · contradiction

theorem Sole.producer (sole : s.Sole) {k : Nat} {read : Option (List UInt8)}
    (taken : s.act (.producer k read) = some t) : t.Sole := by
  obtain ⟨thread, found, moved⟩ := Option.bind_eq_some_iff.mp taken
  obtain ⟨⟨track, next⟩, ran, rfl⟩ := Option.map_eq_some_iff.mp moved
  obtain ⟨running, active, held, exit⟩ := MediaTrack.runProducer_spec ran
  have last := sole.last k ⟨thread, found, running⟩
  have before : ∀ j, Runs { s with track, threads := s.threads.set k next } j →
      s.Runs j ∧ (j = k → next ≠ .ended) := by
    rintro j ⟨other, there, still⟩
    rw [List.getElem?_set] at there
    split at there
    · subst j
      refine ⟨⟨thread, found, running⟩, fun _ => ?_⟩
      split at there
      · obtain rfl := Option.some.inj there
        exact still
      · contradiction
    · rename_i apart
      exact ⟨⟨other, there, still⟩, fun same => absurd same.symm apart⟩
  refine ⟨fun j here => ?_, fun now => ?_, fun stops => ?_, fun now j here => ?_, sole.kept⟩
  · rw [List.length_set]
    exact ⟨(sole.last j (before j here).1).1, held.trans last.2⟩
  · rw [active]
    exact sole.thread (held.symm.trans now)
  · exact active.trans (sole.stopped stops)
  · obtain ⟨earlier, goes⟩ := before j here
    have same : j = k := by
      have position := (sole.last j earlier).1
      omega
    exact (exit.resolve_left (goes same)).trans (sole.running (active.symm.trans now) j earlier)

theorem Sole.join (sole : s.Sole) (taken : s.act .join = some t) : t.Sole := by
  simp only [act] at taken
  split at taken
  · rename_i caller joining
    split at taken
    · contradiction
    · rename_i joined
      obtain rfl := Option.some.inj taken
      have none : ∀ k, ¬ s.Runs k := by
        intro k runs
        obtain ⟨position, held⟩ := sole.last k runs
        obtain ⟨thread, found, running⟩ := runs
        have ended : s.threads.getLast? = some .ended := by
          by_contra waits
          exact joined ⟨held, waits⟩
        rw [List.getLast?_eq_getElem?, ← position, Nat.add_sub_cancel, found] at ended
        exact running (Option.some.inj ended)
      refine Sole.of_joined none ?_ ?_ sole.kept
      · cases caller <;> rfl
      · cases caller <;> exact id
  · contradiction

theorem Sole.act (sole : s.Sole) (taken : s.act label = some t) : t.Sole := by
  cases label with
  | start opens => exact sole.start taken
  | join => exact sole.join taken
  | producer k read => exact sole.producer taken
  | registerSession sessionId =>
    simp only [Lifecycle.act] at taken
    split at taken
    · obtain rfl := Option.some.inj taken
      exact sole.of_same rfl rfl rfl rfl Iff.rfl rfl
    · contradiction
  | unregisterSession sessionId =>
    simp only [Lifecycle.act] at taken
    split at taken
    · rename_i idle
      obtain rfl := Option.some.inj taken
      exact sole.of_same rfl rfl rfl rfl (by rw [idle]; rfl) rfl
    · contradiction
  | noConsumer =>
    simp only [Lifecycle.act] at taken
    split at taken
    · rename_i leaving
      obtain rfl := Option.some.inj taken
      refine sole.of_same rfl rfl rfl rfl ?_ rfl
      rw [leaving]
      split <;> rfl
    · contradiction
  | stop =>
    simp only [Lifecycle.act] at taken
    split at taken
    · obtain rfl := Option.some.inj taken
      exact sole.of_stops rfl rfl rfl trivial rfl
    · obtain rfl := Option.some.inj taken
      exact sole.of_stops rfl rfl rfl trivial rfl
    · contradiction
  | destroy =>
    simp only [Lifecycle.act] at taken
    split at taken
    · obtain rfl := Option.some.inj taken
      exact sole.of_stops rfl rfl rfl trivial rfl
    · contradiction
  | setExit =>
    simp only [Lifecycle.act] at taken
    split at taken
    · rename_i caller stopping
      obtain rfl := Option.some.inj taken
      have inactive : s.track.isActive = false := sole.stopped (by rw [stopping]; trivial)
      exact sole.of_stops rfl rfl inactive trivial rfl
    · contradiction
  | getNextFrame sessionId =>
    simp only [Lifecycle.act] at taken
    split at taken
    · contradiction
    · obtain ⟨⟨frame, frameQueue⟩, consumed, rfl⟩ := Option.map_eq_some_iff.mp taken
      exact sole.of_same rfl rfl rfl (CircularQueue.exit_consume consumed) Iff.rfl rfl

variable {mediaType : MediaType} {trackName : TrackName} {url : String} {trace : List Label}

theorem sole_init (mediaType : MediaType) (trackName : TrackName) (url : String) :
    (init mediaType trackName url).Sole := by
  refine Sole.of_joined (fun k here => ?_) rfl id rfl
  obtain ⟨thread, found, _⟩ := here
  contradiction

theorem sole_run (run : Run (Takes Lifecycle.act) (init mediaType trackName url) trace s) : s.Sole :=
  run.invariant (sole_init mediaType trackName url) fun sole taken => sole.act taken

/-- No `start` overwrites a joinable thread, and no two threads are in `run_producer`. -/
theorem one_producer (run : Run (Takes Lifecycle.act) (init mediaType trackName url) trace s) :
    s.overwritten = false ∧ ∀ j k, s.Runs j → s.Runs k → j = k := by
  have sole := sole_run run
  refine ⟨sole.kept, fun j k first second => ?_⟩
  have position := (sole.last j first).1
  have other := (sole.last k second).1
  omega

/-- A second viewer starts the track that plays, and the first start after it was
stopped makes a second thread. -/
theorem one_producer_restarted : ∃ s : Lifecycle,
    (s.threads = [.ended, .testing]) ∧ s.overwritten = false ∧ ∀ j k, s.Runs j → s.Runs k → j = k := by
  obtain ⟨trace, outcome⟩ : ∃ trace : List Label,
      (trace.foldlM Lifecycle.act (init .h264 "v".toList "a.264")).map (·.threads) =
        some [.ended, .testing] :=
    ⟨[.registerSession "a".toList, .start true, .registerSession "b".toList, .start true,
      .producer 0 none, .producer 0 (some [0, 0, 1]), .producer 0 none, .stop, .producer 0 none,
      .setExit, .producer 0 none, .join, .start true], by decide +kernel⟩
  obtain ⟨s, done, threads⟩ := Option.map_eq_some_iff.mp outcome
  exact ⟨s, threads, one_producer (.of_foldlM done)⟩

end Lifecycle
end TinyRtsp
