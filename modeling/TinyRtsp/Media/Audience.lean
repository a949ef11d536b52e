import TinyRtsp.Foundation.Transition
import TinyRtsp.Media.MediaTrack

/-! Sessions that join and leave one track. `unregister_session` removes the consumer,
tests whether one is left and stops the track in three steps, and other sessions
may register and start in between. -/
namespace TinyRtsp
open Transition

/-- What a session has done with the track. A `leaving` session has yet to make its
`no_consumer` test, and a `stopping` one has found no consumer. -/
inductive Visit where
  | out
  | registered
  | started
  | leaving
  | stopping
  deriving DecidableEq

/-- `atEnd` says that the producer has read the file to its end since it was opened. -/
structure Audience where
  track : MediaTrack
  atEnd : Bool
  visit : SessionId → Visit

namespace Audience

inductive Label where
  | registerSession (sessionId : SessionId)
  | start (sessionId : SessionId) (opens : Bool)
  | unregisterConsumer (sessionId : SessionId)
  | noConsumer (sessionId : SessionId)
  | stop (sessionId : SessionId)
  | produce (frame : List UInt8)
  | consume (sessionId : SessionId)
  | endOfFile

def start (mediaType : MediaType) (trackName : TrackName) (url : String) : Audience where
  track := .new mediaType trackName url
  atEnd := false
  visit _ := .out

def go (s : Audience) (sessionId : SessionId) (visit : Visit) : Audience :=
  { s with visit := Function.update s.visit sessionId visit }

def Live (s : Audience) : Prop := s.track.produceThread = true ∧ s.atEnd = false

instance (s : Audience) : Decidable s.Live := inferInstanceAs (Decidable (_ ∧ _))

def act (s : Audience) : Label → Option Audience
  | .registerSession sessionId =>
    if s.visit sessionId = .out then
      some ({ s with track := s.track.registerSession sessionId }.go sessionId .registered)
    else none
  | .start sessionId opens =>
    if s.visit sessionId = .registered ∨ s.visit sessionId = .started then
      match s.track.start opens with
      | .returned track => some ({ s with
          track
          atEnd := if s.track.isActive then s.atEnd else false }.go sessionId .started)
      | .thrown _ track => some { s with track }
      | .terminated => none
    else none
  | .unregisterConsumer sessionId =>
    if s.visit sessionId = .registered ∨ s.visit sessionId = .started then
      some ({ s with track := { s.track with
        frameQueue := s.track.frameQueue.unregisterConsumer sessionId } }.go sessionId .leaving)
    else none
  | .noConsumer sessionId =>
    if s.visit sessionId = .leaving then
      some (s.go sessionId (if s.track.frameQueue.noConsumer then .stopping else .out))
    else none
  | .stop sessionId =>
    if s.visit sessionId = .stopping then
      some ({ s with track := { s.track.stop with fileOpen := false } }.go sessionId .out)
    else none
  | .produce frame =>
    if s.Live then
      (s.track.frameQueue.produce (some frame)).map fun frameQueue =>
        { s with track := { s.track with frameQueue } }
    else none
  | .consume sessionId =>
    if s.visit sessionId = .started then
      (s.track.frameQueue.consume sessionId).map fun (_, frameQueue) =>
        { s with track := { s.track with frameQueue } }
    else none
  | .endOfFile =>
    if s.Live then
      some { s with track := { s.track with frameQueue := s.track.frameQueue.setExit }, atEnd := true }
    else none

/-- Every session whose `start` has returned finds the producer at work, unless the
file has been read to its end. -/
def Served (s : Audience) : Prop :=
  ∀ sessionId, s.visit sessionId = .started → s.atEnd = false →
    s.Live ∧ s.track.frameQueue.exit = false

/-- A `start` that finds the track active finds its thread, and a session that stops
the track finds no session that has started it since the test. -/
def Apart (s : Audience) : Label → Prop
  | .start .. => s.track.isActive = true → s.atEnd = false → s.track.produceThread = true
  | .stop _ => s.atEnd = false → ∀ sessionId, s.visit sessionId ≠ .started
  | _ => True

/-- The producer's thread in every state: it belongs to an active track, and while it
reads the file the queue's exit flag is not set. -/
structure Consistent (s : Audience) : Prop where
  active : s.track.produceThread = true → s.track.isActive = true
  running : s.Live → s.track.frameQueue.exit = false

variable {s s' : Audience} {label : Label} {sessionId other : SessionId}

theorem served_iff (consistent : s.Consistent) : s.Served ↔
    (s.atEnd = false → ∀ sessionId, s.visit sessionId = .started → s.track.produceThread = true) := by
  constructor
  · intro served reading viewer started
    exact (served viewer started reading).1.1
  · intro all viewer started reading
    have live : s.Live := ⟨all reading viewer started, reading⟩
    exact ⟨live, consistent.running live⟩

theorem visit_go (s : Audience) (sessionId other : SessionId) (visit : Visit) :
    (s.go sessionId visit).visit other = if other = sessionId then visit else s.visit other :=
  Function.update_apply ..

def Steps (s : Audience) (label : Label) (s' : Audience) : Prop :=
  s'.Consistent ∧ (s.Served → (s'.Served ↔ s.Apart label))

theorem steps_quiet (consistent : s.Consistent) (free : s.Apart label)
    (active : s'.track.isActive = s.track.isActive)
    (thread : s'.track.produceThread = s.track.produceThread)
    (reading : s'.atEnd = false → s.atEnd = false ∧ s'.track.frameQueue.exit = s.track.frameQueue.exit)
    (visits : ∀ other, s'.visit other = .started → s.visit other = .started) : s.Steps label s' := by
  have consistent' : s'.Consistent := by
    refine ⟨fun on => ?_, fun live => ?_⟩
    · rw [active]
      exact consistent.active (thread.symm.trans on)
    · obtain ⟨before, exit⟩ := reading live.2
      rw [exit]
      exact consistent.running ⟨thread.symm.trans live.1, before⟩
  refine ⟨consistent', fun served => iff_of_true ?_ free⟩
  refine (served_iff consistent').mpr fun still other started => ?_
  rw [thread]
  exact (served other (visits other started) (reading still).1).1.1

theorem not_started_go {visit : Visit} (still : visit ≠ .started) (other : SessionId)
    (started : (s.go sessionId visit).visit other = .started) : s.visit other = .started := by
  rw [visit_go] at started
  split at started
  · exact absurd started still
  · exact started

theorem start_steps (consistent : s.Consistent) {opens : Bool}
    (taken : s.act (.start sessionId opens) = some s') : s.Steps (.start sessionId opens) s' := by
  simp only [act] at taken
  split at taken
  · cases active : s.track.isActive with
    | true =>
      have same : s.track.start opens = .returned s.track := by
        rw [MediaTrack.start, if_pos active]
      rw [same] at taken
      simp only [active, if_true] at taken
      obtain rfl := Option.some.inj taken
      have consistent' : (s.go sessionId .started).Consistent := ⟨consistent.active, consistent.running⟩
      refine ⟨consistent', fun _ => (served_iff consistent').trans ⟨fun all _ reading => ?_, ?_⟩⟩
      · exact all reading sessionId (by rw [visit_go, if_pos rfl])
      · exact fun apart reading _ _ => apart active reading
    | false =>
      have free : s.Apart (.start sessionId opens) := fun on => absurd (active.symm.trans on) nofun
      cases outcome : s.track.start opens with
      | terminated =>
        rw [outcome] at taken
        contradiction
      | returned track =>
        rw [outcome] at taken
        simp only [active, Bool.false_eq_true, if_false] at taken
        obtain rfl := Option.some.inj taken
        obtain ⟨on, runs, new | ⟨⟨e, threw⟩, _⟩⟩ :=
          MediaTrack.start_inactive active (congrArg Outcome.session outcome)
        · have consistent' : ({ s with track, atEnd := false }.go sessionId .started).Consistent :=
            ⟨fun _ => on, fun _ => runs⟩
          refine ⟨consistent', fun _ => iff_of_true ?_ free⟩
          exact (served_iff consistent').mpr fun _ _ _ => new.2
        · rw [outcome] at threw
          contradiction
      | thrown e track =>
        rw [outcome] at taken
        obtain rfl := Option.some.inj taken
        obtain ⟨on, runs, ⟨returned, _⟩ | ⟨_, same⟩⟩ :=
          MediaTrack.start_inactive active (congrArg Outcome.session outcome)
        · rw [outcome] at returned
          contradiction
        · have consistent' : Consistent { s with track } := ⟨fun _ => on, fun _ => runs⟩
          refine ⟨consistent', fun served => iff_of_true ?_ free⟩
          refine (served_iff consistent').mpr fun reading other started => ?_
          exact same.trans (served other started reading).1.1
  · contradiction

theorem stop_steps (taken : s.act (.stop sessionId) = some s') :
    s.Steps (.stop sessionId) s' := by
  simp only [act] at taken
  split at taken
  · rename_i stopping
    obtain rfl := Option.some.inj taken
    have consistent' : ({ s with track := { s.track.stop with fileOpen := false } }.go sessionId
        .out).Consistent := ⟨nofun, fun live => nomatch live.1⟩
    refine ⟨consistent', fun _ => (served_iff consistent').trans ⟨fun all reading other started => ?_, ?_⟩⟩
    · have apart : other ≠ sessionId := by
        rintro rfl
        rw [stopping] at started
        contradiction
      exact nomatch all reading other (by rw [visit_go, if_neg apart]; exact started)
    · intro none reading other started
      have before := not_started_go (by nofun) other started
      exact absurd before (none reading other)
  · contradiction

theorem act_steps (consistent : s.Consistent) (taken : s.act label = some s') : s.Steps label s' := by
  cases label with
  | start sessionId opens => exact start_steps consistent taken
  | stop sessionId => exact stop_steps taken
  | registerSession sessionId =>
    simp only [act] at taken
    split at taken
    · obtain rfl := Option.some.inj taken
      exact steps_quiet consistent trivial rfl rfl (fun reading => ⟨reading, rfl⟩) (not_started_go nofun)
    · contradiction
  | unregisterConsumer sessionId =>
    simp only [act] at taken
    split at taken
    · obtain rfl := Option.some.inj taken
      exact steps_quiet consistent trivial rfl rfl (fun reading => ⟨reading, rfl⟩) (not_started_go nofun)
    · contradiction
  | noConsumer sessionId =>
    simp only [act] at taken
    split at taken
    · obtain rfl := Option.some.inj taken
      refine steps_quiet consistent trivial rfl rfl (fun reading => ⟨reading, rfl⟩) (not_started_go ?_)
      split
      · nofun
      · nofun
    · contradiction
  | produce frame =>
    simp only [act] at taken
    split at taken
    · obtain ⟨frameQueue, produced, rfl⟩ := Option.map_eq_some_iff.mp taken
      exact steps_quiet consistent trivial rfl rfl
        (fun reading => ⟨reading, CircularQueue.exit_produce produced⟩) fun _ => id
    · contradiction
  | consume sessionId =>
    simp only [act] at taken
    split at taken
    · obtain ⟨⟨frame, frameQueue⟩, consumed, rfl⟩ := Option.map_eq_some_iff.mp taken
      exact steps_quiet consistent trivial rfl rfl
        (fun reading => ⟨reading, CircularQueue.exit_consume consumed⟩) fun _ => id
    · contradiction
  | endOfFile =>
    simp only [act] at taken
    split at taken
    · obtain rfl := Option.some.inj taken
      exact steps_quiet consistent trivial rfl rfl nofun fun _ => id
    · contradiction

theorem start_served (mediaType : MediaType) (trackName : TrackName) (url : String) :
    (start mediaType trackName url).Consistent ∧ (start mediaType trackName url).Served :=
  ⟨⟨nofun, fun live => nomatch live.1⟩, nofun⟩

/-- In a run in which no session stops the track under one that has started it, every
session that has started it finds the producer at work, and these are the only such
runs. -/
theorem served_iff_apart (mediaType : MediaType) (trackName : TrackName) (url : String)
    (trace : List Label) :
    (∀ s, Run (Guarded Apart (Takes act)) (start mediaType trackName url) trace s → s.Served) ∧
    ∀ s, Run (fun s label s' => act s label = some s' ∧ s'.Served)
        (start mediaType trackName url) trace s →
      Run (Guarded Apart (Takes act)) (start mediaType trackName url) trace s := by
  obtain ⟨consistent, served⟩ := start_served mediaType trackName url
  refine Run.guarded_iff consistent served (fun consistent served taken => ?_) trace
  obtain ⟨consistent', exactly⟩ := act_steps consistent taken
  exact ⟨exactly served, fun _ => consistent'⟩

/-- No `start` falls between the test of a session that finds no consumer and its
stop, and none finds a file that it cannot open. -/
def Undisturbed (s : Audience) : Label → Prop
  | .start _ opens => (∀ viewer, s.visit viewer ≠ .stopping) ∧
      (s.track.isActive = true ∨ s.track.fileOpen = true ∨ opens = true)
  | _ => True

def Joined (s : Audience) (sessionId : SessionId) : Prop :=
  s.visit sessionId = .registered ∨ s.visit sessionId = .started

/-- What holds in undisturbed runs: a session that has joined is a consumer, none has
started the track while another is about to stop it, and an active track has its
thread. -/
structure Orderly (s : Audience) : Prop where
  consumer : ∀ viewer, s.Joined viewer → s.track.HasConsumer viewer
  stopping : ∀ viewer, s.visit viewer = .stopping → ∀ other, s.visit other ≠ .started
  thread : s.track.isActive = true → s.track.produceThread = true

theorem apart_of_orderly (orderly : s.Orderly) (taken : s.act label = some s') : s.Apart label := by
  cases label with
  | start => exact fun active _ => orderly.thread active
  | stop sessionId =>
    simp only [act] at taken
    split at taken
    · rename_i stopping
      exact fun _ => orderly.stopping sessionId stopping
    · contradiction
  | registerSession | unregisterConsumer | noConsumer | produce | consume | endOfFile => trivial

theorem orderly_go (orderly : s.Orderly) {visit : Visit} {track : MediaTrack}
    (still : visit ≠ .started) (consumer : visit = .registered → track.HasConsumer sessionId)
    (consumers : ∀ viewer ≠ sessionId, s.track.HasConsumer viewer → track.HasConsumer viewer)
    (alone : visit = .stopping → ∀ viewer, s.visit viewer ≠ .started)
    (thread : track.isActive = true → track.produceThread = true) :
    ({ s with track }.go sessionId visit).Orderly := by
  refine ⟨fun viewer joined => ?_, fun viewer stops other started => ?_, thread⟩
  · unfold Joined at joined
    rw [visit_go] at joined
    split at joined
    · subst viewer
      exact consumer (joined.resolve_right still)
    · exact consumers viewer ‹_› (orderly.consumer viewer joined)
  · have started : s.visit other = .started := not_started_go still other started
    rw [visit_go] at stops
    split at stops
    · exact alone stops other started
    · exact orderly.stopping viewer stops other started

theorem orderly_start (orderly : s.Orderly) {opens : Bool} (undisturbed : s.Undisturbed (.start sessionId opens))
    (taken : s.act (.start sessionId opens) = some s') : s'.Orderly := by
  obtain ⟨none, openable⟩ := undisturbed
  simp only [act] at taken
  split at taken
  · rename_i joined
    have started {track : MediaTrack} {atEnd : Bool}
        (left : (s.track.start opens).session = some track)
        (thread : track.isActive = true → track.produceThread = true) :
        ({ s with track, atEnd }.go sessionId .started).Orderly := by
      refine ⟨fun viewer joins => ?_, fun viewer stops => ?_, thread⟩
      · refine (MediaTrack.hasConsumer_start left).mpr (orderly.consumer viewer ?_)
        unfold Joined at joins
        rw [visit_go] at joins
        split at joins
        · subst viewer
          exact joined
        · exact joins
      · rw [visit_go] at stops
        split at stops
        · contradiction
        · exact absurd stops (none viewer)
    split at taken
    · rename_i track outcome
      obtain rfl := Option.some.inj taken
      have left := congrArg Outcome.session outcome
      refine started left fun active => ?_
      cases before : s.track.isActive with
      | true =>
        rw [MediaTrack.start, if_pos before] at outcome
        obtain rfl := Outcome.returned.inj outcome
        exact orderly.thread active
      | false =>
        obtain ⟨_, _, ⟨_, new⟩ | ⟨⟨e, threw⟩, _⟩⟩ := MediaTrack.start_inactive before left
        · exact new
        · rw [outcome] at threw
          contradiction
    · rename_i e track outcome
      unfold MediaTrack.start at outcome
      split at outcome
      · contradiction
      · rename_i inactive
        dsimp only at outcome
        split at outcome
        · rename_i closed
          rcases openable with active | opened | opens
          · exact absurd active inactive
          · simp [opened] at closed
          · simp [opens] at closed
        · split at outcome
          · contradiction
          · contradiction
    · contradiction
  · contradiction

theorem orderly_act (orderly : s.Orderly) (undisturbed : s.Undisturbed label)
    (taken : s.act label = some s') : s'.Orderly := by
  cases label with
  | start sessionId opens => exact orderly_start orderly undisturbed taken
  | registerSession sessionId =>
    simp only [act] at taken
    split at taken
    · obtain rfl := Option.some.inj taken
      refine orderly_go orderly nofun (fun _ => ?_) (fun viewer _ has => ?_) nofun orderly.thread
      · exact MediaTrack.hasConsumer_registerSession.mpr (.inl rfl)
      · exact MediaTrack.hasConsumer_registerSession.mpr (.inr has)
    · contradiction
  | unregisterConsumer sessionId =>
    simp only [act] at taken
    split at taken
    · obtain rfl := Option.some.inj taken
      exact orderly_go orderly nofun nofun (fun viewer apart has => AList.mem_erase.mpr ⟨apart, has⟩) nofun
        orderly.thread
    · contradiction
  | noConsumer sessionId =>
    simp only [act] at taken
    split at taken
    · obtain rfl := Option.some.inj taken
      refine orderly_go orderly ?_ ?_ (fun _ _ has => has) (fun stops viewer started => ?_) orderly.thread
      · split <;> nofun
      · split <;> nofun
      · split at stops
        · rename_i empty
          exact CircularQueue.notMem_of_noConsumer empty (orderly.consumer viewer (.inr started))
        · contradiction
    · contradiction
  | stop sessionId =>
    simp only [act] at taken
    split at taken
    · obtain rfl := Option.some.inj taken
      exact orderly_go orderly nofun nofun (fun _ _ has => has) nofun nofun
    · contradiction
  | produce frame =>
    simp only [act] at taken
    split at taken
    · obtain ⟨frameQueue, produced, rfl⟩ := Option.map_eq_some_iff.mp taken
      obtain ⟨_, rfl⟩ := CircularQueue.produce_cases produced
      exact ⟨orderly.consumer, orderly.stopping, orderly.thread⟩
    · contradiction
  | consume sessionId =>
    simp only [act] at taken
    split at taken
    · rename_i started
      obtain ⟨⟨frame, frameQueue⟩, consumed, rfl⟩ := Option.map_eq_some_iff.mp taken
      have has := orderly.consumer sessionId (.inr started)
      exact ⟨fun viewer joined => (CircularQueue.mem_consume has consumed).mpr (orderly.consumer viewer joined),
        orderly.stopping, orderly.thread⟩
    · contradiction
  | endOfFile =>
    simp only [act] at taken
    split at taken
    · obtain rfl := Option.some.inj taken
      exact ⟨orderly.consumer, orderly.stopping, orderly.thread⟩
    · contradiction

theorem apart_of_undisturbed {mediaType : MediaType} {trackName : TrackName} {url : String}
    {trace : List Label}
    (run : Run (Guarded Undisturbed (Takes act)) (start mediaType trackName url) trace s) :
    Run (Guarded Apart (Takes act)) (start mediaType trackName url) trace s := by
  refine (run.history (P := fun trace s =>
    Run (Guarded Apart (Takes act)) (start mediaType trackName url) trace s ∧ s.Orderly)
    ⟨.start, ⟨fun _ => nofun, nofun, nofun⟩⟩ ?_).1
  rintro trace s label s' ⟨run, orderly⟩ ⟨undisturbed, taken⟩
  exact ⟨.snoc run ⟨apart_of_orderly orderly taken, taken⟩, orderly_act orderly undisturbed taken⟩

/-- The last session tests for consumers before another registers, and stops the
track after that one has started it. -/
theorem leaving_stops_joining : ¬ ∀ (trace : List Label) (s : Audience),
    Run (Takes act) (start .h264 "v".toList "a.264") trace s → s.Served := by
  intro claim
  obtain ⟨trace, outcome⟩ : ∃ trace : List Label,
      (trace.foldlM act (start .h264 "v".toList "a.264")).map (fun s =>
        (s.visit "b".toList, s.atEnd, s.track.frameQueue.exit)) = some (.started, false, true) :=
    ⟨[.registerSession "a".toList, .start "a".toList true, .unregisterConsumer "a".toList,
      .noConsumer "a".toList, .registerSession "b".toList, .start "b".toList true, .stop "a".toList],
      by decide +kernel⟩
  obtain ⟨s, done, same⟩ := Option.map_eq_some_iff.mp outcome
  obtain ⟨started, rest⟩ := Prod.mk.inj same
  obtain ⟨reading, exited⟩ := Prod.mk.inj rest
  obtain ⟨_, runs⟩ := claim trace s (.of_foldlM done) _ started reading
  rw [exited] at runs
  contradiction

end Audience
end TinyRtsp
