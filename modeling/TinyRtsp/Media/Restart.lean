import TinyRtsp.Media.Lifecycle

/-! What a `start` of a track leaves behind. It decides from `is_active_` alone, which
neither the end of the file nor a file that could not be opened resets. -/
namespace TinyRtsp.Lifecycle
open Transition
variable {s t : Lifecycle} {label : Label}

/-- A `start` that returns leaves a producer in its loop and the queue's flag cleared,
and one that throws leaves both flags as they were. -/
def StartLaw (s : Lifecycle) (label : Label) (t : Lifecycle) : Prop :=
  match label with
  | .start opens =>
    match s.track.start opens with
    | .returned _ => t.Producing ∧ t.track.frameQueue.exit = false
    | .thrown .. => t.track.isActive = s.track.isActive ∧
        t.track.frameQueue.exit = s.track.frameQueue.exit
    | .terminated => True
  | _ => True

/-- An active track has a producer in its loop when it is started again, and an
inactive one has its file open or can open it. -/
def Restartable (s : Lifecycle) : Label → Prop
  | .start opens =>
    if s.track.isActive then s.Producing else s.track.fileOpen = true ∨ opens = true
  | _ => True

theorem Producing.runs (producing : s.Producing) : ∃ k, s.Runs k := by
  obtain ⟨thread, member, loops⟩ := producing
  obtain ⟨k, found⟩ := List.mem_iff_getElem?.mp member
  exact ⟨k, thread, found, loops.ne_ended⟩

theorem start_active (active : s.track.isActive = true) {opens : Bool}
    (taken : s.act (.start opens) = some t) : t = s ∧ s.track.start opens = .returned s.track := by
  have same : s.track.start opens = .returned s.track := by rw [MediaTrack.start, if_pos active]
  simp only [act, same, active, if_true] at taken
  split at taken
  · exact ⟨(Option.some.inj taken).symm, same⟩
  · contradiction

theorem startLaw_iff (sole : s.Sole) {opens : Bool} (taken : s.act (.start opens) = some t) :
    s.StartLaw (.start opens) t ↔ s.Restartable (.start opens) := by
  unfold StartLaw Restartable
  cases active : s.track.isActive with
  | true =>
    obtain ⟨rfl, same⟩ := start_active active taken
    simp only [same, if_true]
    constructor
    · exact And.left
    · intro producing
      obtain ⟨k, runs⟩ := producing.runs
      exact ⟨producing, sole.running active k runs⟩
  | false =>
    simp only [act] at taken
    split at taken
    · simp only [Bool.false_eq_true, if_false]
      cases outcome : s.track.start opens with
      | returned track =>
        simp only [outcome, active, Bool.false_eq_true, if_false] at taken
        obtain rfl := Option.some.inj taken
        obtain ⟨_, runs, _⟩ := MediaTrack.start_inactive active (congrArg Outcome.session outcome)
        have producing : Producing { s with track, threads := s.threads ++ [.testing] } :=
          ⟨.testing, by simp, trivial⟩
        exact iff_of_true ⟨producing, runs⟩ (MediaTrack.start_opened active outcome)
      | thrown e track =>
        simp only [outcome] at taken
        obtain rfl := Option.some.inj taken
        obtain ⟨on, _⟩ := MediaTrack.start_inactive active (congrArg Outcome.session outcome)
        obtain ⟨_, closed, fails⟩ := MediaTrack.start_thrown outcome
        refine iff_of_false (fun law => ?_) (by simp [closed, fails])
        have off : track.isActive = false := law.1
        rw [on] at off
        contradiction
      | terminated =>
        have held := (MediaTrack.start_terminated outcome).2
        have free : ¬ s.call.Stops := by
          rename_i idle
          rw [idle]
          exact Call.not_stops_idle
        rw [(sole.quiet free active).1] at held
        contradiction
    · contradiction

/-- The runs in which every `start` keeps its promise are those in which no `start`
finds an active track without a producer or a file it cannot open. -/
theorem starts_lawful_iff_restartable (mediaType : MediaType) (trackName : TrackName) (url : String)
    (trace : List Label) (s : Lifecycle) :
    Run (fun s label t => Takes act s label t ∧ s.StartLaw label t)
        (init mediaType trackName url) trace s ↔
      Run (Guarded Restartable (Takes act)) (init mediaType trackName url) trace s := by
  refine Run.guarded_step_iff (sole_init mediaType trackName url) (fun sole taken => sole.act taken)
    fun {s label t} sole taken => ?_
  cases label with
  | start opens => exact startLaw_iff sole taken
  | _ => exact Iff.rfl

/-- A viewer who starts the track that another has read to its end gets no producer,
and a file that has gone leaves the track active. -/
theorem restart_without_producer :
    (∃ trace s, Run (Takes act) (init .h264 "v".toList "a.264") trace s ∧
      s.act (.start true) = some s ∧ s.track.start true = .returned s.track ∧
      s.threads = [.ended] ∧ s.track.frameQueue.exit = true) ∧
    ∃ trace s t e track, Run (Takes act) (init .h264 "v".toList "a.264") trace s ∧
      s.act (.start false) = some t ∧ s.track.start false = .thrown e track ∧
      s.track.isActive = false ∧ t.track.isActive = true ∧
      s.track.frameQueue.exit = true ∧ t.track.frameQueue.exit = false := by
  constructor
  · obtain ⟨trace, outcome⟩ : ∃ trace : List Label,
        (trace.foldlM act (init .h264 "v".toList "a.264")).map (fun s =>
          (s.threads, s.track.frameQueue.exit, s.track.isActive, s.call)) =
            some ([.ended], true, true, .idle) :=
      ⟨[.registerSession "a".toList, .start true, .producer 0 none, .producer 0 none,
        .producer 0 none, .registerSession "b".toList], by decide +kernel⟩
    obtain ⟨s, done, same⟩ := Option.map_eq_some_iff.mp outcome
    simp only [Prod.mk.injEq] at same
    obtain ⟨threads, exited, active, idle⟩ := same
    have starts : s.track.start true = .returned s.track := by rw [MediaTrack.start, if_pos active]
    refine ⟨trace, s, .of_foldlM done, ?_, starts, threads, exited⟩
    rw [act, if_pos idle, starts]
    simp only [active, if_true]
  · obtain ⟨trace, outcome⟩ : ∃ trace : List Label,
        (trace.foldlM act (init .h264 "v".toList "a.264")).map (fun s =>
          (s.track.isActive, s.track.fileOpen, s.track.frameQueue.exit, s.call)) =
            some (false, false, true, .idle) :=
      ⟨[.registerSession "a".toList, .start true, .unregisterSession "a".toList, .noConsumer, .stop,
        .setExit, .producer 0 none, .producer 0 none, .join], by decide +kernel⟩
    obtain ⟨s, done, same⟩ := Option.map_eq_some_iff.mp outcome
    simp only [Prod.mk.injEq] at same
    obtain ⟨inactive, closed, exited, idle⟩ := same
    have threw : s.track.start false = .thrown (s.track.mediaType.openError s.track.url)
        { s.track with isActive := true, frameQueue := s.track.frameQueue.setRun } := by
      simp [MediaTrack.start, inactive, closed, exited, CircularQueue.isExit]
    have taken : s.act (.start false) = some { s with
        track := { s.track with isActive := true, frameQueue := s.track.frameQueue.setRun } } := by
      rw [act, if_pos idle, threw]
    exact ⟨trace, s, _, _, _, .of_foldlM done, taken, threw, inactive, rfl, exited, rfl⟩

end TinyRtsp.Lifecycle
