import TinyRtsp.Session.Threads

/-! The RTCP threads of the handlers of one session. `start` of a session starts
them and then calls `stop` of the handler it has just started, which is what
joins them. -/
namespace TinyRtsp

/-- The part of an `RtpRtcpHandler` that its `start` and `stop` use: the flag of both
loops, and whether each pointer holds a thread that has not been joined. -/
structure RtcpThreads where
  isRunning : Bool
  rtcpSendThread : Bool
  rtcpReceiveThread : Bool
  deriving DecidableEq

namespace RtcpThreads

def new : RtcpThreads := ⟨true, false, false⟩

/-- `reset` destroys the thread a pointer holds, and does not set the flag. -/
def start (r : RtcpThreads) : Outcome RtcpThreads :=
  if r.rtcpSendThread || r.rtcpReceiveThread then .terminated
  else .returned { r with rtcpSendThread := true, rtcpReceiveThread := true }

/-- Returns when the threads there are have been joined. -/
def stop (_ : RtcpThreads) : RtcpThreads := ⟨false, false, false⟩

def Joined (r : RtcpThreads) : Prop := r.rtcpSendThread = false ∧ r.rtcpReceiveThread = false

/-- The loops go on and both threads have been started and not joined. -/
def Running (r : RtcpThreads) : Prop :=
  r.isRunning = true ∧ r.rtcpSendThread = true ∧ r.rtcpReceiveThread = true

theorem joined_new : new.Joined := ⟨rfl, rfl⟩

theorem joined_stop (r : RtcpThreads) : r.stop.Joined := ⟨rfl, rfl⟩

theorem Joined.start {r : RtcpThreads} (joined : r.Joined) :
    r.start = .returned ⟨r.isRunning, true, true⟩ := by
  rw [RtcpThreads.start, joined.1, joined.2]
  rfl

theorem Joined.not_running {r : RtcpThreads} (joined : r.Joined) : ¬ r.Running := by
  rintro ⟨_, sends, _⟩
  rw [joined.1] at sends
  contradiction

end RtcpThreads

namespace Session
variable {Track : Type}

/-- `start` with the calls on the handlers: the threads are started before the
sender and stopped behind it. -/
def startRtcp {T : Type} (startTrack : TrackName → Track → T → Outcome T) :
    List TrackName → T → Session Track RtcpThreads → Outcome (T × Session Track RtcpThreads)
  | [], tracks, s => .returned (tracks, s)
  | name :: rest, tracks, s =>
    match s.handler name with
    | none => startRtcp startTrack rest tracks s
    | some h =>
      if h.isActive then startRtcp startTrack rest tracks s
      else match startTrack name h.mediaTrack tracks with
        | .thrown e tracks => .thrown e (tracks, s.set name { h with isActive := true })
        | .terminated => .terminated
        | .returned tracks =>
          match h.rtpRtcpHandler.start with
          | .thrown e rtp =>
            .thrown e (tracks, s.set name { h with isActive := true, rtpRtcpHandler := rtp })
          | .terminated => .terminated
          | .returned rtp =>
            if h.senderThread.isSome then .terminated
            else startRtcp startTrack rest tracks
              (s.set name ⟨true, some .running, h.mediaTrack, rtp.stop⟩)

def takeRtcp (s : Session Track RtcpThreads) :
    Call Track Unit → Outcome (Session Track RtcpThreads)
  | .addMediaTrack name mediaTrack rtp => s.addMediaTrack name mediaTrack (rtp.map fun _ => .new)
  | .start visited failing =>
    (startRtcp (startTrack failing) (visited ++ (failing.map Prod.fst).toList) () s).map Prod.snd
  | .pause => .returned s.pause
  | .stop => .returned s.stop
  | .senderEnds name => .returned (s.senderEnds name)

def withoutRtcp (s : Session Track RtcpThreads) : Session Track Unit :=
  ⟨s.sessionHandlers.mapValues fun _ h => { h with rtpRtcpHandler := () }⟩

def RtcpStep (p : Option (Session Track RtcpThreads)) (call : Call Track Unit)
    (q : Option (Session Track RtcpThreads)) : Prop :=
  ∃ s, p = some s ∧ Possible s.withoutRtcp call ∧ q = (s.takeRtcp call).session

/-- Every active handler has its RTCP threads running. -/
def RtcpRuns (s : Session Track RtcpThreads) : Prop :=
  ∀ name h, s.handler name = some h → h.isActive = true → h.rtpRtcpHandler.Running

def RtcpJoined (s : Session Track RtcpThreads) : Prop :=
  ∀ name h, s.handler name = some h → h.rtpRtcpHandler.Joined

section Lemmas
variable {s t : Session Track RtcpThreads} {name : TrackName}

@[simp] theorem handler_withoutRtcp (s : Session Track RtcpThreads) (name : TrackName) :
    s.withoutRtcp.handler name =
      (s.handler name).map fun h => { h with rtpRtcpHandler := () } :=
  Table.lookup_mapValues ..

theorem withoutRtcp_set (s : Session Track RtcpThreads) (name : TrackName)
    (h : SessionHandler Track RtcpThreads) :
    (s.set name h).withoutRtcp = s.withoutRtcp.set name { h with rtpRtcpHandler := () } :=
  congrArg Session.mk (Table.mapValues_insert ..)

theorem withoutRtcp_pause (s : Session Track RtcpThreads) :
    s.pause.withoutRtcp = s.withoutRtcp.pause := by
  simp only [withoutRtcp, pause, Table.mapValues_mapValues]

theorem withoutRtcp_stop (s : Session Track RtcpThreads) :
    s.stop.withoutRtcp = s.withoutRtcp.stop := by
  simp only [withoutRtcp, stop, Table.mapValues_mapValues]

theorem withoutRtcp_senderEnds (s : Session Track RtcpThreads) (name : TrackName) :
    (s.senderEnds name).withoutRtcp = s.withoutRtcp.senderEnds name := by
  rw [senderEnds, senderEnds, handler_withoutRtcp]
  cases s.handler name with
  | none => rfl
  | some h => exact withoutRtcp_set ..

theorem RtcpJoined.set (joined : s.RtcpJoined) {h : SessionHandler Track RtcpThreads}
    (threads : h.rtpRtcpHandler.Joined) : (s.set name h).RtcpJoined := by
  intro other g found
  rw [handler_set] at found
  split at found
  · obtain rfl := Option.some.inj found
    exact threads
  · exact joined other g found

theorem RtcpJoined.of_same (joined : s.RtcpJoined)
    (same : ∀ name, (t.handler name).map SessionHandler.fixed =
      (s.handler name).map SessionHandler.fixed) : t.RtcpJoined := by
  intro name h found
  have kept := same name
  rw [found, Option.map_some] at kept
  obtain ⟨g, before, fixed⟩ := Option.map_eq_some_iff.mp kept.symm
  rw [← (Prod.mk.inj fixed).2]
  exact joined name g before

/-- `start` with its RTCP threads is `start` without them: what a handler starts it
has joined before `start` goes on to the next. -/
theorem startRtcp_spec {T : Type} (startTrack : TrackName → Track → T → Outcome T)
    (names : List TrackName) (tracks : T) (s : Session Track RtcpThreads) (joined : s.RtcpJoined) :
    (startRtcp startTrack names tracks s).map (Prod.map id withoutRtcp) =
        start startTrack names tracks s.withoutRtcp ∧
      ∀ next t, (startRtcp startTrack names tracks s).session = some (next, t) → t.RtcpJoined := by
  induction names generalizing tracks s with
  | nil =>
    refine ⟨rfl, fun next t ends => ?_⟩
    obtain ⟨_, rfl⟩ := Prod.mk.inj (Option.some.inj ends)
    exact joined
  | cons name rest ih =>
    rw [startRtcp, start, handler_withoutRtcp]
    cases found : s.handler name with
    | none => exact ih tracks s joined
    | some h =>
      have threads := joined name h found
      have started {g : SessionHandler Track RtcpThreads} (kept : g.rtpRtcpHandler.Joined) :
          (s.set name g).RtcpJoined := joined.set kept
      dsimp only [Option.map_some]
      split
      · exact ih tracks s joined
      · cases startTrack name h.mediaTrack tracks with
        | thrown e tracks =>
          refine ⟨?_, fun next t ends => ?_⟩
          · simp only [Outcome.map, Prod.map_apply, id_eq, withoutRtcp_set]
          · obtain ⟨_, rfl⟩ := Prod.mk.inj (Option.some.inj ends)
            exact started threads
        | terminated =>
          refine ⟨rfl, fun next t ends => ?_⟩
          contradiction
        | returned tracks =>
          rw [threads.start]
          dsimp only
          split
          · refine ⟨rfl, fun next t ends => ?_⟩
            contradiction
          · have rest := ih tracks _ (started (g := ⟨true, some .running, h.mediaTrack, _⟩)
              (RtcpThreads.joined_stop ⟨h.rtpRtcpHandler.isRunning, true, true⟩))
            rw [withoutRtcp_set] at rest
            exact rest

theorem takeRtcp_spec (call : Call Track Unit) (joined : s.RtcpJoined) :
    (s.takeRtcp call).map withoutRtcp = s.withoutRtcp.take call ∧
      ∀ t, (s.takeRtcp call).session = some t → t.RtcpJoined := by
  cases call with
  | addMediaTrack name mediaTrack rtp =>
    cases rtp with
    | error e =>
      refine ⟨rfl, fun t left => ?_⟩
      obtain rfl := Option.some.inj left
      exact joined
    | ok rtp =>
      have same : (s.withoutRtcp.handler name).any (·.senderThread.isSome) =
          (s.handler name).any (·.senderThread.isSome) := by
        rw [handler_withoutRtcp]
        cases s.handler name <;> rfl
      simp only [takeRtcp, take, addMediaTrack, Except.map, same]
      split
      · refine ⟨rfl, fun t left => ?_⟩
        contradiction
      · refine ⟨congrArg Outcome.returned (withoutRtcp_set ..), fun t left => ?_⟩
        obtain rfl := Option.some.inj left
        exact joined.set RtcpThreads.joined_new
  | start visited failing =>
    obtain ⟨same, keeps⟩ := startRtcp_spec (startTrack failing)
      (visited ++ (failing.map Prod.fst).toList) () s joined
    rw [takeRtcp, take, ← same, Outcome.session_map]
    constructor
    · cases startRtcp (startTrack failing) (visited ++ (failing.map Prod.fst).toList) () s <;> rfl
    · intro t left
      obtain ⟨⟨_, t⟩, ends, rfl⟩ := Option.map_eq_some_iff.mp left
      exact keeps _ t ends
  | pause =>
    refine ⟨congrArg Outcome.returned (withoutRtcp_pause s), fun t left => ?_⟩
    obtain rfl := Option.some.inj left
    refine joined.of_same fun name => ?_
    rw [handler_pause]
    cases s.handler name <;> rfl
  | stop =>
    refine ⟨congrArg Outcome.returned (withoutRtcp_stop s), fun t left => ?_⟩
    obtain rfl := Option.some.inj left
    refine joined.of_same fun name => ?_
    rw [handler_stop]
    cases s.handler name <;> rfl
  | senderEnds name =>
    refine ⟨congrArg Outcome.returned (withoutRtcp_senderEnds s name), fun t left => ?_⟩
    obtain rfl := Option.some.inj left
    exact joined.of_same fun other => senderEnds_keeps s name other

theorem active_of_started {Rtp : Type} {h : SessionHandler Track Rtp}
    {after : Option (SessionHandler Track Rtp)} (now : shown after = (shown (some h)).started) :
    ∃ g, after = some g ∧ g.isActive = true := by
  obtain ⟨_ | _, _ | _, _, _⟩ := h <;> rcases after with _ | ⟨_ | _, _ | _, _, _⟩ <;>
    simp [shown, Usage.started] at now ⊢

end Lemmas

section Runs
open Transition
variable {s t : Session Track RtcpThreads} {trace : List (Call Track Unit)}

/-- A run is one of the calls without RTCP threads, with all of them joined between
the calls. -/
theorem rtcp_refines {p : Option (Session Track RtcpThreads)}
    (run : Run RtcpStep (some new) trace p) :
    ∃ q, Run Step (some new) trace q ∧ q = p.map withoutRtcp ∧ ∀ s, p = some s → s.RtcpJoined := by
  refine run.simulation (R := fun p q => q = p.map withoutRtcp ∧ ∀ s, p = some s → s.RtcpJoined)
    ⟨rfl, ?_⟩ ?_
  · intro s same name h found
    rw [← Option.some.inj same, handler_new] at found
    contradiction
  · rintro _ call _ q ⟨rfl, joined⟩ ⟨s, rfl, possible, rfl⟩
    obtain ⟨same, keeps⟩ := takeRtcp_spec call (joined s rfl)
    refine ⟨_, ⟨s.withoutRtcp, rfl, possible, rfl⟩, ?_, keeps⟩
    rw [← same, Outcome.session_map]

/-- After a `start` that returns every track is active and has no RTCP thread, so the
RTCP threads of all active tracks run only where there is no track at all. -/
theorem rtcp_runs_iff_no_track {visited : List TrackName} {failing : Option (TrackName × Exception)}
    (run : Run RtcpStep (some new) trace (some s))
    (possible : Possible s.withoutRtcp (.start visited failing))
    (returned : s.takeRtcp (.start visited failing) = .returned t) :
    t.RtcpRuns ↔ ∀ name, s.handler name = none := by
  obtain ⟨_, _, _, joined⟩ := rtcp_refines run
  obtain ⟨same, keeps⟩ := takeRtcp_spec (.start visited failing) (joined s rfl)
  rw [returned] at same keeps
  obtain rfl := none_failing possible same.symm
  have started : ∀ name, shown (t.withoutRtcp.handler name) =
      Usage.next name (shown (s.withoutRtcp.handler name)) (.start visited none : Call Track Unit) := by
    rcases start_taken possible with ⟨_, dies⟩ | ⟨_, u, lives, after⟩
    · rw [← same] at dies
      contradiction
    · rw [← same] at lives
      obtain rfl := Option.some.inj lives
      exact after
  constructor
  · intro runs name
    cases found : s.handler name with
    | none => rfl
    | some h =>
      have here : s.withoutRtcp.handler name = some { h with rtpRtcpHandler := () } := by
        rw [handler_withoutRtcp, found]
        rfl
      have member : name ∈ visited := by
        rw [possible.mem_iff, ← AList.mem_keys, ← AList.lookup_isSome]
        exact Option.isSome_of_mem here
      have now := started name
      rw [here, Usage.next, if_pos member] at now
      obtain ⟨_, shows, active⟩ := active_of_started now
      rw [handler_withoutRtcp] at shows
      obtain ⟨g, left, rfl⟩ := Option.map_eq_some_iff.mp shows
      exact absurd (runs name g left active) (keeps t rfl name g left).not_running
  · intro empty name g left
    have now := started name
    rw [handler_withoutRtcp, handler_withoutRtcp, empty, left, Usage.next] at now
    have absent : shown ((some g).map fun g => { g with rtpRtcpHandler := () }) = .absent := by
      rw [now]
      split <;> rfl
    obtain ⟨_ | _, _ | _, _, _⟩ := g <;> contradiction

theorem run_takeRtcp {init : Option (Session Track RtcpThreads)} {call : Call Track Unit}
    (run : Run RtcpStep init trace (some s)) (possible : Possible s.withoutRtcp call) :
    Run RtcpStep init (trace ++ [call]) (s.takeRtcp call).session :=
  .snoc run ⟨s, rfl, possible, rfl⟩

def singleRtcp (isActive : Bool) (senderThread : Option SenderThread) (rtcp : RtcpThreads) :
    Session Unit RtcpThreads :=
  new.set ['v'] ⟨isActive, senderThread, (), rtcp⟩

theorem run_added : Run RtcpStep (some new) [.addMediaTrack ['v'] () (.ok ())]
    (some (singleRtcp false none .new)) :=
  run_takeRtcp .start trivial

/-- With one track. -/
theorem rtcp_runs_iff_no_track_one : ∃ s t : Session Unit RtcpThreads,
    s.takeRtcp (.start [['v']] none) = .returned t ∧
      (t.RtcpRuns ↔ ∀ name, s.handler name = none) :=
  ⟨_, _, rfl, @rtcp_runs_iff_no_track Unit _ _ _ [['v']] none run_added (List.Perm.refl [['v']]) rfl⟩

/-- PLAY of one track returns with the handler active, its flag false and no RTCP
thread, and so does the PLAY after a TEARDOWN. -/
theorem play_leaves_rtcp_stopped : ∃ s t : Session Unit RtcpThreads,
    Run RtcpStep (some new) [.addMediaTrack ['v'] () (.ok ())] (some s) ∧
    s.takeRtcp (.start [['v']] none) = .returned t ∧
    t.handler ['v'] = some ⟨true, some .running, (), ⟨false, false, false⟩⟩ ∧ ¬ t.RtcpRuns ∧
    Run RtcpStep (some new) [.addMediaTrack ['v'] () (.ok ()), .start [['v']] none, .pause, .stop,
      .start [['v']] none] (some t) := by
  have played : Run RtcpStep (some new) (_ ++ [.start [['v']] none])
      (some (singleRtcp true (some .running) ⟨false, false, false⟩)) :=
    run_takeRtcp run_added (List.Perm.refl [['v']])
  have paused : Run RtcpStep (some new) (_ ++ [.pause])
      (some (singleRtcp false (some .running) ⟨false, false, false⟩)) :=
    run_takeRtcp played trivial
  have stopped : Run RtcpStep (some new) (_ ++ [.stop])
      (some (singleRtcp false none ⟨false, false, false⟩)) :=
    run_takeRtcp paused trivial
  have again : Run RtcpStep (some new) (_ ++ [.start [['v']] none])
      (some (singleRtcp true (some .running) ⟨false, false, false⟩)) :=
    run_takeRtcp stopped (List.Perm.refl [['v']])
  refine ⟨_, _, run_added, rfl, rfl, fun runs => ?_, again⟩
  have running := runs ['v'] _ rfl rfl
  exact absurd running.1 Bool.false_ne_true

end Runs
end Session
end TinyRtsp
