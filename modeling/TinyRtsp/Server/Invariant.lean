import TinyRtsp.Server.Orphans

/-! The invariant rule of the server: what every call on the shared state preserves
holds in every state that requests, disconnects and threads lead to. -/
namespace TinyRtsp

/-- Every call on what the connections share preserves the property. -/
structure Server.Preserves (Q : Server → Prop) : Prop where
  allocatePortPair {server} : Q server → Q server.allocatePortPair.2
  createSession {server} (sessionId : SessionId) : Q server → Q (server.createSession sessionId)
  addMediaTrack {server after} {sessionId : SessionId} {ref : TrackRef}
    {rtpRtcpHandler : Except Exception RtpRtcpConfig} : Q server →
      (server.addMediaTrack sessionId ref rtpRtcpHandler).session = some after → Q after
  startSession {server after} {sessionId : SessionId} {opens : TrackRef → Bool} : Q server →
    (server.startSession opens sessionId).session = some after → Q after
  pauseSession {server} (sessionId : SessionId) : Q server → Q (server.pauseSession sessionId)
  terminateSession {server} (sessionId : SessionId) : Q server → Q (server.terminateSession sessionId)
  thread {server after} {step : ThreadStep} : Q server → server.thread step = some after → Q after

namespace ConnectionHandler
variable {Q : Server → Prop} {request response : RtspMessage} {env : Env} {t : Turn}

/-- The property holds before and, unless the process ends, afterwards. -/
abbrev Keeps {A : Type} (Q : Server → Prop) (handler : Handling A) : Prop :=
  Triple (Serves Q) handler (fun _ => Serves Q) (Unless (Serves Q))

theorem act_keeps {call : Server → Outcome Server}
    (preserves : ∀ {server after}, Q server → (call server).session = some after → Q after) :
    Keeps Q (act call) := by
  intro w here
  have spec := act_spec call w w rfl
  split
  · rename_i ended
    rw [ended] at spec
    exact preserves here (congrArg Outcome.session spec.1)
  · rename_i failure w' ended
    rw [ended] at spec
    intro lives
    cases failure with
    | terminate => exact absurd rfl lives
    | exception e => exact preserves here (congrArg Outcome.session spec.2)

theorem parseUrlOf_keeps {B : Type} {next : RtspUrl → Handling B} (rest : ∀ url, Keeps Q (next url)) :
    Keeps Q (parseUrlOf request >>= next) :=
  .bind (parseUrlOf_serves.weaken (fun _ => id) (fun _ _ here => here.2) fun _ _ here _ => here.2) rest

theorem handleDescribe_keeps : Keeps Q (handleDescribe env request response) := by
  apply parseUrlOf_keeps
  intro url
  split
  · exact .pure fun _ here => here
  · refine .read fun w => ?_
    split
    · exact .pure fun _ here => here
    · exact .pure fun _ here => here

theorem handlePlay_keeps (preserves : Server.Preserves Q) :
    Keeps Q (handlePlay env request response) := by
  apply Triple.read
  intro w
  split
  · exact .bind (act_keeps preserves.startSession) fun _ => .pure fun _ here => here
  · exact .pure fun _ here => here

theorem handlePause_keeps (preserves : Server.Preserves Q) :
    Keeps Q (handlePause request response) := by
  apply Triple.read
  intro w
  split
  · exact .bind (.modify (T := fun _ => Serves Q) fun _ here => preserves.pauseSession _ here)
      fun _ => .pure fun _ here => here
  · exact .pure fun _ here => here

theorem handleTeardown_keeps (preserves : Server.Preserves Q) :
    Keeps Q (handleTeardown request response) := by
  apply Triple.read
  intro w
  split
  · exact .bind (.modify (T := fun _ => Serves Q) fun _ here => preserves.terminateSession _ here)
      fun _ => .pure fun _ here => here
  · exact .pure fun _ here => here

theorem allocatePortPair_keeps (preserves : Server.Preserves Q) : Keeps Q allocatePortPair := by
  refine .get fun w here => ?_
  refine .bind (.modify (T := fun _ => Serves Q) ?_) fun _ => .pure fun _ here => here
  rintro _ rfl
  exact preserves.allocatePortPair here

theorem sessionIdOf_keeps : Keeps Q (sessionIdOf env request) := by
  unfold sessionIdOf
  dsimp only
  split
  · exact .bind (.modify (T := fun _ => Serves Q) fun _ here => here) fun _ => .pure fun _ here => here
  · exact .pure fun _ here => here

theorem handleSetup_keeps (preserves : Server.Preserves Q) :
    Keeps Q (handleSetup env request response) := by
  apply parseUrlOf_keeps
  intro url
  refine attempt_then (fun client _ => ?_) fun _ _ _ here _ => here
  refine .bind (allocatePortPair_keeps preserves) fun serverPort => ?_
  refine .bind sessionIdOf_keeps fun sessionId => ?_
  refine .read fun w => ?_
  have added {config : RtpRtcpConfig} {answer : RtspMessage} {ref : TrackRef} :
      Keeps Q (do
        act fun server => server.addMediaTrack sessionId ref (env.constructs.map fun _ => config)
        return answer) :=
    .bind (act_keeps preserves.addMediaTrack) fun _ => .pure fun _ here => here
  dsimp only
  split
  · exact .pure fun _ here => here
  · split
    · exact .pure fun _ here => here
    · split
      · exact .bind (.modify (T := fun _ => Serves Q) fun _ here => preserves.createSession _ here)
          fun _ => added
      · exact added

theorem dispatch_keeps (preserves : Server.Preserves Q) : Keeps Q (dispatch env request) := by
  refine .bind (.modify (T := fun _ => Serves Q) fun _ here => here) fun _ => ?_
  dsimp only
  split
  · exact .pure fun _ here => here
  · exact handleDescribe_keeps
  · exact handleSetup_keeps preserves
  · exact handlePlay_keeps preserves
  · exact handlePause_keeps preserves
  · exact handleTeardown_keeps preserves
  · exact .pure fun _ here => here

theorem turn_keeps (preserves : Server.Preserves Q) : Keeps Q (turn t) := by
  have received : Keeps Q (receive t) := by
    unfold receive
    split
    · exact .pure fun _ here => here
    · exact .throw fun _ here _ => here
  refine .bind received fun data => ?_
  refine attempt_then (fun parsed _ => ?_) fun _ _ _ here _ => here
  split
  · exact .pure fun _ here => here
  · refine .bind (dispatch_keeps preserves) fun answer => ?_
    refine .bind (.bind (.modify (T := fun _ => Serves Q) fun _ here => here) fun _ => ?_) fun _ =>
      .pure fun _ here => here
    split
    · exact .pure fun _ here => here
    · exact .throw fun _ here _ => here
    · exact .throw fun _ here _ => here
    · exact .throw fun _ _ lives => absurd rfl lives

end ConnectionHandler

namespace Site
open ConnectionHandler
variable {C : Type} [DecidableEq C] {Q : Server → Prop} {s s' : Site C} {event : Event C}

theorem act_preserves (preserves : Server.Preserves Q) (here : Q s.server)
    (taken : s.act event = some s') : Q s'.server := by
  cases event with
  | connect c clientIp =>
    obtain ⟨_, rfl⟩ := act_connect taken
    exact here
  | turn c t =>
    obtain ⟨connection, w, goes, _, rfl, leaves⟩ := act_turn taken
    exact leaves (turn_keeps preserves) here
  | disconnect c =>
    obtain ⟨connection, _, rfl⟩ := act_disconnect taken
    dsimp only
    unfold destroy
    split
    · exact preserves.terminateSession _ here
    · exact here
  | thread step =>
    obtain ⟨server, moved, rfl⟩ := Option.map_eq_some_iff.mp taken
    exact preserves.thread here moved

/-- The invariant rule. -/
theorem run_preserves (preserves : Server.Preserves Q) {init : Site C} {trace : List (Event C)}
    (run : Transition.Run (Transition.Takes act) init trace s) (initial : Q init.server) :
    Q s.server :=
  run.invariant (P := fun s => Q s.server) initial fun here taken => act_preserves preserves here taken

end Site
end TinyRtsp
