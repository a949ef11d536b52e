import TinyRtsp.Server.Accounts

/-! What a session has on the server, and which steps can change it: the requests with
its id, the end of the connection that remembers it, and its own sender threads. -/
namespace TinyRtsp

def MediaTrack.positionOf (t : MediaTrack) (viewer : SessionId) : Option Nat :=
  (t.frameQueue.consumerPositions.lookup viewer).map Fin.val

/-- A session with its handlers, and where it reads in each track. -/
structure Share where
  session : Option (Session TrackRef RtpRtcpConfig)
  positions : TrackRef → Option Nat

def MediaSources.positions (sources : MediaSources) (viewer : SessionId) (ref : TrackRef) : Option Nat :=
  (sources.track ref).bind (·.positionOf viewer)

def Server.share (server : Server) (viewer : SessionId) : Share where
  session := server.sessions.lookup viewer
  positions := server.mediaSources.positions viewer

namespace MediaTrack
variable {t u : MediaTrack} {viewer other : SessionId}

theorem positionOf_registered {n : Nat} {q q' : CircularQueue SessionId Frame n}
    (same : ∀ p, q'.Registered viewer p ↔ q.Registered viewer p) :
    q'.consumerPositions.lookup viewer = q.consumerPositions.lookup viewer :=
  Option.ext same

theorem positionOf_registerSession (apart : viewer ≠ other) :
    (t.registerSession other).positionOf viewer = t.positionOf viewer :=
  congrArg (Option.map Fin.val) (positionOf_registered fun p =>
    CircularQueue.registered_registerConsumer.trans (by rw [if_neg apart]))

theorem positionOf_unregisterSession (apart : viewer ≠ other) :
    (t.unregisterSession other).positionOf viewer = t.positionOf viewer := by
  have left : (t.frameQueue.unregisterConsumer other).consumerPositions.lookup viewer =
      t.frameQueue.consumerPositions.lookup viewer :=
    positionOf_registered fun p => CircularQueue.registered_unregisterConsumer.trans (and_iff_right apart)
  unfold unregisterSession
  dsimp only
  split
  · exact congrArg (Option.map Fin.val) left
  · exact congrArg (Option.map Fin.val) left

theorem positionOf_start {opens : Bool} (left : (t.start opens).session = some u) :
    u.positionOf viewer = t.positionOf viewer := by
  have same : ∀ q : CircularQueue SessionId Frame t.mediaType.queueCapacity,
      (if q.isExit then q.setRun else q).consumerPositions = q.consumerPositions := by
    intro q
    split <;> rfl
  unfold start at left
  split at left
  · obtain rfl := Option.some.inj left
    rfl
  · dsimp only at left
    split at left
    · obtain rfl := Option.some.inj left
      exact congrArg (fun positions => (positions.lookup viewer).map Fin.val) (same _)
    · split at left
      · contradiction
      · obtain rfl := Option.some.inj left
        exact congrArg (fun positions => (positions.lookup viewer).map Fin.val) (same _)

end MediaTrack

namespace MediaSources
variable {sources : MediaSources} {ref : TrackRef} {t u : MediaTrack} {viewer : SessionId}

theorem positions_modifyTrack {f : MediaTrack → MediaTrack}
    (same : ∀ t, sources.track ref = some t → (f t).positionOf viewer = t.positionOf viewer) :
    (sources.modifyTrack ref f).positions viewer = sources.positions viewer := by
  funext other
  unfold positions
  rw [track_modifyTrack]
  split
  · subst other
    cases found : sources.track ref with
    | none => rfl
    | some t => exact same t found
  · rfl

theorem positions_setTrack (found : sources.track ref = some t) (same : u.positionOf viewer = t.positionOf viewer) :
    (sources.modifyTrack ref fun _ => u).positions viewer = sources.positions viewer := by
  apply positions_modifyTrack
  intro v here
  obtain rfl := Option.some.inj (found.symm.trans here)
  exact same

end MediaSources

namespace Server
variable {server after : Server} {viewer other : SessionId} {ref : TrackRef}

theorem share_eq {share : Share} (session : server.sessions.lookup viewer = share.session)
    (positions : server.mediaSources.positions viewer = share.positions) : server.share viewer = share := by
  calc server.share viewer
      = ⟨server.sessions.lookup viewer, server.mediaSources.positions viewer⟩ := rfl
    _ = share := by rw [session, positions]

theorem share_allocatePortPair : server.allocatePortPair.2.share viewer = server.share viewer := by
  unfold allocatePortPair
  split <;> rfl

theorem share_join (apart : viewer ≠ other) : (server.join other).share viewer = server.share viewer := by
  refine share_eq ?_ (congrArg (·.positions viewer) (server.mediaSources_join other))
  rw [lookup_join, if_neg apart]
  rfl

theorem share_addMediaTrack {rtpRtcpHandler : Except Exception RtpRtcpConfig} (apart : viewer ≠ other)
    (left : (server.addMediaTrack other ref rtpRtcpHandler).session = some after) :
    after.share viewer = server.share viewer := by
  obtain ⟨s, added, _, _, rfl⟩ := addMediaTrack_session left
  refine share_eq (AList.lookup_insert_ne apart) (MediaSources.positions_modifyTrack fun t _ => ?_)
  exact MediaTrack.positionOf_registerSession apart

theorem share_startSession {opens : TrackRef → Bool} (apart : viewer ≠ other)
    (left : (server.startSession opens other).session = some after) :
    after.share viewer = server.share viewer := by
  obtain ⟨s, sources, started, _, ended, rfl⟩ := startSession_session left
  refine share_eq (AList.lookup_insert_ne apart) ?_
  refine (Session.start_keeps (P := fun sources => sources.positions viewer = server.mediaSources.positions viewer)
    ?_ rfl ended).1
  intro name ref sources next same left
  obtain ⟨t, u, found, track, rfl⟩ := startTrack_session left
  exact (MediaSources.positions_setTrack found (MediaTrack.positionOf_start track)).trans same

theorem share_pauseSession (apart : viewer ≠ other) :
    (server.pauseSession other).share viewer = server.share viewer := by
  refine share_eq ?_ rfl
  rw [pauseSession, Table.lookup_modify, if_neg apart]
  rfl

theorem share_terminateSession (apart : viewer ≠ other) :
    (server.terminateSession other).share viewer = server.share viewer := by
  unfold terminateSession
  split
  · rfl
  · refine share_eq (AList.lookup_erase_ne apart) ?_
    unfold destroySession
    refine List.foldlRecOn (motive := fun sources => MediaSources.positions sources viewer =
      server.mediaSources.positions viewer) _ _ rfl fun sources same entry _ => ?_
    refine (MediaSources.positions_modifyTrack fun t _ => ?_).trans same
    exact MediaTrack.positionOf_unregisterSession apart

end Server

namespace ThreadStep

def session : ThreadStep → Option SessionId
  | .consume sessionId _ | .senderEnds sessionId _ => some sessionId
  | _ => none

end ThreadStep

theorem Server.share_thread {server after : Server} {step : ThreadStep} {viewer : SessionId}
    (taken : server.thread step = some after) (apart : step.session ≠ some viewer) :
    after.share viewer = server.share viewer := by
  cases step with
  | produce ref frame =>
    simp only [thread, Option.bind_eq_bind, Option.bind_eq_some_iff] at taken
    obtain ⟨t, found, frameQueue, produced, taken⟩ := taken
    obtain ⟨_, same⟩ := Option.ite_none_right_eq_some.mp taken
    obtain rfl := Option.some.inj same
    obtain ⟨_, rfl⟩ := CircularQueue.produce_cases produced
    exact share_eq rfl (MediaSources.positions_setTrack found rfl)
  | endOfFile ref =>
    simp only [thread, Option.bind_eq_bind, Option.bind_eq_some_iff] at taken
    obtain ⟨t, found, taken⟩ := taken
    obtain ⟨_, same⟩ := Option.ite_none_right_eq_some.mp taken
    obtain rfl := Option.some.inj same
    exact share_eq rfl (MediaSources.positions_setTrack found rfl)
  | consume other name =>
    simp only [thread, Option.bind_eq_bind, Option.bind_eq_some_iff] at taken
    obtain ⟨h, _, t, found, ⟨item, frameQueue⟩, consumed, taken⟩ := taken
    obtain ⟨_, same⟩ := Option.ite_none_right_eq_some.mp taken
    obtain rfl := Option.some.inj same
    have different : viewer ≠ other := fun same => apart (by rw [same]; rfl)
    refine share_eq rfl (MediaSources.positions_setTrack found (congrArg (Option.map Fin.val) ?_))
    refine MediaTrack.positionOf_registered fun p => ?_
    rcases CircularQueue.consume_cases consumed with ⟨_, _, rfl⟩ | ⟨_, _, _, _, _, _, registered⟩
    · exact CircularQueue.registered_touch_ne different
    · rw [registered, if_neg different]
  | senderEnds other name =>
    obtain rfl := Option.some.inj taken
    have different : viewer ≠ other := fun same => apart (by rw [same]; rfl)
    refine share_eq ?_ rfl
    rw [Table.lookup_modify, if_neg different]
    rfl

namespace ConnectionHandler
variable {env : Env} {request response : RtspMessage} {t : Turn}

/-- The calls on the server that a request makes, whether it is answered or throws. -/
inductive Performs (env : Env) (request : RtspMessage) (before : Server) : Server → Prop
  | nothing : Performs env request before before
  | takesPorts : request.method = .setup → Performs env request before before.allocatePortPair.2
  | adds (ref : TrackRef) (config : Unit → RtpRtcpConfig) : request.method = .setup →
      ((before.allocatePortPair.2.join (setupId env request)).addMediaTrack (setupId env request) ref
        (env.constructs.map config)).session = some after → Performs env request before after
  | starts : request.method = .play →
      (before.startSession env.opens (sessionHeader request)).session = some after →
      Performs env request before after
  | pauses : request.method = .pause → Performs env request before (before.pauseSession (sessionHeader request))
  | terminates : request.method = .teardown →
      Performs env request before (before.terminateSession (sessionHeader request))

/-- The handler leaves a server that the request's calls make of the one before. -/
abbrev Does (env : Env) (request : RtspMessage) (before : Server) (handler : Handling RtspMessage) : Prop :=
  Triple (Serves (· = before)) handler (fun _ => Serves (Performs env request before))
    (Unless (Serves (Performs env request before)))

theorem does_same {before : Server} {handler : Handling RtspMessage}
    (same : Triple (Serves (· = before)) handler (fun _ => Serves (· = before))
      (Unless (Serves (· = before)))) : Does env request before handler := by
  have nothing {w : World} (here : Serves (· = before) w) : Serves (Performs env request before) w := by
    rw [show before = w.server from here.symm]
    exact .nothing
  exact same.weaken (fun _ => id) (fun _ _ => nothing) fun _ _ here lives => nothing (here lives)

theorem handleSetup_does {before : Server} (method : request.method = .setup) :
    Does env request before (handleSetup env request response) := by
  rintro w rfl
  cases read : parseUrl request.requestUri with
  | error e =>
    rw [handleSetup_url read]
    exact fun _ => .nothing
  | ok url =>
    cases understood : parseTransport (request.getHeaderValue "Transport".toList) with
    | error e =>
      rw [handleSetup_transport read understood]
      exact fun _ => .nothing
    | ok client =>
      have reads : Reads request url client := ⟨read, understood⟩
      cases found : w.server.mediaSources.track ⟨url.app, url.track⟩ with
      | none =>
        rw [handleSetup_missing reads found]
        exact .takesPorts method
      | some t =>
        have spec := handleSetup_found env response reads found
        have adds {server : Server} (left : (setupAdds env request url client t w).session = some server) :
            Performs env request w.server server := .adds _ _ method left
        cases outcome : setupAdds env request url client t w with
        | returned server =>
          rw [outcome] at spec
          rw [spec]
          exact adds (by rw [outcome]; rfl)
        | thrown e server =>
          rw [outcome] at spec
          rw [spec]
          exact fun _ => adds (by rw [outcome]; rfl)
        | terminated =>
          rw [outcome] at spec
          obtain ⟨left, ended⟩ := spec
          rw [ended]
          exact fun lives => absurd rfl lives

theorem handlePlay_does {before : Server} (method : request.method = .play) :
    Does env request before (handlePlay env request response) := by
  refine .get fun w here => ?_
  subst before
  split
  · refine .bind (.weaken (act_spec _ w) (fun _ => id) (fun _ after ended => ?_)
      fun failure after ended lives => ?_) fun _ => .pure fun _ => id
    · exact .starts method (congrArg Outcome.session ended.1)
    · cases failure with
      | terminate => exact absurd rfl lives
      | exception e => exact .starts method (congrArg Outcome.session ended.2)
  · refine .pure fun v same => ?_
    subst v
    exact .nothing

theorem handlePause_does {before : Server} (method : request.method = .pause) :
    Does env request before (handlePause request response) := by
  refine .get fun w here => ?_
  subst before
  split
  · refine .bind (.modify (T := fun _ => Serves (Performs env request w.server)) ?_) fun _ =>
      .pure fun _ here => here
    rintro _ rfl
    exact .pauses method
  · refine .pure fun v same => ?_
    subst v
    exact .nothing

theorem handleTeardown_does {before : Server} (method : request.method = .teardown) :
    Does env request before (handleTeardown request response) := by
  refine .get fun w here => ?_
  subst before
  split
  · refine .bind (.modify (T := fun _ => Serves (Performs env request w.server)) ?_) fun _ =>
      .pure fun _ here => here
    rintro _ rfl
    exact .terminates method
  · refine .pure fun v same => ?_
    subst v
    exact .nothing

theorem handleDescribe_does {before : Server} :
    Does env request before (handleDescribe env request response) := by
  apply does_same
  refine .bind (parseUrlOf_serves.weaken (fun _ => id) (fun _ _ here => here.2) fun _ _ here _ => here.2)
    fun url => ?_
  split
  · exact .pure fun _ here => here
  · refine .read fun w => ?_
    split
    · exact .pure fun _ here => here
    · exact .pure fun _ here => here

theorem dispatch_does {before : Server} : Does env request before (dispatch env request) := by
  refine .bind (.modify (T := fun _ => Serves (· = before)) fun _ here => here) fun _ => ?_
  dsimp only
  split
  · exact does_same (.pure fun _ here => here)
  · exact handleDescribe_does
  · exact handleSetup_does ‹_›
  · exact handlePlay_does ‹_›
  · exact handlePause_does ‹_›
  · exact handleTeardown_does ‹_›
  · exact does_same (.pure fun _ here => here)

def Serving (t : Turn) (before : Server) : World → Prop :=
  Serves fun after => after = before ∨ ∃ request, Receives request t ∧ Performs t.env request before after

theorem turn_does (t : Turn) (before : Server) :
    Triple (Serves (· = before)) (turn t) (fun _ => Serving t before) (Unless (Serving t before)) := by
  rintro w rfl
  by_cases read : ∃ request, Receives request t
  · obtain ⟨request, receives⟩ := read
    have sends {message : Text} : Triple (Serves (Performs t.env request w.server)) (sendRtspMessage t message)
        (fun _ => Serves (Performs t.env request w.server))
        (Unless (Serves (Performs t.env request w.server))) := by
      refine .bind (.modify (T := fun _ => Serves (Performs t.env request w.server)) fun _ here => here)
        fun _ => ?_
      split
      · exact .pure fun _ here => here
      · exact .throw fun _ here _ => here
      · exact .throw fun _ here _ => here
      · exact .throw fun _ _ lives => absurd rfl lives
    have performed {after : World} (here : Serves (Performs t.env request w.server) after) :
        Serving t w.server after := .inr ⟨request, receives, here⟩
    have dispatched : Does t.env request w.server (dispatch t.env request) := dispatch_does
    rw [turn_run receives]
    have answered {goes : Bool} : Triple (Serves (Performs t.env request w.server))
        (pure goes : Handling Bool) (fun _ => Serving t w.server) (Unless (Serving t w.server)) :=
      .pure fun _ => performed
    refine (dispatched.weaken (fun _ => id) (fun _ _ => id) ?_).bind
      (fun response => (sends.weaken (fun _ => id) (fun _ _ => id) ?_).bind fun _ => answered) w rfl
    · exact fun _ _ here lives => performed (here lives)
    · exact fun _ _ here lives => performed (here lives)
  · rcases turn_unread (w := w) (t := t) fun request receives => read ⟨request, receives⟩ with
      ended | ⟨e, ended⟩
    · rw [ended]
      exact .inl rfl
    · rw [ended]
      exact fun _ => .inl rfl

def concerned (env : Env) (request : RtspMessage) : Option SessionId :=
  match request.method with
  | .setup => some (setupId env request)
  | .play | .pause | .teardown => some (sessionHeader request)
  | _ => none

theorem share_performs {before after : Server} {viewer : SessionId}
    (performs : Performs env request before after) (apart : concerned env request ≠ some viewer) :
    after.share viewer = before.share viewer := by
  unfold concerned at apart
  cases performs with
  | nothing => rfl
  | takesPorts => exact Server.share_allocatePortPair
  | adds ref config method left =>
    rw [method] at apart
    have different : viewer ≠ setupId env request := fun same => apart (congrArg some same.symm)
    calc after.share viewer
        = (before.allocatePortPair.2.join (setupId env request)).share viewer :=
          Server.share_addMediaTrack different left
      _ = before.allocatePortPair.2.share viewer := Server.share_join different
      _ = before.share viewer := Server.share_allocatePortPair
  | starts method left =>
    rw [method] at apart
    exact Server.share_startSession (fun same => apart (congrArg some same.symm)) left
  | pauses method =>
    rw [method] at apart
    exact Server.share_pauseSession fun same => apart (congrArg some same.symm)
  | terminates method =>
    rw [method] at apart
    exact Server.share_terminateSession fun same => apart (congrArg some same.symm)

end ConnectionHandler

namespace Site
open ConnectionHandler
variable {C : Type}

/-- The session that a step is for: its request's, the one that a connection which ends
remembers, or a sender thread's. -/
def concerned (s : Site C) : Event C → Option SessionId
  | .connect .. => none
  | .turn _ t => (requestOf t).bind (ConnectionHandler.concerned t.env)
  | .disconnect c => (s.clients c).bind fun client =>
    if client.connection.sessionId ≠ [] then some client.connection.sessionId else none
  | .thread step => step.session

variable [DecidableEq C] {s s' : Site C} {event : Event C} {viewer : SessionId}

theorem share_act (taken : s.act event = some s') (apart : s.concerned event ≠ some viewer) :
    s'.server.share viewer = s.server.share viewer := by
  cases event with
  | connect c clientIp =>
    obtain ⟨_, rfl⟩ := act_connect taken
    rfl
  | turn c t =>
    obtain ⟨connection, w, goes, _, rfl, leaves⟩ := act_turn taken
    rcases leaves (turn_does t s.server) rfl with same | ⟨request, receives, performs⟩
    · exact congrArg (·.share viewer) same
    · refine share_performs performs fun named => apart ?_
      rw [concerned, requestOf_of_receives receives]
      exact named
  | disconnect c =>
    obtain ⟨connection, known, rfl⟩ := act_disconnect taken
    rw [concerned, known] at apart
    dsimp only
    unfold destroy
    split
    · rename_i remembered
      refine Server.share_terminateSession fun same => apart ?_
      rw [Option.bind_some, if_pos remembered, same]
    · rfl
  | thread step =>
    obtain ⟨server, moved, rfl⟩ := Option.map_eq_some_iff.mp taken
    exact Server.share_thread moved apart

/-- While no step is for a session, whatever the other clients and threads do: it is
there or not as before, with the same handlers, ports and thread states, and reads at
the same place in every track. -/
theorem share_kept {trace : List (Event C)}
    (run : Transition.Run (Transition.Guarded (fun s event => s.concerned event ≠ some viewer)
      (Transition.Takes act)) s trace s') :
    s'.server.share viewer = s.server.share viewer := by
  refine run.invariant (P := fun t => t.server.share viewer = s.server.share viewer) rfl ?_
  rintro t event u same ⟨apart, taken⟩
  exact (share_act taken apart).trans same

/-- One client sets up a stream; another sets up the other stream, plays it, ends its
session and leaves. The first has its session as it was. -/
theorem share_kept_two : ∃ s : Site Bool, s.server.sessions.keys = ["0000000000000000".toList] ∧
    (s.server.share "0000000000000000".toList).session.map (·.sessionHandlers.keys) =
      some ["v".toList] := by
  let other (method : String) : ConnectionHandler.Turn :=
    { setupTurn "b" "" with
      received := some (method.toList ++ " rtsp://host:554/b RTSP/1.0\r\nSession: mine\r\n\r\n".toList) }
  let before : List (Event Bool) := [.connect true "10.0.0.1".toList, .turn true (setupTurn "a" "")]
  let meanwhile : List (Event Bool) :=
    [.connect false "10.0.0.2".toList, .turn false (setupTurn "b" "Session: mine\r\n"),
      .turn false (other "PLAY"), .turn false (other "TEARDOWN"), .disconnect false]
  have outcome : (before.foldlM act (start twoStreams [7000, 7002])).bind (fun s =>
      (meanwhile.foldlM (Transition.checked
        (fun s event => s.concerned event ≠ some "0000000000000000".toList) act) s).map fun s' =>
          ((s.server.share "0000000000000000".toList).session.map (·.sessionHandlers.keys),
            s'.server.sessions.keys)) =
      some (some ["v".toList], ["0000000000000000".toList]) := by decide +kernel
  obtain ⟨s, _, others⟩ := Option.bind_eq_some_iff.mp outcome
  obtain ⟨s', done, same⟩ := Option.map_eq_some_iff.mp others
  obtain ⟨there, keys⟩ := Prod.mk.inj same
  refine ⟨s', keys, ?_⟩
  rw [share_kept (.of_checked done)]
  exact there

end Site
end TinyRtsp
