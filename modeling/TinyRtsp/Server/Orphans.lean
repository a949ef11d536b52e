import TinyRtsp.Server.Consumers
import TinyRtsp.Server.Handling
import TinyRtsp.Server.Site

/-! The whole server over any sequence of complete requests and disconnects: when
every consumer of a track belongs to a session that has a handler for it. -/
namespace TinyRtsp

namespace ConnectionHandler

/-- The session and the track of a SETUP request, when its URL and its Transport
header can be read and the track exists. -/
def setupTarget (env : Env) (request : RtspMessage) (server : Server) :
    Option (SessionId × TrackRef) :=
  match parseUrl request.requestUri, parseTransport (request.getHeaderValue "Transport".toList) with
  | .ok url, .ok _ =>
    let sessionId := request.getHeaderValue "Session".toList
    if (server.mediaSources.track ⟨url.app, url.track⟩).isSome then
      some (if sessionId = [] then generateUniqueSessionId env else sessionId, ⟨url.app, url.track⟩)
    else none
  | _, _ => none

def asks (t : Turn) (server : Server) : Option (SessionId × TrackRef) := do
  let bytes ← t.received
  match RtspMessage.parse (bytes.takeWhile (· != '\x00')) with
  | .ok (some request) => if request.method = .setup then setupTarget t.env request server else none
  | _ => none

/-- What one request does to the registry. -/
inductive Moves (target : Option (SessionId × TrackRef)) (constructs : Except Exception Unit)
    (before after : Server) : Prop where
  | same (none : target = none) (same : after.registry = before.registry)
  | leave (none : target = none) (sessionId : SessionId)
      (left : after.registry = before.registry.leave sessionId)
  | enrol (sessionId : SessionId) (ref : TrackRef) (found : target = some (sessionId, ref))
      (live : before.registry.live ref)
      (left : after.registry = Server.enrolled constructs sessionId ref before.registry)

section Handlers
variable {request response : RtspMessage} {env : Env} {r : Registry TrackRef TrackName SessionId}
  {Q : Server → Prop}

/-- A property of what the connections share. -/
def Serves (Q : Server → Prop) (w : World) : Prop := Q w.server

def Has (r : Registry TrackRef TrackName SessionId) : World → Prop := Serves (·.registry = r)

def Unless (P : World → Prop) (failure : Failure) (w : World) : Prop := failure ≠ .terminate → P w

theorem parseUrlOf_serves :
    Triple (Serves Q) (parseUrlOf request)
      (fun url w => parseUrl request.requestUri = .ok url ∧ Serves Q w)
      fun _ w => (∃ e, parseUrl request.requestUri = .error e) ∧ Serves Q w := by
  refine attempt_then (fun url parsed => ?_) fun e failed w here => ⟨⟨e, failed⟩, here⟩
  refine .bind (.modify (T := fun _ => Serves Q) fun w here => here) fun _ => ?_
  exact .pure fun w here => ⟨parsed, here⟩

theorem handleDescribe_has :
    Triple (Has r) (handleDescribe env request response) (fun _ => Has r) (Unless (Has r)) := by
  have parsed : Triple (Has r) (parseUrlOf request) (fun _ => Has r) (Unless (Has r)) :=
    parseUrlOf_serves.weaken (fun _ => id) (fun _ _ here => here.2) fun _ _ here _ => here.2
  refine .bind parsed fun url => ?_
  split
  · exact .pure fun _ here => here
  · refine .read fun w => ?_
    split
    · exact .pure fun _ here => here
    · exact .pure fun _ here => here

theorem handlePlay_has :
    Triple (Has r) (handlePlay env request response) (fun _ => Has r) (Unless (Has r)) := by
  refine .get fun w here => ?_
  split
  · refine .bind (.weaken (act_spec _ w) (fun _ => id) (fun _ w' ended => ?_) fun failure w' ended => ?_)
      fun _ => .pure fun _ => id
    · have left := congrArg Outcome.session ended.1
      exact (Server.registry_startSession left).trans here
    · intro lives
      cases failure with
      | terminate => exact absurd rfl lives
      | exception e =>
        have left := congrArg Outcome.session ended.2
        exact (Server.registry_startSession left).trans here
  · exact .pure fun _ same => same ▸ here

theorem handlePause_has :
    Triple (Has r) (handlePause request response) (fun _ => Has r) (Unless (Has r)) := by
  refine .read fun w => ?_
  split
  · refine .bind (.modify (T := fun _ => Has r) fun w here => ?_) fun _ => .pure fun _ here => here
    exact Server.registry_pauseSession.trans here
  · exact .pure fun _ here => here

theorem handleTeardown_has :
    Triple (Has r) (handleTeardown request response)
      (fun _ w => Has r w ∨ ∃ sessionId, Has (r.leave sessionId) w) (Unless (Has r)) := by
  refine .read fun w => ?_
  split
  · refine .bind (.modify (T := fun _ w => ∃ sessionId, Has (r.leave sessionId) w) fun w here => ?_)
      fun _ => .pure fun _ here => .inr here
    have same : w.server.registry = r := here
    subst same
    exact ⟨_, Server.registry_terminateSession⟩
  · exact .pure fun _ here => .inl here

def Kept (server : Server) : World → Prop :=
  Serves fun s => s.mediaSources = server.mediaSources ∧ s.sessions = server.sessions

theorem Kept.registry {server : Server} {w : World} (kept : Kept server w) :
    w.server.registry = server.registry := by
  unfold Server.registry
  rw [kept.1, kept.2]

theorem allocatePortPair_kept {server : Server} {R : Failure → World → Prop} :
    Triple (Kept server) allocatePortPair (fun _ => Kept server) R := by
  refine .get fun w kept => ?_
  have tables : w.server.allocatePortPair.2.mediaSources = w.server.mediaSources ∧
      w.server.allocatePortPair.2.sessions = w.server.sessions := by
    unfold Server.allocatePortPair
    split <;> exact ⟨rfl, rfl⟩
  refine .bind (.modify (T := fun _ => Kept server) ?_) fun _ => .pure fun _ here => here
  rintro _ rfl
  exact ⟨tables.1.trans kept.1, tables.2.trans kept.2⟩

theorem sessionIdOf_kept {server : Server} {R : Failure → World → Prop} :
    Triple (Kept server) (sessionIdOf env request)
      (fun sessionId w => sessionId = (if request.getHeaderValue "Session".toList = [] then
        generateUniqueSessionId env else request.getHeaderValue "Session".toList) ∧ Kept server w)
      R := by
  unfold sessionIdOf
  dsimp only
  split
  · refine .bind (.modify (T := fun _ => Kept server) fun _ kept => kept) fun _ => ?_
    exact .pure fun _ kept => ⟨rfl, kept⟩
  · exact .pure fun _ kept => ⟨rfl, kept⟩

theorem addMediaTrack_moves (env : Env) {target : Option (SessionId × TrackRef)} {before : Server} {w : World}
    {sessionId : SessionId} {ref : TrackRef} (config : Unit → RtpRtcpConfig)
    (found : target = some (sessionId, ref)) (same : w.server.registry = before.registry)
    (live : (w.server.mediaSources.track ref).isSome) :
    Triple (· = w) (act fun server => server.addMediaTrack sessionId ref (env.constructs.map config))
      (fun _ w' => Moves target env.constructs before w'.server)
      (Unless fun w' => Moves target env.constructs before w'.server) := by
  have moves {after : Server} (left : (w.server.addMediaTrack sessionId ref
      (env.constructs.map config)).session = some after) :
      Moves target env.constructs before after := by
    have added := Server.registry_addMediaTrack live left
    refine .enrol sessionId ref found (same ▸ live) ?_
    rw [added, same]
    cases env.constructs with
    | ok => rfl
    | error => rfl
  refine (act_spec _ w).weaken (fun _ => id) (fun _ w' ended => ?_) fun failure w' ended lives => ?_
  · exact moves (congrArg Outcome.session ended.1)
  · cases failure with
    | terminate => exact absurd rfl lives
    | exception e => exact moves (congrArg Outcome.session ended.2)

theorem handleSetup_moves (server : Server) :
    Triple (Kept server) (handleSetup env request response)
      (fun _ w => Moves (setupTarget env request server) env.constructs server w.server)
      (Unless fun w => Moves (setupTarget env request server) env.constructs server w.server) := by
  refine .bind (parseUrlOf_serves.weaken (fun _ => id) (fun _ _ => id) ?_) fun url => .fact fun read => ?_
  · rintro _ w ⟨⟨e, failed⟩, kept⟩ _
    exact .same (by rw [setupTarget, failed]) (Kept.registry kept)
  refine attempt_then (fun client understood => ?_) fun e failed w kept _ =>
    .same (by rw [setupTarget, read, failed]) (Kept.registry kept)
  refine .bind allocatePortPair_kept fun serverPort => ?_
  refine .bind sessionIdOf_kept fun sessionId => .fact fun named => ?_
  refine .get fun w kept => ?_
  have track : server.mediaSources.track ⟨url.app, url.track⟩ =
      (w.server.mediaSources.lookup url.app).bind (·.lookup url.track) := by
    rw [kept.1]
    rfl
  have unknown {w' : World} (missing : server.mediaSources.track ⟨url.app, url.track⟩ = none)
      (same : w' = w) : Moves (setupTarget env request server) env.constructs server w'.server :=
    .same (by rw [setupTarget, read, understood]; dsimp only; rw [missing]; rfl)
      (same ▸ Kept.registry kept)
  dsimp only
  cases source : w.server.mediaSources.lookup url.app with
  | none =>
    refine .pure fun w' same => ?_
    exact unknown (by rw [track, source]; rfl) same
  | some tracks =>
    dsimp only
    cases found : tracks.lookup url.track with
    | none =>
      refine .pure fun w' same => ?_
      exact unknown (by rw [track, source]; exact found) same
    | some mediaTrack =>
      have live : (server.mediaSources.track ⟨url.app, url.track⟩).isSome := by
        rw [track, source, Option.bind_some, found]
        rfl
      have target : setupTarget env request server = some (sessionId, ⟨url.app, url.track⟩) := by
        rw [setupTarget, read, understood, named]
        exact if_pos live
      have liveHere {v : World} (same : v.server.mediaSources = w.server.mediaSources) :
          (v.server.mediaSources.track ⟨url.app, url.track⟩).isSome := by
        rw [same, kept.1]
        exact live
      dsimp only
      split
      · rename_i new
        have created := Server.registry_createSession (by simpa using new)
        refine .bind (.modify (T := fun _ v => v = { w with server := w.server.createSession sessionId }) ?_)
          fun _ => ?_
        · rintro _ rfl
          rfl
        · have added config := addMediaTrack_moves env config target (created.trans (Kept.registry kept))
            (w := { w with server := w.server.createSession sessionId }) (liveHere rfl)
          exact .bind (added _) fun _ => .pure fun _ => id
      · have added config := addMediaTrack_moves env config target (Kept.registry kept) (liveHere rfl)
        exact .bind (added _) fun _ => .pure fun _ => id

theorem dispatch_moves (w : World) :
    Triple (· = w) (dispatch env request)
      (fun _ w' => Moves (if request.method = .setup then setupTarget env request w.server else none)
        env.constructs w.server w'.server)
      (Unless fun w' => Moves (if request.method = .setup then setupTarget env request w.server else none)
        env.constructs w.server w'.server) := by
  have quiet {handler : Handling RtspMessage} (other : request.method ≠ .setup)
      (spec : Triple (Has w.server.registry) handler (fun _ => Has w.server.registry)
        (Unless (Has w.server.registry))) :
      Triple (Kept w.server) handler
        (fun _ w' => Moves (if request.method = .setup then setupTarget env request w.server else none)
          env.constructs w.server w'.server)
        (Unless fun w' => Moves
          (if request.method = .setup then setupTarget env request w.server else none)
          env.constructs w.server w'.server) :=
    spec.weaken (fun _ kept => Kept.registry kept) (fun _ _ same => .same (if_neg other) same)
      fun _ _ same lives => .same (if_neg other) (same lives)
  refine .bind (.modify (T := fun _ => Kept w.server) ?_) fun _ => ?_
  · rintro _ rfl
    exact ⟨rfl, rfl⟩
  · dsimp only
    split
    · exact quiet (by simp [*]) (.pure fun _ same => same)
    · exact quiet (by simp [*]) handleDescribe_has
    · rename_i setup
      rw [if_pos setup]
      exact handleSetup_moves w.server
    · exact quiet (by simp [*]) handlePlay_has
    · exact quiet (by simp [*]) handlePause_has
    · rename_i teardown
      have other : request.method ≠ .setup := by simp [teardown]
      refine handleTeardown_has.weaken (fun _ kept => Kept.registry kept) ?_
        fun _ _ same lives => .same (if_neg other) (same lives)
      rintro _ w' (same | ⟨sessionId, left⟩)
      · exact .same (if_neg other) same
      · exact .leave (if_neg other) sessionId left
    · refine quiet ?_ (.pure fun _ same => same)
      intro setup
      simp_all

theorem asks_of_receives {t : Turn} (receives : Receives request t) (server : Server) :
    asks t server = if request.method = .setup then setupTarget t.env request server else none := by
  obtain ⟨bytes, received, parsed⟩ := receives
  rw [asks, received]
  simp only [Option.bind_eq_bind, Option.bind_some, parsed]

theorem asks_of_unread {t : Turn} (unread : ∀ request, ¬ Receives request t) (server : Server) :
    asks t server = none := by
  unfold asks
  cases received : t.received with
  | none => rfl
  | some bytes =>
    simp only [Option.bind_eq_bind, Option.bind_some]
    split
    · rename_i request parsed
      exact absurd ⟨bytes, received, parsed⟩ (unread request)
    · rfl

theorem turn_moves (t : Turn) (w : World) :
    Triple (· = w) (turn t) (fun _ w' => Moves (asks t w.server) t.env.constructs w.server w'.server)
      (Unless fun w' => Moves (asks t w.server) t.env.constructs w.server w'.server) := by
  rintro _ rfl
  by_cases read : ∃ request, Receives request t
  · obtain ⟨request, receives⟩ := read
    have sends {message : Text} {before : Server} {target : Option (SessionId × TrackRef)} :
        Triple (fun w => Moves target t.env.constructs before w.server) (sendRtspMessage t message)
          (fun _ w => Moves target t.env.constructs before w.server)
          (Unless fun w => Moves target t.env.constructs before w.server) := by
      refine .bind (.modify
        (T := fun _ w => Moves target t.env.constructs before w.server) fun _ => id) fun _ => ?_
      split
      · exact .pure fun _ => id
      · exact .throw fun _ here _ => here
      · exact .throw fun _ here _ => here
      · exact .throw fun _ _ lives => absurd rfl lives
    rw [turn_run receives, asks_of_receives receives]
    exact (dispatch_moves _).bind (fun response => sends.bind fun _ => .pure fun _ => id) _ rfl
  · have unread request (receives : Receives request t) := read ⟨request, receives⟩
    rw [asks_of_unread unread]
    rcases turn_unread (w := _) unread with ended | ⟨e, ended⟩
    · rw [ended]
      exact .same rfl rfl
    · rw [ended]
      exact fun _ => .same rfl rfl

end Handlers
end ConnectionHandler

/-- The consumers of every track are the sessions that have a handler for it. -/
def Server.NoOrphans (server : Server) : Prop :=
  ∀ ref t, server.mediaSources.track ref = some t → ∀ sessionId, t.HasConsumer sessionId ↔
    ∃ s name h, server.sessions.lookup sessionId = some s ∧ s.handler name = some h ∧ h.mediaTrack = ref

theorem Server.noOrphans_iff {server : Server} : server.NoOrphans ↔ server.registry.NoOrphans := by
  have holds (sessionId ref) : (∃ name, Sessions.held server.sessions sessionId name = some ref) ↔
      ∃ s name h, server.sessions.lookup sessionId = some s ∧ s.handler name = some h ∧
        h.mediaTrack = ref := by
    simp only [Sessions.held, Option.map_eq_some_iff, Option.bind_eq_some_iff]
    constructor
    · rintro ⟨name, h, ⟨s, found, handler⟩, same⟩
      exact ⟨s, name, h, found, handler, same⟩
    · rintro ⟨s, name, h, found, handler, same⟩
      exact ⟨name, h, ⟨s, found, handler⟩, same⟩
  constructor
  · intro clean ref live sessionId
    obtain ⟨t, found⟩ := Option.isSome_iff_exists.mp live
    refine Iff.trans ?_ ((clean ref t found sessionId).trans (holds sessionId ref).symm)
    constructor
    · rintro ⟨u, same, has⟩
      obtain rfl := Option.some.inj (found.symm.trans same)
      exact has
    · intro has
      exact ⟨t, found, has⟩
  · intro clean ref t found sessionId
    refine Iff.trans ?_ ((clean ref (by rw [Server.registry]; simp [found]) sessionId).trans (holds sessionId ref))
    constructor
    · intro has
      exact ⟨t, found, has⟩
    · rintro ⟨u, same, has⟩
      obtain rfl := Option.some.inj (found.symm.trans same)
      exact has

namespace Server
variable {server after : Server} {ref : TrackRef} {t u : MediaTrack}

theorem registry_setTrack (found : server.mediaSources.track ref = some t)
    (same : ∀ viewer, u.HasConsumer viewer ↔ t.HasConsumer viewer) :
    ({ server with mediaSources := server.mediaSources.modifyTrack ref fun _ => u } : Server).registry =
      server.registry := by
  refine registry_eq (fun other => iff_of_eq (congrArg (· = true) (MediaSources.live_modifyTrack _)))
    (fun other viewer => MediaSources.consumes_modifyTrack_same ?_) fun _ _ => rfl
  intro v here
  obtain rfl := Option.some.inj (found.symm.trans here)
  exact same viewer

theorem registry_senderEnds {sessionId : SessionId} {name : TrackName} :
    ({ server with sessions := server.sessions.modify sessionId (·.senderEnds name) } : Server).registry =
      server.registry := by
  refine registry_eq (fun _ => Iff.rfl) (fun _ _ => Iff.rfl) fun viewer other => ?_
  show Sessions.held _ viewer other = Sessions.held server.sessions viewer other
  unfold Sessions.held
  rw [Table.lookup_modify]
  split
  · cases server.sessions.lookup viewer with
    | none => rfl
    | some s =>
      have same := congrArg (Option.map Prod.fst) (s.senderEnds_keeps name other)
      rw [Option.map_map, Option.map_map] at same
      exact same
  · rfl

theorem registry_thread {step : ThreadStep} (sound : server.registry.Sound TrackRef.track)
    (taken : server.thread step = some after) : after.registry = server.registry := by
  rcases thread_cases taken with ⟨ref, t, frameQueue, found, works, rfl⟩ | ⟨sessionId, name, rfl⟩
  · refine registry_setTrack found fun viewer => ?_
    rcases works with ⟨frame, produced⟩ | rfl | ⟨sessionId, name, h, item, handled, rfl, consumed⟩
    · obtain ⟨_, rfl⟩ := CircularQueue.produce_cases produced
      rfl
    · rfl
    · -- a sender has a handler, so its id is among the consumers already
      have held : server.registry.held sessionId name = some h.mediaTrack := by
        show Sessions.held server.sessions sessionId name = some h.mediaTrack
        rw [Sessions.held, handled, Option.map_some]
      obtain ⟨u, same, has⟩ := sound.consumer held
      obtain rfl := Option.some.inj (found.symm.trans same)
      exact CircularQueue.mem_consume has consumed
  · exact registry_senderEnds

end Server

section Moves
open ConnectionHandler
variable {target : Option (SessionId × TrackRef)} {constructs : Except Exception Unit}
  {before after : Server}

theorem sound_of_moves (moves : Moves target constructs before after)
    (sound : before.registry.Sound TrackRef.track) : after.registry.Sound TrackRef.track := by
  cases moves with
  | same _ same => exact same ▸ sound
  | leave _ sessionId left => exact left ▸ sound.leave
  | enrol sessionId ref _ live left =>
    rw [left]
    cases constructs with
    | ok => exact sound.enrol live
    | error => exact sound.register

/-- The step leaves no orphan exactly when its SETUP gives a consumer a handler and
takes no other track from the session. -/
theorem noOrphans_of_moves (moves : Moves target constructs before after)
    (sound : before.registry.Sound TrackRef.track) (clean : before.NoOrphans) :
    after.NoOrphans ↔ ∀ sessionId ref, target = some (sessionId, ref) →
      Sessions.held before.sessions sessionId ref.track = some ref ∨
        Sessions.held before.sessions sessionId ref.track = none ∧ constructs = .ok () := by
  rw [Server.noOrphans_iff] at clean ⊢
  cases moves with
  | same none same =>
    rw [same, none]
    exact iff_of_true clean nofun
  | leave none sessionId left =>
    rw [left, none]
    exact iff_of_true (Registry.noOrphans_leave sound clean) nofun
  | enrol sessionId ref found live left =>
    have asked : (∀ other track, target = some (other, track) →
          Sessions.held before.sessions other track.track = some track ∨
            Sessions.held before.sessions other track.track = none ∧ constructs = .ok ()) ↔
        Sessions.held before.sessions sessionId ref.track = some ref ∨
          Sessions.held before.sessions sessionId ref.track = none ∧ constructs = .ok () := by
      constructor
      · exact fun all => all sessionId ref found
      · rintro one other track same
        obtain ⟨rfl, rfl⟩ := Prod.mk.inj (Option.some.inj (found.symm.trans same))
        exact one
    rw [left, asked]
    cases constructs with
    | ok =>
      refine (Registry.noOrphans_enrol_iff sound clean live).trans ?_
      exact ⟨fun free => free.elim (fun none => .inr ⟨none, rfl⟩) .inl,
        fun free => free.elim .inr fun none => .inl none.1⟩
    | error e =>
      refine (Registry.noOrphans_register_iff sound clean live).trans ?_
      exact ⟨.inl, fun held => held.elim (fun held => held) fun none => nomatch none.2⟩

end Moves

namespace Site
variable {C : Type}

def asks (s : Site C) : Event C → Option (SessionId × TrackRef)
  | .turn _ t => ConnectionHandler.asks t s.server
  | _ => none

def constructs : Event C → Except Exception Unit
  | .turn _ t => t.env.constructs
  | _ => .ok ()

/-- A SETUP finds its own track under the track's name, or nothing there and
sockets to be had. -/
def Fits (s : Site C) (event : Event C) : Prop :=
  ∀ sessionId ref, s.asks event = some (sessionId, ref) →
    Sessions.held s.server.sessions sessionId ref.track = some ref ∨
      Sessions.held s.server.sessions sessionId ref.track = none ∧ constructs event = .ok ()

variable [DecidableEq C] {s s' : Site C} {event : Event C}

/-- A turn is taken with what its handler and the server are then, and leaves what
holds of it unless it ends the process. -/
theorem act_turn {c : C} {t : ConnectionHandler.Turn} (taken : s.act (.turn c t) = some s') :
    ∃ connection w goes, s.clients c = some ⟨connection, true⟩ ∧
      s' = ⟨w.server, Function.update s.clients c (some ⟨w.connection, goes⟩)⟩ ∧
      ∀ {P Q : World → Prop}, Triple P (ConnectionHandler.turn t) (fun _ => Q)
        (ConnectionHandler.Unless Q) → P ⟨s.server, connection⟩ → Q w := by
  simp only [act] at taken
  split at taken
  · rename_i connection known
    split at taken
    · rename_i goes w ended
      refine ⟨connection, w, goes, known, (Option.some.inj taken).symm, fun {P Q} spec before => ?_⟩
      have left := spec _ before
      rw [ended] at left
      exact left
    · rename_i w ended
      refine ⟨connection, w, false, known, (Option.some.inj taken).symm, fun {P Q} spec before => ?_⟩
      have left := spec _ before
      rw [ended] at left
      exact left Failure.noConfusion
    · contradiction
  · contradiction

theorem act_moves (sound : s.server.registry.Sound TrackRef.track) (taken : s.act event = some s') :
    ConnectionHandler.Moves (s.asks event) (constructs event) s.server s'.server := by
  cases event with
  | connect c clientIp =>
    obtain ⟨_, rfl⟩ := act_connect taken
    exact .same rfl rfl
  | turn c t =>
    obtain ⟨connection, w, goes, _, rfl, leaves⟩ := act_turn taken
    exact leaves (ConnectionHandler.turn_moves t ⟨s.server, connection⟩) rfl
  | disconnect c =>
    obtain ⟨connection, _, rfl⟩ := act_disconnect taken
    dsimp only
    unfold ConnectionHandler.destroy
    split
    · exact .leave rfl connection.sessionId Server.registry_terminateSession
    · exact .same rfl rfl
  | thread step =>
    obtain ⟨server, moved, rfl⟩ := Option.map_eq_some_iff.mp taken
    exact .same rfl (Server.registry_thread sound moved)

omit [DecidableEq C] in
theorem start_clean {mediaSources : MediaSources} {availablePorts : List Int}
    (fresh : ∀ ref t, mediaSources.track ref = some t → ∀ sessionId, ¬ t.HasConsumer sessionId) :
    (start mediaSources availablePorts : Site C).server.registry.Sound TrackRef.track ∧
      (start mediaSources availablePorts : Site C).server.NoOrphans := by
  constructor
  · constructor
    · nofun
    · nofun
    · nofun
  · intro ref t found sessionId
    refine iff_of_false (fresh ref t found sessionId) ?_
    rintro ⟨_, _, _, missing, _⟩
    contradiction

/-- In a run whose SETUP requests all fit, no track ever has an orphan, and these
are the only such runs. -/
theorem noOrphans_iff_fits {mediaSources : MediaSources} {availablePorts : List Int}
    (fresh : ∀ ref t, mediaSources.track ref = some t → ∀ sessionId, ¬ t.HasConsumer sessionId)
    {trace : List (Event C)} :
    (∀ s, Transition.Run (Transition.Guarded Fits (Transition.Takes act))
        (start mediaSources availablePorts) trace s → s.server.NoOrphans) ∧
    ∀ s : Site C,
      Transition.Run (fun s event s' => act s event = some s' ∧ s'.server.NoOrphans)
        (start mediaSources availablePorts) trace s →
      Transition.Run (Transition.Guarded Fits (Transition.Takes act))
        (start mediaSources availablePorts) trace s := by
  have initial := @start_clean C mediaSources availablePorts fresh
  refine Transition.Run.guarded_iff (I := fun s : Site C => s.server.registry.Sound TrackRef.track)
    (P := fun s : Site C => s.server.NoOrphans) initial.1 initial.2 (fun sound clean taken => ?_) trace
  have moves := act_moves sound taken
  exact ⟨noOrphans_of_moves moves sound clean, fun _ => sound_of_moves moves sound⟩

/-- Two streams whose tracks have the same name. -/
def twoStreams : MediaSources :=
  (AList.singleton "a".toList (AList.singleton "v".toList (.new .h264 "v".toList "a.264"))).insert
    "b".toList (AList.singleton "v".toList (.new .h264 "v".toList "b.264"))

def setupTurn (stream sessionHeader : String) : ConnectionHandler.Turn where
  received := some ("SETUP rtsp://host:554/".toList ++ stream.toList ++ "/v RTSP/1.0\r\n".toList ++
    sessionHeader.toList ++ "Transport: RTP/AVP;unicast;client_port=5000-5001\r\n\r\n".toList)
  env := ⟨0, 0, .ok (), fun _ => true⟩
  send := .whole

theorem twoStreams_fresh (ref : TrackRef) (t : MediaTrack) (found : twoStreams.track ref = some t)
    (sessionId : SessionId) : ¬ t.HasConsumer sessionId := by
  obtain ⟨tracks, stream, track⟩ := Option.bind_eq_some_iff.mp found
  have all : ∀ source ∈ twoStreams.entries, ∀ entry ∈ source.2.entries,
      entry.2.frameQueue.noConsumer = true := by decide
  exact CircularQueue.notMem_of_noConsumer
    (all _ (AList.mem_lookup_iff.mp stream) _ (AList.mem_lookup_iff.mp track))

/-- One client sets up one stream. -/
theorem noOrphans_iff_fits_one :
    ∃ s : Site Unit, s.server.NoOrphans ∧ s.server.sessions.keys = ["0000000000000000".toList] := by
  have outcome : (((start twoStreams [7000] : Site Unit).act (.connect () "10.0.0.1".toList)).bind
      (·.act (.turn () (setupTurn "a" "")))).map (·.server.sessions.keys) =
        some ["0000000000000000".toList] := by decide +kernel
  obtain ⟨s, taken, keys⟩ := Option.map_eq_some_iff.mp outcome
  obtain ⟨connected, first, second⟩ := Option.bind_eq_some_iff.mp taken
  obtain rfl := Option.some.inj first
  have run : Transition.Run (Transition.Guarded Fits (Transition.Takes act)) (start twoStreams [7000])
      ([] ++ [.connect () "10.0.0.1".toList] ++ [.turn () (setupTurn "a" "")]) s :=
    .snoc (.snoc .start ⟨fun _ _ => nofun, first⟩) ⟨fun _ _ _ => .inr ⟨rfl, rfl⟩, second⟩
  exact ⟨s, (noOrphans_iff_fits twoStreams_fresh).1 s run, keys⟩

/-- A client sets up the track of one stream and then, in the same session, the
track of that name of another: the first track keeps a consumer that no handler
stands for. -/
theorem setup_of_same_name_orphans :
    ¬ ∀ (trace : List (Event Unit)) (s : Site Unit),
      Transition.Run (Transition.Takes act) (start twoStreams [7000]) trace s → s.server.NoOrphans := by
  intro claim
  obtain ⟨trace, outcome⟩ : ∃ trace : List (Event Unit),
      (trace.foldlM act (start twoStreams [7000])).map (fun s =>
        (s.server.sessions.entries.map fun entry =>
            entry.2.sessionHandlers.entries.map (·.2.mediaTrack),
          (s.server.mediaSources.track ⟨"a".toList, "v".toList⟩).map fun t =>
            t.frameQueue.consumerPositions.keys)) =
        some ([[⟨"b".toList, "v".toList⟩]], some ["0000000000000000".toList]) :=
    ⟨[.connect () "10.0.0.1".toList, .turn () (setupTurn "a" ""),
      .turn () (setupTurn "b" "Session: 0000000000000000\r\n")], by decide +kernel⟩
  obtain ⟨s, done, same⟩ := Option.map_eq_some_iff.mp outcome
  obtain ⟨handlers, consumers⟩ := Prod.mk.inj same
  obtain ⟨t, found, keys⟩ := Option.map_eq_some_iff.mp consumers
  have has : t.HasConsumer "0000000000000000".toList := by
    show _ ∈ t.frameQueue.consumerPositions
    rw [AList.mem_keys, keys]
    exact List.mem_singleton_self _
  obtain ⟨session, name, h, here, handler, track⟩ := (claim trace s (.of_foldlM done) _ t found _).mp has
  have listed : session.sessionHandlers.entries.map (·.2.mediaTrack) ∈
      s.server.sessions.entries.map fun entry => entry.2.sessionHandlers.entries.map (·.2.mediaTrack) :=
    List.mem_map_of_mem (AList.mem_lookup_iff.mp here)
  have one : h.mediaTrack ∈ session.sessionHandlers.entries.map (·.2.mediaTrack) :=
    List.mem_map.mpr ⟨⟨name, h⟩, AList.mem_lookup_iff.mp handler, rfl⟩
  rw [handlers] at listed
  rw [List.mem_singleton.mp listed, track] at one
  exact absurd one (by decide)

end Site
end TinyRtsp
