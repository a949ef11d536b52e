import TinyRtsp.Server.Consumers
import TinyRtsp.Server.Handling

/-! `handle_setup` in every case it has: what each failure leaves changed in the
port pool, the sessions, the consumers and the connection. -/
namespace TinyRtsp

/-- `create_session` unless the session exists. -/
def Server.join (server : Server) (sessionId : SessionId) : Server :=
  if server.sessionExists sessionId then server else server.createSession sessionId

theorem Server.lookup_join (server : Server) (sessionId viewer : SessionId) :
    (server.join sessionId).sessions.lookup viewer =
      if viewer = sessionId then some ((server.sessions.lookup sessionId).getD .new)
      else server.sessions.lookup viewer := by
  unfold join sessionExists
  cases known : server.sessions.lookup sessionId with
  | some s =>
    rw [Option.isSome_some, if_pos rfl, Option.getD_some]
    split
    · subst viewer
      exact known
    · rfl
  | none =>
    rw [Option.isSome_none, if_neg Bool.false_ne_true, Option.getD_none, createSession]
    split
    · subst viewer
      exact AList.lookup_insert _
    · exact AList.lookup_insert_ne ‹_›

theorem Server.mediaSources_join (server : Server) (sessionId : SessionId) :
    (server.join sessionId).mediaSources = server.mediaSources := by
  unfold join
  split <;> rfl

theorem Server.availablePorts_join (server : Server) (sessionId : SessionId) :
    (server.join sessionId).availablePorts = server.availablePorts := by
  unfold join
  split <;> rfl

namespace ConnectionHandler
variable {env : Env} {request response : RtspMessage} {w : World} {url : RtspUrl} {client : ClientPorts}
  {t : MediaTrack}

def sessionHeader (request : RtspMessage) : SessionId := request.getHeaderValue "Session".toList

/-- The session a SETUP request is for: the one it names, or a new one. -/
def setupId (env : Env) (request : RtspMessage) : SessionId :=
  if sessionHeader request = [] then generateUniqueSessionId env else sessionHeader request

/-- The state in which the handler looks for the stream: a pair of ports is taken,
and a new id is remembered. -/
def prepared (env : Env) (request : RtspMessage) (url : RtspUrl) (w : World) : World where
  server := w.server.allocatePortPair.2
  connection := { w.connection with
    url := url
    sessionId := if sessionHeader request = [] then generateUniqueSessionId env
      else w.connection.sessionId }

/-- Both parts of the request that can be refused have been read. -/
structure Reads (request : RtspMessage) (url : RtspUrl) (client : ClientPorts) : Prop where
  url : parseUrl request.requestUri = .ok url
  client : parseTransport (request.getHeaderValue "Transport".toList) = .ok client

theorem handleSetup_url {e : Exception} (failed : parseUrl request.requestUri = .error e) :
    (handleSetup env request response).run w = .error (.exception e) w := by
  simp only [handleSetup, parseUrlOf, failed]
  rfl

theorem handleSetup_transport {e : Exception} (read : parseUrl request.requestUri = .ok url)
    (failed : parseTransport (request.getHeaderValue "Transport".toList) = .error e) :
    (handleSetup env request response).run w =
      .error (.exception e) { w with connection.url := url } := by
  simp only [handleSetup, parseUrlOf, read, failed]
  rfl

theorem sessionIdOf_run : (sessionIdOf env request).run w = .ok (setupId env request)
    { w with connection.sessionId := if sessionHeader request = [] then
        generateUniqueSessionId env else w.connection.sessionId } := by
  unfold sessionIdOf setupId sessionHeader
  dsimp only
  split
  · rfl
  · rfl

theorem parseUrlOf_run (read : parseUrl request.requestUri = .ok url) :
    (parseUrlOf request).run w = .ok url { w with connection.url := url } := by
  simp only [parseUrlOf, read]
  rfl

theorem attempt_run {A : Type} {a : A} {result : Except Exception A} (done : result = .ok a) :
    (attempt result).run w = .ok a w := by
  rw [done]
  rfl

theorem allocatePortPair_run : allocatePortPair.run w =
    .ok w.server.allocatePortPair.1 { w with server := w.server.allocatePortPair.2 } := rfl

theorem mediaSources_prepared (env : Env) (request : RtspMessage) (url : RtspUrl) (w : World) :
    (prepared env request url w).server.mediaSources = w.server.mediaSources := by
  simp only [prepared, Server.allocatePortPair]
  split <;> rfl

theorem sessions_prepared (env : Env) (request : RtspMessage) (url : RtspUrl) (w : World) :
    (prepared env request url w).server.sessions = w.server.sessions := by
  simp only [prepared, Server.allocatePortPair]
  split <;> rfl

theorem availablePorts_prepared (env : Env) (request : RtspMessage) (url : RtspUrl) (w : World) :
    (prepared env request url w).server.availablePorts = w.server.availablePorts.tail := by
  simp only [prepared, Server.allocatePortPair]
  split
  · rename_i empty
    rw [empty, List.tail_nil]
  · rename_i filled
    rw [filled, List.tail_cons]

theorem handleSetup_missing (reads : Reads request url client)
    (missing : w.server.mediaSources.track ⟨url.app, url.track⟩ = none) :
    (handleSetup env request response).run w =
      .ok (reply request response .notFound) (prepared env request url w) := by
  simp only [handleSetup, EStateM.run_bind, parseUrlOf_run reads.url, attempt_run reads.client,
    allocatePortPair_run, sessionIdOf_run, EStateM.run_get]
  have same : w.server.allocatePortPair.2.mediaSources = w.server.mediaSources :=
    mediaSources_prepared env request url w
  rw [same]
  cases source : w.server.mediaSources.lookup url.app with
  | none => rfl
  | some tracks =>
    have absent : tracks.lookup url.track = none := by
      rw [MediaSources.track, source] at missing
      exact missing
    simp only [absent]
    rfl

def rtpConfig (w : World) (client : ClientPorts) (t : MediaTrack) : RtpRtcpConfig where
  serverRtpPort := w.server.allocatePortPair.1
  serverRtcpPort := w.server.allocatePortPair.1 + 1
  ip := w.connection.clientIp
  rtpPort := client.rtp
  rtcpPort := client.rtcp
  timestampIncrement := t.mediaType.timestampIncrement

/-- `add_media_track` for the session the request is for. -/
def setupAdds (env : Env) (request : RtspMessage) (url : RtspUrl) (client : ClientPorts)
    (t : MediaTrack) (w : World) : Outcome Server :=
  ((prepared env request url w).server.join (setupId env request)).addMediaTrack
    (setupId env request) ⟨url.app, url.track⟩ (env.constructs.map fun _ => rtpConfig w client t)

def setupAnswer (env : Env) (request response : RtspMessage) (client : ClientPorts) (w : World) :
    RtspMessage :=
  ((reply request response .ok).setHeaders "Transport".toList
    ("RTP/AVP;unicast;client_port=".toList ++ client.range ++ ";server_port=".toList ++
      Text.decimalInt w.server.allocatePortPair.1 ++ "-".toList ++
      Text.decimalInt (w.server.allocatePortPair.1 + 1))).setHeaders
    "Session".toList (setupId env request)

theorem act_answer (call : Server → Outcome Server) {answer : RtspMessage} :
    match call w.server with
    | .returned server => (act call >>= fun _ => pure answer).run w = .ok answer { w with server }
    | .thrown e server => (act call >>= fun _ => pure answer).run w =
        .error (.exception e) { w with server }
    | .terminated => ∃ left, (act call >>= fun _ => pure answer).run w = .error .terminate left := by
  simp only [act, bind_assoc, EStateM.run_bind, EStateM.run_get]
  cases call w.server with
  | returned server => rfl
  | thrown e server => rfl
  | terminated => exact ⟨w, rfl⟩

theorem handleSetup_found (env : Env) (response : RtspMessage) (reads : Reads request url client)
    (found : w.server.mediaSources.track ⟨url.app, url.track⟩ = some t) :
    match setupAdds env request url client t w with
    | .returned server => (handleSetup env request response).run w =
        .ok (setupAnswer env request response client w) { prepared env request url w with server }
    | .thrown e server => (handleSetup env request response).run w =
        .error (.exception e) { prepared env request url w with server }
    | .terminated => ∃ left, (handleSetup env request response).run w = .error .terminate left := by
  have tracks : ∃ tracks, w.server.allocatePortPair.2.mediaSources.lookup url.app = some tracks ∧
      tracks.lookup url.track = some t := by
    have same : w.server.allocatePortPair.2.mediaSources = w.server.mediaSources :=
      mediaSources_prepared env request url w
    rw [same]
    exact Option.bind_eq_some_iff.mp found
  obtain ⟨tracks, source, found⟩ := tracks
  let adds (server : Server) := server.addMediaTrack (setupId env request) ⟨url.app, url.track⟩
    (env.constructs.map fun _ => rtpConfig w client t)
  let joined : World := { prepared env request url w with
    server := (prepared env request url w).server.join (setupId env request) }
  have run : (handleSetup env request response).run w =
      (act adds >>= fun _ => pure (setupAnswer env request response client w)).run joined := by
    simp only [handleSetup, EStateM.run_bind, parseUrlOf_run reads.url, attempt_run reads.client,
      allocatePortPair_run, sessionIdOf_run, EStateM.run_get, source, found, joined, Server.join,
      prepared]
    by_cases known : w.server.allocatePortPair.2.sessionExists (setupId env request) = true
    · simp only [known, Bool.not_true, Bool.false_eq_true, if_false, if_true]
      rfl
    · simp only [known, Bool.not_false, if_true]
      rfl
  rw [run]
  exact act_answer (w := joined) adds

theorem setupAdds_eq : setupAdds env request url client t w =
    ((((w.server.sessions.lookup (setupId env request)).getD .new).addMediaTrack url.track
      ⟨url.app, url.track⟩ (env.constructs.map fun _ => rtpConfig w client t)).map fun s =>
        { mediaSources := w.server.mediaSources.modifyTrack ⟨url.app, url.track⟩
            (MediaTrack.registerSession (setupId env request))
          sessions := ((prepared env request url w).server.join (setupId env request)).sessions.insert
            (setupId env request) s
          availablePorts := w.server.availablePorts.tail }) := by
  unfold setupAdds Server.addMediaTrack
  rw [Server.lookup_join, if_pos rfl, Server.mediaSources_join, mediaSources_prepared,
    Server.availablePorts_join, sessions_prepared, availablePorts_prepared]

theorem setupAdds_thrown_iff (env : Env) (request : RtspMessage) (url : RtspUrl)
    (client : ClientPorts) (t : MediaTrack) (w : World) :
    (∃ e s, setupAdds env request url client t w = .thrown e s) ↔ env.constructs ≠ .ok () := by
  rw [setupAdds_eq]
  cases env.constructs with
  | ok =>
    refine iff_of_false ?_ fun differs => differs rfl
    rintro ⟨e, s, thrown⟩
    simp only [Session.addMediaTrack, Except.map] at thrown
    split at thrown
    · contradiction
    · contradiction
  | error e => exact iff_of_true ⟨e, _, rfl⟩ nofun

/-- The port pool, the sessions, the consumers of every track and the connection's
session id are as before. -/
structure Untouched (before after : World) : Prop where
  ports : after.server.availablePorts = before.server.availablePorts
  sessions : ∀ sessionId,
    after.server.sessions.lookup sessionId = before.server.sessions.lookup sessionId
  consumers : ∀ ref sessionId, after.server.mediaSources.Consumes ref sessionId ↔
    before.server.mediaSources.Consumes ref sessionId
  sessionId : after.connection.sessionId = before.connection.sessionId

/-- The request ends with an answer other than 200 OK, or with an exception. -/
def SetupFails (env : Env) (request response : RtspMessage) (before after : World) : Prop :=
  (∃ answer, (handleSetup env request response).run before = .ok answer after ∧
    answer.statusCode ≠ .ok) ∨
  ∃ e, (handleSetup env request response).run before = .error (.exception e) after

/-- No pair of ports is left to take, and no new id to remember. -/
def TakesNothing (env : Env) (request : RtspMessage) (w : World) : Prop :=
  w.server.availablePorts = [] ∧
    (sessionHeader request ≠ [] ∨ generateUniqueSessionId env = w.connection.sessionId)

/-- If the request can be read and fails all the same, there is nothing that it
could change: for a missing track the ports and the remembered id, and when the
sockets fail also the session and its place among the track's consumers. -/
def NothingToUndo (env : Env) (request : RtspMessage) (w : World) : Prop :=
  ∀ url client, Reads request url client →
    match w.server.mediaSources.track ⟨url.app, url.track⟩ with
    | none => TakesNothing env request w
    | some t => env.constructs ≠ .ok () → TakesNothing env request w ∧
        w.server.sessionExists (setupId env request) ∧ t.HasConsumer (setupId env request)

theorem prepared_sessionId :
    (prepared env request url w).connection.sessionId = w.connection.sessionId ↔
      sessionHeader request ≠ [] ∨ generateUniqueSessionId env = w.connection.sessionId := by
  simp only [prepared]
  split
  · rename_i absent
    exact ⟨.inr, fun either => either.resolve_left fun given => given absent⟩
  · rename_i given
    exact iff_of_true rfl (.inl given)

theorem tail_eq_self {ports : List Int} : ports.tail = ports ↔ ports = [] := by
  constructor
  · intro same
    have length := congrArg List.length same
    rw [List.length_tail] at length
    apply List.eq_nil_of_length_eq_zero
    omega
  · rintro rfl
    rfl

theorem untouched_prepared (env : Env) (request : RtspMessage) (url : RtspUrl) (w : World) :
    Untouched w (prepared env request url w) ↔ TakesNothing env request w := by
  constructor
  · intro untouched
    refine ⟨tail_eq_self.mp ?_, prepared_sessionId.mp untouched.sessionId⟩
    rw [← availablePorts_prepared env request url w]
    exact untouched.ports
  · rintro ⟨empty, remembered⟩
    constructor
    · rw [availablePorts_prepared, empty, List.tail_nil]
    · intro sessionId
      rw [sessions_prepared]
    · intro ref sessionId
      rw [mediaSources_prepared]
    · exact prepared_sessionId.mpr remembered

/-- Sockets that fail leave the session and its place among the consumers as well. -/
theorem untouched_thrown {s : Server} {e : Exception}
    (found : w.server.mediaSources.track ⟨url.app, url.track⟩ = some t)
    (thrown : setupAdds env request url client t w = .thrown e s) :
    Untouched w { prepared env request url w with server := s } ↔
      TakesNothing env request w ∧ w.server.sessionExists (setupId env request) ∧
        t.HasConsumer (setupId env request) := by
  have left : s =
      { mediaSources := w.server.mediaSources.modifyTrack ⟨url.app, url.track⟩
          (MediaTrack.registerSession (setupId env request))
        sessions := ((prepared env request url w).server.join (setupId env request)).sessions.insert
          (setupId env request) ((w.server.sessions.lookup (setupId env request)).getD .new)
        availablePorts := w.server.availablePorts.tail } := by
    rw [setupAdds_eq] at thrown
    cases sockets : env.constructs with
    | ok =>
      rw [sockets] at thrown
      simp only [Session.addMediaTrack, Except.map] at thrown
      split at thrown
      · contradiction
      · contradiction
    | error e =>
      rw [sockets] at thrown
      exact (Outcome.thrown.inj thrown).2.symm
  subst left
  have live : (w.server.mediaSources.track ⟨url.app, url.track⟩).isSome := by
    rw [found]
    rfl
  have sessions (viewer : SessionId) :
      (((prepared env request url w).server.join (setupId env request)).sessions.insert
          (setupId env request) ((w.server.sessions.lookup (setupId env request)).getD .new)).lookup
            viewer =
        if viewer = setupId env request then
          some ((w.server.sessions.lookup (setupId env request)).getD .new)
        else w.server.sessions.lookup viewer := by
    split
    · subst viewer
      exact AList.lookup_insert _
    · rename_i other
      rw [AList.lookup_insert_ne other, Server.lookup_join, if_neg other, sessions_prepared]
  constructor
  · intro untouched
    refine ⟨⟨tail_eq_self.mp untouched.ports, prepared_sessionId.mp untouched.sessionId⟩, ?_, ?_⟩
    · have same := untouched.sessions (setupId env request)
      dsimp only at same
      rw [sessions, if_pos rfl] at same
      rw [Server.sessionExists, ← same]
      rfl
    · have same := untouched.consumers ⟨url.app, url.track⟩ (setupId env request)
      dsimp only at same
      obtain ⟨u, here, has⟩ := same.mp ((MediaSources.consumes_register live).mpr (.inl ⟨rfl, rfl⟩))
      obtain rfl := Option.some.inj (found.symm.trans here)
      exact has
  · rintro ⟨⟨empty, remembered⟩, exists_, has⟩
    constructor
    · dsimp only
      rw [empty, List.tail_nil]
    · intro viewer
      dsimp only
      rw [sessions]
      split
      · subst viewer
        obtain ⟨session, known⟩ := Option.isSome_iff_exists.mp exists_
        rw [known, Option.getD_some]
      · rfl
    · intro ref viewer
      refine (MediaSources.consumes_register live).trans ?_
      constructor
      · rintro (⟨rfl, rfl⟩ | before)
        · exact ⟨t, found, has⟩
        · exact before
      · exact .inr
    · exact prepared_sessionId.mpr remembered

theorem fails_of_error {e : Exception} {left after : World}
    (ended : (handleSetup env request response).run w = .error (.exception e) left) :
    SetupFails env request response w after ↔ after = left := by
  unfold SetupFails
  rw [ended]
  constructor
  · rintro (⟨_, other, _⟩ | ⟨_, same⟩)
    · contradiction
    · exact (EStateM.Result.error.inj same).2.symm
  · rintro rfl
    exact .inr ⟨e, rfl⟩

/-- A SETUP request that fails leaves everything as it was exactly when there was
nothing that it could change. -/
theorem setup_atomic_iff (env : Env) (request response : RtspMessage) (w : World) :
    (∀ after, SetupFails env request response w after → Untouched w after) ↔
      NothingToUndo env request w := by
  have harmless {e : Exception} {left : World}
      (ended : (handleSetup env request response).run w = .error (.exception e) left)
      (same : left.server = w.server ∧ left.connection.sessionId = w.connection.sessionId)
      (unread : ∀ url client, ¬ Reads request url client) :
      (∀ after, SetupFails env request response w after → Untouched w after) ↔
        NothingToUndo env request w := by
    refine iff_of_true (fun after fails => ?_) fun url client reads => absurd reads (unread url client)
    obtain rfl := (fails_of_error ended).mp fails
    obtain ⟨server, sessionId⟩ := same
    exact ⟨by rw [server], fun _ => by rw [server], fun _ _ => by rw [server], sessionId⟩
  cases read : parseUrl request.requestUri with
  | error e =>
    refine harmless (handleSetup_url read) ⟨rfl, rfl⟩ fun url client reads => ?_
    exact nomatch read.symm.trans reads.url
  | ok url =>
    cases understood : parseTransport (request.getHeaderValue "Transport".toList) with
    | error e =>
      refine harmless (handleSetup_transport read understood) ⟨rfl, rfl⟩ fun url client reads => ?_
      exact nomatch understood.symm.trans reads.client
    | ok client =>
      have reads : Reads request url client := ⟨read, understood⟩
      have only : NothingToUndo env request w ↔
          match w.server.mediaSources.track ⟨url.app, url.track⟩ with
          | none => TakesNothing env request w
          | some t => env.constructs ≠ .ok () → TakesNothing env request w ∧
              w.server.sessionExists (setupId env request) ∧ t.HasConsumer (setupId env request) := by
        constructor
        · exact fun all => all url client reads
        · intro one other ports again
          obtain rfl := Except.ok.inj (read.symm.trans again.url)
          exact one
      rw [only]
      cases found : w.server.mediaSources.track ⟨url.app, url.track⟩ with
      | none =>
        have ended : (handleSetup env request response).run w =
            .ok (reply request response .notFound) (prepared env request url w) :=
          handleSetup_missing reads found
        rw [← untouched_prepared env request url w]
        constructor
        · exact fun all => all _ (.inl ⟨_, ended, nofun⟩)
        · rintro untouched after (⟨answer, same, _⟩ | ⟨e, same⟩)
          · obtain ⟨_, rfl⟩ := EStateM.Result.ok.inj (ended.symm.trans same)
            exact untouched
          · exact nomatch ended.symm.trans same
      | some t =>
        have spec := handleSetup_found env response reads found
        dsimp only
        rw [← setupAdds_thrown_iff env request url client t w]
        cases outcome : setupAdds env request url client t w with
        | returned server =>
          rw [outcome] at spec
          refine iff_of_true ?_ nofun
          rintro after (⟨answer', same, refused⟩ | ⟨e, same⟩)
          · obtain ⟨rfl, _⟩ := EStateM.Result.ok.inj (spec.symm.trans same)
            exact absurd rfl refused
          · exact nomatch spec.symm.trans same
        | terminated =>
          rw [outcome] at spec
          obtain ⟨left, ended⟩ := spec
          refine iff_of_true ?_ nofun
          rintro after (⟨answer', same, refused⟩ | ⟨e, same⟩)
          · exact nomatch ended.symm.trans same
          · exact nomatch ended.symm.trans same
        | thrown e server =>
          rw [outcome] at spec
          rw [← untouched_thrown found outcome]
          constructor
          · exact fun all _ => all _ (.inr ⟨e, spec⟩)
          · intro untouched after fails
            obtain rfl := (fails_of_error spec).mp fails
            exact untouched ⟨e, server, rfl⟩

/-- SETUP for a track that the stream does not have is answered 404 and keeps a
pair of ports. -/
theorem setup_of_missing_track_leaks :
    ¬ ∀ (env : Env) (request response : RtspMessage) (before after : World),
      SetupFails env request response before after → Untouched before after := by
  intro claim
  let sources : MediaSources :=
    AList.singleton "a".toList (AList.singleton "v".toList (.new .h264 "v".toList "a.264"))
  let before : World := ⟨⟨sources, ∅, [15000, 15002]⟩, ⟨"10.0.0.1".toList, [], .empty, [], []⟩⟩
  let request : RtspMessage := { RtspMessage.new with
    method := .setup, requestUri := "rtsp://host:554/a/w".toList }
  have outcome : (match (handleSetup ⟨0, 0, .ok (), fun _ => true⟩ request .new).run before with
      | .ok answer after => some (answer.statusCode, after.server.availablePorts)
      | .error _ _ => none) = some (.notFound, [15002]) := by decide +kernel
  split at outcome
  · rename_i answer after ended
    obtain ⟨status, ports⟩ := Prod.mk.inj (Option.some.inj outcome)
    have untouched := claim _ _ _ before after (.inl ⟨answer, ended, by rw [status]; decide⟩)
    have same := untouched.ports
    rw [ports] at same
    exact absurd same (by decide)
  · contradiction

end ConnectionHandler
end TinyRtsp
