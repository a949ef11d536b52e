import TinyRtsp.Server.Orphans
import TinyRtsp.Server.Setup

/-! The port pool, the sessions with the server ports of their handlers, and the
session id a connection remembers: what every request does to them. -/
namespace TinyRtsp

def Session.ports {Track : Type} (s : Session Track RtpRtcpConfig) : TrackName → Option Int :=
  fun name => (s.handler name).map (·.rtpRtcpHandler.serverRtpPort)

structure Accounts where
  available : List Int
  held : SessionId → Option (TrackName → Option Int)

def Server.accounts (server : Server) : Accounts where
  available := server.availablePorts
  held sessionId := (server.sessions.lookup sessionId).map Session.ports

namespace Accounts
variable {accounts : Accounts} {sessionId : SessionId}

/-- The new handler's port, unless its constructor throws. -/
def withPort (ports : TrackName → Option Int) (name : TrackName) (port : Int) :
    Except Exception Unit → TrackName → Option Int
  | .ok _ => Function.update ports name (some port)
  | .error _ => ports

/-- SETUP of a track: a pair of ports is taken whether or not the track is found,
and the session is made before the sockets are opened. -/
def setup (accounts : Accounts) (sessionId : SessionId) (name : TrackName) (found : Bool)
    (constructs : Except Exception Unit) : Accounts where
  available := accounts.available.tail
  held :=
    if found then
      Function.update accounts.held sessionId (some (withPort
        ((accounts.held sessionId).getD fun _ => none) name (accounts.available.headD (-1)) constructs))
    else accounts.held

def terminate (accounts : Accounts) (sessionId : SessionId) : Accounts :=
  { accounts with held := Function.update accounts.held sessionId none }

theorem terminate_absent (absent : accounts.held sessionId = none) :
    accounts.terminate sessionId = accounts := by
  have same : Function.update accounts.held sessionId none = accounts.held := by
    rw [← absent, Function.update_eq_self]
  rw [terminate, same]

end Accounts

namespace Server
variable {server after : Server} {sessionId : SessionId}

theorem held_accounts (server : Server) (sessionId : SessionId) :
    server.accounts.held sessionId = (server.sessions.lookup sessionId).map Session.ports := rfl

theorem accounts_eq {accounts : Accounts} (available : server.availablePorts = accounts.available)
    (held : ∀ viewer, (server.sessions.lookup viewer).map Session.ports = accounts.held viewer) :
    server.accounts = accounts := by
  have all : server.accounts.held = accounts.held := funext held
  calc server.accounts
      = ⟨server.availablePorts, server.accounts.held⟩ := rfl
    _ = accounts := by rw [available, all]

theorem accounts_pauseSession : (server.pauseSession sessionId).accounts = server.accounts := by
  refine accounts_eq rfl fun viewer => ?_
  rw [pauseSession, Table.lookup_modify]
  split
  · rw [Option.map_map]
    refine congrArg (Option.map · _) (funext fun s => funext fun name => ?_)
    simp only [Function.comp, Session.ports, Session.handler_pause, Option.map_map]
    rfl
  · rfl

theorem accounts_startSession {opens : TrackRef → Bool}
    (left : (server.startSession opens sessionId).session = some after) :
    after.accounts = server.accounts := by
  obtain ⟨s, sources, started, found, ended, rfl⟩ := startSession_session left
  obtain ⟨_, fixed⟩ := Session.start_keeps (P := fun _ => True) (fun _ _ => trivial) trivial ended
  refine accounts_eq rfl fun viewer => ?_
  show ((server.sessions.insert sessionId started).lookup viewer).map Session.ports = _
  by_cases same : viewer = sessionId
  · subst viewer
    rw [AList.lookup_insert, held_accounts, found, Option.map_some, Option.map_some]
    refine congrArg some (funext fun name => ?_)
    have ports := congrArg (Option.map fun fixed => fixed.2.serverRtpPort) (fixed name)
    rw [Option.map_map, Option.map_map] at ports
    exact ports
  · rw [AList.lookup_insert_ne same]
    rfl

theorem accounts_terminateSession :
    (server.terminateSession sessionId).accounts = server.accounts.terminate sessionId := by
  unfold terminateSession
  cases found : server.sessions.lookup sessionId with
  | none =>
    have absent : server.accounts.held sessionId = none := by
      rw [held_accounts, found, Option.map_none]
    exact (Accounts.terminate_absent absent).symm
  | some s =>
    refine accounts_eq rfl fun viewer => ?_
    show ((server.sessions.erase sessionId).lookup viewer).map Session.ports =
      Function.update server.accounts.held sessionId none viewer
    by_cases same : viewer = sessionId
    · subst viewer
      rw [AList.lookup_erase, Function.update_self]
      rfl
    · rw [AList.lookup_erase_ne same, Function.update_of_ne same]
      rfl

theorem accounts_thread {step : ThreadStep} (taken : server.thread step = some after) :
    after.accounts = server.accounts := by
  rcases thread_cases taken with ⟨ref, t, frameQueue, _, _, rfl⟩ | ⟨viewer, name, rfl⟩
  · rfl
  · refine accounts_eq rfl fun other => ?_
    show ((server.sessions.modify viewer (·.senderEnds name)).lookup other).map Session.ports = _
    rw [Table.lookup_modify]
    split
    · rw [Option.map_map]
      refine congrArg (Option.map · _) (funext fun s => funext fun track => ?_)
      have same := congrArg (Option.map fun kept => kept.2.serverRtpPort) (s.senderEnds_keeps name track)
      rw [Option.map_map, Option.map_map] at same
      exact same
    · rfl

end Server

namespace ConnectionHandler
variable {env : Env} {request response : RtspMessage} {w : World} {url : RtspUrl} {client : ClientPorts}
  {t : MediaTrack}

theorem accounts_prepared (env : Env) (request : RtspMessage) (url : RtspUrl) (w : World) :
    (prepared env request url w).server.accounts =
      w.server.accounts.setup (setupId env request) url.track false env.constructs := by
  refine Server.accounts_eq (availablePorts_prepared env request url w) fun viewer => ?_
  rw [sessions_prepared]
  rfl

theorem allocatePortPair_fst (server : Server) :
    server.allocatePortPair.1 = server.availablePorts.headD (-1) := by
  unfold Server.allocatePortPair
  split
  · rename_i empty
    rw [empty, List.headD_nil]
  · rename_i filled
    rw [filled, List.headD_cons]

theorem ports_addMediaTrack {before after : Session TrackRef RtpRtcpConfig} {name : TrackName}
    {ref : TrackRef} {constructs : Except Exception Unit}
    (added : (before.addMediaTrack name ref
      (constructs.map fun _ => rtpConfig w client t)).session = some after) :
    after.ports =
      Accounts.withPort before.ports name (w.server.availablePorts.headD (-1)) constructs := by
  cases constructs with
  | error e =>
    obtain rfl := Option.some.inj added
    rfl
  | ok =>
    simp only [Session.addMediaTrack, Except.map] at added
    split at added
    · contradiction
    · obtain rfl := Option.some.inj added
      funext other
      rw [Session.ports, Session.handler_set, Accounts.withPort]
      by_cases same : other = name
      · subst other
        rw [if_pos rfl, Function.update_self, Option.map_some, rtpConfig, allocatePortPair_fst]
      · rw [if_neg same, Function.update_of_ne same]
        rfl

theorem accounts_setupAdds {after : Server}
    (left : (setupAdds env request url client t w).session = some after) :
    after.accounts =
      w.server.accounts.setup (setupId env request) url.track true env.constructs := by
  rw [setupAdds_eq, Outcome.session_map] at left
  obtain ⟨s, added, rfl⟩ := Option.map_eq_some_iff.mp left
  refine Server.accounts_eq rfl fun viewer => ?_
  dsimp only
  show _ = Function.update w.server.accounts.held (setupId env request) _ viewer
  by_cases same : viewer = setupId env request
  · subst viewer
    rw [AList.lookup_insert, Function.update_self, Option.map_some]
    have old : (w.server.accounts.held (setupId env request)).getD (fun _ => none) =
        ((w.server.sessions.lookup (setupId env request)).getD .new).ports := by
      rw [Server.held_accounts]
      cases w.server.sessions.lookup (setupId env request) with
      | none => rfl
      | some known => rfl
    rw [old]
    exact congrArg some (ports_addMediaTrack added)
  · rw [AList.lookup_insert_ne same, Function.update_of_ne same, Server.lookup_join, if_neg same,
      sessions_prepared]
    rfl

/-- What a turn asks of the accounts. -/
inductive Demand where
  | nothing
  | setup (request : RtspMessage) (url : RtspUrl)
  | terminate (sessionId : SessionId)

def Demand.asked : Demand → Option (RtspMessage × RtspUrl)
  | .setup request url => some (request, url)
  | _ => none

def Demand.of (request : RtspMessage) : Demand :=
  match request.method with
  | .setup =>
    match parseUrl request.requestUri, parseTransport (request.getHeaderValue "Transport".toList) with
    | .ok url, .ok _ => .setup request url
    | _, _ => .nothing
  | .teardown => .terminate (sessionHeader request)
  | _ => .nothing

def requestOf (turn : Turn) : Option RtspMessage := do
  let bytes ← turn.received
  match RtspMessage.parse (bytes.takeWhile (· != '\x00')) with
  | .ok request => request
  | .error _ => none

def demand (turn : Turn) : Demand := (requestOf turn).elim .nothing .of

def Demand.accounts (env : Env) (server : Server) : Demand → Accounts
  | nothing => server.accounts
  | setup request url => server.accounts.setup (setupId env request) url.track
      (server.mediaSources.track ⟨url.app, url.track⟩).isSome env.constructs
  | terminate sessionId => server.accounts.terminate sessionId

def Demand.remembers (env : Env) (sessionId : SessionId) : Demand → SessionId
  | setup request _ => if sessionHeader request = [] then generateUniqueSessionId env else sessionId
  | _ => sessionId

structure Stands (accounts : Accounts) (sessionId : SessionId) (w : World) : Prop where
  accounts : w.server.accounts = accounts
  sessionId : w.connection.sessionId = sessionId

def Settled (env : Env) (before : World) (asked : Demand) : World → Prop :=
  Stands (asked.accounts env before.server) (asked.remembers env before.connection.sessionId)

section Handlers
variable {accounts : Accounts} {sessionId : SessionId}

theorem handleDescribe_stands : Triple (Stands accounts sessionId) (handleDescribe env request response)
    (fun _ => Stands accounts sessionId) (Unless (Stands accounts sessionId)) := by
  have parsed : Triple (Stands accounts sessionId) (parseUrlOf request)
      (fun _ => Stands accounts sessionId) (Unless (Stands accounts sessionId)) := by
    refine attempt_then (fun url _ => ?_) fun _ _ _ here _ => here
    refine .bind (.modify (T := fun _ => Stands accounts sessionId) fun _ here => ?_) fun _ => ?_
    · exact ⟨here.accounts, here.sessionId⟩
    · exact .pure fun _ here => here
  refine .bind parsed fun url => ?_
  split
  · exact .pure fun _ here => here
  · refine .read fun w => ?_
    split
    · exact .pure fun _ here => here
    · exact .pure fun _ here => here

theorem handlePlay_stands : Triple (Stands accounts sessionId) (handlePlay env request response)
    (fun _ => Stands accounts sessionId) (Unless (Stands accounts sessionId)) := by
  refine .get fun w here => ?_
  have started {after : World} {outcome : Outcome Server} (ended : w.server.startSession env.opens
        (request.getHeaderValue "Session".toList) = outcome)
      (left : outcome.session = some after.server)
      (same : after.connection = w.connection) : Stands accounts sessionId after := by
    rw [← ended] at left
    exact ⟨(Server.accounts_startSession left).trans here.accounts, by rw [same, here.sessionId]⟩
  split
  · refine .bind (.weaken (act_spec _ w) (fun _ => id) (fun _ after ended => ?_)
      fun failure after ended lives => ?_) fun _ => .pure fun _ => id
    · exact started ended.1 rfl ended.2
    · cases failure with
      | terminate => exact absurd rfl lives
      | exception e => exact started ended.2 rfl ended.1
  · exact .pure fun _ same => same ▸ here

theorem handlePause_stands : Triple (Stands accounts sessionId) (handlePause request response)
    (fun _ => Stands accounts sessionId) (Unless (Stands accounts sessionId)) := by
  refine .read fun w => ?_
  split
  · refine .bind (.modify (T := fun _ => Stands accounts sessionId) fun w here => ?_)
      fun _ => .pure fun _ here => here
    exact ⟨Server.accounts_pauseSession.trans here.accounts, here.sessionId⟩
  · exact .pure fun _ here => here

theorem handleTeardown_stands (w : World) : Triple (· = w) (handleTeardown request response)
    (fun _ => Stands (w.server.accounts.terminate (sessionHeader request)) w.connection.sessionId)
    (Unless (Stands (w.server.accounts.terminate (sessionHeader request)) w.connection.sessionId)) := by
  refine .get fun v same => ?_
  subst v
  split
  · refine .bind (.modify (T := fun _ => Stands (w.server.accounts.terminate (sessionHeader request))
      w.connection.sessionId) ?_) fun _ => .pure fun _ here => here
    rintro _ rfl
    exact ⟨Server.accounts_terminateSession, rfl⟩
  · rename_i unknown
    refine .pure fun v same => ?_
    subst v
    refine ⟨(Accounts.terminate_absent ?_).symm, rfl⟩
    rw [Server.held_accounts]
    have absent : w.server.sessions.lookup (sessionHeader request) = none := by
      simpa [Server.sessionExists, sessionHeader] using unknown
    rw [absent, Option.map_none]

theorem handleSetup_settles (w : World) (setup : request.method = .setup) :
    Triple (· = w) (handleSetup env request response)
      (fun _ => Settled env w (.of request)) (Unless (Settled env w (.of request))) := by
  intro v same
  subst v
  cases read : parseUrl request.requestUri with
  | error e =>
    have asked : Demand.of request = .nothing := by
      rw [Demand.of, setup, read]
    rw [handleSetup_url read, asked]
    exact fun _ => ⟨rfl, rfl⟩
  | ok url =>
    cases understood : parseTransport (request.getHeaderValue "Transport".toList) with
    | error e =>
      have asked : Demand.of request = .nothing := by
        rw [Demand.of, setup, read, understood]
      rw [handleSetup_transport read understood, asked]
      exact fun _ => ⟨rfl, rfl⟩
    | ok client =>
      have reads : Reads request url client := ⟨read, understood⟩
      have asked : Demand.of request = .setup request url := by
        rw [Demand.of, setup, read, understood]
      rw [asked]
      cases found : w.server.mediaSources.track ⟨url.app, url.track⟩ with
      | none =>
        rw [handleSetup_missing reads found]
        refine ⟨?_, rfl⟩
        rw [accounts_prepared, Demand.accounts, found]
        rfl
      | some t =>
        have settled {server : Server}
            (left : (setupAdds env request url client t w).session = some server) :
            Settled env w (.setup request url) { prepared env request url w with server } := by
          refine ⟨?_, rfl⟩
          rw [accounts_setupAdds left, Demand.accounts, found]
          rfl
        have spec := handleSetup_found env response reads found
        cases outcome : setupAdds env request url client t w with
        | returned server =>
          rw [outcome] at spec
          rw [spec]
          exact settled (by rw [outcome]; rfl)
        | thrown e server =>
          rw [outcome] at spec
          rw [spec]
          exact fun _ => settled (by rw [outcome]; rfl)
        | terminated =>
          rw [outcome] at spec
          obtain ⟨left, ended⟩ := spec
          rw [ended]
          exact fun lives => absurd rfl lives

theorem dispatch_settles (w : World) : Triple (· = w) (dispatch env request)
    (fun _ => Settled env w (.of request)) (Unless (Settled env w (.of request))) := by
  let v : World := { w with connection.dispatched := w.connection.dispatched ++ [request] }
  have quiet {handler : Handling RtspMessage} (asked : Demand.of request = .nothing)
      (spec : Triple (Stands w.server.accounts w.connection.sessionId) handler
        (fun _ => Stands w.server.accounts w.connection.sessionId)
        (Unless (Stands w.server.accounts w.connection.sessionId))) :
      Triple (· = v) handler (fun _ => Settled env w (.of request))
        (Unless (Settled env w (.of request))) := by
    rw [asked]
    refine spec.weaken ?_ (fun _ _ here => here) fun _ _ here => here
    rintro _ rfl
    exact ⟨rfl, rfl⟩
  refine .bind (.modify (T := fun _ => (· = v)) ?_) fun _ => ?_
  · rintro _ rfl
    rfl
  · dsimp only
    split
    · rename_i method
      exact quiet (by rw [Demand.of, method]) (.pure fun _ here => here)
    · rename_i method
      exact quiet (by rw [Demand.of, method]) handleDescribe_stands
    · rename_i method
      exact handleSetup_settles v method
    · rename_i method
      exact quiet (by rw [Demand.of, method]) handlePlay_stands
    · rename_i method
      exact quiet (by rw [Demand.of, method]) handlePause_stands
    · rename_i method
      have asked : Demand.of request = .terminate (sessionHeader request) := by
        rw [Demand.of, method]
      rw [asked]
      exact handleTeardown_stands v
    · refine quiet ?_ (.pure fun _ here => here)
      unfold Demand.of
      split
      · contradiction
      · contradiction
      · rfl

theorem requestOf_of_receives {t : Turn} (receives : Receives request t) : requestOf t = some request := by
  obtain ⟨bytes, received, parsed⟩ := receives
  rw [requestOf, received]
  simp only [Option.bind_eq_bind, Option.bind_some, parsed]

theorem receives_of_requestOf {t : Turn} (asked : requestOf t = some request) : Receives request t := by
  obtain ⟨bytes, received, parsed⟩ := Option.bind_eq_some_iff.mp asked
  split at parsed
  · rename_i result read
    subst result
    exact ⟨bytes, received, read⟩
  · contradiction

theorem demand_of_receives {t : Turn} (receives : Receives request t) : demand t = .of request := by
  obtain ⟨bytes, received, parsed⟩ := receives
  rw [demand, requestOf, received]
  simp only [Option.bind_eq_bind, Option.bind_some, parsed, Option.elim_some]

theorem demand_of_unread {t : Turn} (unread : ∀ request, ¬ Receives request t) :
    demand t = .nothing := by
  cases asked : requestOf t with
  | none => rw [demand, asked, Option.elim_none]
  | some request =>
    obtain ⟨bytes, received, parsed⟩ := Option.bind_eq_some_iff.mp asked
    split at parsed
    · rename_i result read
      subst result
      exact absurd ⟨bytes, received, read⟩ (unread request)
    · contradiction

theorem turn_settles (t : Turn) (w : World) : Triple (· = w) (turn t)
    (fun _ => Settled t.env w (demand t)) (Unless (Settled t.env w (demand t))) := by
  intro v same
  subst v
  by_cases read : ∃ request, Receives request t
  · obtain ⟨request, receives⟩ := read
    have sends {message : Text} : Triple (Settled t.env w (.of request)) (sendRtspMessage t message)
        (fun _ => Settled t.env w (.of request)) (Unless (Settled t.env w (.of request))) := by
      refine .bind (.modify (T := fun _ => Settled t.env w (.of request)) fun _ here => ?_) fun _ => ?_
      · exact ⟨here.accounts, here.sessionId⟩
      · split
        · exact .pure fun _ here => here
        · exact .throw fun _ here _ => here
        · exact .throw fun _ here _ => here
        · exact .throw fun _ _ lives => absurd rfl lives
    rw [turn_run receives, demand_of_receives receives]
    have answered {goes : Bool} : Triple (Settled t.env w (.of request)) (pure goes : Handling Bool)
        (fun _ => Settled t.env w (.of request)) (Unless (Settled t.env w (.of request))) :=
      .pure fun _ here => here
    exact (dispatch_settles w).bind (fun response => sends.bind fun _ => answered) w rfl
  · have unread request (receives : Receives request t) := read ⟨request, receives⟩
    rw [demand_of_unread unread]
    rcases turn_unread unread with ended | ⟨e, ended⟩
    · rw [ended]
      exact ⟨rfl, rfl⟩
    · rw [ended]
      exact fun _ => ⟨rfl, rfl⟩

end Handlers

end ConnectionHandler

namespace Site
open ConnectionHandler
variable {C : Type}

/-- The demand of a step, with what it meets outside the server: a turn's request,
or the session that a destructor terminates. -/
def demand (s : Site C) : Event C → Demand
  | .turn _ t => ConnectionHandler.demand t
  | .disconnect c => match s.clients c with
    | some client =>
      if client.connection.sessionId ≠ [] then .terminate client.connection.sessionId else .nothing
    | none => .nothing
  | _ => .nothing

def env : Event C → Env
  | .turn _ t => t.env
  | _ => ⟨0, 0, .ok (), fun _ => true⟩

variable [DecidableEq C] {s s' : Site C} {event : Event C}

theorem act_accounts (taken : s.act event = some s') :
    s'.server.accounts = (s.demand event).accounts (env event) s.server := by
  cases event with
  | connect c clientIp =>
    obtain ⟨_, rfl⟩ := act_connect taken
    rfl
  | turn c t =>
    obtain ⟨connection, w, goes, _, rfl, leaves⟩ := act_turn taken
    have settled := leaves (turn_settles t ⟨s.server, connection⟩) rfl
    exact settled.accounts
  | disconnect c =>
    obtain ⟨connection, known, rfl⟩ := act_disconnect taken
    dsimp only [demand]
    rw [known]
    dsimp only
    unfold ConnectionHandler.destroy
    split
    · exact Server.accounts_terminateSession
    · rfl
  | thread step =>
    obtain ⟨server, moved, rfl⟩ := Option.map_eq_some_iff.mp taken
    exact Server.accounts_thread moved

end Site
end TinyRtsp
