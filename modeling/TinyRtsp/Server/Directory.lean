import TinyRtsp.Server.Invariant
import TinyRtsp.Server.Ownership
import TinyRtsp.Server.Pipeline

/-! What the server's answers depend on. A directory knows which streams and tracks
there are, which sessions are live and which id each connection remembers; it follows
the clients' requests alone, and it answers them as the server does. -/
namespace TinyRtsp

/-- The streams, each with the tracks it has. -/
abbrev Catalogue := Text → Option (TrackName → Bool)

namespace Catalogue

def hasStream (catalogue : Catalogue) (stream : Text) : Bool := (catalogue stream).isSome

def hasTrack (catalogue : Catalogue) (ref : TrackRef) : Bool :=
  (catalogue ref.stream).any fun tracks => tracks ref.track

end Catalogue

namespace MediaSources
variable {sources : MediaSources}

def catalogue (sources : MediaSources) : Catalogue :=
  fun stream => (sources.lookup stream).map fun tracks name => (tracks.lookup name).isSome

theorem hasStream_catalogue (sources : MediaSources) (stream : Text) :
    sources.catalogue.hasStream stream = (sources.lookup stream).isSome :=
  Option.isSome_map

theorem hasTrack_catalogue (sources : MediaSources) (ref : TrackRef) :
    sources.catalogue.hasTrack ref = (sources.track ref).isSome := by
  unfold Catalogue.hasTrack catalogue track
  cases sources.lookup ref.stream with
  | none => rfl
  | some tracks => rfl

theorem catalogue_modifyTrack (sources : MediaSources) (ref : TrackRef) (f : MediaTrack → MediaTrack) :
    (sources.modifyTrack ref f).catalogue = sources.catalogue := by
  funext stream
  simp only [catalogue, modifyTrack, Table.lookup_modify]
  split
  · rw [Option.map_map]
    refine congrArg (Option.map · _) (funext fun tracks => funext fun name => ?_)
    simp only [Function.comp, Table.lookup_modify]
    split
    · exact Option.isSome_map
    · rfl
  · rfl

end MediaSources

/-- What no change of a track's state changes about the media sources, no call on the
server changes. -/
theorem Server.preserves_view {V : Type} (view : MediaSources → V)
    (keeps : ∀ sources ref f, view (sources.modifyTrack ref f) = view sources) (v : V) :
    Server.Preserves fun server => view server.mediaSources = v where
  allocatePortPair := by
    intro server here
    unfold allocatePortPair
    split
    · exact here
    · exact here
  createSession := fun _ here => here
  addMediaTrack := by
    intro server after sessionId ref config here left
    obtain ⟨s, added, _, _, rfl⟩ := addMediaTrack_session left
    exact (keeps ..).trans here
  startSession := by
    intro server after sessionId opens here left
    obtain ⟨s, sources, started, _, ended, rfl⟩ := startSession_session left
    refine (Session.start_keeps (P := fun sources => view sources = v) ?_ here ended).1
    intro name ref sources next same left
    obtain ⟨t, u, _, _, rfl⟩ := startTrack_session left
    exact (keeps ..).trans same
  pauseSession := fun _ here => here
  terminateSession := by
    intro server sessionId here
    unfold terminateSession
    split
    · exact here
    · exact List.foldlRecOn (motive := fun sources => view sources = v) _ _ here
        fun sources same entry _ => (keeps ..).trans same
  thread := by
    intro server after step here taken
    rcases thread_cases taken with ⟨ref, t, frameQueue, _, _, rfl⟩ | ⟨sessionId, name, rfl⟩
    · exact (keeps ..).trans here
    · exact here

open ConnectionHandler

structure Directory (C : Type) where
  live : SessionId → Bool
  remembered : C → Option SessionId

namespace Directory
variable {C : Type}

def start : Directory C := ⟨fun _ => false, fun _ => none⟩

def status (catalogue : Catalogue) (d : Directory C) (request : RtspMessage) : Option StatusCode :=
  match request.method with
  | .options => some .ok
  | .describe =>
    match parseUrl request.requestUri with
    | .ok url => some <|
      if request.getHeaderValue "Accept".toList ≠ "application/sdp".toList then .notAcceptable
      else if catalogue.hasStream url.app then .ok else .notFound
    | .error _ => none
  | .setup =>
    match parseUrl request.requestUri, parseTransport (request.getHeaderValue "Transport".toList) with
    | .ok url, .ok _ => some (if catalogue.hasTrack ⟨url.app, url.track⟩ then .ok else .notFound)
    | _, _ => none
  | .play | .pause | .teardown => some (if d.live (sessionHeader request) then .ok else .notFound)
  | _ => some .methodNotAllowed

def settle (catalogue : Catalogue) (env : Env) (live : SessionId → Bool) : Demand → SessionId → Bool
  | .nothing => live
  | .setup request url =>
    if catalogue.hasTrack ⟨url.app, url.track⟩ then Function.update live (setupId env request) true
    else live
  | .terminate sessionId => Function.update live sessionId false

variable [DecidableEq C]

def step (catalogue : Catalogue) (d : Directory C) : Event C → Directory C
  | .connect c _ => { d with remembered := Function.update d.remembered c (some []) }
  | .turn c t => {
      live := settle catalogue t.env d.live (demand t)
      remembered := Function.update d.remembered c
        ((d.remembered c).map fun sessionId => (demand t).remembers t.env sessionId) }
  | .disconnect c => {
      live := match d.remembered c with
        | some sessionId => if sessionId = [] then d.live else Function.update d.live sessionId false
        | none => d.live
      remembered := Function.update d.remembered c none }
  | .thread _ => d

end Directory

namespace ConnectionHandler
variable {C : Type} {env : Env} {request response : RtspMessage} {w : World} {catalogue : Catalogue}
  {d : Directory C}

structure Listed (catalogue : Catalogue) (d : Directory C) (server : Server) : Prop where
  catalogue : server.mediaSources.catalogue = catalogue
  live : ∀ sessionId, server.sessionExists sessionId = d.live sessionId

abbrev Says (status : Option StatusCode) (handler : Handling RtspMessage) (w : World) : Prop :=
  ∀ answer after, handler.run w = .ok answer after → some answer.statusCode = status

theorem says_pure (status : StatusCode) (same : response.statusCode = status) :
    Says (some status) (pure response) w := by
  intro answer after ended
  obtain ⟨rfl, _⟩ := EStateM.Result.ok.inj ended
  exact congrArg some same

theorem says_after {A : Type} {x : Handling A} {status : StatusCode} (same : response.statusCode = status) :
    Says (some status) (x >>= fun _ => pure response) w := by
  intro answer after ended
  rw [EStateM.run_bind] at ended
  cases first : x.run w with
  | ok a next =>
    rw [first] at ended
    obtain ⟨rfl, _⟩ := EStateM.Result.ok.inj ended
    exact congrArg some same
  | error e next =>
    rw [first] at ended
    contradiction

theorem says_error {handler : Handling RtspMessage} {status : Option StatusCode} {e : Failure}
    {left : World} (failed : handler.run w = .error e left) : Says status handler w := by
  intro answer after ended
  rw [failed] at ended
  contradiction

theorem handleDescribe_says (listed : Listed catalogue d w.server) (method : request.method = .describe) :
    Says (d.status catalogue request) (handleDescribe env request response) w := by
  rw [Directory.status, method]
  cases read : parseUrl request.requestUri with
  | error e =>
    have failed : (handleDescribe env request response).run w = .error (.exception e) w := by
      simp only [handleDescribe, parseUrlOf, read]
      rfl
    exact says_error failed
  | ok url =>
    intro answer after ended
    rw [handleDescribe, EStateM.run_bind, parseUrlOf_run read] at ended
    dsimp only at ended ⊢
    split at ended
    · rename_i refused
      rw [if_pos refused]
      exact says_pure _ rfl _ _ ended
    · rename_i accepted
      rw [if_neg accepted, ← listed.catalogue, MediaSources.hasStream_catalogue]
      simp only [EStateM.run_bind, EStateM.run_get] at ended
      split at ended
      · rename_i missing
        rw [missing]
        exact says_pure _ rfl _ _ ended
      · rename_i found
        rw [found]
        exact says_pure _ rfl _ _ ended

theorem handleSetup_says (listed : Listed catalogue d w.server) (method : request.method = .setup) :
    Says (d.status catalogue request) (handleSetup env request response) w := by
  rw [Directory.status, method]
  cases read : parseUrl request.requestUri with
  | error e => exact says_error (handleSetup_url read)
  | ok url =>
    cases understood : parseTransport (request.getHeaderValue "Transport".toList) with
    | error e => exact says_error (handleSetup_transport read understood)
    | ok client =>
      have reads : Reads request url client := ⟨read, understood⟩
      dsimp only
      rw [← listed.catalogue, MediaSources.hasTrack_catalogue]
      intro answer after ended
      cases found : w.server.mediaSources.track ⟨url.app, url.track⟩ with
      | none =>
        rw [handleSetup_missing reads found] at ended
        obtain ⟨rfl, _⟩ := EStateM.Result.ok.inj ended
        rfl
      | some t =>
        have spec := handleSetup_found env response reads found
        cases outcome : setupAdds env request url client t w with
        | returned server =>
          rw [outcome] at spec
          rw [spec] at ended
          obtain ⟨rfl, _⟩ := EStateM.Result.ok.inj ended
          rfl
        | thrown e server =>
          rw [outcome] at spec
          rw [spec] at ended
          contradiction
        | terminated =>
          rw [outcome] at spec
          obtain ⟨left, failed⟩ := spec
          rw [failed] at ended
          contradiction

theorem session_says {next : Handling RtspMessage} (listed : Listed catalogue d w.server)
    (found : Says (some .ok) next w) :
    Says (some (if d.live (sessionHeader request) then .ok else .notFound))
      (do
        if (← get).server.sessionExists (sessionHeader request) then next
        else return reply request response .notFound) w := by
  intro answer after ended
  rw [EStateM.run_bind, EStateM.run_get] at ended
  dsimp only at ended
  rw [← listed.live]
  split at ended
  · rename_i exists_
    rw [if_pos exists_]
    exact found _ _ ended
  · rename_i missing
    rw [if_neg missing]
    exact says_pure _ rfl _ _ ended

/-- The server answers a request with the status the directory says. -/
theorem dispatch_says (listed : Listed catalogue d w.server) :
    Says (d.status catalogue request) (dispatch env request) w := by
  intro answer after ended
  rw [dispatch, EStateM.run_bind] at ended
  let logged : World := { w with connection.dispatched := w.connection.dispatched ++ [request] }
  have known : Listed catalogue d logged.server := listed
  have ended : (match request.method with
      | .options => handleOptions request { RtspMessage.new with cseq := request.cseq }
      | .describe => handleDescribe env request { RtspMessage.new with cseq := request.cseq }
      | .setup => handleSetup env request { RtspMessage.new with cseq := request.cseq }
      | .play => handlePlay env request { RtspMessage.new with cseq := request.cseq }
      | .pause => handlePause request { RtspMessage.new with cseq := request.cseq }
      | .teardown => handleTeardown request { RtspMessage.new with cseq := request.cseq }
      | _ => return { { RtspMessage.new with cseq := request.cseq } with
          statusCode := .methodNotAllowed } : Handling RtspMessage).run logged = .ok answer after := ended
  cases method : request.method with
  | options =>
    rw [method] at ended
    rw [Directory.status, method]
    exact says_pure _ rfl _ _ ended
  | describe =>
    rw [method] at ended
    exact handleDescribe_says known method _ _ ended
  | setup =>
    rw [method] at ended
    exact handleSetup_says known method _ _ ended
  | play =>
    rw [method] at ended
    rw [Directory.status, method]
    exact session_says known (says_after rfl) _ _ ended
  | pause =>
    rw [method] at ended
    rw [Directory.status, method]
    exact session_says known (says_after rfl) _ _ ended
  | teardown =>
    rw [method] at ended
    rw [Directory.status, method]
    exact session_says known (says_after rfl) _ _ ended
  | getParameter | setParameter | redirect | announce | record | unknown =>
    rw [method] at ended
    rw [Directory.status, method]
    exact says_pure _ rfl _ _ ended

theorem settle_accounts {server : Server} (listed : Listed catalogue d server) (env : Env)
    (asked : Demand) (sessionId : SessionId) :
    ((asked.accounts env server).held sessionId).isSome =
      Directory.settle catalogue env d.live asked sessionId := by
  have live (viewer : SessionId) : (server.accounts.held viewer).isSome = d.live viewer := by
    rw [← Server.sessionExists_accounts]
    exact listed.live viewer
  cases asked with
  | nothing => exact live sessionId
  | setup request url =>
    have track := MediaSources.hasTrack_catalogue server.mediaSources ⟨url.app, url.track⟩
    rw [listed.catalogue] at track
    simp only [Demand.accounts, Accounts.setup, Directory.settle, track]
    split
    · by_cases same : sessionId = setupId env request
      · subst sessionId
        rw [Function.update_self, Function.update_self, Option.isSome_some]
      · rw [Function.update_of_ne same, Function.update_of_ne same]
        exact live sessionId
    · exact live sessionId
  | terminate other =>
    simp only [Demand.accounts, Accounts.terminate, Directory.settle]
    by_cases same : sessionId = other
    · subst sessionId
      rw [Function.update_self, Function.update_self, Option.isSome_none]
    · rw [Function.update_of_ne same, Function.update_of_ne same]
      exact live sessionId

end ConnectionHandler

namespace Directory
open ConnectionHandler RtspMessage
variable {C : Type} {catalogue : Catalogue} {d : Directory C} {s s' : Site C} {event : Event C} {c : C}

/-- The directory knows the sessions of the site and what its connections remember. -/
structure Follows (catalogue : Catalogue) (d : Directory C) (s : Site C) : Prop where
  listed : Listed catalogue d s.server
  remembered : ∀ c, (s.clients c).map (·.connection.sessionId) = d.remembered c

theorem follows_start (mediaSources : MediaSources) (availablePorts : List Int) :
    Follows mediaSources.catalogue (start : Directory C) (.start mediaSources availablePorts) :=
  ⟨⟨rfl, fun _ => rfl⟩, fun _ => rfl⟩

variable [DecidableEq C]

theorem remembered_act (follows : d.Follows catalogue s) (taken : s.act event = some s') (c : C) :
    (s'.clients c).map (·.connection.sessionId) = (d.step catalogue event).remembered c := by
  have before := follows.remembered c
  cases event with
  | connect e clientIp =>
    obtain ⟨_, rfl⟩ := Site.act_connect taken
    by_cases same : c = e
    · subst e
      simp [step]
    · simp [step, same, before]
  | turn e t =>
    obtain ⟨connection, w, goes, known, rfl, leaves⟩ := Site.act_turn taken
    have settled := leaves (turn_settles t ⟨s.server, connection⟩) rfl
    by_cases same : c = e
    · subst e
      rw [known] at before
      simp only [step, Function.update_self, Option.map_some, ← before, settled.sessionId]
    · simp [step, same, before]
  | disconnect e =>
    obtain ⟨connection, _, rfl⟩ := Site.act_disconnect taken
    by_cases same : c = e
    · subst e
      simp [step]
    · simp [step, same, before]
  | thread threadStep =>
    obtain ⟨server, _, rfl⟩ := Option.map_eq_some_iff.mp taken
    exact before

theorem live_act (follows : d.Follows catalogue s) (taken : s.act event = some s')
    (sessionId : SessionId) :
    s'.server.sessionExists sessionId = (d.step catalogue event).live sessionId := by
  rw [Server.sessionExists_accounts, Site.act_accounts taken, settle_accounts follows.listed]
  cases event with
  | connect | turn | thread => rfl
  | disconnect e =>
    obtain ⟨connection, known, _⟩ := Site.act_disconnect taken
    have remembered := follows.remembered e
    rw [known, Option.map_some] at remembered
    simp only [Site.demand, known, step, ← remembered]
    by_cases empty : connection.sessionId = []
    · rw [if_neg (not_not_intro empty), if_pos empty]
      rfl
    · rw [if_pos empty, if_neg empty]
      rfl

theorem follows_act (follows : d.Follows catalogue s) (taken : s.act event = some s') :
    (d.step catalogue event).Follows catalogue s' := by
  have preserves := Server.preserves_view MediaSources.catalogue MediaSources.catalogue_modifyTrack catalogue
  exact ⟨⟨Site.act_preserves preserves follows.listed.catalogue taken, live_act follows taken⟩,
    remembered_act follows taken⟩

/-- The directory after one more event, with the statuses that it has for what the
client asked. -/
def follow (catalogue : Catalogue) (c : C) (known : Directory C × List (Option StatusCode))
    (event : Event C) : Directory C × List (Option StatusCode) :=
  (known.1.step catalogue event,
    Site.asked c (fun t => (requestOf t).bind (known.1.status catalogue)) known.2 event)

/-- What the directory makes of a trace, for one client. -/
def answers (catalogue : Catalogue) (c : C) (trace : List (Event C)) :
    Directory C × List (Option StatusCode) :=
  trace.foldl (follow catalogue c) (start, [])

omit [DecidableEq C] in
theorem suits_status (follows : d.Follows catalogue s) :
    Site.Suits (fun status response => some response.statusCode = status)
      (fun t => (requestOf t).bind (d.status catalogue)) c s := by
  intro t request response connection handled _ receives answered
  dsimp only
  rw [requestOf_of_receives receives, Option.bind_some]
  have listed : Listed catalogue d (World.mk s.server connection).server := follows.listed
  exact dispatch_says listed _ _ answered

/-- Through any run of the server, with complete requests of any clients, connections and
thread steps in any order, what a client is answered is what a directory of live sessions
says that follows the requests alone: the status of each response is the directory's for the
request it answers, and the sessions and remembered ids are the directory's too. -/
theorem answers_by_directory {mediaSources : MediaSources} {availablePorts : List Int}
    {trace : List (Event C)}
    (run : Transition.Run (Transition.Takes Site.act) (.start mediaSources availablePorts) trace s) (c : C) :
    (answers mediaSources.catalogue c trace).1.Follows mediaSources.catalogue s ∧
    ∀ client, s.clients c = some client → ∃ responses : List RtspMessage,
      client.connection.sent = responses.map createResponse ∧
      (answers mediaSources.catalogue c trace).2.take responses.length =
        responses.map (fun response => some response.statusCode) ∧
      (answers mediaSources.catalogue c trace).2.length ≤ responses.length + 1 ∧
      (client.processing = true →
        (answers mediaSources.catalogue c trace).2.length = responses.length) := by
  have together := run.history (P := fun trace s =>
    (answers mediaSources.catalogue c trace).1.Follows mediaSources.catalogue s ∧
    ∀ client, s.clients c = some client → ∃ responses, Site.Conversed
      (fun status response => some response.statusCode = status)
      (answers mediaSources.catalogue c trace).2 client responses)
    ⟨follows_start mediaSources availablePorts, fun _ => nofun⟩ ?_
  · refine ⟨together.1, fun client known => ?_⟩
    obtain ⟨responses, conversed⟩ := together.2 client known
    refine ⟨responses, conversed.sent, ?_, conversed.most, conversed.all⟩
    rw [← List.forall₂_eq_eq_eq, List.forall₂_map_right_iff]
    exact conversed.answered.imp fun _ _ same => same.symm
  · rintro trace s event s' ⟨follows, before⟩ taken
    rw [answers, List.foldl_append]
    exact ⟨follows_act follows taken, Site.conversed_act (suits_status follows) taken before⟩

/-- A client sets up a stream, then one that is not there, and plays a session that
is not there either. -/
def threeRequests : List (Event Unit) :=
  [.connect () "10.0.0.1".toList, .turn () (Site.setupTurn "a" ""), .turn () (Site.setupTurn "c" ""),
    .turn () (idleTurn "PLAY rtsp://host:554/a/v RTSP/1.0\r\nSession: 1\r\n\r\n".toList)]

theorem answers_by_directory_three : ∃ (s : Site Unit) (client : Client) (responses : List RtspMessage),
    s.clients () = some client ∧ client.connection.sent = responses.map createResponse ∧
      responses.map (fun response => some response.statusCode) =
        [some .ok, some .notFound, some .notFound] := by
  have statuses : (answers Site.twoStreams.catalogue () threeRequests).2 =
      [some .ok, some .notFound, some .notFound] := by decide +kernel
  have outcome : ((threeRequests.foldlM Site.act (.start Site.twoStreams [7000])).bind fun s =>
      (s.clients ()).map fun client => client.processing) = some true := by decide +kernel
  obtain ⟨s, done, outcome⟩ := Option.bind_eq_some_iff.mp outcome
  obtain ⟨client, known, processing⟩ := Option.map_eq_some_iff.mp outcome
  obtain ⟨responses, sent, same, _, all⟩ := (answers_by_directory (.of_foldlM done) ()).2 client known
  refine ⟨s, client, responses, known, sent, ?_⟩
  rw [← same, ← all processing, List.take_length, statuses]

end Directory
end TinyRtsp
