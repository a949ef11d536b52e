import TinyRtsp.Server.Advertise
import TinyRtsp.Server.Directory
import TinyRtsp.Session.Threads

/-! Whose tracks play. While the media files can be opened, the requests alone say which
tracks every session has, which of them play or pause, and which request ends the
process. -/
namespace TinyRtsp
open Session (Usage shown)

/-- What the server does to a track preserves the property. -/
structure MediaTrack.Preserves (P : MediaTrack → Prop) : Prop where
  registerSession {t : MediaTrack} (sessionId : SessionId) : P t → P (t.registerSession sessionId)
  unregisterSession {t : MediaTrack} (sessionId : SessionId) : P t → P (t.unregisterSession sessionId)
  start {t u : MediaTrack} {opens : Bool} : P t → (t.start opens).session = some u → P u
  queue {t : MediaTrack} (frameQueue) : P t → P { t with frameQueue }

namespace MediaSources
variable {P : MediaTrack → Prop} {sources : MediaSources} {ref : TrackRef} {t u : MediaTrack}

def All (P : MediaTrack → Prop) (sources : MediaSources) : Prop := ∀ ref t, sources.track ref = some t → P t

theorem All.modifyTrack (all : sources.All P) {f : MediaTrack → MediaTrack}
    (keeps : ∀ t, sources.track ref = some t → P t → P (f t)) : (sources.modifyTrack ref f).All P := by
  intro other u found
  rw [track_modifyTrack] at found
  split at found
  · obtain ⟨t, here, rfl⟩ := Option.map_eq_some_iff.mp found
    exact keeps t here (all ref t here)
  · exact all other u found

theorem All.setTrack (all : sources.All P) (holds : P u) : (sources.modifyTrack ref fun _ => u).All P :=
  all.modifyTrack fun _ _ _ => holds

end MediaSources

theorem MediaTrack.Preserves.server {P : MediaTrack → Prop} (preserves : MediaTrack.Preserves P) :
    Server.Preserves fun server => server.mediaSources.All P where
  allocatePortPair := by
    intro server here
    unfold Server.allocatePortPair
    split
    · exact here
    · exact here
  createSession := fun _ here => here
  addMediaTrack := by
    intro server after sessionId ref config here left
    obtain ⟨s, added, _, _, rfl⟩ := Server.addMediaTrack_session left
    exact here.modifyTrack fun _ _ holds => preserves.registerSession sessionId holds
  startSession := by
    intro server after sessionId opens here left
    obtain ⟨s, sources, started, _, ended, rfl⟩ := Server.startSession_session left
    refine (Session.start_keeps (P := fun sources => MediaSources.All P sources) ?_ here ended).1
    intro name ref sources next all left
    obtain ⟨t, u, found, started, rfl⟩ := Server.startTrack_session left
    exact all.setTrack (preserves.start (all ref t found) started)
  pauseSession := fun _ here => here
  terminateSession := by
    intro server sessionId here
    unfold Server.terminateSession
    split
    · exact here
    · exact List.foldlRecOn (motive := fun sources => MediaSources.All P sources) _ _ here
        fun sources all entry _ => all.modifyTrack fun _ _ holds => preserves.unregisterSession sessionId holds
  thread := by
    intro server after step here taken
    rcases Server.thread_cases taken with ⟨ref, t, frameQueue, found, _, rfl⟩ | ⟨sessionId, name, rfl⟩
    · exact here.setTrack (preserves.queue frameQueue (here ref t found))
    · exact here

/-- A track with a producer thread is active, so that starting it overwrites none. -/
def MediaTrack.Startable (t : MediaTrack) : Prop := t.produceThread = true → t.isActive = true

theorem MediaTrack.preserves_startable : MediaTrack.Preserves MediaTrack.Startable where
  registerSession := fun _ startable => startable
  unregisterSession := by
    intro t sessionId startable
    unfold unregisterSession
    dsimp only
    split
    · exact fun thread => thread
    · exact startable
  start := by
    intro t u opens startable left
    cases active : t.isActive with
    | true =>
      rw [start, if_pos active] at left
      obtain rfl := Option.some.inj left
      exact startable
    | false =>
      obtain ⟨now, _⟩ := start_inactive active left
      exact fun _ => now
  queue := fun _ startable => startable

theorem MediaTrack.Startable.starts {t : MediaTrack} (startable : t.Startable) :
    ∃ u, t.start true = .returned u ∧ u.Startable := by
  cases active : t.isActive with
  | true => exact ⟨t, if_pos active, startable⟩
  | false =>
    have idle : t.produceThread = false := by
      cases thread : t.produceThread with
      | false => rfl
      | true =>
        rw [startable thread] at active
        contradiction
    refine ⟨{ t with
      isActive := true
      frameQueue := if t.frameQueue.isExit then t.frameQueue.setRun else t.frameQueue
      fileOpen := true
      produceThread := true }, ?_, fun _ => rfl⟩
    unfold start
    rw [if_neg (by simp [active])]
    simp [idle]

namespace Session
variable {Track Rtp T : Type} {s : Session Track Rtp}

theorem Usage.started_ne_paused (usage : Usage) : usage.started ≠ .paused := by
  cases usage <;> decide

theorem Usage.started_started (usage : Usage) : usage.started.started = usage.started := by
  cases usage <;> rfl

/-- `start` reaches a paused handler and ends the process, or makes every handler that it
visits play. -/
def PlaysAll (startTrack : TrackName → Track → T → Outcome T) (order : List TrackName) (tracks : T)
    (s : Session Track Rtp) : Prop :=
  ((∃ name ∈ order, shown (s.handler name) = .paused) ∧ start startTrack order tracks s = .terminated) ∨
    ((∀ name ∈ order, shown (s.handler name) ≠ .paused) ∧
      ∃ next t, start startTrack order tracks s = .returned (next, t) ∧
        (∀ name ∈ order, shown (t.handler name) = (shown (s.handler name)).started) ∧
        ∀ name ∉ order, shown (t.handler name) = shown (s.handler name))

/-- The first handler is skipped or made to play, and the others are as they were. -/
theorem PlaysAll.cons {startTrack : TrackName → Track → T → Outcome T} {name : TrackName}
    {rest : List TrackName} {tracks next : T} {u : Session Track Rtp} (later : PlaysAll startTrack rest next u)
    (quiet : shown (s.handler name) ≠ .paused)
    (starts : start startTrack (name :: rest) tracks s = start startTrack rest next u)
    (same : ∀ other, shown (u.handler other) =
      if other = name then (shown (s.handler name)).started else shown (s.handler other)) :
    PlaysAll startTrack (name :: rest) tracks s := by
  rcases later with ⟨⟨other, member, paused⟩, dies⟩ | ⟨calm, last, t, returns, inside, outside⟩
  · have apart : other ≠ name := by
      rintro rfl
      rw [same, if_pos rfl] at paused
      exact Usage.started_ne_paused _ paused
    rw [same, if_neg apart] at paused
    exact .inl ⟨⟨other, List.mem_cons_of_mem _ member, paused⟩, starts.trans dies⟩
  · refine .inr ⟨fun other member => ?_, last, t, starts.trans returns, fun other member => ?_,
      fun other missing => ?_⟩
    · by_cases apart : other = name
      · subst other
        exact quiet
      · have still := calm other (List.mem_of_ne_of_mem apart member)
        rwa [same, if_neg apart] at still
    · by_cases apart : other = name
      · subst other
        by_cases again : name ∈ rest
        · rw [inside name again, same, if_pos rfl, Usage.started_started]
        · rw [outside name again, same, if_pos rfl]
      · rw [inside other (List.mem_of_ne_of_mem apart member), same, if_neg apart]
    · have apart : other ≠ name := fun same => missing (same ▸ List.mem_cons_self)
      rw [outside other fun member => missing (List.mem_cons_of_mem _ member), same, if_neg apart]

theorem start_plays (order : List TrackName) {startTrack : TrackName → Track → T → Outcome T} {P : T → Prop}
    {held : Track → Prop}
    (startable : ∀ name track tracks, held track → P tracks →
      ∃ next, startTrack name track tracks = .returned next ∧ P next)
    {tracks : T} (holds : P tracks)
    (has : ∀ name h, s.handler name = some h → held h.mediaTrack) :
    PlaysAll startTrack order tracks s := by
  induction order generalizing tracks s with
  | nil =>
    exact .inr ⟨fun _ member => absurd member List.not_mem_nil, tracks, s, rfl,
      fun _ member => absurd member List.not_mem_nil, fun _ _ => rfl⟩
  | cons name rest ih =>
    have skipped (quiet : shown (s.handler name) ≠ .paused)
        (still : (shown (s.handler name)).started = shown (s.handler name))
        (starts : start startTrack (name :: rest) tracks s = start startTrack rest tracks s) :=
      (ih holds has).cons quiet starts fun other => by
        split
        · subst other
          exact still.symm
        · rfl
    cases here : s.handler name with
    | none =>
      refine skipped ?_ ?_ ?_
      all_goals simp [start, here, shown, Usage.started]
    | some h =>
      obtain ⟨next, returned, kept⟩ := startable name h.mediaTrack tracks (has name h here) holds
      obtain ⟨_ | _, _ | _, mediaTrack, rtp⟩ := h
      · have plays : PlaysAll startTrack rest next (s.set name ⟨true, some .running, mediaTrack, rtp⟩) := by
          refine ih kept fun other g found => ?_
          rw [handler_set] at found
          split at found
          · obtain rfl := Option.some.inj found
            exact has name ⟨false, none, mediaTrack, rtp⟩ here
          · exact has other g found
        refine plays.cons ?_ ?_ fun other => ?_
        · simp [here, shown]
        · simp [start, here, returned]
        · rw [handler_set, here]
          split
          · rfl
          · rfl
      · refine .inl ⟨⟨name, List.mem_cons_self, by rw [here]; rfl⟩, ?_⟩
        simp [start, here, returned]
      · refine skipped ?_ ?_ ?_
        all_goals simp [start, here, shown, Usage.started]
      · refine skipped ?_ ?_ ?_
        all_goals simp [start, here, shown, Usage.started]

end Session

abbrev Usages := SessionId → TrackName → Usage

def Sessions.usages (sessions : Sessions) : Usages :=
  fun viewer name => shown ((sessions.lookup viewer).bind (·.handler name))

namespace Usages
open ConnectionHandler

/-- The usages after a request that does not end the process. -/
def after (catalogue : Catalogue) (env : Env) (request : RtspMessage) (usages : Usages) : Usages :=
  match request.method with
  | .setup =>
    match parseUrl request.requestUri, parseTransport (request.getHeaderValue "Transport".toList) with
    | .ok url, .ok _ =>
      if catalogue.hasTrack ⟨url.app, url.track⟩ ∧ env.constructs = .ok () then
        Function.update usages (setupId env request)
          (Function.update (usages (setupId env request)) url.track .ready)
      else usages
    | _, _ => usages
  | .play => Function.update usages (sessionHeader request) fun name =>
    (usages (sessionHeader request) name).started
  | .pause => Function.update usages (sessionHeader request) fun name =>
    (usages (sessionHeader request) name).pausing
  | .teardown => Function.update usages (sessionHeader request) fun _ => .absent
  | _ => usages

/-- The request ends the process: a SETUP of a track that has been started, or a PLAY
of a session with a paused one. -/
def Fatal (catalogue : Catalogue) (env : Env) (request : RtspMessage) (usages : Usages) : Prop :=
  match request.method with
  | .setup =>
    match parseUrl request.requestUri, parseTransport (request.getHeaderValue "Transport".toList) with
    | .ok url, .ok _ => catalogue.hasTrack ⟨url.app, url.track⟩ ∧ env.constructs = .ok () ∧
      (usages (setupId env request) url.track = .playing ∨ usages (setupId env request) url.track = .paused)
    | _, _ => False
  | .play => ∃ name, usages (sessionHeader request) name = .paused
  | _ => False

end Usages

namespace Sessions
variable {sessions : Sessions} {viewer : SessionId} {s : Session TrackRef RtpRtcpConfig}

theorem usages_insert (sessions : Sessions) (viewer : SessionId) (s : Session TrackRef RtpRtcpConfig) :
    usages (sessions.insert viewer s) =
      Function.update sessions.usages viewer fun name => shown (s.handler name) := by
  funext other name
  by_cases same : other = viewer
  · subst other
    rw [Function.update_self, usages, AList.lookup_insert]
    rfl
  · rw [Function.update_of_ne same, usages, AList.lookup_insert_ne same]
    rfl

theorem usages_of_missing (missing : sessions.lookup viewer = none) :
    sessions.usages viewer = fun _ => .absent := by
  funext name
  rw [usages, missing]
  rfl

theorem usages_erase (sessions : Sessions) (viewer : SessionId) :
    usages (sessions.erase viewer) = Function.update sessions.usages viewer fun _ => .absent := by
  funext other name
  by_cases same : other = viewer
  · subst other
    rw [Function.update_self, usages, AList.lookup_erase]
    rfl
  · rw [Function.update_of_ne same, usages, AList.lookup_erase_ne same]
    rfl

theorem usages_modify {f : Session TrackRef RtpRtcpConfig → Session TrackRef RtpRtcpConfig}
    {g : Usage → Usage} (absent : g .absent = .absent)
    (shows : ∀ s name, shown ((f s).handler name) = g (shown (s.handler name))) :
    usages (sessions.modify viewer f) =
      Function.update sessions.usages viewer fun name => g (sessions.usages viewer name) := by
  funext other name
  by_cases same : other = viewer
  · subst other
    rw [Function.update_self, usages, usages, Table.lookup_modify, if_pos rfl]
    cases sessions.lookup viewer with
    | none => exact absent.symm
    | some s => exact shows s name
  · rw [Function.update_of_ne same, usages, Table.lookup_modify, if_neg same]
    rfl

end Sessions

theorem Server.usages_terminateSession (server : Server) (viewer : SessionId) :
    Sessions.usages (server.terminateSession viewer).sessions =
      Function.update (Sessions.usages server.sessions) viewer fun _ => .absent := by
  unfold terminateSession
  split
  · rename_i missing
    rw [← Sessions.usages_of_missing missing, Function.update_eq_self]
  · exact Sessions.usages_erase ..

theorem Server.usages_thread {server after : Server} {step : ThreadStep}
    (taken : server.thread step = some after) :
    Sessions.usages after.sessions = Sessions.usages server.sessions := by
  rcases thread_cases taken with ⟨_, _, _, _, _, rfl⟩ | ⟨viewer, ended, rfl⟩
  · rfl
  · have same (s : Session TrackRef RtpRtcpConfig) (name : TrackName) :
        shown ((s.senderEnds ended).handler name) = id (shown (s.handler name)) := by
      unfold Session.senderEnds
      split
      · rename_i h here
        rw [Session.handler_set]
        split
        · subst name
          rw [here]
          obtain ⟨_ | _, _ | _, _, _⟩ := h <;> rfl
        · rfl
      · rfl
    exact (Sessions.usages_modify rfl same).trans (Function.update_eq_self ..)

namespace ConnectionHandler
variable {catalogue : Catalogue} {env : Env} {request response : RtspMessage} {w : World}
  {usages : Usages} {fatal : Prop} {A : Type}

/-- What a handler meets: its files can be opened, its tracks started, and the sessions
use their tracks as the usages say. -/
structure Plays (catalogue : Catalogue) (usages : Usages) (server : Server) : Prop where
  catalogue : server.mediaSources.catalogue = catalogue
  sound : server.registry.Sound TrackRef.track
  startable : server.mediaSources.All MediaTrack.Startable
  usages : Sessions.usages server.sessions = usages

/-- How a handler ends: it ends the process if that is to be, and leaves the usages
otherwise. -/
def EndsWith (fatal : Prop) (usages : Usages) : EStateM.Result Failure World A → Prop
  | .ok _ w | .error (.exception _) w => ¬ fatal ∧ Sessions.usages w.server.sessions = usages
  | .error .terminate _ => fatal

theorem endsWith_act {call : Server → Outcome Server}
    (ends : match call w.server with
      | .returned server | .thrown _ server => ¬ fatal ∧ Sessions.usages server.sessions = usages
      | .terminated => fatal) :
    EndsWith fatal usages ((act call >>= fun _ => pure response).run w) := by
  have answer := @act_answer w call response
  cases outcome : call w.server with
  | returned server =>
    rw [outcome] at answer ends
    rw [answer]
    exact ends
  | thrown e server =>
    rw [outcome] at answer ends
    rw [answer]
    exact ends
  | terminated =>
    rw [outcome] at answer ends
    obtain ⟨left, answer⟩ := answer
    rw [answer]
    exact ends

theorem shown_getD (sessions : Sessions) (viewer : SessionId) :
    (fun name => shown (((sessions.lookup viewer).getD .new).handler name)) = sessions.usages viewer := by
  funext name
  unfold Sessions.usages
  cases sessions.lookup viewer with
  | none => rfl
  | some s => rfl

theorem usages_join (server : Server) (viewer : SessionId) :
    Sessions.usages (server.join viewer).sessions = Sessions.usages server.sessions := by
  funext other name
  rw [Sessions.usages, Server.lookup_join]
  split
  · subst other
    exact congrFun (shown_getD server.sessions viewer) name
  · rfl

/-- Adding a track makes it ready, unless that destroys a thread of the handler that
the track had. -/
theorem setupAdds_ends {url : RtspUrl} {client : ClientPorts} {t : MediaTrack}
    (same : Sessions.usages w.server.sessions = usages) :
    match setupAdds env request url client t w with
    | .returned server | .thrown _ server =>
      ¬ (env.constructs = .ok () ∧ (usages (setupId env request) url.track = .playing ∨
          usages (setupId env request) url.track = .paused)) ∧
        Sessions.usages server.sessions = if env.constructs = .ok () then
          Function.update usages (setupId env request)
            (Function.update (usages (setupId env request)) url.track .ready) else usages
    | .terminated => env.constructs = .ok () ∧ (usages (setupId env request) url.track = .playing ∨
        usages (setupId env request) url.track = .paused) := by
  have joined : Sessions.usages ((prepared env request url w).server.join (setupId env request)).sessions =
      usages := by
    rw [usages_join, sessions_prepared, same]
  have before := shown_getD w.server.sessions (setupId env request)
  rw [same] at before
  rw [setupAdds_eq]
  generalize (w.server.sessions.lookup (setupId env request)).getD .new = s at before
  have here : shown (s.handler url.track) = usages (setupId env request) url.track := congrFun before _
  cases sockets : env.constructs with
  | error e =>
    have differs : (.error e : Except Exception Unit) ≠ .ok () := by simp
    refine ⟨fun both => differs both.1, ?_⟩
    rw [if_neg differs, Sessions.usages_insert, joined, before, Function.update_eq_self]
  | ok =>
    rw [← here, ← Session.joinable_iff]
    simp only [Except.map, Session.addMediaTrack]
    cases joinable : (s.handler url.track).any (·.senderThread.isSome) with
    | true => exact ⟨trivial, rfl⟩
    | false =>
      refine ⟨fun both => Bool.noConfusion both.2, ?_⟩
      rw [if_pos trivial]
      refine (Sessions.usages_insert ..).trans ?_
      rw [joined, ← before]
      congr 1
      funext name
      rw [Session.handler_set]
      by_cases added : name = url.track
      · subst name
        rw [if_pos rfl, Function.update_self]
        rfl
      · rw [if_neg added, Function.update_of_ne added]

theorem handleSetup_ends (plays : Plays catalogue usages w.server) (method : request.method = .setup) :
    EndsWith (usages.Fatal catalogue env request) (usages.after catalogue env request)
      ((handleSetup env request response).run w) := by
  unfold Usages.Fatal Usages.after
  rw [method]
  cases read : parseUrl request.requestUri with
  | error e =>
    rw [handleSetup_url read]
    exact ⟨id, plays.usages⟩
  | ok url =>
    cases understood : parseTransport (request.getHeaderValue "Transport".toList) with
    | error e =>
      rw [handleSetup_transport read understood]
      exact ⟨id, plays.usages⟩
    | ok client =>
      have reads : Reads request url client := ⟨read, understood⟩
      dsimp only
      rw [← plays.catalogue, MediaSources.hasTrack_catalogue]
      cases found : w.server.mediaSources.track ⟨url.app, url.track⟩ with
      | none =>
        rw [handleSetup_missing reads found]
        refine ⟨fun both => Bool.noConfusion both.1, ?_⟩
        rw [if_neg fun both => Bool.noConfusion both.1, ← plays.usages]
        exact congrArg Sessions.usages (sessions_prepared env request url w)
      | some t =>
        have adds := @setupAdds_ends env request w _ url client t plays.usages
        have spec := handleSetup_found env response reads found
        simp only [Option.isSome_some, true_and]
        cases outcome : setupAdds env request url client t w with
        | returned server =>
          rw [outcome] at spec adds
          rw [spec]
          exact adds
        | thrown e server =>
          rw [outcome] at spec adds
          rw [spec]
          exact adds
        | terminated =>
          rw [outcome] at spec adds
          obtain ⟨left, spec⟩ := spec
          rw [spec]
          exact adds

theorem Plays.starts {server : Server} {viewer : SessionId} {s : Session TrackRef RtpRtcpConfig}
    {opens : TrackRef → Bool} (plays : Plays catalogue usages server) (all : ∀ ref, opens ref = true)
    (here : server.sessions.lookup viewer = some s) :
    match server.startSession opens viewer with
    | .returned after | .thrown _ after => (¬ ∃ name, usages viewer name = .paused) ∧
        Sessions.usages after.sessions =
          Function.update usages viewer fun name => (usages viewer name).started
    | .terminated => ∃ name, usages viewer name = .paused := by
  have shows (name : TrackName) : usages viewer name = shown (s.handler name) := by
    rw [← plays.usages, Sessions.usages, here]
    rfl
  have visited (name : TrackName) (missing : name ∉ s.sessionHandlers.keys) : s.handler name = none :=
    AList.lookup_eq_none.mpr missing
  have has (name : TrackName) (h) (handled : s.handler name = some h) :
      (server.mediaSources.track h.mediaTrack).isSome := by
    have held : server.registry.held viewer name = some h.mediaTrack := by
      change Sessions.held server.sessions viewer name = some h.mediaTrack
      rw [Sessions.held, here, Option.bind_some, handled, Option.map_some]
    exact plays.sound.live held
  have startable (name : TrackName) (ref : TrackRef) (sources : MediaSources)
      (live : (server.mediaSources.track ref).isSome)
      (kept : sources.All MediaTrack.Startable ∧
        ∀ ref, (server.mediaSources.track ref).isSome → (sources.track ref).isSome) :
      ∃ next, Server.startTrack opens name ref sources = .returned next ∧
        next.All MediaTrack.Startable ∧
          ∀ ref, (server.mediaSources.track ref).isSome → (next.track ref).isSome := by
    obtain ⟨t, found⟩ := Option.isSome_iff_exists.mp (kept.2 ref live)
    obtain ⟨u, started, again⟩ := (kept.1 ref t found).starts
    refine ⟨sources.modifyTrack ref fun _ => u, ?_, kept.1.setTrack again, fun other there => ?_⟩
    · simp only [Server.startTrack, found, all, started, Outcome.map]
    · rw [MediaSources.live_modifyTrack]
      exact kept.2 other there
  rw [Server.startSession, here]
  rcases Session.start_plays s.sessionHandlers.keys startable ⟨plays.startable, fun _ live => live⟩ has with
    ⟨⟨name, _, paused⟩, dies⟩ | ⟨quiet, next, t, starts, inside, outside⟩
  · simp only [dies]
    exact ⟨name, (shows name).trans paused⟩
  · simp only [starts]
    constructor
    · rintro ⟨name, paused⟩
      rw [shows] at paused
      by_cases member : name ∈ s.sessionHandlers.keys
      · exact quiet name member paused
      · rw [visited name member] at paused
        contradiction
    · refine (Sessions.usages_insert ..).trans ?_
      rw [plays.usages]
      congr 1
      funext name
      rw [shows]
      by_cases member : name ∈ s.sessionHandlers.keys
      · exact inside name member
      · rw [outside name member, visited name member]
        rfl

theorem usages_unknown (plays : Plays catalogue usages w.server) {viewer : SessionId}
    (unknown : ¬ w.server.sessionExists viewer = true) : usages viewer = fun _ => .absent := by
  rw [← plays.usages]
  exact Sessions.usages_of_missing (Option.not_isSome_iff_eq_none.mp unknown)

theorem update_unknown {viewer : SessionId} {f : Usage → Usage} (unknown : usages viewer = fun _ => .absent)
    (absent : f .absent = .absent) :
    Function.update usages viewer (fun name => f (usages viewer name)) = usages := by
  have same : (fun name => f (usages viewer name)) = usages viewer := by
    rw [unknown]
    exact funext fun _ => absent
  rw [same, Function.update_eq_self]

theorem handlePlay_ends (plays : Plays catalogue usages w.server) (opens : ∀ ref, env.opens ref = true)
    (method : request.method = .play) :
    EndsWith (usages.Fatal catalogue env request) (usages.after catalogue env request)
      ((handlePlay env request response).run w) := by
  unfold Usages.Fatal Usages.after
  rw [method, handlePlay, EStateM.run_bind, EStateM.run_get]
  dsimp only
  split
  · rename_i live
    obtain ⟨s, here⟩ := Option.isSome_iff_exists.mp live
    exact endsWith_act (plays.starts opens here)
  · rename_i unknown
    have absent : usages (sessionHeader request) = fun _ => .absent := usages_unknown plays unknown
    refine ⟨?_, plays.usages.trans (update_unknown absent rfl).symm⟩
    rintro ⟨name, paused⟩
    rw [absent] at paused
    contradiction

theorem session_ends (change : Server → Server) {f : Usage → Usage} {found missing : RtspMessage}
    (plays : Plays catalogue usages w.server)
    (absent : f .absent = .absent)
    (changes : Sessions.usages (change w.server).sessions = Function.update usages (sessionHeader request)
      fun name => f (usages (sessionHeader request) name)) :
    EndsWith False (Function.update usages (sessionHeader request)
        fun name => f (usages (sessionHeader request) name))
      ((do
        if (← get).server.sessionExists (sessionHeader request) then
          modify fun w => { w with server := change w.server }
          return found
        else return missing : Handling RtspMessage).run w) := by
  rw [EStateM.run_bind, EStateM.run_get]
  dsimp only
  split
  · exact ⟨id, changes⟩
  · rename_i unknown
    exact ⟨id, plays.usages.trans (update_unknown (usages_unknown plays unknown) absent).symm⟩

theorem handlePause_ends (plays : Plays catalogue usages w.server) (method : request.method = .pause) :
    EndsWith (usages.Fatal catalogue env request) (usages.after catalogue env request)
      ((handlePause request response).run w) := by
  unfold Usages.Fatal Usages.after
  rw [method]
  refine session_ends (·.pauseSession (sessionHeader request)) (f := Usage.pausing) plays rfl ?_
  rw [← plays.usages]
  refine Sessions.usages_modify rfl fun s name => ?_
  rw [Session.handler_pause]
  rcases s.handler name with _ | ⟨_ | _, _ | _, _, _⟩ <;> rfl

theorem handleTeardown_ends (plays : Plays catalogue usages w.server) (method : request.method = .teardown) :
    EndsWith (usages.Fatal catalogue env request) (usages.after catalogue env request)
      ((handleTeardown request response).run w) := by
  unfold Usages.Fatal Usages.after
  rw [method]
  refine session_ends (·.terminateSession (sessionHeader request)) (f := fun _ => .absent)
    plays rfl ?_
  rw [← plays.usages]
  exact Server.usages_terminateSession ..

theorem handleDescribe_ends (same : Sessions.usages w.server.sessions = usages) :
    EndsWith False usages ((handleDescribe env request response).run w) := by
  cases read : parseUrl request.requestUri with
  | error e =>
    have failed : (handleDescribe env request response).run w = .error (.exception e) w := by
      simp only [handleDescribe, parseUrlOf, read]
      rfl
    rw [failed]
    exact ⟨id, same⟩
  | ok url =>
    rw [handleDescribe, EStateM.run_bind, parseUrlOf_run read]
    dsimp only
    split
    · exact ⟨id, same⟩
    · simp only [EStateM.run_bind, EStateM.run_get]
      split
      · exact ⟨id, same⟩
      · exact ⟨id, same⟩

theorem dispatch_ends (plays : Plays catalogue usages w.server) (opens : ∀ ref, env.opens ref = true) :
    EndsWith (usages.Fatal catalogue env request) (usages.after catalogue env request)
      ((dispatch env request).run w) := by
  let logged : World := { w with connection.dispatched := w.connection.dispatched ++ [request] }
  have known : Plays catalogue usages logged.server := plays
  have quiet {handler : Handling RtspMessage} (fatal : usages.Fatal catalogue env request = False)
      (after : usages.after catalogue env request = usages)
      (ends : EndsWith False usages (handler.run logged)) :
      EndsWith (usages.Fatal catalogue env request) (usages.after catalogue env request) (handler.run logged) := by
    rwa [fatal, after]
  let response := { RtspMessage.new with cseq := request.cseq }
  cases method : request.method with
  | options =>
    rw [dispatch, method]
    change EndsWith _ _ ((handleOptions request response).run logged)
    exact quiet (by rw [Usages.Fatal, method]) (by rw [Usages.after, method]) ⟨id, plays.usages⟩
  | describe =>
    rw [dispatch, method]
    change EndsWith _ _ ((handleDescribe env request response).run logged)
    exact quiet (by rw [Usages.Fatal, method]) (by rw [Usages.after, method]) (handleDescribe_ends known.usages)
  | setup =>
    rw [dispatch, method]
    change EndsWith _ _ ((handleSetup env request response).run logged)
    exact handleSetup_ends known method
  | play =>
    rw [dispatch, method]
    change EndsWith _ _ ((handlePlay env request response).run logged)
    exact handlePlay_ends known opens method
  | pause =>
    rw [dispatch, method]
    change EndsWith _ _ ((handlePause request response).run logged)
    exact handlePause_ends known method
  | teardown =>
    rw [dispatch, method]
    change EndsWith _ _ ((handleTeardown request response).run logged)
    exact handleTeardown_ends known method
  | getParameter | setParameter | redirect | announce | record | unknown =>
    rw [dispatch, method]
    change EndsWith _ _ ((return { response with statusCode := .methodNotAllowed } :
      Handling RtspMessage).run logged)
    exact quiet (by rw [Usages.Fatal, method]) (by rw [Usages.after, method]) ⟨id, plays.usages⟩

theorem turn_ends (t : Turn) (plays : Plays catalogue usages w.server) (opens : ∀ ref, t.env.opens ref = true)
    (heard : t.send ≠ .brokenPipe) :
    EndsWith (∃ request, requestOf t = some request ∧ usages.Fatal catalogue t.env request)
      ((requestOf t).elim usages fun request => usages.after catalogue t.env request)
      ((turn t).run w) := by
  cases asked : requestOf t with
  | none =>
    have unread : ∀ request, ¬ Receives request t := by
      intro request receives
      rw [requestOf_of_receives receives] at asked
      contradiction
    have calm : ¬ ∃ request, (none : Option RtspMessage) = some request ∧
        usages.Fatal catalogue t.env request := by simp
    rcases turn_unread (w := w) unread with ended | ⟨e, ended⟩
    · rw [ended]
      exact ⟨calm, plays.usages⟩
    · rw [ended]
      exact ⟨calm, plays.usages⟩
  | some request =>
    have only : (∃ other, some request = some other ∧ usages.Fatal catalogue t.env other) ↔
        usages.Fatal catalogue t.env request := by simp
    have ends : EndsWith (usages.Fatal catalogue t.env request) (usages.after catalogue t.env request)
        ((dispatch t.env request).run w) := dispatch_ends plays opens
    rw [turn_run (receives_of_requestOf asked), EStateM.run_bind, propext only, Option.elim_some]
    cases outcome : (dispatch t.env request).run w with
    | ok response after =>
      rw [outcome] at ends
      dsimp only
      unfold sendRtspMessage
      cases result : t.send with
      | whole => exact ends
      | part => exact ends
      | failed => exact ends
      | brokenPipe => exact absurd result heard
    | error failure after =>
      rw [outcome] at ends
      cases failure with
      | exception e => exact ends
      | terminate => exact ends

end ConnectionHandler

open ConnectionHandler

/-- What is known of the sessions from the requests alone. -/
structure Playback (C : Type) where
  directory : Directory C
  usages : Usages

namespace Playback
variable {C : Type} {catalogue : Catalogue} {p : Playback C} {s s' : Site C} {event : Event C}

def start : Playback C := ⟨.start, fun _ _ => .absent⟩

/-- The media files can be opened, and the client is there to be answered. -/
def Fair : Event C → Prop
  | .turn _ t => (∀ ref, t.env.opens ref = true) ∧ t.send ≠ .brokenPipe
  | _ => True

/-- The playback knows the sessions of the site and what they use their tracks for. -/
structure Follows (catalogue : Catalogue) (p : Playback C) (s : Site C) : Prop where
  directory : p.directory.Follows catalogue s
  plays : Plays catalogue p.usages s.server

variable [DecidableEq C]

def step (catalogue : Catalogue) (p : Playback C) (event : Event C) : Playback C where
  directory := p.directory.step catalogue event
  usages := match event with
    | .turn _ t => (requestOf t).elim p.usages fun request => p.usages.after catalogue t.env request
    | .disconnect c => match p.directory.remembered c with
      | some sessionId =>
        if sessionId = [] then p.usages else Function.update p.usages sessionId fun _ => .absent
      | none => p.usages
    | _ => p.usages

def Fatal (catalogue : Catalogue) (p : Playback C) : Event C → Prop
  | .turn _ t => ∃ request, requestOf t = some request ∧ p.usages.Fatal catalogue t.env request
  | _ => False

theorem fatal_iff {c : C} {t : Turn} {connection : Connection} (follows : p.Follows catalogue s)
    (known : s.clients c = some ⟨connection, true⟩) (fair : Fair (.turn c t)) :
    s.act (.turn c t) = none ↔ p.Fatal catalogue (.turn c t) := by
  have ends := turn_ends (w := ⟨s.server, connection⟩) t follows.plays fair.1 fair.2
  simp only [Site.act, known]
  cases outcome : (turn t).run ⟨s.server, connection⟩ with
  | ok goes after =>
    rw [outcome] at ends
    exact iff_of_false (Option.some_ne_none _) ends.1
  | error failure after =>
    rw [outcome] at ends
    cases failure with
    | exception e => exact iff_of_false (Option.some_ne_none _) ends.1
    | terminate => exact iff_of_true rfl ends

theorem usages_act (follows : p.Follows catalogue s) (fair : Fair event) (taken : s.act event = some s') :
    Sessions.usages s'.server.sessions = (p.step catalogue event).usages := by
  cases event with
  | connect c clientIp =>
    obtain ⟨_, rfl⟩ := Site.act_connect taken
    exact follows.plays.usages
  | turn c t =>
    obtain ⟨connection, w, goes, known, rfl, leaves⟩ := Site.act_turn taken
    refine leaves (P := (· = ⟨s.server, connection⟩))
      (Q := fun w => Sessions.usages w.server.sessions = (p.step catalogue (.turn c t)).usages) ?_ rfl
    rintro _ rfl
    have ends := turn_ends (w := ⟨s.server, connection⟩) t follows.plays fair.1 fair.2
    cases outcome : (turn t).run ⟨s.server, connection⟩ with
    | ok goes after =>
      rw [outcome] at ends
      exact ends.2
    | error failure after =>
      rw [outcome] at ends
      cases failure with
      | exception e => exact fun _ => ends.2
      | terminate => exact fun lives => absurd rfl lives
  | disconnect c =>
    obtain ⟨connection, known, rfl⟩ := Site.act_disconnect taken
    have remembered := follows.directory.remembered c
    rw [known, Option.map_some] at remembered
    simp only [step, ← remembered]
    unfold destroy
    by_cases empty : connection.sessionId = []
    · rw [if_neg (not_not_intro empty), if_pos empty]
      exact follows.plays.usages
    · rw [if_pos empty, if_neg empty, ← follows.plays.usages]
      exact Server.usages_terminateSession ..
  | thread threadStep =>
    obtain ⟨server, moved, rfl⟩ := Option.map_eq_some_iff.mp taken
    exact (Server.usages_thread moved).trans follows.plays.usages

theorem follows_act (follows : p.Follows catalogue s) (fair : Fair event) (taken : s.act event = some s') :
    (p.step catalogue event).Follows catalogue s' := by
  have directory := Directory.follows_act follows.directory taken
  refine ⟨directory, directory.listed.catalogue, ?_, ?_, usages_act follows fair taken⟩
  · exact sound_of_moves (Site.act_moves follows.plays.sound taken) follows.plays.sound
  · exact Site.act_preserves MediaTrack.preserves_startable.server follows.plays.startable taken

/-- The playback that the requests of a trace make. -/
def after (catalogue : Catalogue) (trace : List (Event C)) : Playback C := trace.foldl (step catalogue) start

theorem startable_of_registered {mediaSources : MediaSources} (registered : mediaSources.Registered) :
    mediaSources.All MediaTrack.Startable := by
  induction registered with
  | nothing => exact fun _ _ => nofun
  | source streamName _ ih =>
    intro ref t found
    rw [MediaSources.track_addMediaSource] at found
    split at found
    · contradiction
    · exact ih ref t found
  | track streamName trackName mediaUrl mediaType _ ih =>
    intro ref t found
    rcases MediaSources.track_addMediaTrack streamName trackName mediaUrl mediaType found with
      before | ⟨_, rfl⟩
    · exact ih ref t before
    · exact fun thread => thread

omit [DecidableEq C] in
theorem follows_start {mediaSources : MediaSources} (registered : mediaSources.Registered)
    (availablePorts : List Int) :
    (start : Playback C).Follows mediaSources.catalogue (.start mediaSources availablePorts) := by
  refine ⟨Directory.follows_start mediaSources availablePorts, rfl, ?_, startable_of_registered registered, rfl⟩
  constructor
  · nofun
  · nofun
  · nofun

def oneStream : MediaSources :=
  (MediaSources.addMediaSource ∅ "a".toList).addMediaTrack "a".toList "v".toList "a.264" .h264

/-- PLAY or PAUSE of the session that a client has named. -/
def sessionTurn (method : String) : Turn :=
  idleTurn (method.toList ++ " rtsp://host:554/a RTSP/1.0\r\nSession: mine\r\n\r\n".toList)

end Playback
end TinyRtsp
