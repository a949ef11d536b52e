import TinyRtsp.Foundation.Registry
import TinyRtsp.Server.Server

/-! The consumers of every track against the sessions that have a handler for it:
each call on the server as an operation on that registry. -/
namespace TinyRtsp

namespace MediaSources
variable {sources : MediaSources} {ref other : TrackRef} {sessionId viewer : SessionId}

def Consumes (sources : MediaSources) (ref : TrackRef) (sessionId : SessionId) : Prop :=
  ∃ t, sources.track ref = some t ∧ t.HasConsumer sessionId

theorem live_modifyTrack (f : MediaTrack → MediaTrack) :
    ((sources.modifyTrack ref f).track other).isSome = (sources.track other).isSome := by
  rw [track_modifyTrack]
  split
  · subst other
    exact Option.isSome_map
  · rfl

theorem consumes_modifyTrack (f : MediaTrack → MediaTrack) :
    (sources.modifyTrack ref f).Consumes other viewer ↔
      ∃ t, sources.track other = some t ∧ (if other = ref then f t else t).HasConsumer viewer := by
  unfold Consumes
  rw [track_modifyTrack]
  split
  · subst other
    simp only [Option.map_eq_some_iff]
    constructor
    · rintro ⟨_, ⟨t, found, rfl⟩, has⟩
      exact ⟨t, found, has⟩
    · rintro ⟨t, found, has⟩
      exact ⟨_, ⟨t, found, rfl⟩, has⟩
  · rfl

theorem consumes_modifyTrack_same {f : MediaTrack → MediaTrack}
    (same : ∀ t, sources.track ref = some t → ((f t).HasConsumer viewer ↔ t.HasConsumer viewer)) :
    (sources.modifyTrack ref f).Consumes other viewer ↔ sources.Consumes other viewer := by
  rw [consumes_modifyTrack]
  refine exists_congr fun t => and_congr_right fun found => ?_
  split
  · subst other
    exact same t found
  · rfl

theorem consumes_register (live : (sources.track ref).isSome) :
    (sources.modifyTrack ref (MediaTrack.registerSession sessionId)).Consumes other viewer ↔
      (other = ref ∧ viewer = sessionId) ∨ sources.Consumes other viewer := by
  rw [consumes_modifyTrack]
  constructor
  · rintro ⟨t, found, has⟩
    split at has
    · rcases MediaTrack.hasConsumer_registerSession.mp has with same | before
      · exact .inl ⟨‹_›, same⟩
      · exact .inr ⟨t, found, before⟩
    · exact .inr ⟨t, found, has⟩
  · rintro (⟨rfl, rfl⟩ | ⟨t, found, has⟩)
    · obtain ⟨t, found⟩ := Option.isSome_iff_exists.mp live
      exact ⟨t, found, by rw [if_pos rfl]; exact MediaTrack.hasConsumer_registerSession.mpr (.inl rfl)⟩
    · refine ⟨t, found, ?_⟩
      split
      · exact MediaTrack.hasConsumer_registerSession.mpr (.inr has)
      · exact has

theorem consumes_unregister :
    (sources.modifyTrack ref (MediaTrack.unregisterSession sessionId)).Consumes other viewer ↔
      sources.Consumes other viewer ∧ ¬ (viewer = sessionId ∧ other = ref) := by
  rw [consumes_modifyTrack]
  constructor
  · rintro ⟨t, found, has⟩
    split at has
    · obtain ⟨stays, before⟩ := MediaTrack.hasConsumer_unregisterSession.mp has
      exact ⟨⟨t, found, before⟩, fun leaves => stays leaves.1⟩
    · exact ⟨⟨t, found, has⟩, fun leaves => ‹¬_› leaves.2⟩
  · rintro ⟨⟨t, found, has⟩, stays⟩
    refine ⟨t, found, ?_⟩
    split
    · exact MediaTrack.hasConsumer_unregisterSession.mpr ⟨fun same => stays ⟨same, ‹_›⟩, has⟩
    · exact has

end MediaSources

abbrev Sessions := Table SessionId (Session TrackRef RtpRtcpConfig)

def Sessions.held (sessions : Sessions) (sessionId : SessionId) (name : TrackName) : Option TrackRef :=
  ((sessions.lookup sessionId).bind (·.handler name)).map (·.mediaTrack)

theorem Sessions.held_insert (sessions : Sessions) (sessionId viewer : SessionId)
    (s : Session TrackRef RtpRtcpConfig) (name : TrackName) :
    Sessions.held (sessions.insert sessionId s) viewer name =
      if viewer = sessionId then (s.handler name).map (·.mediaTrack)
      else sessions.held viewer name := by
  unfold Sessions.held
  split
  · subst viewer
    rw [AList.lookup_insert]
    rfl
  · rw [AList.lookup_insert_ne ‹_›]

namespace Server
variable {server after : Server} {sessionId viewer : SessionId} {ref other : TrackRef}

def registry (server : Server) : Registry TrackRef TrackName SessionId where
  live ref := (server.mediaSources.track ref).isSome
  consumer ref sessionId := server.mediaSources.Consumes ref sessionId
  held := Sessions.held server.sessions

theorem registry_eq {r : Registry TrackRef TrackName SessionId}
    (live : ∀ ref, (server.mediaSources.track ref).isSome ↔ r.live ref)
    (consumer : ∀ ref viewer, server.mediaSources.Consumes ref viewer ↔ r.consumer ref viewer)
    (held : ∀ viewer name, Sessions.held server.sessions viewer name = r.held viewer name) :
    server.registry = r := by
  have lives : server.registry.live = r.live := funext fun ref => propext (live ref)
  have consumers : server.registry.consumer = r.consumer :=
    funext fun ref => funext fun viewer => propext (consumer ref viewer)
  have holds : server.registry.held = r.held := funext fun viewer => funext (held viewer)
  calc server.registry
      = ⟨server.registry.live, server.registry.consumer, server.registry.held⟩ := rfl
    _ = r := by rw [lives, consumers, holds]

theorem registry_pauseSession : (server.pauseSession sessionId).registry = server.registry := by
  refine registry_eq (fun _ => Iff.rfl) (fun _ _ => Iff.rfl) fun viewer name => ?_
  unfold registry pauseSession Sessions.held
  dsimp only
  rw [Table.lookup_modify]
  split
  · cases server.sessions.lookup viewer with
    | none => rfl
    | some s =>
      simp only [Option.map_some, Option.bind_some, Session.handler_pause, Option.map_map]
      rfl
  · rfl

theorem registry_createSession (new : server.sessionExists sessionId = false) :
    (server.createSession sessionId).registry = server.registry := by
  refine registry_eq (fun _ => Iff.rfl) (fun _ _ => Iff.rfl) fun viewer name => ?_
  rw [createSession, Sessions.held_insert]
  split
  · subst viewer
    have missing : server.sessions.lookup sessionId = none := by simpa [sessionExists] using new
    simp [registry, Sessions.held, missing]
  · rfl

theorem alike_startTrack {opens : TrackRef → Bool} {name : TrackName} {sources next : MediaSources}
    (left : (startTrack opens name ref sources).session = some next) :
    (next.track other).isSome = (sources.track other).isSome ∧
      (next.Consumes other viewer ↔ sources.Consumes other viewer) := by
  obtain ⟨t, started, found, here, rfl⟩ := startTrack_session left
  refine ⟨MediaSources.live_modifyTrack _, MediaSources.consumes_modifyTrack_same ?_⟩
  intro u same
  obtain rfl := Option.some.inj (found.symm.trans same)
  exact MediaTrack.hasConsumer_start here

theorem registry_startSession {opens : TrackRef → Bool}
    (left : (server.startSession opens sessionId).session = some after) :
    after.registry = server.registry := by
  obtain ⟨s, sources, started, found, ended, rfl⟩ := startSession_session left
  obtain ⟨alike, tracks⟩ := Session.start_keeps
    (P := fun sources => ∀ ref viewer,
      (sources.track ref).isSome = (server.mediaSources.track ref).isSome ∧
      (sources.Consumes ref viewer ↔ server.mediaSources.Consumes ref viewer))
    (fun before taken ref viewer =>
      have alike := alike_startTrack taken
      ⟨alike.1.trans (before ref viewer).1, alike.2.trans (before ref viewer).2⟩)
    (fun _ _ => ⟨rfl, Iff.rfl⟩) ended
  refine registry_eq (fun ref => iff_of_eq (congrArg (· = true) (alike ref sessionId).1))
    (fun ref viewer => (alike ref viewer).2) fun viewer name => ?_
  rw [Sessions.held_insert]
  split
  · subst viewer
    have same := congrArg (Option.map Prod.fst) (tracks name)
    rw [Option.map_map, Option.map_map] at same
    show _ = Sessions.held server.sessions sessionId name
    rw [Sessions.held, found]
    exact same
  · rfl

/-- What `add_media_track` leaves: the id is registered and, unless the constructor
throws, gets the handler of the track's name. -/
def enrolled {A : Type} (constructs : Except Exception A) (sessionId : SessionId) (ref : TrackRef)
    (r : Registry TrackRef TrackName SessionId) : Registry TrackRef TrackName SessionId :=
  match constructs with
  | .ok _ => (r.register ref sessionId).hold sessionId ref.track ref
  | .error _ => r.register ref sessionId

theorem registry_addMediaTrack {config : Except Exception RtpRtcpConfig}
    (live : (server.mediaSources.track ref).isSome)
    (left : (server.addMediaTrack sessionId ref config).session = some after) :
    after.registry = enrolled config sessionId ref server.registry := by
  obtain ⟨s, t, found, ended, rfl⟩ := addMediaTrack_session left
  have lives (other) : ((server.mediaSources.modifyTrack ref
      (MediaTrack.registerSession sessionId)).track other).isSome ↔ server.registry.live other :=
    iff_of_eq (congrArg (· = true) (MediaSources.live_modifyTrack _))
  cases config with
  | error e =>
    obtain rfl := Option.some.inj ended
    refine registry_eq lives (fun _ _ => MediaSources.consumes_register live) fun viewer name => ?_
    rw [Sessions.held_insert]
    split
    · subst viewer
      simp [enrolled, registry, Registry.register, Sessions.held, found]
    · rfl
  | ok rtp =>
    have added : s.set ref.track ⟨false, none, ref, rtp⟩ = t := by
      unfold Session.addMediaTrack at ended
      dsimp only at ended
      split at ended
      · contradiction
      · exact Option.some.inj ended
    subst added
    refine registry_eq lives (fun _ _ => MediaSources.consumes_register live) fun viewer name => ?_
    rw [Sessions.held_insert]
    show _ = if viewer = sessionId ∧ name = ref.track then some ref
      else Sessions.held server.sessions viewer name
    by_cases same : viewer = sessionId
    · subst viewer
      rw [if_pos rfl, Session.handler_set]
      by_cases named : name = ref.track
      · rw [if_pos named, if_pos ⟨rfl, named⟩, Option.map_some]
      · rw [if_neg named, if_neg fun both => named both.2, Sessions.held, found, Option.bind_some]
    · rw [if_neg same, if_neg fun both => same both.1]

theorem consumes_unregisterAll {refs : List TrackRef} {sources : MediaSources} :
    (refs.foldl (fun sources ref =>
      sources.modifyTrack ref (MediaTrack.unregisterSession sessionId)) sources).Consumes other viewer ↔
      sources.Consumes other viewer ∧ ¬ (viewer = sessionId ∧ other ∈ refs) := by
  induction refs generalizing sources with
  | nil => simp
  | cons ref refs ih =>
    rw [List.foldl_cons, ih, MediaSources.consumes_unregister, List.mem_cons]
    tauto

theorem live_unregisterAll {refs : List TrackRef} {sources : MediaSources} :
    ((refs.foldl (fun sources ref =>
      sources.modifyTrack ref (MediaTrack.unregisterSession sessionId)) sources).track other).isSome =
      (sources.track other).isSome := by
  induction refs generalizing sources with
  | nil => rfl
  | cons ref refs ih => rw [List.foldl_cons, ih, MediaSources.live_modifyTrack]

theorem mem_handledTracks {s : Session TrackRef RtpRtcpConfig} :
    other ∈ s.stop.sessionHandlers.entries.map (·.2.mediaTrack) ↔
      ∃ name, (s.handler name).map (·.mediaTrack) = some other := by
  have kept (name) : (s.stop.handler name).map (·.mediaTrack) = (s.handler name).map (·.mediaTrack) := by
    rw [Session.handler_stop, Option.map_map]
    rfl
  simp only [← kept, Option.map_eq_some_iff]
  constructor
  · intro member
    obtain ⟨entry, inside, same⟩ := List.mem_map.mp member
    exact ⟨entry.1, entry.2, AList.mem_lookup_iff.mpr inside, same⟩
  · rintro ⟨name, h, found, same⟩
    exact List.mem_map.mpr ⟨⟨name, h⟩, AList.mem_lookup_iff.mp found, same⟩

theorem registry_terminateSession :
    (server.terminateSession sessionId).registry = server.registry.leave sessionId := by
  unfold terminateSession
  cases found : server.sessions.lookup sessionId with
  | none =>
    dsimp only
    have nothing (name) : Sessions.held server.sessions sessionId name = none := by
      rw [Sessions.held, found]
      rfl
    refine registry_eq (fun _ => Iff.rfl) (fun ref viewer => ?_) fun viewer name => ?_
    · refine (and_iff_left ?_).symm
      rintro ⟨_, name, held⟩
      exact absurd (held.symm.trans (nothing name)) nofun
    · show _ = if viewer = sessionId then none else Sessions.held server.sessions viewer name
      split
      · subst viewer
        exact nothing name
      · rfl
  | some s =>
    dsimp only
    have holds (name) : Sessions.held server.sessions sessionId name =
        (s.handler name).map (·.mediaTrack) := by
      rw [Sessions.held, found]
      rfl
    have destroyed : destroySession sessionId s server.mediaSources =
        (s.stop.sessionHandlers.entries.map (·.2.mediaTrack)).foldl (fun sources ref =>
          sources.modifyTrack ref (MediaTrack.unregisterSession sessionId)) server.mediaSources := by
      rw [List.foldl_map]
      rfl
    refine registry_eq (fun ref => ?_) (fun ref viewer => ?_) fun viewer name => ?_
    · rw [destroyed, live_unregisterAll]
      rfl
    · rw [destroyed, consumes_unregisterAll, mem_handledTracks]
      simp only [← holds]
      rfl
    · show _ = if viewer = sessionId then none else Sessions.held server.sessions viewer name
      unfold Sessions.held
      dsimp only
      split
      · subst viewer
        rw [AList.lookup_erase]
        rfl
      · rw [AList.lookup_erase_ne ‹_›]

end Server
end TinyRtsp
