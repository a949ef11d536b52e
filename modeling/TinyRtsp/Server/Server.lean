import TinyRtsp.Media.MediaTrack

/-! What the connections share: the media sources, the sessions of
`SessionManager` and the port pool, with each call on them as one step. The
order of a table stands for the order of the unordered map it models. -/
namespace TinyRtsp

/-- A `shared_ptr<MediaTrack>`: the stream and the track name it was found by. -/
structure TrackRef where
  stream : Text
  track : TrackName
  deriving DecidableEq

structure RtpRtcpConfig where
  serverRtpPort : Int
  serverRtcpPort : Int
  ip : Text
  rtpPort : Int
  rtcpPort : Int
  timestampIncrement : UInt32

abbrev MediaSources := Table Text (Table TrackName MediaTrack)

namespace MediaSources

/-- `get_media_source` and `get_media_track` -/
def track (sources : MediaSources) (ref : TrackRef) : Option MediaTrack :=
  (sources.lookup ref.stream).bind (·.lookup ref.track)

def modifyTrack (sources : MediaSources) (ref : TrackRef) (f : MediaTrack → MediaTrack) :
    MediaSources :=
  sources.modify ref.stream (·.modify ref.track f)

theorem track_modifyTrack (sources : MediaSources) (ref other : TrackRef)
    (f : MediaTrack → MediaTrack) :
    (sources.modifyTrack ref f).track other =
      if other = ref then (sources.track ref).map f else sources.track other := by
  obtain ⟨stream, track⟩ := ref
  obtain ⟨otherStream, otherTrack⟩ := other
  simp only [MediaSources.track, modifyTrack, Table.lookup_modify, TrackRef.mk.injEq]
  by_cases sameStream : otherStream = stream
  · subst otherStream
    cases sources.lookup stream with
    | none => simp
    | some tracks =>
      by_cases sameTrack : otherTrack = track
      · subst otherTrack
        simp [Table.lookup_modify]
      · simp [Table.lookup_modify, sameTrack]
  · simp [sameStream]

end MediaSources

structure Server where
  mediaSources : MediaSources
  sessions : Table SessionId (Session TrackRef RtpRtcpConfig)
  availablePorts : List Int

namespace Server

def allocatePortPair (server : Server) : Int × Server :=
  match server.availablePorts with
  | [] => (-1, server)
  | port :: rest => (port, { server with availablePorts := rest })

def sessionExists (server : Server) (sessionId : SessionId) : Bool :=
  (server.sessions.lookup sessionId).isSome

/-- `~Session`, which runs `stop` and unregisters from every track. -/
def destroySession (sessionId : SessionId) (s : Session TrackRef RtpRtcpConfig)
    (sources : MediaSources) : MediaSources :=
  s.stop.sessionHandlers.entries.foldl
    (fun sources entry =>
      sources.modifyTrack entry.2.mediaTrack (MediaTrack.unregisterSession sessionId))
    sources

/-- `terminate_session`: the map held the last reference to the session. -/
def terminateSession (server : Server) (sessionId : SessionId) : Server :=
  match server.sessions.lookup sessionId with
  | none => server
  | some s => { server with
      sessions := server.sessions.erase sessionId
      mediaSources := destroySession sessionId s server.mediaSources }

/-- `create_session`, called for an id that does not exist. -/
def createSession (server : Server) (sessionId : SessionId) : Server :=
  { server with sessions := server.sessions.insert sessionId .new }

/-- `add_media_track` of an existing session: the id is registered before the
`RtpRtcpHandler` is constructed, and stays registered when that throws. -/
def addMediaTrack (server : Server) (sessionId : SessionId) (ref : TrackRef)
    (rtpRtcpHandler : Except Exception RtpRtcpConfig) : Outcome Server :=
  match server.sessions.lookup sessionId with
  | none => .terminated
  | some s => (s.addMediaTrack ref.track ref rtpRtcpHandler).map fun s => { server with
      mediaSources := server.mediaSources.modifyTrack ref (MediaTrack.registerSession sessionId)
      sessions := server.sessions.insert sessionId s }

def startTrack (opens : TrackRef → Bool) (_ : TrackName) (ref : TrackRef) (sources : MediaSources) :
    Outcome MediaSources :=
  match sources.track ref with
  | none => .terminated
  | some t => (t.start (opens ref)).map fun started => sources.modifyTrack ref fun _ => started

def startSession (opens : TrackRef → Bool) (server : Server) (sessionId : SessionId) :
    Outcome Server :=
  match server.sessions.lookup sessionId with
  | none => .terminated
  | some s =>
    (Session.start (startTrack opens) s.sessionHandlers.keys server.mediaSources s).map
      fun (sources, s) => { server with
        mediaSources := sources
        sessions := server.sessions.insert sessionId s }

def pauseSession (server : Server) (sessionId : SessionId) : Server :=
  { server with sessions := server.sessions.modify sessionId Session.pause }

variable {server after : Server} {sessionId : SessionId} {ref : TrackRef}

theorem addMediaTrack_session {rtpRtcpHandler : Except Exception RtpRtcpConfig}
    (left : (server.addMediaTrack sessionId ref rtpRtcpHandler).session = some after) :
    ∃ s added, server.sessions.lookup sessionId = some s ∧
      (s.addMediaTrack ref.track ref rtpRtcpHandler).session = some added ∧
      after = { server with
        mediaSources := server.mediaSources.modifyTrack ref (MediaTrack.registerSession sessionId)
        sessions := server.sessions.insert sessionId added } := by
  simp only [addMediaTrack] at left
  split at left
  · contradiction
  · rename_i s found
    rw [Outcome.session_map] at left
    obtain ⟨added, ended, same⟩ := Option.map_eq_some_iff.mp left
    exact ⟨s, added, found, ended, same.symm⟩

theorem startTrack_session {opens : TrackRef → Bool} {name : TrackName} {sources next : MediaSources}
    (left : (startTrack opens name ref sources).session = some next) :
    ∃ t started, sources.track ref = some t ∧ (t.start (opens ref)).session = some started ∧
      next = sources.modifyTrack ref fun _ => started := by
  simp only [startTrack] at left
  split at left
  · contradiction
  · rename_i t found
    rw [Outcome.session_map] at left
    obtain ⟨started, ended, same⟩ := Option.map_eq_some_iff.mp left
    exact ⟨t, started, found, ended, same.symm⟩

theorem startSession_session {opens : TrackRef → Bool}
    (left : (server.startSession opens sessionId).session = some after) :
    ∃ s sources started, server.sessions.lookup sessionId = some s ∧
      (Session.start (startTrack opens) s.sessionHandlers.keys server.mediaSources s).session =
        some (sources, started) ∧
      after = { server with
        mediaSources := sources
        sessions := server.sessions.insert sessionId started } := by
  simp only [startSession] at left
  split at left
  · contradiction
  · rename_i s found
    rw [Outcome.session_map] at left
    obtain ⟨⟨sources, started⟩, ended, same⟩ := Option.map_eq_some_iff.mp left
    exact ⟨s, sources, started, found, ended, same.symm⟩

end Server
end TinyRtsp
