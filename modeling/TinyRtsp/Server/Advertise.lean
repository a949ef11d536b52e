import TinyRtsp.Rtsp.StreamUrl
import TinyRtsp.Server.Invariant
import TinyRtsp.Server.Setup

/-! From the control name that DESCRIBE advertises back to the track: what SETUP
parses in its URL and looks up in the media sources. -/
namespace TinyRtsp

namespace MediaSources

def addMediaSource (sources : MediaSources) (streamName : Text) : MediaSources :=
  sources.insert streamName ∅

def addMediaTrack (sources : MediaSources) (streamName : Text) (trackName : TrackName)
    (mediaUrl : String) (mediaType : MediaType) : MediaSources :=
  sources.modify streamName (·.insert trackName (.new mediaType trackName mediaUrl))

/-- What can be registered before the server runs. -/
inductive Registered : MediaSources → Prop where
  | nothing : Registered ∅
  | source {sources : MediaSources} (streamName : Text) :
      Registered sources → Registered (sources.addMediaSource streamName)
  | track {sources : MediaSources} (streamName : Text) (trackName : TrackName) (mediaUrl : String)
      (mediaType : MediaType) : Registered sources →
        Registered (sources.addMediaTrack streamName trackName mediaUrl mediaType)

variable {sources : MediaSources} {ref : TrackRef} {t u : MediaTrack}

/-- Every track is found under its own name. -/
def Named (sources : MediaSources) : Prop :=
  ∀ ref t, sources.track ref = some t → t.trackName = ref.track

theorem track_addMediaSource (streamName : Text) :
    (sources.addMediaSource streamName).track ref =
      if ref.stream = streamName then none else sources.track ref := by
  unfold MediaSources.track addMediaSource
  split
  · rename_i same
    rw [same, AList.lookup_insert]
    rfl
  · rename_i other
    rw [AList.lookup_insert_ne other]

theorem track_addMediaTrack (streamName : Text) (trackName : TrackName) (mediaUrl : String)
    (mediaType : MediaType) (found : (sources.addMediaTrack streamName trackName mediaUrl mediaType).track
      ref = some t) :
    sources.track ref = some t ∨ ref.track = trackName ∧ t = .new mediaType trackName mediaUrl := by
  unfold MediaSources.track addMediaTrack at found
  rw [Table.lookup_modify] at found
  split at found
  · obtain ⟨tracks, source, here⟩ := Option.bind_eq_some_iff.mp found
    obtain ⟨before, stream, rfl⟩ := Option.map_eq_some_iff.mp source
    by_cases same : ref.track = trackName
    · rw [same, AList.lookup_insert] at here
      exact .inr ⟨same, (Option.some.inj here).symm⟩
    · rw [AList.lookup_insert_ne same] at here
      refine .inl ?_
      rw [MediaSources.track, stream]
      exact here
  · exact .inl found

theorem Registered.named (registered : Registered sources) : sources.Named := by
  induction registered with
  | nothing => exact fun _ _ => nofun
  | source streamName _ ih =>
    intro ref t found
    rw [track_addMediaSource] at found
    split at found
    · contradiction
    · exact ih ref t found
  | track streamName trackName mediaUrl mediaType _ ih =>
    intro ref t found
    rcases track_addMediaTrack streamName trackName mediaUrl mediaType found with before | ⟨same, rfl⟩
    · exact ih ref t before
    · exact same.symm

def names (sources : MediaSources) (ref : TrackRef) : Option TrackName :=
  (sources.track ref).map (·.trackName)

theorem names_modifyTrack {f : MediaTrack → MediaTrack}
    (same : ∀ t, sources.track ref = some t → (f t).trackName = t.trackName) :
    (sources.modifyTrack ref f).names = sources.names := by
  funext other
  unfold names
  rw [track_modifyTrack]
  split
  · subst other
    cases found : sources.track ref with
    | none => rfl
    | some t => exact congrArg some (same t found)
  · rfl

theorem names_setTrack (found : sources.track ref = some t) (same : u.trackName = t.trackName) :
    (sources.modifyTrack ref fun _ => u).names = sources.names := by
  apply names_modifyTrack
  intro v here
  obtain rfl := Option.some.inj (found.symm.trans here)
  exact same

end MediaSources

theorem MediaTrack.trackName_start {t u : MediaTrack} {opens : Bool}
    (left : (t.start opens).session = some u) : u.trackName = t.trackName := by
  unfold start at left
  split at left
  · obtain rfl := Option.some.inj left
    rfl
  · dsimp only at left
    split at left
    · obtain rfl := Option.some.inj left
      rfl
    · split at left
      · contradiction
      · obtain rfl := Option.some.inj left
        rfl

theorem MediaTrack.trackName_unregisterSession (t : MediaTrack) (sessionId : SessionId) :
    (t.unregisterSession sessionId).trackName = t.trackName := by
  unfold unregisterSession
  dsimp only
  split
  · rfl
  · rfl

theorem Server.preserves_names (names : TrackRef → Option TrackName) :
    Server.Preserves fun server => server.mediaSources.names = names where
  allocatePortPair := by
    intro server here
    unfold allocatePortPair
    split
    · exact here
    · exact here
  createSession := fun _ here => here
  addMediaTrack := by
    intro server after sessionId ref config here left
    obtain ⟨s, added, _, _, rfl⟩ := addMediaTrack_session left
    refine (MediaSources.names_modifyTrack fun t _ => ?_).trans here
    rfl
  startSession := by
    intro server after sessionId opens here left
    obtain ⟨s, sources, started, _, ended, rfl⟩ := startSession_session left
    refine (Session.start_keeps (P := fun sources => sources.names = names) ?_ here ended).1
    intro name ref sources next same left
    obtain ⟨t, u, found, track, rfl⟩ := startTrack_session left
    exact (MediaSources.names_setTrack found (MediaTrack.trackName_start track)).trans same
  pauseSession := fun _ here => here
  terminateSession := by
    intro server sessionId here
    unfold terminateSession
    split
    · exact here
    · unfold destroySession
      dsimp only
      refine List.foldlRecOn (motive := fun sources => MediaSources.names sources = names)
        _ _ here fun sources same entry _ => ?_
      refine (MediaSources.names_modifyTrack fun t _ => ?_).trans same
      exact MediaTrack.trackName_unregisterSession t sessionId
  thread := by
    intro server after step here taken
    rcases thread_cases taken with ⟨ref, t, frameQueue, found, _, rfl⟩ | ⟨sessionId, name, rfl⟩
    · refine (MediaSources.names_setTrack found ?_).trans here
      rfl
    · exact here

namespace ConnectionHandler
variable {env : Env} {request response : RtspMessage} {w : World} {url : RtspUrl}
  {tracks : Table TrackName MediaTrack} {name : TrackName} {t : MediaTrack}

theorem getMediaSdp_infix (env : Env) (host : Text) (found : tracks.lookup name = some t) :
    t.getMediaSdp <:+: sdp env host tracks := by
  have member : (⟨name, t⟩ : (_ : TrackName) × MediaTrack) ∈ tracks.entries :=
    AList.mem_lookup_iff.mp found
  obtain ⟨before, after, split⟩ := List.append_of_mem member
  refine ⟨"v=0\r\no=- ".toList ++ Text.decimal env.secondsSinceEpoch ++ " 1 IN IP4 ".toList ++ host ++
    "\r\nt=0 0\r\na=control:*\r\n".toList ++ before.flatMap fun entry => entry.2.getMediaSdp,
    after.flatMap fun entry => entry.2.getMediaSdp, ?_⟩
  unfold sdp
  rw [split, List.flatMap_append, List.flatMap_cons]
  simp only [List.append_assoc]

theorem handleDescribe_advertises (read : parseUrl request.requestUri = .ok url)
    (accepts : request.getHeaderValue "Accept".toList = "application/sdp".toList)
    (source : w.server.mediaSources.lookup url.app = some tracks)
    (found : tracks.lookup name = some t) :
    ∃ answer after, (handleDescribe env request response).run w = .ok answer after ∧
      answer.statusCode = .ok ∧ t.getMediaSdp <:+: answer.body := by
  have described : t.getMediaSdp <:+: sdp env url.host tracks := getMediaSdp_infix env url.host found
  simp only [handleDescribe, EStateM.run_bind, parseUrlOf_run read]
  rw [if_neg (not_not_intro accepts)]
  simp only [EStateM.run_bind, EStateM.run_get, source]
  exact ⟨_, _, rfl, rfl, described⟩

/-- SETUP reaches the track: the session that the answer names has a handler for it
and is a consumer of it. Without an answer the sockets have failed behind the
registration, or the handler would replace one whose sender is joinable. -/
def Reaches (env : Env) (request response : RtspMessage) (ref : TrackRef) (w : World) : Prop :=
  match (handleSetup env request response).run w with
  | .ok answer after => answer.statusCode = .ok ∧
      answer.getHeaderValue "Session".toList = setupId env request ∧
      after.server.mediaSources.Consumes ref (setupId env request) ∧
      ∃ session handler, after.server.sessions.lookup (setupId env request) = some session ∧
        session.handler ref.track = some handler ∧ handler.mediaTrack = ref
  | .error (.exception e) after => env.constructs = .error e ∧
      after.server.mediaSources.Consumes ref (setupId env request)
  | .error .terminate _ => env.constructs = .ok () ∧
      ∃ session handler, w.server.sessions.lookup (setupId env request) = some session ∧
        session.handler ref.track = some handler ∧ handler.senderThread.isSome = true

theorem handleSetup_reaches {client : ClientPorts} (env : Env) (response : RtspMessage)
    (reads : Reads request url client)
    (found : w.server.mediaSources.track ⟨url.app, url.track⟩ = some t) :
    Reaches env request response ⟨url.app, url.track⟩ w := by
  have spec := handleSetup_found env response reads found
  have live : (w.server.mediaSources.track ⟨url.app, url.track⟩).isSome := by
    rw [found]
    rfl
  have consumes : (w.server.mediaSources.modifyTrack ⟨url.app, url.track⟩
      (MediaTrack.registerSession (setupId env request))).Consumes ⟨url.app, url.track⟩
        (setupId env request) := (MediaSources.consumes_register live).mpr (.inl ⟨rfl, rfl⟩)
  rw [setupAdds_eq] at spec
  cases sockets : env.constructs with
  | error e =>
    rw [sockets] at spec
    have ended : (handleSetup env request response).run w = .error (.exception e) _ := spec
    rw [Reaches, ended]
    exact ⟨sockets, consumes⟩
  | ok =>
    simp only [sockets, Session.addMediaTrack, Except.map] at spec
    cases joinable : (((w.server.sessions.lookup (setupId env request)).getD .new).handler
        url.track).any (·.senderThread.isSome) with
    | true =>
      rw [joinable, if_pos rfl] at spec
      obtain ⟨left, ended⟩ := spec
      rw [Reaches, ended]
      obtain ⟨handler, has, sender⟩ := (Option.any_eq_true _ _).mp joinable
      cases known : w.server.sessions.lookup (setupId env request) with
      | none =>
        rw [known] at has
        contradiction
      | some session =>
        rw [known] at has
        exact ⟨sockets, session, handler, rfl, has, sender⟩
    | false =>
      rw [joinable, if_neg Bool.false_ne_true] at spec
      have ended : (handleSetup env request response).run w = .ok _ _ := spec
      rw [Reaches, ended]
      refine ⟨rfl, ?_, consumes, _, ⟨false, none, ⟨url.app, url.track⟩, rtpConfig w client t⟩,
        AList.lookup_insert _, ?_, rfl⟩
      · rw [RtspMessage.getHeaderValue, setupAnswer, RtspMessage.lookup_setHeaders, if_pos rfl]
        rfl
      · exact (Session.handler_set ..).trans (if_pos rfl)

end ConnectionHandler

theorem StreamUrl.text_some (url : StreamUrl) (track : Text) :
    url.text (some track) = url.text none ++ '/' :: track := by
  unfold text
  generalize "rtsp://".toList = scheme
  rw [Option.elim_some, Option.elim_none, List.append_nil]

theorem Text.middle_inj {before after a b : Text}
    (same : before ++ a ++ after = before ++ b ++ after) : a = b := by
  rwa [List.append_left_inj, List.append_right_inj] at same

theorem MediaTrack.control_eq {t : MediaTrack} {control : Text}
    (advertised : t.getMediaSdp = t.mediaType.sdpLines ++ "a=control:".toList ++ control ++
      "\r\n".toList) : control = t.trackName := by
  unfold getMediaSdp at advertised
  exact (Text.middle_inj advertised).symm

namespace Site
open ConnectionHandler
variable {C : Type} [DecidableEq C] {mediaSources : MediaSources} {availablePorts : List Int}
  {trace : List (Event C)} {s : Site C}

/-- A reachable server finds every track under its own name. -/
theorem named_of_run (registered : mediaSources.Registered)
    (run : Transition.Run (Transition.Takes act) (start mediaSources availablePorts) trace s) :
    s.server.mediaSources.Named := by
  intro ref t found
  have names := run_preserves (Server.preserves_names mediaSources.names) run rfl
  have here := congrFun names ref
  rw [MediaSources.names, MediaSources.names, found, Option.map_some] at here
  obtain ⟨u, initial, same⟩ := Option.map_eq_some_iff.mp here.symm
  rw [← same, registered.named ref u initial]

/-- `parse_url` reads the parts of every stream URL. Every track of a stream
advertises a control name, and SETUP of the stream's URL with that name behind it
reaches the track, now and later. -/
theorem describe_setup_agree (registered : mediaSources.Registered)
    (run : Transition.Run (Transition.Takes act) (start mediaSources availablePorts) trace s) :
    (∀ (url : StreamUrl) (track : Option Text), (∀ t ∈ track, '/' ∉ t ∧ '@' ∉ t) →
      parseUrl (url.text track) = .ok (url.parts track)) ∧
    ∀ (url : StreamUrl) (tracks : Table TrackName MediaTrack),
      s.server.mediaSources.lookup url.app = some tracks →
      (∀ name ∈ tracks, '/' ∉ name ∧ '@' ∉ name) →
      ∀ name t, tracks.lookup name = some t →
        ∃ control parts, t.getMediaSdp = t.mediaType.sdpLines ++ "a=control:".toList ++ control ++
            "\r\n".toList ∧
          (∀ (env : Env) (request response : RtspMessage) (connection : Connection),
            request.requestUri = url.text none →
            request.getHeaderValue "Accept".toList = "application/sdp".toList →
            ∃ answer w, (handleDescribe env request response).run ⟨s.server, connection⟩ =
                .ok answer w ∧
              answer.statusCode = .ok ∧ t.getMediaSdp <:+: answer.body) ∧
          parseUrl (url.text none ++ '/' :: control) = .ok parts ∧
          (⟨parts.app, parts.track⟩ : TrackRef) = ⟨url.app, name⟩ ∧
          s.server.mediaSources.track ⟨parts.app, parts.track⟩ = some t ∧
          ∀ (later : List (Event C)) (s' : Site C), Transition.Run (Transition.Takes act) s later s' →
            (s'.server.mediaSources.track ⟨parts.app, parts.track⟩).isSome ∧
            ∀ (env : Env) (request response : RtspMessage) (connection : Connection)
              (client : ClientPorts), request.requestUri = url.text none ++ '/' :: control →
              parseTransport (request.getHeaderValue "Transport".toList) = .ok client →
              Reaches env request response ⟨url.app, name⟩ ⟨s'.server, connection⟩ := by
  refine ⟨StreamUrl.parseUrl_text, fun url tracks source plain name t found => ?_⟩
  have here : s.server.mediaSources.track ⟨url.app, name⟩ = some t := by
    rw [MediaSources.track, source]
    exact found
  have named : t.trackName = name := named_of_run registered run _ t here
  have member : name ∈ tracks := AList.lookup_isSome.mp (by rw [found]; rfl)
  have read : parseUrl (url.text none ++ '/' :: name) = .ok (url.parts (some name)) := by
    rw [← StreamUrl.text_some]
    refine url.parseUrl_text (some name) fun track same => ?_
    obtain rfl := Option.some.inj same
    exact plain name member
  refine ⟨name, url.parts (some name), ?_, ?_, read, rfl, here, fun later s' onwards => ?_⟩
  · rw [MediaTrack.getMediaSdp, named]
  · intro env request response connection asked accepts
    have read : parseUrl request.requestUri = .ok (url.parts none) := by
      rw [asked]
      exact url.parseUrl_text none (by rintro _ ⟨⟩)
    exact handleDescribe_advertises read accepts source found
  · have names := run_preserves (Server.preserves_names s.server.mediaSources.names) onwards rfl
    have kept := congrFun names ⟨url.app, name⟩
    rw [MediaSources.names, MediaSources.names, here, Option.map_some] at kept
    obtain ⟨u, still, _⟩ := Option.map_eq_some_iff.mp kept
    refine ⟨Option.isSome_iff_exists.mpr ⟨u, still⟩, ?_⟩
    intro env request response connection client asked offers
    have reads : Reads request (url.parts (some name)) client := ⟨by rw [asked]; exact read, offers⟩
    exact handleSetup_reaches (w := ⟨s'.server, connection⟩) env response reads still

/-- One stream, asked for with credentials, and a SETUP for its track. -/
theorem describe_setup_agree_one : ∃ mediaSources parts,
    parseUrl "rtsp://u:p@host:554/a/v".toList = .ok parts ∧
      ((MediaSources.track mediaSources ⟨parts.app, parts.track⟩).map MediaTrack.url) = some "a.264" ∧
      Reaches ⟨0, 0, .ok (), fun _ => true⟩
        ({ RtspMessage.new with method := .setup, requestUri := "rtsp://u:p@host:554/a/v".toList }.setHeaders
          "Transport".toList "RTP/AVP;unicast;client_port=5000-5001".toList) .new
        ⟨"a".toList, "v".toList⟩
        ⟨⟨mediaSources, ∅, [15000]⟩, ⟨"10.0.0.1".toList, [], .empty, [], []⟩⟩ := by
  let url : StreamUrl := {
    credentials := some ("u".toList, "p".toList)
    host := "host".toList
    port := "554".toList
    app := "a".toList
    user_plain := by decide
    pass_plain := by decide
    host_plain := by decide
    port_digits := by decide
    app_plain := by decide }
  let t : MediaTrack := .new .h264 "v".toList "a.264"
  let sources := (MediaSources.addMediaSource ∅ "a".toList).addMediaTrack "a".toList "v".toList "a.264" .h264
  have registered : sources.Registered := .track _ _ _ _ (.source _ .nothing)
  have source : sources.lookup "a".toList = some (AList.singleton "v".toList t) := rfl
  have plain : ∀ name ∈ (AList.singleton "v".toList t : Table TrackName MediaTrack),
      '/' ∉ name ∧ '@' ∉ name := by
    intro name member
    obtain rfl := List.mem_singleton.mp (AList.mem_keys.mp member)
    decide
  have run : Transition.Run (Transition.Takes act) (start sources [15000] : Site Unit) []
      (start sources [15000]) := .start
  obtain ⟨_, streams⟩ := describe_setup_agree registered run
  obtain ⟨control, parts, advertised, _, read, _, found, onwards⟩ :=
    streams url _ source plain "v".toList t rfl
  obtain rfl : control = "v".toList := MediaTrack.control_eq advertised
  have text : url.text none ++ '/' :: "v".toList = "rtsp://u:p@host:554/a/v".toList := by decide
  rw [text] at read onwards
  obtain ⟨_, reaches⟩ := onwards [] _ .start
  refine ⟨sources, parts, read, congrArg (Option.map MediaTrack.url) found, ?_⟩
  exact reaches _ _ _ _ ⟨5000, 5001, "5000-5001".toList⟩ rfl rfl

end Site
end TinyRtsp
