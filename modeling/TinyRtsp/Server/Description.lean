import TinyRtsp.Foundation.Chunks
import TinyRtsp.Rtsp.Response
import TinyRtsp.Server.Advertise

/-! The session description from the client's side: what DESCRIBE answers reads back as
the tracks of the stream, with the payload type and the clock that their packets have. -/
namespace TinyRtsp

def MediaType.mediaFps : MediaType → Nat
  | .h264 => 25
  | .aac => 43

def MediaType.clockRate : MediaType → Nat
  | .h264 => 90000
  | .aac => 44100

/-- How many ticks the timestamps of a second fall behind the clock: the increment of a
frame is a whole number, and 43 of 1025 are not 44100. -/
def MediaType.clockLag : MediaType → Nat
  | .h264 => 0
  | .aac => 25

theorem MediaType.timestampIncrement_eq (mediaType : MediaType) :
    mediaType.timestampIncrement.toNat * mediaType.mediaFps + mediaType.clockLag = mediaType.clockRate := by
  cases mediaType <;> decide

/-- What a client reads of a media section. -/
structure MediaDescription where
  payloadType : Nat
  encoding : Text
  clockRate : Nat
  control : Text
  deriving DecidableEq

namespace MediaDescription

def valueOf (mark : Text) (lines : List Text) : Option Text :=
  lines.findSome? fun line => if mark.isPrefixOf line then some (line.drop mark.length) else none

theorem valueOf_append {mark : Text} (lines more : List Text) :
    valueOf mark (lines ++ more) = (valueOf mark lines).or (valueOf mark more) :=
  List.findSome?_append

theorem valueOf_self (mark value : Text) : valueOf mark [mark ++ value] = some value := by
  have begins : mark.isPrefixOf (mark ++ value) = true :=
    List.isPrefixOf_iff_prefix.mpr (List.prefix_append _ _)
  rw [valueOf, List.findSome?_singleton, if_pos begins, List.drop_left]

theorem mapM_related {A B : Type} {read : A → Option B} {R : A → B → Prop} {items : List A}
    (reads : ∀ item ∈ items, ∃ b, read item = some b ∧ R item b) :
    ∃ results, items.mapM read = some results ∧ List.Forall₂ R items results := by
  induction items with
  | nil => exact ⟨[], rfl, .nil⟩
  | cons item items ih =>
    obtain ⟨b, here, related⟩ := reads item List.mem_cons_self
    obtain ⟨results, there, all⟩ := ih fun other member => reads other (List.mem_cons_of_mem _ member)
    refine ⟨b :: results, ?_, .cons related all⟩
    rw [List.mapM_cons, here, there]
    rfl

/-- The format of the `m=` line, what `rtpmap` says of it, and the control name. -/
def ofSection : List Text → Option MediaDescription
  | [] => none
  | media :: attributes => do
    let payloadType := Text.digitsValue (media.rtakeWhile (· != ' '))
    let rtpmap ← valueOf ("a=rtpmap:".toList ++ Text.decimal payloadType ++ [' ']) attributes
    let (encoding, parameters) ← Text.getline '/' rtpmap
    let control ← valueOf "a=control:".toList attributes
    return ⟨payloadType, encoding, Text.digitsValue (parameters.takeWhile Char.isDigit), control⟩

/-- The media sections of a session description, whose lines all end with CRLF. -/
def readAll (text : Text) : Option (List MediaDescription) :=
  (sections "m=".toList.isPrefixOf (Text.splitLines text).dropLast).2.mapM ofSection

/-- The description of a track: its name, and what its packets are stamped with. -/
structure Describes (d : MediaDescription) (name : TrackName) (t : MediaTrack) : Prop where
  control : d.control = name
  payloadType : ∀ marker sequenceNumber timestamp ssrc,
    (RtpHeader.mediaHeader t.mediaType marker sequenceNumber timestamp ssrc).payloadType.toNat = d.payloadType
  timestamps : t.mediaType.timestampIncrement.toNat * t.mediaType.mediaFps + t.mediaType.clockLag = d.clockRate

end MediaDescription

namespace MediaType

def mediaLine : MediaType → Text
  | .h264 => "m=video 0 RTP/AVP 96".toList
  | .aac => "m=audio 0 RTP/AVP 97".toList

def attributeLines : MediaType → List Text
  | .h264 => ["a=rtpmap:96 H264/90000".toList]
  | .aac => ["a=rtpmap:97 mpeg4-generic/44100/2".toList,
      ("a=fmtp:97 profile-level-id=1;mode=AAC-hbr;sizelength=13;indexlength=3;" ++
        "indexdeltalength=3;config=1210;").toList]

theorem sdpLines_eq (mediaType : MediaType) : mediaType.sdpLines =
    (mediaType.mediaLine :: mediaType.attributeLines).flatMap (· ++ Text.crlf) := by
  cases mediaType <;> decide +kernel

end MediaType

namespace MediaTrack

def sdpSection (t : MediaTrack) : Text × List Text :=
  (t.mediaType.mediaLine, t.mediaType.attributeLines ++ ["a=control:".toList ++ t.trackName])

theorem ofSection_sdpSection (t : MediaTrack) : ∃ d,
    MediaDescription.ofSection (t.sdpSection.1 :: t.sdpSection.2) = some d ∧ d.Describes t.trackName t := by
  obtain ⟨mediaType, url, trackName, frameQueue, isActive, fileOpen, produceThread⟩ := t
  have payloadType : Text.digitsValue (mediaType.mediaLine.rtakeWhile (· != ' ')) =
      mediaType.value.toNat := by
    cases mediaType <;> decide +kernel
  obtain ⟨encoding, parameters, rtpmap, clockRate⟩ : ∃ encoding parameters,
      (MediaDescription.valueOf ("a=rtpmap:".toList ++ Text.decimal mediaType.value.toNat ++ [' '])
        mediaType.attributeLines).bind (Text.getline '/') = some (encoding, parameters) ∧
      Text.digitsValue (parameters.takeWhile Char.isDigit) = mediaType.clockRate := by
    cases mediaType with
    | h264 => exact ⟨"H264".toList, "90000".toList, by decide +kernel, by decide +kernel⟩
    | aac => exact ⟨"mpeg4-generic".toList, "44100/2".toList, by decide +kernel, by decide +kernel⟩
  obtain ⟨value, mapped, split⟩ := Option.bind_eq_some_iff.mp rtpmap
  have unnamed : MediaDescription.valueOf "a=control:".toList mediaType.attributeLines = none := by
    cases mediaType <;> decide +kernel
  refine ⟨⟨mediaType.value.toNat, encoding, mediaType.clockRate, trackName⟩, ?_, rfl, ?_,
    mediaType.timestampIncrement_eq⟩
  · simp only [sdpSection, MediaDescription.ofSection, payloadType, MediaDescription.valueOf_append, mapped,
      unnamed, MediaDescription.valueOf_self, Option.some_or, Option.none_or, Option.bind_eq_bind,
      Option.bind_some, split, clockRate]
    rfl
  · intro _ _ _ _
    cases mediaType <;> rfl

theorem getMediaSdp_eq (t : MediaTrack) :
    t.getMediaSdp = (t.sdpSection.1 :: t.sdpSection.2).flatMap (· ++ Text.crlf) := by
  have crlf : "\r\n".toList = Text.crlf := by decide
  calc t.getMediaSdp
      = (t.mediaType.mediaLine :: t.mediaType.attributeLines).flatMap (· ++ Text.crlf) ++
          ("a=control:".toList ++ t.trackName ++ Text.crlf) := by
        rw [getMediaSdp, MediaType.sdpLines_eq, crlf, List.append_assoc, List.append_assoc]
        rfl
    _ = ((t.mediaType.mediaLine :: t.mediaType.attributeLines) ++ ["a=control:".toList ++ t.trackName]).flatMap
          (· ++ Text.crlf) := by
        rw [List.flatMap_append, List.flatMap_singleton]
    _ = (t.sdpSection.1 :: t.sdpSection.2).flatMap (· ++ Text.crlf) := rfl

end MediaTrack

namespace ConnectionHandler

def sessionLines (env : Env) (host : Text) : List Text :=
  ["v=0".toList, "o=- ".toList ++ Text.decimal env.secondsSinceEpoch ++ " 1 IN IP4 ".toList ++ host,
    "t=0 0".toList, "a=control:*".toList]

theorem sdp_eq (env : Env) (host : Text) (tracks : Table TrackName MediaTrack) :
    sdp env host tracks = (sessionLines env host ++ (tracks.entries.map (·.2.sdpSection)).flatMap
      fun piece => piece.1 :: piece.2).flatMap (· ++ Text.crlf) := by
  have sections : (tracks.entries.flatMap fun entry => entry.2.getMediaSdp) =
      ((tracks.entries.map (·.2.sdpSection)).flatMap fun piece => piece.1 :: piece.2).flatMap
        (· ++ Text.crlf) := by
    rw [List.flatMap_assoc, List.flatMap_map]
    exact congrArg (List.flatMap · _) (funext fun entry => entry.2.getMediaSdp_eq)
  have first : "v=0\r\no=- ".toList = "v=0".toList ++ Text.crlf ++ "o=- ".toList := by decide
  have last : "\r\nt=0 0\r\na=control:*\r\n".toList =
      Text.crlf ++ ("t=0 0".toList ++ Text.crlf) ++ ("a=control:*".toList ++ Text.crlf) := by decide
  unfold sdp sessionLines
  rw [List.flatMap_append, sections, first, last]
  simp only [List.flatMap_cons, List.flatMap_nil, List.append_nil, List.append_assoc]

theorem clean_sessionLines {env : Env} {host : Text} (clean : host.Clean) :
    ∀ line ∈ sessionLines env host, Text.Clean line := by
  have origin : Text.Clean ("o=- ".toList ++ Text.decimal env.secondsSinceEpoch ++ " 1 IN IP4 ".toList ++ host) := by
    have first : Text.Clean "o=- ".toList := by decide
    have second : Text.Clean " 1 IN IP4 ".toList := by decide
    exact ((first.append (Text.clean_decimal _)).append second).append clean
  unfold sessionLines
  simp only [List.forall_mem_cons]
  exact ⟨by decide, origin, by decide, by decide, fun _ => nofun⟩

theorem clean_sdpSection {t : MediaTrack} (clean : t.trackName.Clean) :
    ∀ line ∈ t.sdpSection.1 :: t.sdpSection.2, Text.Clean line := by
  have media : t.mediaType.mediaLine.Clean ∧ ∀ line ∈ t.mediaType.attributeLines, Text.Clean line := by
    cases t.mediaType <;> decide
  have mark : Text.Clean "a=control:".toList := by decide
  unfold MediaTrack.sdpSection
  rw [List.forall_mem_cons, List.forall_mem_append, List.forall_mem_singleton]
  exact ⟨media.1, media.2, mark.append clean⟩

theorem opens_sdpSection (t : MediaTrack) : "m=".toList.isPrefixOf t.sdpSection.1 = true ∧
    ∀ line ∈ t.sdpSection.2, "m=".toList.isPrefixOf line = false := by
  have media : "m=".toList.isPrefixOf t.mediaType.mediaLine = true ∧
      ∀ line ∈ t.mediaType.attributeLines, "m=".toList.isPrefixOf line = false := by
    cases t.mediaType <;> decide
  unfold MediaTrack.sdpSection
  rw [List.forall_mem_append, List.forall_mem_singleton]
  exact ⟨media.1, media.2, rfl⟩

/-- The answer to DESCRIBE reads back as one description for each track. -/
theorem readAll_sdp {env : Env} {host : Text} {tracks : Table TrackName MediaTrack} (host_clean : host.Clean)
    (names_clean : ∀ entry ∈ tracks.entries, Text.Clean entry.2.trackName) :
    ∃ descriptions, MediaDescription.readAll (sdp env host tracks) = some descriptions ∧
      List.Forall₂ (fun (entry : (_ : TrackName) × MediaTrack) d => d.Describes entry.2.trackName entry.2)
        tracks.entries descriptions := by
  have clean : ∀ line ∈ sessionLines env host ++ (tracks.entries.map (·.2.sdpSection)).flatMap
      fun piece => piece.1 :: piece.2, Text.Clean line := by
    intro line member
    rcases List.mem_append.mp member with first | later
    · exact clean_sessionLines host_clean line first
    · obtain ⟨piece, described, here⟩ := List.mem_flatMap.mp later
      obtain ⟨entry, listed, rfl⟩ := List.mem_map.mp described
      exact clean_sdpSection (names_clean entry listed) line here
  have plain : ∀ line ∈ sessionLines env host, "m=".toList.isPrefixOf line = false := by
    unfold sessionLines
    simp only [List.forall_mem_cons]
    exact ⟨by decide, rfl, by decide, by decide, fun _ => nofun⟩
  have opened : ∀ piece ∈ tracks.entries.map (·.2.sdpSection), "m=".toList.isPrefixOf piece.1 = true ∧
      ∀ line ∈ piece.2, "m=".toList.isPrefixOf line = false := by
    intro piece described
    obtain ⟨entry, _, rfl⟩ := List.mem_map.mp described
    exact opens_sdpSection entry.2
  rw [MediaDescription.readAll, sdp_eq, Text.splitLines_terminated clean, List.dropLast_concat,
    sections_pieces plain opened, List.map_map, List.mapM_map]
  exact MediaDescription.mapM_related fun entry _ => entry.2.ofSection_sdpSection

theorem parseUrl_clean {uri : Text} {url : RtspUrl} (clean : uri.Clean) (read : parseUrl uri = .ok url) :
    url.host.Clean := by
  unfold parseUrl at read
  split at read
  · rename_i urlMatch found
    obtain rfl := Except.ok.inj read
    exact clean.subset (Regex.search_subset found 4)
  · contradiction

end ConnectionHandler

/-- Every SETUP whose URL is one of the stream with the control name behind it, and whose
transport can be read, reaches the track. -/
def MediaDescription.LeadsTo (d : MediaDescription) (ref : TrackRef) (server : Server) : Prop :=
  ∀ (stream : StreamUrl) (env : Env) (setup response : RtspMessage) (connection : Connection)
    (client : ClientPorts), stream.app = ref.stream →
    setup.requestUri = stream.text none ++ '/' :: d.control →
    parseTransport (setup.getHeaderValue "Transport".toList) = .ok client →
    ConnectionHandler.Reaches env setup response ref ⟨server, connection⟩

namespace Site
open ConnectionHandler
variable {C : Type} [DecidableEq C] {mediaSources : MediaSources} {availablePorts : List Int}
  {trace : List (Event C)} {s : Site C}

end Site
end TinyRtsp
