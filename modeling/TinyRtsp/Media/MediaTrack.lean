import TinyRtsp.CircularQueue.Basic
import TinyRtsp.Rtp.Header
import TinyRtsp.Session.Session

/-! A media track as its sessions see it: the queue they are registered with,
its producer thread and the text that advertises it. H.264 and AAC tracks differ
in their constants only. -/
namespace TinyRtsp

abbrev SessionId := Text

/-- `std::shared_ptr<FrameData>`; `none` is null, the default. -/
abbrev Frame := Option (List UInt8)

namespace MediaType

def queueCapacity : MediaType → Nat
  | .h264 => 25
  | .aac => 43

theorem queueCapacity_pos (mediaType : MediaType) : 0 < mediaType.queueCapacity := by
  cases mediaType <;> decide

def timestampIncrement : MediaType → UInt32
  | .h264 => 3600
  | .aac => 1025

def sdpLines : MediaType → Text
  | .h264 => "m=video 0 RTP/AVP 96\r\na=rtpmap:96 H264/90000\r\n".toList
  | .aac => ("m=audio 0 RTP/AVP 97\r\na=rtpmap:97 mpeg4-generic/44100/2\r\n" ++
      "a=fmtp:97 profile-level-id=1;mode=AAC-hbr;sizelength=13;indexlength=3;" ++
      "indexdeltalength=3;config=1210;\r\n").toList

def openError : MediaType → String → Exception
  | .h264, url => .runtimeError ("Failed to open H.264 file: " ++ url)
  | .aac, url => .runtimeError ("Failed to open AAC file: " ++ url)

end MediaType

/-- `produceThread` says that `produce_thread_` is joinable. -/
structure MediaTrack where
  mediaType : MediaType
  url : String
  trackName : TrackName
  frameQueue : CircularQueue SessionId Frame mediaType.queueCapacity
  isActive : Bool
  fileOpen : Bool
  produceThread : Bool

namespace MediaTrack

/-- The constructor and `open`, which a track at server start has passed. -/
def new (mediaType : MediaType) (trackName : TrackName) (url : String) : MediaTrack where
  mediaType := mediaType
  url := url
  trackName := trackName
  frameQueue := .make _ mediaType.queueCapacity_pos
  isActive := false
  fileOpen := true
  produceThread := false

def getMediaSdp (t : MediaTrack) : Text :=
  t.mediaType.sdpLines ++ "a=control:".toList ++ t.trackName ++ "\r\n".toList

/-- `start`; `opens` says whether a closed file can be opened again. -/
def start (opens : Bool) (t : MediaTrack) : Outcome MediaTrack :=
  if t.isActive then .returned t
  else
    let t := { t with
      isActive := true
      frameQueue := if t.frameQueue.isExit then t.frameQueue.setRun else t.frameQueue }
    if !t.fileOpen && !opens then .thrown (t.mediaType.openError t.url) t
    else if t.produceThread then .terminated
    else .returned { t with fileOpen := true, produceThread := true }

def stop (t : MediaTrack) : MediaTrack :=
  { t with isActive := false, frameQueue := t.frameQueue.setExit, produceThread := false }

def registerSession (sessionId : SessionId) (t : MediaTrack) : MediaTrack :=
  { t with frameQueue := t.frameQueue.registerConsumer sessionId }

/-- The last session to leave stops the track and closes its file. -/
def unregisterSession (sessionId : SessionId) (t : MediaTrack) : MediaTrack :=
  let t := { t with frameQueue := t.frameQueue.unregisterConsumer sessionId }
  if t.frameQueue.noConsumer then { t.stop with fileOpen := false } else t

def HasConsumer (t : MediaTrack) (sessionId : SessionId) : Prop :=
  sessionId ∈ t.frameQueue.consumerPositions

theorem start_inactive {t u : MediaTrack} {opens : Bool} (inactive : t.isActive = false)
    (left : (t.start opens).session = some u) : u.isActive = true ∧ u.frameQueue.exit = false ∧
      (t.start opens = .returned u ∧ u.produceThread = true ∨
        (∃ e, t.start opens = .thrown e u) ∧ u.produceThread = t.produceThread) := by
  have runs : (if t.frameQueue.isExit then t.frameQueue.setRun else t.frameQueue).exit = false := by
    split
    · rfl
    · rename_i running
      simpa [CircularQueue.isExit] using running
  unfold start at left ⊢
  rw [if_neg (by simp [inactive])] at left ⊢
  dsimp only at left ⊢
  split at left
  · rename_i closed
    obtain rfl := Option.some.inj left
    exact ⟨rfl, runs, .inr ⟨⟨_, by rw [if_pos closed]⟩, rfl⟩⟩
  · rename_i usable
    split at left
    · contradiction
    · rename_i idle
      obtain rfl := Option.some.inj left
      exact ⟨rfl, runs, .inl ⟨by rw [if_neg usable, if_neg idle], rfl⟩⟩

theorem start_terminated {t : MediaTrack} {opens : Bool} (dies : t.start opens = .terminated) :
    t.isActive = false ∧ t.produceThread = true := by
  unfold start at dies
  split at dies
  · contradiction
  · rename_i inactive
    dsimp only at dies
    split at dies
    · contradiction
    · split at dies
      · rename_i held
        exact ⟨Bool.eq_false_iff.mpr inactive, held⟩
      · contradiction

/-- Whether the file is open or can be opened decides how the `start` of an inactive
track ends. -/
theorem start_opened {t u : MediaTrack} {opens : Bool} (inactive : t.isActive = false)
    (returned : t.start opens = .returned u) : t.fileOpen = true ∨ opens = true := by
  unfold start at returned
  rw [if_neg (by simp [inactive])] at returned
  dsimp only at returned
  split at returned
  · contradiction
  · rename_i usable
    cases hopen : t.fileOpen <;> cases opens <;> simp [hopen] at usable ⊢

theorem start_thrown {t u : MediaTrack} {opens : Bool} {e : Exception}
    (threw : t.start opens = .thrown e u) :
    t.isActive = false ∧ t.fileOpen = false ∧ opens = false := by
  unfold start at threw
  split at threw
  · contradiction
  · rename_i inactive
    dsimp only at threw
    split at threw
    · rename_i closed
      simpa [inactive] using closed
    · split at threw <;> contradiction

section Consumers
variable {t : MediaTrack} {sessionId other : SessionId}

theorem hasConsumer_registerSession :
    (t.registerSession sessionId).HasConsumer other ↔ other = sessionId ∨ t.HasConsumer other :=
  AList.mem_insert _

theorem hasConsumer_unregisterSession :
    (t.unregisterSession sessionId).HasConsumer other ↔ other ≠ sessionId ∧ t.HasConsumer other := by
  have left : other ∈ (t.frameQueue.unregisterConsumer sessionId).consumerPositions ↔
      other ≠ sessionId ∧ t.HasConsumer other := AList.mem_erase
  unfold unregisterSession
  dsimp only
  split
  · exact left
  · exact left

theorem hasConsumer_start {opens : Bool} {u : MediaTrack}
    (left : (t.start opens).session = some u) : u.HasConsumer other ↔ t.HasConsumer other := by
  have same : ∀ q : CircularQueue SessionId Frame t.mediaType.queueCapacity,
      other ∈ (if q.isExit then q.setRun else q).consumerPositions ↔ other ∈ q.consumerPositions := by
    intro q
    split <;> rfl
  unfold start at left
  split at left
  · obtain rfl := Option.some.inj left
    rfl
  · dsimp only at left
    split at left
    · obtain rfl := Option.some.inj left
      exact same _
    · split at left
      · contradiction
      · obtain rfl := Option.some.inj left
        exact same _

end Consumers
end MediaTrack
end TinyRtsp
