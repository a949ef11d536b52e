import TinyRtsp.Foundation.Table
import TinyRtsp.Foundation.Text

/-! A session and its track handlers. Only `stop` joins a sender thread; `pause`,
`start` and `add_media_track` change the flag and the handlers around it, and a
`std::thread` that is destroyed while joinable ends the whole process. -/
namespace TinyRtsp

/-- A joinable `sender_thread_`: one that has ended still has to be joined. -/
inductive SenderThread where
  | running
  | ended
  deriving DecidableEq

structure SessionHandler (Track Rtp : Type) where
  isActive : Bool
  senderThread : Option SenderThread
  mediaTrack : Track
  rtpRtcpHandler : Rtp

def SessionHandler.fixed {Track Rtp : Type} (h : SessionHandler Track Rtp) : Track × Rtp :=
  (h.mediaTrack, h.rtpRtcpHandler)

abbrev TrackName := Text

structure Session (Track Rtp : Type) where
  sessionHandlers : Table TrackName (SessionHandler Track Rtp)

/-- How a call ends: with its return, with an exception, or with `std::terminate`. -/
inductive Outcome (S : Type) where
  | returned (s : S)
  | thrown (e : Exception) (s : S)
  | terminated

def Outcome.session {S : Type} : Outcome S → Option S
  | .returned s | .thrown _ s => some s
  | .terminated => none

def Outcome.map {S T : Type} (f : S → T) : Outcome S → Outcome T
  | .returned s => .returned (f s)
  | .thrown e s => .thrown e (f s)
  | .terminated => .terminated

theorem Outcome.session_map {S T : Type} (f : S → T) (outcome : Outcome S) :
    (outcome.map f).session = outcome.session.map f := by
  cases outcome <;> rfl

namespace Session
variable {Track Rtp : Type}

def new : Session Track Rtp := ⟨∅⟩

def handler (s : Session Track Rtp) (name : TrackName) : Option (SessionHandler Track Rtp) :=
  s.sessionHandlers.lookup name

def set (s : Session Track Rtp) (name : TrackName) (h : SessionHandler Track Rtp) :
    Session Track Rtp :=
  ⟨s.sessionHandlers.insert name h⟩

/-- `add_media_track` behind `register_session`. The `RtpRtcpHandler` constructor
may throw; otherwise the new handler replaces the one the name had. -/
def addMediaTrack (s : Session Track Rtp) (name : TrackName) (mediaTrack : Track)
    (rtpRtcpHandler : Except Exception Rtp) : Outcome (Session Track Rtp) :=
  match rtpRtcpHandler with
  | .error e => .thrown e s
  | .ok rtp =>
    if (s.handler name).any (·.senderThread.isSome) then .terminated
    else .returned (s.set name ⟨false, none, mediaTrack, rtp⟩)

/-- `start`, visiting the handlers in the order of the unordered map. Starting
a media track may throw and may change what stands behind the tracks. -/
def start {T : Type} (startTrack : TrackName → Track → T → Outcome T) :
    List TrackName → T → Session Track Rtp → Outcome (T × Session Track Rtp)
  | [], tracks, s => .returned (tracks, s)
  | name :: rest, tracks, s =>
    match s.handler name with
    | none => start startTrack rest tracks s
    | some h =>
      if h.isActive then start startTrack rest tracks s
      else match startTrack name h.mediaTrack tracks with
        | .thrown e tracks => .thrown e (tracks, s.set name { h with isActive := true })
        | .terminated => .terminated
        | .returned tracks =>
          if h.senderThread.isSome then .terminated
          else start startTrack rest tracks
            (s.set name { h with isActive := true, senderThread := some .running })

def pause (s : Session Track Rtp) : Session Track Rtp :=
  ⟨s.sessionHandlers.mapValues fun _ h => { h with isActive := false }⟩

/-- `stop` returns when every sender thread has been joined. -/
def stop (s : Session Track Rtp) : Session Track Rtp :=
  ⟨s.sessionHandlers.mapValues fun _ h => { h with isActive := false, senderThread := none }⟩

def senderEnds (s : Session Track Rtp) (name : TrackName) : Session Track Rtp :=
  match s.handler name with
  | some h => s.set name { h with senderThread := h.senderThread.map fun _ => .ended }
  | none => s

section Lemmas
variable {s : Session Track Rtp} {name other : TrackName} {h : SessionHandler Track Rtp}

@[simp] theorem handler_new : (new : Session Track Rtp).handler name = none := rfl

theorem handler_set (s : Session Track Rtp) (name other : TrackName) (h : SessionHandler Track Rtp) :
    (s.set name h).handler other = if other = name then some h else s.handler other := by
  unfold handler set
  split
  · subst other
    exact AList.lookup_insert _
  · exact AList.lookup_insert_ne ‹_›

theorem handler_pause (s : Session Track Rtp) (name : TrackName) :
    s.pause.handler name = (s.handler name).map fun h => { h with isActive := false } :=
  Table.lookup_mapValues ..

theorem handler_stop (s : Session Track Rtp) (name : TrackName) :
    s.stop.handler name =
      (s.handler name).map fun h => { h with isActive := false, senderThread := none } :=
  Table.lookup_mapValues ..

/-- The end of a sender changes neither which handlers there are nor their tracks
and sockets. -/
theorem senderEnds_keeps (s : Session Track Rtp) (name other : TrackName) :
    ((s.senderEnds name).handler other).map SessionHandler.fixed =
      (s.handler other).map SessionHandler.fixed := by
  unfold senderEnds
  split
  · rename_i h found
    rw [handler_set]
    split
    · subst other
      rw [found]
      rfl
    · rfl
  · rfl

/-- `start` changes neither which handlers there are nor their tracks and sockets,
and keeps what every start of a track keeps. -/
theorem start_keeps {T : Type} {startTrack : TrackName → Track → T → Outcome T} {P : T → Prop}
    (keeps : ∀ {name track tracks next}, P tracks →
      (startTrack name track tracks).session = some next → P next)
    {names : List TrackName} {tracks next : T} {s left : Session Track Rtp} (before : P tracks)
    (ended : (start startTrack names tracks s).session = some (next, left)) :
    P next ∧ ∀ name, (left.handler name).map SessionHandler.fixed =
      (s.handler name).map SessionHandler.fixed := by
  induction names generalizing tracks s with
  | nil =>
    obtain ⟨rfl, rfl⟩ := Prod.mk.inj (Option.some.inj ended)
    exact ⟨before, fun _ => rfl⟩
  | cons name rest ih =>
    have replaced {h g : SessionHandler Track Rtp} (found : s.handler name = some h)
        (same : g.fixed = h.fixed) (other : TrackName) :
        ((s.set name g).handler other).map SessionHandler.fixed =
          (s.handler other).map SessionHandler.fixed := by
      rw [handler_set]
      split
      · subst other
        rw [found, Option.map_some, Option.map_some, same]
      · rfl
    unfold start at ended
    split at ended
    · exact ih before ended
    · rename_i h found
      split at ended
      · exact ih before ended
      · split at ended
        · rename_i outcome
          obtain ⟨rfl, rfl⟩ := Prod.mk.inj (Option.some.inj ended)
          exact ⟨keeps before (by rw [outcome]; rfl), replaced found rfl⟩
        · contradiction
        · rename_i outcome
          split at ended
          · contradiction
          · obtain ⟨kept, tracksOf⟩ := ih (keeps before (by rw [outcome]; rfl)) ended
            exact ⟨kept, fun other => (tracksOf other).trans (replaced found (by rfl) other)⟩

theorem stop_joined (here : s.stop.handler name = some h) : h.senderThread = none := by
  rw [handler_stop] at here
  obtain ⟨_, _, rfl⟩ := Option.map_eq_some_iff.mp here
  rfl

end Lemmas
end Session
end TinyRtsp
