import Mathlib.Logic.Function.Basic
import TinyRtsp.Media.Drain
import TinyRtsp.Media.Tail
import TinyRtsp.Rtp.AccessUnits
import TinyRtsp.Rtp.Losses

/-! A track from its file to the receivers of its sessions: the producer thread, the
queue, and for each session the thread that `Session::start` makes for the track with
the handler it sends through. The steps of all of them interleave in any order. -/
namespace TinyRtsp
open Transition CircularQueue RtpRtcpHandler
open H264MediaTrack (NalUnit division maxFrameSize)
open AacMediaTrack (AdtsFrame)

/-- Where a sender thread is. `looping` is before the test of `is_active_`; a thread
that has left its loop stays joinable. -/
inductive SenderLoop where
  | idle
  | looping
  | fetching
  | sending (frame : List UInt8)
  | finished
  deriving DecidableEq

def SenderLoop.holding : SenderLoop → List (List UInt8)
  | .sending frame => [frame]
  | _ => []

/-- What a session keeps of a track, a `SessionHandler`. -/
structure Viewer where
  isActive : Bool
  stream : Stream
  sender : SenderLoop

structure Broadcast (mediaType : MediaType) where
  production : Production mediaType
  viewers : SessionId → Option Viewer

namespace Broadcast
variable {mediaType : MediaType}

inductive Label where
  | readNextFrame
  | produce (frame : List UInt8)
  | setExit
  | addMediaTrack (sessionId : SessionId) (client : Ipv4) (rtpPort : Int) (ssrc : UInt32)
      (clientAddress : SocketAddress)
  | addMediaTrackThrows (sessionId : SessionId)
  | start (sessionId : SessionId)
  | pause (sessionId : SessionId)
  | testActive (sessionId : SessionId)
  | getNextFrame (sessionId : SessionId) (frame : Frame)
  | sendRtpPacket (sessionId : SessionId)
  | unregisterSession (sessionId : SessionId)

def Label.production : Label → Option Production.Label
  | .readNextFrame => some .readNextFrame
  | .produce frame => some (.produce frame)
  | .setExit => some .setExit
  | .addMediaTrack sessionId _ _ _ _ | .addMediaTrackThrows sessionId =>
    some (.registerConsumer sessionId)
  | .getNextFrame sessionId frame => some (.consume sessionId frame)
  | .unregisterSession sessionId => some (.unregisterConsumer sessionId)
  | _ => none

def start (file : List (List UInt8)) : Broadcast mediaType := ⟨.start file, fun _ => none⟩

/-- A handler before its first packet. `client` is what `inet_ntoa` printed when the
connection was accepted. -/
def opened (mediaType : MediaType) (client : Ipv4) (rtpPort : Int) (ssrc : UInt32)
    (clientAddress : SocketAddress) : Stream :=
  ⟨⟨.new client.inetNtoa rtpPort mediaType.timestampIncrement ssrc clientAddress, []⟩, 0⟩

def setViewer (s : Broadcast mediaType) (sessionId : SessionId) (viewer : Viewer) : Broadcast mediaType :=
  { s with viewers := Function.update s.viewers sessionId (some viewer) }

/-- One step. It is none where the process ends: a thread object is overwritten or
destroyed while joinable, or an exception leaves a sender thread. It is also none for
the last session that leaves, which stops the track. -/
def act (s : Broadcast mediaType) : Label → Option (Broadcast mediaType)
  | .readNextFrame => (s.production.act .readNextFrame).map fun production => { s with production }
  | .produce frame => (s.production.act (.produce frame)).map fun production => { s with production }
  | .setExit => (s.production.act .setExit).map fun production => { s with production }
  | .addMediaTrack sessionId client rtpPort ssrc clientAddress =>
    if (s.viewers sessionId).all fun viewer => viewer.sender = .idle then
      (s.production.act (.registerConsumer sessionId)).map fun production =>
        setViewer { s with production } sessionId
          ⟨false, opened mediaType client rtpPort ssrc clientAddress, .idle⟩
    else none
  -- the constructor of the handler throws, behind `register_session`
  | .addMediaTrackThrows sessionId =>
    (s.production.act (.registerConsumer sessionId)).map fun production => { s with production }
  | .start sessionId => do
    let viewer ← s.viewers sessionId
    if viewer.isActive then some s
    else if viewer.sender = .idle then
      some (s.setViewer sessionId { viewer with isActive := true, sender := .looping })
    else none
  | .pause sessionId => do
    let viewer ← s.viewers sessionId
    some (s.setViewer sessionId { viewer with isActive := false })
  | .testActive sessionId => do
    let viewer ← s.viewers sessionId
    if viewer.sender = .looping then
      some (s.setViewer sessionId
        { viewer with sender := if viewer.isActive then .fetching else .finished })
    else none
  | .getNextFrame sessionId frame => do
    let viewer ← s.viewers sessionId
    if viewer.sender = .fetching then
      (s.production.act (.consume sessionId frame)).map fun production =>
        setViewer { s with production } sessionId
          { viewer with sender := match frame with
            | some frame => .sending frame
            | none => .finished }
    else none
  | .sendRtpPacket sessionId => do
    let viewer ← s.viewers sessionId
    match viewer.sender with
    | .sending frame =>
      match (sendRtpPacket frame mediaType).run viewer.stream with
      | .ok _ stream => some (s.setViewer sessionId { viewer with stream, sender := .looping })
      | .error _ _ => none
    | _ => none
  | .unregisterSession sessionId => do
    let viewer ← s.viewers sessionId
    if (viewer.sender = .idle ∨ viewer.sender = .finished) ∧
        (s.production.frameQueue.unregisterConsumer sessionId).noConsumer = false then
      (s.production.act (.unregisterConsumer sessionId)).map fun production =>
        { production, viewers := Function.update s.viewers sessionId none }
    else none

/-- A SETUP that throws is none of a session that has the track already: it would move
the position of a session that plays. -/
def Steady (sessionId : SessionId) (s : Broadcast mediaType) : Label → Prop
  | .addMediaTrackThrows other => other = sessionId → s.viewers sessionId = none
  | _ => True

end Broadcast

def Producer.left : Producer → List (List UInt8)
  | .reading file => file
  | .producing frame file => frame :: file
  | _ => []

namespace Production
variable {mediaType : MediaType} {file : List (List UInt8)} {trace : List Label} {s : Production mediaType}
  {sessionId : SessionId} {d : Fifos.Delivery Frame} {label : Label}

def frames (trace : List Label) : List (List UInt8) :=
  trace.filterMap fun
    | .produce frame => some frame
    | _ => none

theorem frames_produced (trace : List Label) :
    Fifos.produced (trace.filterMap Label.event) = (frames trace).map some := by
  induction trace with
  | nil => rfl
  | cons label rest ih =>
    rw [Fifos.produced, frames] at ih ⊢
    cases label with
    | readNextFrame => exact ih
    | produce frame => exact congrArg (some frame :: ·) ih
    | setExit | registerConsumer | unregisterConsumer => exact ih
    | consume other frame => cases frame <;> exact ih

theorem frames_of_run (run : Run (Takes act) (start file : Production mediaType) trace s) :
    file = frames trace ++ s.producer.left := by
  refine run.history (P := fun trace (s : Production mediaType) => file = frames trace ++ s.producer.left)
    rfl ?_
  rintro trace s label s' ih taken
  have same {frames' left} (more : frames [label] = frames') (rest : frames' ++ s'.producer.left = left)
      (before : s.producer.left = left) : file = frames (trace ++ [label]) ++ s'.producer.left := by
    rw [ih, before, ← rest, ← more, frames, frames, frames, List.filterMap_append, List.append_assoc]
  cases label with
  | readNextFrame =>
    simp only [Takes, act] at taken
    split at taken
    · rename_i busy
      obtain rfl := Option.some.inj taken
      exact same rfl rfl (by rw [busy]; rfl)
    · rename_i frame file busy
      obtain rfl := Option.some.inj taken
      exact same rfl rfl (by rw [busy]; rfl)
    · contradiction
  | produce frame =>
    obtain ⟨file, frameQueue, busy, _, rfl⟩ := act_produce taken
    exact same rfl rfl (by rw [busy]; rfl)
  | setExit =>
    simp only [Takes, act] at taken
    split at taken
    · rename_i busy
      obtain rfl := Option.some.inj taken
      exact same rfl rfl (by rw [busy]; rfl)
    · contradiction
  | registerConsumer other | unregisterConsumer other =>
    obtain rfl := Option.some.inj taken
    exact same rfl rfl rfl
  | consume other frame =>
    obtain ⟨_, frameQueue, _, _, rfl⟩ := act_consume taken
    exact same rfl rfl rfl

/-- A registered session has received a stretch of the file without gaps, which ends
less than the queue's size before what is enqueued. -/
theorem window_of_run (run : Run (Takes act) (start file : Production mediaType) trace s)
    (since : delivery sessionId trace = some d) : ∃ joined,
      d.received = ((file.drop joined).take d.received.length).map some ∧
      joined + d.received.length ≤ (frames trace).length ∧
      (frames trace).length < joined + d.received.length + mediaType.queueCapacity := by
  obtain ⟨f, abstract, rel⟩ :=
    (queue_run run).1.simulation (R := Represents) (Represents.make _) fun rel taken => rel.step taken
  obtain ⟨absent, _⟩ | ⟨received, backlog, waiting, delivered⟩ :=
    Fifos.delivery_of_run abstract sessionId
  · rw [delivery, absent] at since
    contradiction
  obtain rfl : ⟨received ++ backlog, received⟩ = d := Option.some.inj (delivered.symm.trans since)
  obtain ⟨front, whole⟩ := Fifos.produced_suffix delivered
  rw [frames_produced] at whole
  have length := congrArg List.length whole
  simp only [List.length_append, List.length_map] at length
  have fits := rel.fits waiting
  refine ⟨front.length, ?_, by dsimp only; omega, by dsimp only; omega⟩
  have file : file.map some = front ++ (received ++ (backlog ++ s.producer.left.map some)) := by
    rw [frames_of_run run, List.map_append, ← whole, List.append_assoc, List.append_assoc]
  rw [List.map_take, List.map_drop, file, List.drop_left, List.take_left]

/-- The steps that change what the queue has for a session. -/
def Label.concerns (sessionId : SessionId) : Label → Prop
  | .registerConsumer other | .unregisterConsumer other | .consume other _ => other = sessionId
  | _ => False

theorem received_unconcerned (apart : ¬ label.concerns sessionId) (since : delivery sessionId trace = some d) :
    ∃ produced, delivery sessionId (trace ++ [label]) = some ⟨produced, d.received⟩ := by
  rw [delivery_snoc, since]
  cases label with
  | readNextFrame | setExit => exact ⟨d.produced, rfl⟩
  | produce frame => exact ⟨d.produced ++ [some frame], rfl⟩
  | registerConsumer other | unregisterConsumer other =>
    exact ⟨d.produced, if_neg apart⟩
  | consume other frame =>
    cases frame with
    | none => exact ⟨d.produced, rfl⟩
    | some frame => exact ⟨d.produced, if_neg apart⟩

end Production

namespace Broadcast
variable {mediaType : MediaType} {file : List (List UInt8)} {trace : List Label} {s s' : Broadcast mediaType}
  {sessionId : SessionId} {label : Label} {viewer' : Viewer}

/-- A step for the producer and its queue is one of theirs, any other leaves them. -/
theorem act_production (taken : s.act label = some s') :
    label.production.elim (s'.production = s.production) fun step => s.production.act step = some s'.production := by
  have mapped {step} {make : Production mediaType → Broadcast mediaType}
      (kept : ∀ production, (make production).production = production)
      (taken : (s.production.act step).map make = some s') : s.production.act step = some s'.production := by
    obtain ⟨production, acted, rfl⟩ := Option.map_eq_some_iff.mp taken
    rw [kept]
    exact acted
  cases label with
  | readNextFrame | produce | setExit => exact mapped (fun _ => rfl) taken
  | addMediaTrackThrows =>
    obtain rfl := Option.some.inj taken
    rfl
  | addMediaTrack =>
    obtain ⟨_, taken⟩ := Option.ite_none_right_eq_some.mp taken
    exact mapped (fun _ => rfl) taken
  | start other =>
    obtain ⟨viewer, _, taken⟩ := Option.bind_eq_some_iff.mp taken
    split at taken
    · obtain rfl := Option.some.inj taken
      rfl
    · obtain ⟨_, same⟩ := Option.ite_none_right_eq_some.mp taken
      obtain rfl := Option.some.inj same
      rfl
  | pause other =>
    obtain ⟨viewer, _, taken⟩ := Option.bind_eq_some_iff.mp taken
    obtain rfl := Option.some.inj taken
    rfl
  | testActive other =>
    obtain ⟨viewer, _, taken⟩ := Option.bind_eq_some_iff.mp taken
    obtain ⟨_, same⟩ := Option.ite_none_right_eq_some.mp taken
    obtain rfl := Option.some.inj same
    rfl
  | getNextFrame other frame =>
    obtain ⟨viewer, _, taken⟩ := Option.bind_eq_some_iff.mp taken
    obtain ⟨_, taken⟩ := Option.ite_none_right_eq_some.mp taken
    exact mapped (fun _ => rfl) taken
  | sendRtpPacket other =>
    obtain ⟨viewer, _, taken⟩ := Option.bind_eq_some_iff.mp taken
    split at taken
    · split at taken
      · obtain rfl := Option.some.inj taken
        rfl
      · contradiction
    · contradiction
  | unregisterSession other =>
    obtain ⟨viewer, _, taken⟩ := Option.bind_eq_some_iff.mp taken
    obtain ⟨_, taken⟩ := Option.ite_none_right_eq_some.mp taken
    exact mapped (fun _ => rfl) taken

/-- What a step does to a session's viewer: it is new, or it has fetched or sent a
frame, or the step left its stream and what it received. -/
inductive Moves (mediaType : MediaType) (sessionId : SessionId) (before : Option Viewer) : Label → Viewer → Prop
  | added : Moves mediaType sessionId before (.addMediaTrack sessionId client rtpPort ssrc clientAddress)
      ⟨false, opened mediaType client rtpPort ssrc clientAddress, .idle⟩
  | fetched : before = some viewer → viewer.sender.holding = [] → after.stream = viewer.stream →
      after.sender.holding = frame.toList →
      Moves mediaType sessionId before (.getNextFrame sessionId frame) after
  | sent : before = some viewer → viewer.sender.holding = [frame] →
      (RtpRtcpHandler.sendRtpPacket frame mediaType).run viewer.stream = .ok () after.stream →
      after.sender.holding = [] → Moves mediaType sessionId before (.sendRtpPacket sessionId) after
  | kept : before = some viewer → after.stream = viewer.stream →
      after.sender.holding = viewer.sender.holding →
      (∀ step ∈ other.production, ¬ step.concerns sessionId) → Moves mediaType sessionId before other after

theorem act_viewer (steady : s.Steady sessionId label) (taken : s.act label = some s')
    (here : s'.viewers sessionId = some viewer') :
    Moves mediaType sessionId (s.viewers sessionId) label viewer' := by
  have updated {base : Broadcast mediaType} {other : SessionId} {viewer : Viewer}
      (here : (base.setViewer other viewer).viewers sessionId = some viewer') :
      other = sessionId ∧ viewer = viewer' ∨ other ≠ sessionId ∧ base.viewers sessionId = some viewer' := by
    dsimp only [setViewer] at here
    by_cases same : other = sessionId
    · subst other
      rw [Function.update_self] at here
      exact .inl ⟨rfl, Option.some.inj here⟩
    · rw [Function.update_of_ne (Ne.symm same)] at here
      exact .inr ⟨same, here⟩
  cases label with
  | readNextFrame | produce | setExit =>
    obtain ⟨production, _, rfl⟩ := Option.map_eq_some_iff.mp taken
    refine .kept here rfl rfl ?_
    rintro step ⟨⟩ concerned
    exact concerned
  | addMediaTrackThrows other =>
    obtain rfl := Option.some.inj taken
    refine .kept here rfl rfl ?_
    rintro step ⟨⟩ rfl
    rw [steady rfl] at here
    contradiction
  | addMediaTrack other =>
    obtain ⟨_, taken⟩ := Option.ite_none_right_eq_some.mp taken
    obtain ⟨production, _, rfl⟩ := Option.map_eq_some_iff.mp taken
    obtain ⟨rfl, rfl⟩ | ⟨apart, here⟩ := updated here
    · exact .added
    · refine .kept here rfl rfl ?_
      rintro step ⟨⟩
      exact apart
  | start other =>
    obtain ⟨viewer, before, taken⟩ := Option.bind_eq_some_iff.mp taken
    split at taken
    · obtain rfl := Option.some.inj taken
      exact .kept here rfl rfl (by rintro step ⟨⟩)
    · obtain ⟨idle, same⟩ := Option.ite_none_right_eq_some.mp taken
      obtain rfl := Option.some.inj same
      obtain ⟨rfl, rfl⟩ | ⟨apart, here⟩ := updated here
      · exact .kept before rfl (by rw [idle]; rfl) (by rintro step ⟨⟩)
      · exact .kept here rfl rfl (by rintro step ⟨⟩)
  | pause other =>
    obtain ⟨viewer, before, taken⟩ := Option.bind_eq_some_iff.mp taken
    obtain rfl := Option.some.inj taken
    obtain ⟨rfl, rfl⟩ | ⟨apart, here⟩ := updated here
    · exact .kept before rfl rfl (by rintro step ⟨⟩)
    · exact .kept here rfl rfl (by rintro step ⟨⟩)
  | testActive other =>
    obtain ⟨viewer, before, taken⟩ := Option.bind_eq_some_iff.mp taken
    obtain ⟨looping, same⟩ := Option.ite_none_right_eq_some.mp taken
    obtain rfl := Option.some.inj same
    obtain ⟨rfl, rfl⟩ | ⟨apart, here⟩ := updated here
    · refine .kept before rfl ?_ (by rintro step ⟨⟩)
      rw [looping]
      dsimp only
      split <;> rfl
    · exact .kept here rfl rfl (by rintro step ⟨⟩)
  | getNextFrame other frame =>
    obtain ⟨viewer, before, taken⟩ := Option.bind_eq_some_iff.mp taken
    obtain ⟨fetching, taken⟩ := Option.ite_none_right_eq_some.mp taken
    obtain ⟨production, _, rfl⟩ := Option.map_eq_some_iff.mp taken
    obtain ⟨rfl, rfl⟩ | ⟨apart, here⟩ := updated here
    · refine .fetched before (by rw [fetching]; rfl) rfl ?_
      cases frame <;> rfl
    · refine .kept here rfl rfl ?_
      rintro step ⟨⟩
      exact apart
  | sendRtpPacket other =>
    obtain ⟨viewer, before, taken⟩ := Option.bind_eq_some_iff.mp taken
    split at taken
    · rename_i frame sending
      split at taken
      · rename_i stream sent
        obtain rfl := Option.some.inj taken
        obtain ⟨rfl, rfl⟩ | ⟨apart, here⟩ := updated here
        · exact .sent before (by rw [sending]; rfl) sent rfl
        · exact .kept here rfl rfl (by rintro step ⟨⟩)
      · contradiction
    · contradiction
  | unregisterSession other =>
    obtain ⟨viewer, _, taken⟩ := Option.bind_eq_some_iff.mp taken
    obtain ⟨_, taken⟩ := Option.ite_none_right_eq_some.mp taken
    obtain ⟨production, _, rfl⟩ := Option.map_eq_some_iff.mp taken
    dsimp only at here
    by_cases same : sessionId = other
    · subst other
      rw [Function.update_self] at here
      contradiction
    · rw [Function.update_of_ne same] at here
      refine .kept here rfl rfl ?_
      rintro step ⟨⟩ concerned
      exact same concerned.symm

def enqueued (trace : List Label) : List (List UInt8) := Production.frames (trace.filterMap Label.production)

/-- What a viewer has sent and what it holds is what its session has received from the
queue, sent from one new handler frame by frame. -/
def Sent (mediaType : MediaType) (trace : List Label) (sessionId : SessionId) (viewer : Viewer) : Prop :=
  ∃ client rtpPort ssrc clientAddress sent groups produced,
    (sendAll (sent.map fun frame => ⟨frame, mediaType⟩)).run
      (opened mediaType client rtpPort ssrc clientAddress) = .ok groups viewer.stream ∧
    Production.delivery sessionId (trace.filterMap Label.production) =
      some ⟨produced, (sent ++ viewer.sender.holding).map some⟩

theorem sent_of_moves {before : Option Viewer} (ih : ∀ viewer, before = some viewer →
      Sent mediaType trace sessionId viewer)
    (moves : Moves mediaType sessionId before label viewer') :
    Sent mediaType (trace ++ [label]) sessionId viewer' := by
  unfold Sent
  rw [List.filterMap_append]
  cases moves with
  | added =>
    refine ⟨_, _, _, _, [], [], [], rfl, ?_⟩
    exact (Production.delivery_snoc ..).trans (if_pos rfl)
  | @fetched viewer frame _ here free same holds =>
    obtain ⟨client, rtpPort, ssrc, clientAddress, sent, groups, produced, ran, since⟩ := ih viewer here
    refine ⟨client, rtpPort, ssrc, clientAddress, sent, groups, produced, same ▸ ran, ?_⟩
    rw [free, List.append_nil] at since
    refine (Production.delivery_snoc ..).trans ?_
    rw [since, holds]
    cases frame with
    | none => simp [Production.Label.event, Fifos.Delivery.extend]
    | some frame => simp [Production.Label.event, Fifos.Delivery.extend]
  | @sent viewer frame _ here holding sends free =>
    obtain ⟨client, rtpPort, ssrc, clientAddress, sent, groups, produced, ran, since⟩ := ih viewer here
    have more := @sendAll_snoc _ ⟨frame, mediaType⟩ _ _ _ _ ran sends
    rw [← List.map_singleton (f := fun frame => Call.mk frame mediaType), ← List.map_append] at more
    refine ⟨client, rtpPort, ssrc, clientAddress, sent ++ [frame], _, produced, more, ?_⟩
    rw [show [Label.sendRtpPacket sessionId].filterMap Label.production = [] from rfl, List.append_nil, free,
      List.append_nil, ← holding]
    exact since
  | @kept viewer _ _ here same holds apart =>
    obtain ⟨client, rtpPort, ssrc, clientAddress, sent, groups, produced, ran, since⟩ := ih viewer here
    rw [same, holds]
    cases step : label.production with
    | none =>
      refine ⟨client, rtpPort, ssrc, clientAddress, sent, groups, produced, ran, ?_⟩
      simpa [step] using since
    | some step' =>
      obtain ⟨produced, since⟩ := Production.received_unconcerned (apart step' (by simp [step])) since
      refine ⟨client, rtpPort, ssrc, clientAddress, sent, groups, produced, ran, ?_⟩
      simpa [step] using since

theorem production_of_run (run : Run (Takes act) (start file : Broadcast mediaType) trace s) :
    Run (Takes Production.act) (.start file) (trace.filterMap Label.production) s.production := by
  refine run.history (P := fun trace (s : Broadcast mediaType) =>
    Run (Takes Production.act) (.start file) (trace.filterMap Label.production) s.production) .start ?_
  intro trace s label s' produces taken
  have produced := act_production taken
  rw [List.filterMap_append]
  cases step : label.production with
  | none =>
    rw [step] at produced
    simpa [step, show s'.production = s.production from produced] using produces
  | some step' =>
    rw [step] at produced
    simpa [step] using produces.snoc produced

/-- Runs in which no SETUP throws for a session while it has the track. -/
abbrev Retained (mediaType : MediaType) (sessionId : SessionId) :
    Broadcast mediaType → Label → Broadcast mediaType → Prop :=
  Guarded (Steady sessionId) (Takes act)

theorem sent_of_run (run : Run (Retained mediaType sessionId) (start file) trace s) :
    ∀ viewer, s.viewers sessionId = some viewer → Sent mediaType trace sessionId viewer := by
  refine run.history (P := fun trace (s : Broadcast mediaType) =>
    ∀ viewer, s.viewers sessionId = some viewer → Sent mediaType trace sessionId viewer)
    (by rintro _ ⟨⟩) ?_
  rintro trace s label s' sent ⟨steady, taken⟩ viewer here
  exact sent_of_moves sent (act_viewer steady taken here)

/-- A viewer has sent a stretch of the file without gaps, from one new handler. It ends
at most the queue's size before what is enqueued. -/
theorem viewer_stream (run : Run (Retained mediaType sessionId) (start file) trace s)
    (here : s.viewers sessionId = some viewer') :
    ∃ client rtpPort ssrc clientAddress joined count groups,
      (sendAll (((file.drop joined).take count).map fun frame => ⟨frame, mediaType⟩)).run
        (opened mediaType client rtpPort ssrc clientAddress) = .ok groups viewer'.stream ∧
      joined + count ≤ (enqueued trace).length ∧
      (enqueued trace).length ≤ joined + count + mediaType.queueCapacity := by
  obtain ⟨client, rtpPort, ssrc, clientAddress, sent, groups, produced, ran, since⟩ := sent_of_run run _ here
  obtain ⟨joined, window, low, high⟩ :=
    Production.window_of_run (production_of_run (run.weaken And.right)) since
  have held : viewer'.sender.holding.length ≤ 1 := by
    cases viewer'.sender <;> simp [SenderLoop.holding]
  simp only [List.length_map, List.length_append] at window low high
  have stretch : sent = (file.drop joined).take sent.length := by
    have frames := List.map_injective_iff.mpr (Option.some_injective _) window
    have front := congrArg (List.take sent.length) frames
    rwa [List.take_left, List.take_take, Nat.min_eq_left (Nat.le_add_right ..)] at front
  refine ⟨client, rtpPort, ssrc, clientAddress, joined, sent.length, groups, ?_, ?_, ?_⟩
  · rw [← stretch]
    exact ran
  · rw [enqueued]
    omega
  · rw [enqueued]
    omega

theorem enqueued_length (run : Run (Takes act) (start file : Broadcast mediaType) trace s) :
    (enqueued trace).length ≤ file.length := by
  have whole := congrArg List.length (Production.frames_of_run (production_of_run run))
  rw [List.length_append] at whole
  exact whole ▸ Nat.le_add_right ..

theorem opened_client (client : Ipv4) (rtpPort : Int) (ssrc : UInt32) (clientAddress : SocketAddress) :
    Ipv4.inetPton (opened mediaType client rtpPort ssrc clientAddress).handler.ip = some client :=
  Ipv4.inetPton_inetNtoa client

/-- What the session of an H.264 track receives is a stretch of the NAL units of the
file, in order and without gaps, and no viewer is further behind the producer than the
queue is long. -/
theorem video_of_run (content : List UInt8) (units : List NalUnit)
    (divides : division content = units.map NalUnit.bytes)
    (small : ∀ unit ∈ units, unit.bytes.length ≤ maxFrameSize - 4) (carried : ∀ unit ∈ units, unit.Carried)
    {trace : List Label} {s : Broadcast .h264} (sessionId : SessionId) (viewer : Viewer)
    (run : Run (Retained .h264 sessionId)
      (start (H264MediaTrack.runProducer (H264MediaTrack.openTrack content))) trace s)
    (here : s.viewers sessionId = some viewer) : ∃ joined count,
      depacketize (viewer.stream.sent.map Datagram.bytes) = ((units.drop joined).take count).map NalUnit.nal ∧
      joined + count ≤ (enqueued trace).length ∧ (enqueued trace).length < units.length ∧
      (enqueued trace).length ≤ joined + count + MediaType.h264.queueCapacity := by
  obtain ⟨client, rtpPort, ssrc, clientAddress, joined, count, groups, ran, low, high⟩ := viewer_stream run here
  have few := enqueued_length (run.weaken And.right)
  have frames : H264MediaTrack.runProducer (H264MediaTrack.openTrack content) =
      H264MediaTrack.enqueued (units.map NalUnit.bytes) := by
    rw [← divides]
    refine H264MediaTrack.runProducer_eq (.openFile content) ?_
    rw [divides]
    exact List.forall_mem_map.mpr small
  have front := List.prefix_iff_eq_take.mp (H264MediaTrack.enqueued_front (units.map NalUnit.bytes))
  have some : units.map NalUnit.bytes ≠ [] := by
    obtain ⟨unit, rest, nonempty⟩ := H264MediaTrack.division_nonempty content
    rw [← divides, nonempty]
    exact List.cons_ne_nil _ _
  have short := H264MediaTrack.enqueued_length_lt some
  rw [List.length_map] at short
  rw [frames] at ran few
  have window : ((H264MediaTrack.enqueued (units.map NalUnit.bytes)).drop joined).take count =
      ((units.drop joined).take count).map NalUnit.bytes := by
    rw [front, List.drop_take, List.take_take, List.map_take, List.map_drop, Nat.min_eq_left (by omega)]
  have sendable : ∀ unit ∈ (units.drop joined).take count, unit.Carried := fun unit member =>
    carried unit (List.mem_of_mem_drop (List.mem_of_mem_take member))
  obtain ⟨groups', after, ran', sent, lengths, delivers⟩ :=
    Losses.sendAll_units sendable (@opened_client .h264 client rtpPort ssrc clientAddress)
  rw [window, List.map_map] at ran
  obtain ⟨rfl, rfl⟩ : groups' = groups ∧ after = viewer.stream := by
    simpa using ran'.symm.trans ran
  refine ⟨joined, count, ?_, low, by omega, high⟩
  rw [sent]
  exact Losses.depacketize_units sendable lengths delivers

/-- What a receiver makes of a packet: the data of its access units. -/
def blocks (datagram : Datagram) : Option (List (List UInt8)) :=
  (AccessUnit.receive datagram.bytes).map (List.map AccessUnit.data)

theorem sendRtpPacket_block {stream : Stream} {client : Ipv4} {frame : List UInt8} (fits : frame.length ≤ 1018)
    (known : Ipv4.inetPton stream.handler.ip = some client) :
    ∃ after, (sendRtpPacket frame .aac).run stream = .ok () after ∧
      after.handler.ip = stream.handler.ip ∧
      after.sent = stream.sent ++ [stream.toLink.aacPacket client frame] := by
  obtain ⟨link, sends, ip, sent⟩ : ∃ link, (sendAac frame).run stream.toLink = .ok () link ∧
      link.handler.ip = stream.handler.ip ∧ link.sent = stream.sent ++ [stream.toLink.aacPacket client frame] :=
    ⟨_, sendAac_run known fits, rfl, rfl⟩
  refine ⟨⟨link, stream.totalPayloadSize + .ofNat frame.length⟩, ?_, ip, sent⟩
  simp only [sendRtpPacket, EStateM.run_bind, onLink_ok sends]
  rfl

theorem sendAll_blocks {stream : Stream} {client : Ipv4} (frames : List (List UInt8))
    (short : ∀ frame ∈ frames, frame.length ≤ 1018) (known : Ipv4.inetPton stream.handler.ip = some client) :
    ∃ groups after, (sendAll (frames.map fun frame => ⟨frame, .aac⟩)).run stream = .ok groups after ∧
      ∃ packets, after.sent = stream.sent ++ packets ∧
        packets.map blocks = frames.map fun frame => some [frame] := by
  induction frames generalizing stream with
  | nil => exact ⟨[], stream, rfl, [], (List.append_nil _).symm, rfl⟩
  | cons frame rest ih =>
    obtain ⟨fits, short⟩ := List.forall_mem_cons.mp short
    obtain ⟨middle, first, ip, sent⟩ := sendRtpPacket_block fits known
    obtain ⟨groups, after, later, packets, others, read⟩ := ih short (ip ▸ known)
    have unit := @AccessUnit.receive_aacPacket stream.toLink client frame fits
    refine ⟨middle.sent.drop stream.sent.length :: groups, after, ?_,
      stream.toLink.aacPacket client frame :: packets, ?_, ?_⟩
    · simp only [List.map_cons, sendAll, EStateM.run_bind, EStateM.run_get, first, later]
      rfl
    · rw [others, sent, List.append_assoc]
      rfl
    · rw [List.map_cons, read, blocks, unit]
      rfl

/-- What the session of an AAC track receives is a stretch of the raw data blocks of the
file, each in its packet, in order and without gaps. -/
theorem audio_of_run (frames : List AdtsFrame) {trace : List Label} {s : Broadcast .aac}
    (sessionId : SessionId) (viewer : Viewer)
    (run : Run (Retained .aac sessionId)
      (start (AacMediaTrack.runProducer (AacMediaTrack.openTrack (frames.flatMap AdtsFrame.bytes)))) trace s)
    (here : s.viewers sessionId = some viewer) : ∃ joined count,
      viewer.stream.sent.map blocks =
        ((frames.drop joined).take count).map (fun frame => some [frame.rawData]) ∧
      joined + count ≤ (enqueued trace).length ∧ (enqueued trace).length ≤ frames.length ∧
      (enqueued trace).length ≤ joined + count + MediaType.aac.queueCapacity := by
  obtain ⟨client, rtpPort, ssrc, clientAddress, joined, count, groups, ran, low, high⟩ := viewer_stream run here
  have few := enqueued_length (run.weaken And.right)
  have file : AacMediaTrack.runProducer (AacMediaTrack.openTrack (frames.flatMap AdtsFrame.bytes)) =
      frames.map AdtsFrame.rawData := AacMediaTrack.runProducer_frames frames (.openFile _)
  rw [file, ← List.map_drop, ← List.map_take] at ran
  rw [file, List.length_map] at few
  have short : ∀ frame ∈ ((frames.drop joined).take count).map AdtsFrame.rawData, frame.length ≤ 1018 :=
    List.forall_mem_map.mpr fun frame _ => frame.short
  obtain ⟨groups', after, ran', packets, sent, read⟩ :=
    sendAll_blocks _ short (@opened_client .aac client rtpPort ssrc clientAddress)
  obtain ⟨rfl, rfl⟩ : groups' = groups ∧ after = viewer.stream := by
    simpa using ran'.symm.trans ran
  refine ⟨joined, count, ?_, low, few, high⟩
  rw [sent, show (opened .aac client rtpPort ssrc clientAddress).sent = [] from rfl, List.nil_append, read,
    List.map_map]
  rfl

end Broadcast
end TinyRtsp
