import TinyRtsp.Foundation.Transition
import TinyRtsp.Server.ConnectionHandler

/-! The running server: what the connections share, and one handler for each
client. Requests and disconnects are complete steps; the producer and sender
threads take theirs in between. -/
namespace TinyRtsp

/-- A step of a thread that a track or a session has started. -/
inductive ThreadStep where
  | produce (ref : TrackRef) (frame : Frame)
  | endOfFile (ref : TrackRef)
  | consume (sessionId : SessionId) (name : TrackName)
  | senderEnds (sessionId : SessionId) (name : TrackName)

namespace Server

/-- A `produce` of the track's producer, its `set_exit` at the end of the file, a
`consume` of a sender, and the end of a sender. -/
def thread (server : Server) : ThreadStep → Option Server
  | .produce ref frame => do
    let t ← server.mediaSources.track ref
    let frameQueue ← t.frameQueue.produce frame
    if t.produceThread then
      return { server with
        mediaSources := server.mediaSources.modifyTrack ref fun _ => { t with frameQueue } }
    else none
  | .endOfFile ref => do
    let t ← server.mediaSources.track ref
    if t.produceThread then
      return { server with
        mediaSources := server.mediaSources.modifyTrack ref fun _ =>
          { t with frameQueue := t.frameQueue.setExit } }
    else none
  | .consume sessionId name => do
    let h ← (server.sessions.lookup sessionId).bind (·.handler name)
    let t ← server.mediaSources.track h.mediaTrack
    let (_, frameQueue) ← t.frameQueue.consume sessionId
    if h.senderThread = some .running then
      return { server with
        mediaSources := server.mediaSources.modifyTrack h.mediaTrack fun _ => { t with frameQueue } }
    else none
  | .senderEnds sessionId name =>
    some { server with sessions := server.sessions.modify sessionId (·.senderEnds name) }

theorem thread_cases {server after : Server} {step : ThreadStep}
    (taken : server.thread step = some after) :
    (∃ ref t frameQueue, server.mediaSources.track ref = some t ∧
      ((∃ frame, t.frameQueue.produce frame = some frameQueue) ∨ frameQueue = t.frameQueue.setExit ∨
        ∃ sessionId name h item, (server.sessions.lookup sessionId).bind (·.handler name) = some h ∧
          h.mediaTrack = ref ∧ t.frameQueue.consume sessionId = some (item, frameQueue)) ∧
      after = { server with
        mediaSources := server.mediaSources.modifyTrack ref fun _ => { t with frameQueue } }) ∨
    ∃ sessionId name,
      after = { server with sessions := server.sessions.modify sessionId (·.senderEnds name) } := by
  cases step with
  | produce ref frame =>
    simp only [thread, Option.bind_eq_bind, Option.bind_eq_some_iff] at taken
    obtain ⟨t, found, frameQueue, produced, taken⟩ := taken
    obtain ⟨_, same⟩ := Option.ite_none_right_eq_some.mp taken
    exact .inl ⟨ref, t, frameQueue, found, .inl ⟨frame, produced⟩, (Option.some.inj same).symm⟩
  | endOfFile ref =>
    simp only [thread, Option.bind_eq_bind, Option.bind_eq_some_iff] at taken
    obtain ⟨t, found, taken⟩ := taken
    obtain ⟨_, same⟩ := Option.ite_none_right_eq_some.mp taken
    exact .inl ⟨ref, t, _, found, .inr (.inl rfl), (Option.some.inj same).symm⟩
  | consume sessionId name =>
    simp only [thread, Option.bind_eq_bind, Option.bind_eq_some_iff] at taken
    obtain ⟨h, ⟨s, here, holds⟩, t, found, ⟨item, frameQueue⟩, consumed, taken⟩ := taken
    obtain ⟨_, same⟩ := Option.ite_none_right_eq_some.mp taken
    have handled : (server.sessions.lookup sessionId).bind (·.handler name) = some h := by
      rw [here]
      exact holds
    exact .inl ⟨h.mediaTrack, t, frameQueue, found,
      .inr (.inr ⟨sessionId, name, h, item, handled, rfl, consumed⟩), (Option.some.inj same).symm⟩
  | senderEnds sessionId name => exact .inr ⟨sessionId, name, (Option.some.inj taken).symm⟩

end Server

/-- A `ConnectionHandler` and whether its `process` still runs. -/
structure Client where
  connection : Connection
  processing : Bool

structure Site (C : Type) where
  server : Server
  clients : C → Option Client

inductive Event (C : Type) where
  | connect (c : C) (clientIp : Text)
  | turn (c : C) (t : ConnectionHandler.Turn)
  | disconnect (c : C)
  | thread (step : ThreadStep)

namespace Site
variable {C : Type}

/-- A server that has opened its media sources and has no session. -/
def start (mediaSources : MediaSources) (availablePorts : List Int) : Site C where
  server := ⟨mediaSources, ∅, availablePorts⟩
  clients _ := none

variable [DecidableEq C]

/-- A step of the server; `none` when it cannot be taken, or ends the process. -/
def act (s : Site C) : Event C → Option (Site C)
  | .connect c clientIp =>
    match s.clients c with
    | none => some { s with
        clients := Function.update s.clients c (some ⟨⟨clientIp, [], .empty, [], []⟩, true⟩) }
    | some _ => none
  | .turn c t =>
    match s.clients c with
    | some ⟨connection, true⟩ =>
      match (ConnectionHandler.turn t).run ⟨s.server, connection⟩ with
      | .ok goes w => some ⟨w.server, Function.update s.clients c (some ⟨w.connection, goes⟩)⟩
      | .error (.exception _) w =>
        some ⟨w.server, Function.update s.clients c (some ⟨w.connection, false⟩)⟩
      | .error .terminate _ => none
    | _ => none
  | .disconnect c =>
    match s.clients c with
    | some ⟨connection, false⟩ =>
      some ⟨(ConnectionHandler.destroy ⟨s.server, connection⟩).server, Function.update s.clients c none⟩
    | _ => none
  | .thread step => (s.server.thread step).map fun server => { s with server }

variable {s s' : Site C} {c : C}

theorem act_connect {clientIp : Text} (taken : s.act (.connect c clientIp) = some s') :
    s.clients c = none ∧ s' = { s with
      clients := Function.update s.clients c (some ⟨⟨clientIp, [], .empty, [], []⟩, true⟩) } := by
  simp only [act] at taken
  split at taken
  · rename_i unknown
    exact ⟨unknown, (Option.some.inj taken).symm⟩
  · contradiction

theorem act_disconnect (taken : s.act (.disconnect c) = some s') :
    ∃ connection, s.clients c = some ⟨connection, false⟩ ∧
      s' = ⟨(ConnectionHandler.destroy ⟨s.server, connection⟩).server,
        Function.update s.clients c none⟩ := by
  simp only [act] at taken
  split at taken
  · rename_i connection known
    exact ⟨connection, known, (Option.some.inj taken).symm⟩
  · contradiction

end Site
end TinyRtsp
