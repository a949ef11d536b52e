import Mathlib.Logic.Function.Basic
import TinyRtsp.CircularQueue.Wakeup
import TinyRtsp.Foundation.Transition
import TinyRtsp.Media.MediaTrack
import TinyRtsp.Session.Session

/-! Sessions that share tracks, their senders, the tracks' producers and the
request handlers, with `sessions_mutex_` held by `terminate_session` while it
joins a sender. A thread sleeps in a call on a queue until it is notified and tests
again; every other call is one step, and so is a turn of a loop over
`session_handlers_`. A step is missing while its thread sleeps, and so is one that
ends the process. -/
namespace TinyRtsp.Termination

inductive Sender where
  | testing
  | consuming
  | ended
  deriving DecidableEq

def Sender.after : Option Frame → Sender
  | none => .consuming
  | some (some _) => .testing
  | some none => .ended

theorem Sender.after_eq_consuming_iff {returned : Option Frame} :
    after returned = .consuming ↔ returned = none := by
  rcases returned with _ | _ | bytes <;> simp [after]

inductive Producer where
  | reading
  | producing (frame : Frame)
  | ended
  deriving DecidableEq

structure TrackHandler where
  isActive : Bool
  sender : Option Sender
  deriving DecidableEq

/-- A track with a queue of `n` slots, on which the producer and a sender for each
`k : K` call; no producer while `produce_thread_` is null. -/
structure SharedTrack (K : Type) (n : Nat) where
  frameQueue : CircularQueue.Threads K SessionId Frame n
  isActive : Bool
  producer : Option Producer

/-- The thread of the sender that an object has for the track of a name, and the id it
consumes for. -/
structure SenderThread where
  session : Nat
  trackName : TrackName
  sessionId : SessionId
  deriving DecidableEq

/-- A `Session` object, its reference count, and its handlers with their tracks. -/
structure Shared (Track : Type) where
  sessionId : SessionId
  refs : Nat
  handlers : TrackName → Option (Track × TrackHandler)

inductive Request (Track : Type) where
  | setup (sessionId : SessionId) (trackName : TrackName) (mediaTrack : Track)
  | play (sessionId : SessionId)
  | pause (sessionId : SessionId)
  | teardown (sessionId : SessionId)
  | disconnect (sessionId : SessionId)
  deriving DecidableEq

def Request.sessionId {Track : Type} : Request Track → SessionId
  | setup sessionId .. | play sessionId | pause sessionId | teardown sessionId | disconnect sessionId =>
    sessionId

/-- What a handler still has to do: the calls of `SessionManager`, those on a
session outside it, and the parts of `terminate_session` and `~Session`. -/
inductive Action (Track : Type) where
  | sessionExists (request : Request Track)
  | createSession (sessionId : SessionId) (trackName : TrackName) (mediaTrack : Track)
  | getSession (request : Request Track)
  | terminateSession (sessionId : SessionId)
  | addMediaTrack (trackName : TrackName) (mediaTrack : Track) (session : Nat)
  | start (session : Nat)
  | startHandlers (session : Nat) (trackNames : List TrackName)
  | pause (session : Nat)
  | pauseHandler (session : Nat) (trackName : TrackName)
  | stop (session : Nat)
  | stopHandler (session : Nat) (trackName : TrackName)
  | erase (sessionId : SessionId) (session : Nat)
  | release (session : Nat)
  | unregister (session : Nat)
  | unregisterHandler (session : Nat) (trackName : TrackName)
  | noConsumer (mediaTrack : Track)
  | stopTrack (mediaTrack : Track)
  | joinProducer (mediaTrack : Track)
  | unlock
  deriving DecidableEq

namespace SharedTrack
variable {K : Type} {n : Nat}

def new (n : Nat) (positive : 0 < n) : SharedTrack K n where
  frameQueue := CircularQueue.start n positive
  isActive := false
  producer := none

/-- `start()` up to the opening of the file. -/
def activate (t : SharedTrack K n) : SharedTrack K n :=
  { t with
    isActive := true
    frameQueue := if t.frameQueue.data.isExit
      then (t.frameQueue.set t.frameQueue.data.setRun).notify CircularQueue.onNotFull
      else t.frameQueue }

/-- `start()` when the file is opened; `none` when it overwrites a joinable thread. -/
def start (t : SharedTrack K n) : Option (SharedTrack K n) :=
  if t.isActive then some t
  else if t.producer.isSome then none
  else some { t.activate with producer := some .reading }

def setExit (t : SharedTrack K n) : SharedTrack K n :=
  { t with frameQueue := (t.frameQueue.set t.frameQueue.data.setExit).notify fun _ => true }

def registerConsumer (sessionId : SessionId) (t : SharedTrack K n) : SharedTrack K n :=
  { t with frameQueue := t.frameQueue.set (t.frameQueue.data.registerConsumer sessionId) }

def unregisterConsumer (sessionId : SessionId) (t : SharedTrack K n) : SharedTrack K n :=
  { t with frameQueue := t.frameQueue.set (t.frameQueue.data.unregisterConsumer sessionId) }

/-- The threads in a call on the queue: the producer in its own, and each sender in one
for the id that it consumes for. -/
def Threaded (idOf : K → SessionId) (t : SharedTrack K n) : Prop :=
  t.frameQueue.Pending (CircularQueue.KeptBy fun thread id => ∃ k, thread = some k ∧ idOf k = id)

/-- The producer sleeps in `produce`, or would when it tests. -/
def ProducerBlocked (t : SharedTrack K n) : Prop :=
  (∃ frame, t.producer = some (.producing frame)) ∧
    (t.frameQueue.Sleeps none ∨ t.frameQueue.data.produceWaits t.frameQueue.data.nextPosition = true)

/-- A sender inside `consume` sleeps there, or would when it tests. -/
def ConsumerBlocked (k : K) (sessionId : SessionId) (t : SharedTrack K n) : Prop :=
  t.frameQueue.Sleeps (some k) ∨ (t.frameQueue.data.touch sessionId).consumeWaits sessionId = true

section Kept
variable {t t' : SharedTrack K n} {idOf : K → SessionId}

theorem new_threaded (positive : 0 < n) : (new n positive : SharedTrack K n).Threaded idOf := by
  rintro thread wait (⟨⟨⟩⟩ | ⟨⟨⟩⟩)

theorem Threaded.setExit (threaded : t.Threaded idOf) : t.setExit.Threaded idOf :=
  (CircularQueue.pending_of_writePosition threaded rfl).notify

theorem Threaded.registerConsumer (threaded : t.Threaded idOf) (sessionId : SessionId) :
    (t.registerConsumer sessionId).Threaded idOf :=
  CircularQueue.pending_of_writePosition threaded rfl

theorem Threaded.unregisterConsumer (threaded : t.Threaded idOf) (sessionId : SessionId) :
    (t.unregisterConsumer sessionId).Threaded idOf :=
  CircularQueue.pending_of_writePosition threaded rfl

theorem Threaded.activate (threaded : t.Threaded idOf) : t.activate.Threaded idOf := by
  unfold Threaded SharedTrack.activate
  dsimp only
  split
  · exact (CircularQueue.pending_of_writePosition threaded rfl).notify
  · exact threaded

theorem Threaded.start (threaded : t.Threaded idOf) (started : t.start = some t') :
    t'.Threaded idOf := by
  unfold SharedTrack.start at started
  split at started
  · exact Option.some.inj started ▸ threaded
  · split at started
    · contradiction
    · obtain rfl := Option.some.inj started
      exact threaded.activate

end Kept

variable [DecidableEq K]

def produce (read : Frame) (t : SharedTrack K n) : Option (SharedTrack K n) :=
  match t.producer with
  | some .reading =>
    if t.isActive && read.isSome then some { t with producer := some (.producing read) }
    else some { t.setExit with producer := some .ended }
  | some (.producing frame) =>
    (CircularQueue.proceed t.frameQueue none (.produce frame)).map fun frameQueue =>
      { t with
        frameQueue
        producer := some (if (frameQueue.thread none).isIdle then .reading else .producing frame) }
  | _ => none

def consume (k : K) (sessionId : SessionId) (t : SharedTrack K n) :
    Option (Option Frame × SharedTrack K n) :=
  (CircularQueue.proceed t.frameQueue (some k) (.consume k sessionId)).map fun frameQueue =>
    (if (frameQueue.thread (some k)).isIdle
      then some ((t.frameQueue.data.touch sessionId).take sessionId).1 else none,
    { t with frameQueue })

section Lemmas
variable {t t' : SharedTrack K n} {idOf : K → SessionId} {k : K} {sessionId : SessionId} {read : Frame}

/-- A step of the producer: it reads, it ends the track, or it gets on with `produce`. -/
theorem produce_cases (threaded : t.Threaded idOf) (produced : t.produce read = some t') :
    t.producer = some .reading ∧ t' = { t with producer := some (.producing read) } ∨
    t.producer = some .reading ∧ t' = { t.setExit with producer := some .ended } ∨
    ∃ frame, t.producer = some (.producing frame) ∧ ¬ t.frameQueue.Sleeps none ∧
      ((∃ held, t.frameQueue.data.produceWaits t.frameQueue.data.nextPosition = true ∧
          t' = { t with
            frameQueue := t.frameQueue.put none
              (.asleep (.produce held t.frameQueue.data.nextPosition)) }) ∨
        ∃ item q, t.frameQueue.data.produce item = some q ∧
          t' = { t with
            frameQueue := ((t.frameQueue.put none .idle).set q).notify CircularQueue.onNotEmpty
            producer := some .reading }) := by
  unfold produce at produced
  split at produced
  · rename_i reads
    split at produced
    · exact .inl ⟨reads, (Option.some.inj produced).symm⟩
    · exact .inr (.inl ⟨reads, (Option.some.inj produced).symm⟩)
  · rename_i frame producing
    obtain ⟨m, went, rfl⟩ := Option.map_eq_some_iff.mp produced
    obtain ⟨awake, held, _, rfl⟩ := CircularQueue.proceed_produce threaded (by rintro id ⟨_, ⟨⟩, _⟩) went
    refine .inr (.inr ⟨frame, producing, awake, ?_⟩)
    rcases CircularQueue.attempt_produce t.frameQueue held with ⟨waits, same⟩ | ⟨q, stored, same⟩
    · refine .inl ⟨held, waits, ?_⟩
      rw [same]
      simp [Monitor.put, Thread.isIdle, producing]
    · refine .inr ⟨held, q, stored, ?_⟩
      rw [same]
      simp [Monitor.put, Monitor.set, Monitor.notify, Thread.wake, Thread.isIdle]
  · contradiction

theorem consume_cases {returned : Option Frame} (threaded : t.Threaded idOf) (own : idOf k = sessionId)
    (consumed : t.consume k sessionId = some (returned, t')) : ¬ t.frameQueue.Sleeps (some k) ∧
      ((returned = none ∧ (t.frameQueue.data.touch sessionId).consumeWaits sessionId = true ∧
          t' = { t with
            frameQueue := (t.frameQueue.set (t.frameQueue.data.touch sessionId)).put (some k)
              (.asleep (.consume sessionId)) }) ∨
        ∃ item q, t.frameQueue.data.consume sessionId = some (item, q) ∧ returned = some item ∧
          t' = { t with
            frameQueue := if t.frameQueue.data.exit then (t.frameQueue.put (some k) .idle).set q
              else ((t.frameQueue.put (some k) .idle).set q).notify CircularQueue.onNotFull }) := by
  obtain ⟨m, went, same⟩ := Option.map_eq_some_iff.mp consumed
  obtain ⟨rfl, rfl⟩ := Prod.mk.inj same
  obtain ⟨awake, rfl⟩ := CircularQueue.proceed_consume threaded
    (fun other ⟨_, mine, named⟩ => by
      obtain rfl := Option.some.inj mine
      exact named.symm.trans own) went
  refine ⟨awake, ?_⟩
  rcases CircularQueue.attempt_consume t.frameQueue k sessionId with ⟨waits, same⟩ | ⟨item, q, taken, same⟩
  · refine .inl ⟨?_, waits, by rw [same]⟩
    rw [same]
    simp [Monitor.put, Thread.isIdle]
  · refine .inr ⟨item, q, taken, ?_, by rw [same]⟩
    have returned : ((t.frameQueue.data.touch sessionId).take sessionId).1 = item := by
      unfold CircularQueue.consume at taken
      split at taken
      · contradiction
      · exact congrArg Prod.fst (Option.some.inj taken)
    rw [same, returned]
    split
    · simp [Monitor.put, Monitor.set, Thread.isIdle]
    · simp [Monitor.put, Monitor.set, Monitor.notify, Thread.wake, Thread.isIdle]

theorem Threaded.produce (threaded : t.Threaded idOf) (produced : t.produce read = some t') :
    t'.Threaded idOf := by
  unfold SharedTrack.produce at produced
  split at produced
  · split at produced
    · exact Option.some.inj produced ▸ threaded
    · exact Option.some.inj produced ▸ threaded.setExit
  · obtain ⟨m, went, rfl⟩ := Option.map_eq_some_iff.mp produced
    obtain ⟨_, held, _, rfl⟩ := CircularQueue.proceed_produce threaded (by rintro id ⟨_, ⟨⟩, _⟩) went
    exact CircularQueue.attempt_pending threaded ⟨rfl, rfl⟩
  · contradiction

theorem Threaded.consume {returned : Option Frame} (threaded : t.Threaded idOf) (own : idOf k = sessionId)
    (consumed : t.consume k sessionId = some (returned, t')) : t'.Threaded idOf := by
  obtain ⟨m, went, same⟩ := Option.map_eq_some_iff.mp consumed
  obtain ⟨_, rfl⟩ := Prod.mk.inj same
  obtain ⟨_, rfl⟩ := CircularQueue.proceed_consume threaded
    (fun other ⟨_, mine, named⟩ => by
      obtain rfl := Option.some.inj mine
      exact named.symm.trans own) went
  exact CircularQueue.attempt_pending threaded ⟨k, rfl, own⟩

end Lemmas
end SharedTrack

structure State (H Track : Type) (n : Track → Nat) where
  tracks : (mediaTrack : Track) → SharedTrack SenderThread (n mediaTrack)
  objects : Nat → Option (Shared Track)
  count : Nat
  sessions : SessionId → Option Nat
  sessionsMutex : Option H
  joining : H → Option (Nat × TrackName)
  task : H → List (Action Track)

namespace State
variable {H Track : Type} {n : Track → Nat}

def start (n : Track → Nat) (positive : ∀ mediaTrack, 0 < n mediaTrack) : State H Track n where
  tracks mediaTrack := .new (n mediaTrack) (positive mediaTrack)
  objects _ := none
  count := 0
  sessions _ := none
  sessionsMutex := none
  joining _ := none
  task _ := []

def modify (s : State H Track n) (session : Nat) (f : Shared Track → Shared Track) : State H Track n :=
  { s with objects := Function.update s.objects session ((s.objects session).map f) }

def setHandler (s : State H Track n) (session : Nat) (trackName : TrackName)
    (handler : Track × TrackHandler) : State H Track n :=
  s.modify session fun object =>
    { object with handlers := Function.update object.handlers trackName (some handler) }

def handler (s : State H Track n) (session : Nat) (trackName : TrackName) :
    Option (Track × TrackHandler) :=
  (s.objects session).bind (·.handlers trackName)

variable [DecidableEq H] [DecidableEq Track]

def setTrack (s : State H Track n) (mediaTrack : Track)
    (t : SharedTrack SenderThread (n mediaTrack)) : State H Track n :=
  { s with tracks := Function.update s.tracks mediaTrack t }

def afterLookup (s : State H Track n) : Request Track → List (Action Track)
  | .setup sessionId trackName mediaTrack =>
    if (s.sessions sessionId).isSome then [.getSession (.setup sessionId trackName mediaTrack)]
    else [.createSession sessionId trackName mediaTrack]
  | .teardown sessionId =>
    if (s.sessions sessionId).isSome then [.terminateSession sessionId] else []
  | request => if (s.sessions request.sessionId).isSome then [.getSession request] else []

def body (session : Nat) : Request Track → List (Action Track)
  | .setup _ trackName mediaTrack => [.addMediaTrack trackName mediaTrack session]
  | .play _ => [.start session]
  | .pause _ => [.pause session]
  | _ => []

/-- One action of a handler, with what it has to do before it goes on. `succeeds`
says whether the sockets of an `RtpRtcpHandler` and the media file can be opened,
`visits` in which order a loop over `session_handlers_` meets them. -/
def perform (h : H) (succeeds : Bool) (visits : List TrackName) (s : State H Track n) :
    Action Track → Option (State H Track n × List (Action Track))
  | .sessionExists request =>
    if s.sessionsMutex.isSome then none else some (s, s.afterLookup request)
  | .createSession sessionId trackName mediaTrack =>
    if s.sessionsMutex.isSome then none
    else some
      ({ s with
        objects := Function.update s.objects s.count (some ⟨sessionId, 2, fun _ => none⟩)
        count := s.count + 1
        sessions := Function.update s.sessions sessionId (some s.count)
        sessionsMutex := some h },
      ((s.sessions sessionId).map .release).toList ++
        [.unlock, .addMediaTrack trackName mediaTrack s.count, .release s.count])
  | .getSession request => do
    if s.sessionsMutex.isSome then none
    else
      let session ← s.sessions request.sessionId
      return (s.modify session fun object => { object with refs := object.refs + 1 },
        body session request ++ [.release session])
  | .terminateSession sessionId =>
    if s.sessionsMutex.isSome then none
    else some ({ s with sessionsMutex := some h },
      match s.sessions sessionId with
      | none => [.unlock]
      | some session => [.stop session, .erase sessionId session, .unlock])
  | .addMediaTrack trackName mediaTrack session => do
    let object ← s.objects session
    let s := s.setTrack mediaTrack ((s.tracks mediaTrack).registerConsumer object.sessionId)
    if !succeeds then return (s, [])
    else if (object.handlers trackName).any (·.2.sender.isSome) then none
    else return (s.setHandler session trackName (mediaTrack, ⟨false, none⟩), [])
  | .start session => some (s, [.startHandlers session visits])
  | .startHandlers _ [] => some (s, [])
  | .startHandlers session (trackName :: trackNames) =>
    match s.handler session trackName with
    | some (mediaTrack, ⟨false, sender⟩) => do
      if !succeeds && !(s.tracks mediaTrack).isActive then
        return ((s.setTrack mediaTrack (s.tracks mediaTrack).activate).setHandler session trackName
          (mediaTrack, ⟨true, sender⟩), [])
      else if sender.isSome then none
      else
        let t ← (s.tracks mediaTrack).start
        return ((s.setTrack mediaTrack t).setHandler session trackName
          (mediaTrack, ⟨true, some .testing⟩), [.startHandlers session trackNames])
    | _ => some (s, [.startHandlers session trackNames])
  | .pause session => some (s, visits.map (.pauseHandler session))
  | .pauseHandler session trackName =>
    match s.handler session trackName with
    | some (mediaTrack, ⟨_, sender⟩) =>
      some (s.setHandler session trackName (mediaTrack, ⟨false, sender⟩), [])
    | none => some (s, [])
  | .stop session => some (s, visits.map (.stopHandler session))
  | .stopHandler session trackName =>
    match s.handler session trackName with
    | some (mediaTrack, ⟨_, sender⟩) =>
      let s := s.setHandler session trackName (mediaTrack, ⟨false, sender⟩)
      some (if sender.isSome then
        { s with joining := Function.update s.joining h (some (session, trackName)) } else s, [])
    | none => some (s, [])
  | .erase sessionId session =>
    some ({ s with sessions := Function.update s.sessions sessionId none }, [.release session])
  | .release session => do
    let object ← s.objects session
    return (s.modify session fun object => { object with refs := object.refs - 1 },
      if object.refs ≤ 1 then [.stop session, .unregister session] else [])
  | .unregister session => some (s, visits.map (.unregisterHandler session))
  | .unregisterHandler session trackName => do
    let object ← s.objects session
    match object.handlers trackName with
    | some (mediaTrack, _) =>
      return (s.setTrack mediaTrack ((s.tracks mediaTrack).unregisterConsumer object.sessionId),
        [.noConsumer mediaTrack])
    | none => return (s, [])
  | .noConsumer mediaTrack =>
    some (s, if (s.tracks mediaTrack).frameQueue.data.noConsumer
      then [.stopTrack mediaTrack, .joinProducer mediaTrack] else [])
  | .stopTrack mediaTrack =>
    some (s.setTrack mediaTrack { (s.tracks mediaTrack).setExit with isActive := false }, [])
  | .joinProducer mediaTrack =>
    match (s.tracks mediaTrack).producer with
    | none | some .ended =>
      some (s.setTrack mediaTrack { (s.tracks mediaTrack).setExit with producer := none }, [])
    | _ => none
  | .unlock => some ({ s with sessionsMutex := none }, [])

/-- A step of a handler: `join` returns when the sender has ended. -/
def advance (h : H) (succeeds : Bool) (visits : List TrackName) (s : State H Track n) :
    Option (State H Track n) :=
  match s.joining h with
  | some (session, trackName) =>
    match s.handler session trackName with
    | some (mediaTrack, ⟨isActive, some .ended⟩) =>
      some { s.setHandler session trackName (mediaTrack, ⟨isActive, none⟩) with
        joining := Function.update s.joining h none }
    | _ => none
  | none =>
    match s.task h with
    | [] => none
    | action :: rest =>
      (s.perform h succeeds visits action).map fun (s, first) =>
        { s with task := Function.update s.task h (first ++ rest) }

def send (session : Nat) (trackName : TrackName) (s : State H Track n) : Option (State H Track n) := do
  let object ← s.objects session
  match object.handlers trackName with
  | some (mediaTrack, ⟨isActive, some .testing⟩) =>
    return s.setHandler session trackName
      (mediaTrack, ⟨isActive, some (if isActive then .consuming else .ended)⟩)
  | some (mediaTrack, ⟨isActive, some .consuming⟩) =>
    let (returned, t) ←
      (s.tracks mediaTrack).consume ⟨session, trackName, object.sessionId⟩ object.sessionId
    return (s.setTrack mediaTrack t).setHandler session trackName
      (mediaTrack, ⟨isActive, some (.after returned)⟩)
  | _ => none

end State

inductive Label (H Track : Type) where
  | request (h : H) (request : Request Track)
  | handler (h : H) (succeeds : Bool) (visits : List TrackName)
  | sender (session : Nat) (trackName : TrackName)
  | producer (mediaTrack : Track) (read : Frame)

namespace State
variable {H Track : Type} {n : Track → Nat} [DecidableEq H] [DecidableEq Track]

def act (s : State H Track n) : Label H Track → Option (State H Track n)
  | .request h request =>
    match s.task h with
    | [] => some { s with task := Function.update s.task h (match request with
        | .disconnect sessionId => [.terminateSession sessionId]
        | request => [.sessionExists request]) }
    | _ => none
  | .handler h succeeds visits => s.advance h succeeds visits
  | .sender session trackName => s.send session trackName
  | .producer mediaTrack read => ((s.tracks mediaTrack).produce read).map (s.setTrack mediaTrack)

def WaitsForMutex (s : State H Track n) (h : H) : Prop :=
  s.sessionsMutex.isSome ∧ match s.task h with
    | .sessionExists _ :: _ | .createSession .. :: _ | .getSession _ :: _ | .terminateSession _ :: _ => True
    | _ => False

/-- A handler that holds `sessions_mutex_`, as in `terminate_session`, waits for a
sender that is blocked in `consume`, and the producer of the track is blocked in
`produce`. -/
def Deadlocked (s : State H Track n) : Prop :=
  ∃ h session trackName object mediaTrack isActive,
    s.sessionsMutex = some h ∧ s.joining h = some (session, trackName) ∧
    s.objects session = some object ∧
    object.handlers trackName = some (mediaTrack, ⟨isActive, some .consuming⟩) ∧
    (s.tracks mediaTrack).ConsumerBlocked ⟨session, trackName, object.sessionId⟩ object.sessionId ∧
    (s.tracks mediaTrack).ProducerBlocked

end State
end TinyRtsp.Termination
