import Mathlib.Data.Fintype.Defs
import TinyRtsp.Session.Termination

/-! When `terminate_session` can be left waiting for ever: the sender it joins has
drained its backlog while another consumer occupies the slot the producer needs. -/
namespace TinyRtsp.Termination
open Transition

section Queue
variable {Id : Type} {n : Nat} [DecidableEq Id] {q q' : CircularQueue Id Frame n} {id other : Id}

/-- The consumer is registered, and when it has drained its backlog the producer's
next slot is free. -/
def HasRoom (q : CircularQueue Id Frame n) (id : Id) : Prop :=
  ∃ p, q.Registered id p ∧ (p = q.writePosition → ∀ viewer, ¬ q.Registered viewer q.nextPosition)

/-- Another consumer that is moved, but not to the producer's next slot unless that
is also the slot it writes. -/
theorem HasRoom.move (room : HasRoom q id) (apart : id ≠ other) (write : q'.writePosition = q.writePosition)
    (same : ∀ viewer p, viewer ≠ other → (q'.Registered viewer p ↔ q.Registered viewer p))
    (moved : q'.Registered other q.nextPosition →
      q.writePosition = q.nextPosition ∨ q.Registered other q.nextPosition) : HasRoom q' id := by
  obtain ⟨p, registered, free⟩ := room
  refine ⟨p, (same id p apart).mpr registered, fun drained viewer occupies => ?_⟩
  rw [write] at drained
  have next : q'.nextPosition = q.nextPosition := congrArg Ring.succ write
  rw [next] at occupies
  by_cases mover : viewer = other
  · subst viewer
    rcases moved occupies with single | before
    · refine free drained id ?_
      rw [← single, ← drained]
      exact registered
    · exact free drained other before
  · exact free drained viewer ((same viewer _ mover).mp occupies)

theorem HasRoom.registerConsumer (room : HasRoom q id) (apart : id ≠ other) :
    HasRoom (q.registerConsumer other) id := by
  have write : (q.registerConsumer other).writePosition = q.writePosition := rfl
  apply room.move apart write
  · intro viewer p mover
    rw [CircularQueue.registered_registerConsumer, if_neg mover]
  · intro occupies
    rw [CircularQueue.registered_registerConsumer, if_pos rfl] at occupies
    exact .inl occupies

theorem HasRoom.unregisterConsumer (room : HasRoom q id) (apart : id ≠ other) :
    HasRoom (q.unregisterConsumer other) id := by
  have write : (q.unregisterConsumer other).writePosition = q.writePosition := rfl
  apply room.move apart write
  · intro viewer p mover
    rw [CircularQueue.registered_unregisterConsumer]
    exact and_iff_right mover
  · intro occupies
    exact .inr (CircularQueue.registered_unregisterConsumer.mp occupies).2

theorem HasRoom.touch (room : HasRoom q id) (apart : id ≠ other) (sleeps : q.consume other = none) :
    HasRoom (q.touch other) id := by
  have write := (CircularQueue.touch_fields q other).2.1
  apply room.move apart write
  · intro viewer p mover
    exact CircularQueue.registered_touch_ne mover
  · intro occupies
    unfold CircularQueue.consume at sleeps
    split at sleeps
    · rename_i waits
      obtain ⟨drained, _⟩ := CircularQueue.consumeWaits_iff.mp waits
      exact .inl (write.symm.trans (drained.symm.trans occupies.position))
    · contradiction

theorem HasRoom.consume {item : Frame} (room : HasRoom q id) (apart : id ≠ other)
    (member : q.exit = true → other ∈ q.consumerPositions)
    (taken : q.consume other = some (item, q')) : HasRoom q' id := by
  rcases CircularQueue.consume_cases taken with
    ⟨exited, _, rfl⟩ | ⟨_, backlog, _, _, write, _, registered⟩
  · have same : q.touch other = q := if_pos (member exited)
    rwa [same]
  · apply room.move apart write
    · intro viewer p mover
      rw [registered, if_neg mover]
    · intro occupies
      rw [registered, if_pos rfl] at occupies
      exact absurd (Ring.succ_injective occupies) backlog

theorem HasRoom.produce {item : Frame} (room : HasRoom q id)
    (exited : q.exit = true → q.isPositionInUse q.nextPosition = false)
    (stored : q.produce item = some q') : HasRoom q' id := by
  obtain ⟨p, registered, _⟩ := room
  obtain ⟨goes, rfl⟩ := CircularQueue.produce_cases stored
  refine ⟨p, registered, fun drained => ?_⟩
  have drained : p = q.nextPosition := drained
  subst drained
  cases exit : q.exit with
  | true =>
    have used := CircularQueue.isPositionInUse_iff.mpr ⟨id, registered⟩
    rw [exited exit] at used
    contradiction
  | false => exact absurd (CircularQueue.produceWaits_iff.mpr ⟨⟨id, registered⟩, exit⟩) goes

end Queue

section Threads
variable {n : Nat} {m m' : CircularQueue.Threads SenderThread SessionId Frame n} {k : SenderThread}

/-- The consumer has room, and when it has drained its backlog the producer is awake,
as it is when the consumer sleeps. -/
structure Clear (m : CircularQueue.Threads SenderThread SessionId Frame n) (k : SenderThread) :
    Prop where
  room : HasRoom m.data k.sessionId
  awake : m.data.position k.sessionId = m.data.writePosition → ¬ m.Sleeps none
  drained : m.Sleeps (some k) → m.data.position k.sessionId = m.data.writePosition

/-- A step that leaves the consumer and the write position where they are, and puts
neither thread to sleep. -/
theorem Clear.of_same (clear : Clear m k) (room : HasRoom m'.data k.sessionId)
    (same : ∀ p, m.data.Registered k.sessionId p → m'.data.Registered k.sessionId p)
    (write : m'.data.writePosition = m.data.writePosition) (producer : m'.Sleeps none → m.Sleeps none)
    (consumer : m'.Sleeps (some k) → m.Sleeps (some k)) : Clear m' k := by
  obtain ⟨p, registered, _⟩ := clear.room
  have position : m'.data.position k.sessionId = m.data.position k.sessionId :=
    (same p registered).position.trans registered.position.symm
  refine ⟨room, fun drained sleeps => ?_, fun sleeps => ?_⟩
  · rw [position, write] at drained
    exact clear.awake drained (producer sleeps)
  · rw [position, write]
    exact clear.drained (consumer sleeps)

/-- The consumer and the producer are not both blocked. -/
theorem Clear.not_blocked {t : SharedTrack SenderThread n} (clear : Clear t.frameQueue k)
    (blocked : t.ConsumerBlocked k k.sessionId) : ¬ t.ProducerBlocked := by
  obtain ⟨p, registered, free⟩ := clear.room
  have drained : t.frameQueue.data.position k.sessionId = t.frameQueue.data.writePosition := by
    rcases blocked with sleeps | waits
    · exact clear.drained sleeps
    · rw [registered.touch] at waits
      exact (CircularQueue.consumeWaits_iff.mp waits).1
  rintro ⟨_, sleeps | full⟩
  · exact clear.awake drained sleeps
  · obtain ⟨⟨viewer, occupies⟩, _⟩ := CircularQueue.produceWaits_iff.mp full
    exact free (registered.position.symm.trans drained) viewer occupies

end Threads

namespace SharedTrack
variable {n : Nat} {t t' : SharedTrack SenderThread n} {k other : SenderThread} {sessionId : SessionId}

theorem clear_setExit (clear : Clear t.frameQueue k) : Clear t.setExit.frameQueue k :=
  clear.of_same clear.room (fun _ here => here) rfl Monitor.Sleeps.of_notify Monitor.Sleeps.of_notify

theorem clear_registerConsumer (clear : Clear t.frameQueue k) (apart : k.sessionId ≠ sessionId) :
    Clear (t.registerConsumer sessionId).frameQueue k := by
  refine clear.of_same (clear.room.registerConsumer apart) (fun p here => ?_) rfl id id
  exact CircularQueue.registered_registerConsumer.mpr (by rwa [if_neg apart])

theorem clear_unregisterConsumer (clear : Clear t.frameQueue k) (apart : k.sessionId ≠ sessionId) :
    Clear (t.unregisterConsumer sessionId).frameQueue k := by
  refine clear.of_same (clear.room.unregisterConsumer apart) (fun p here => ?_) rfl id id
  exact CircularQueue.registered_unregisterConsumer.mpr ⟨apart, here⟩

theorem clear_activate (clear : Clear t.frameQueue k) : Clear t.activate.frameQueue k := by
  unfold activate
  dsimp only
  split
  · exact clear.of_same clear.room (fun _ here => here) rfl Monitor.Sleeps.of_notify
      Monitor.Sleeps.of_notify
  · exact clear

theorem clear_start (clear : Clear t.frameQueue k) (started : t.start = some t') :
    Clear t'.frameQueue k := by
  unfold start at started
  split at started
  · obtain rfl := Option.some.inj started
    exact clear
  · split at started
    · contradiction
    · obtain rfl := Option.some.inj started
      exact clear_activate clear

/-- A stored item wakes the consumer; behind a consumer that has drained its backlog
the producer does not go to sleep. -/
theorem clear_produce {read : Frame} (threaded : t.Threaded SenderThread.sessionId)
    (clear : Clear t.frameQueue k)
    (exited : ∀ frame, t.producer = some (.producing frame) → t.frameQueue.data.exit = true →
      t.frameQueue.data.isPositionInUse t.frameQueue.data.nextPosition = false)
    (produced : t.produce read = some t') : Clear t'.frameQueue k := by
  rcases produce_cases threaded produced with
    ⟨_, rfl⟩ | ⟨_, rfl⟩ | ⟨frame, producing, _, ⟨held, full, rfl⟩ | ⟨item, q, stored, rfl⟩⟩
  · exact clear
  · exact clear_setExit clear
  · obtain ⟨p, registered, free⟩ := clear.room
    obtain ⟨⟨viewer, occupies⟩, _⟩ := CircularQueue.produceWaits_iff.mp full
    refine ⟨clear.room, fun drained => ?_, fun sleeps => ?_⟩
    · exact absurd occupies (free (registered.position.symm.trans drained) viewer)
    · have apart : some k ≠ none := nofun
      exact clear.drained ((Monitor.sleeps_put_ne apart).mp sleeps)
  · refine ⟨clear.room.produce (exited frame producing) stored,
      fun _ => Monitor.not_sleeps_returned, fun sleeps => absurd sleeps ?_⟩
    refine Monitor.not_sleeps_notify fun wait asleep => ?_
    have apart : some k ≠ none := nofun
    have asleep : t.frameQueue.thread (some k) = _ :=
      (Function.update_of_ne apart .idle _).symm.trans asleep
    cases wait with
    | produce => exact absurd (threaded (some k) _ (.inr asleep)).1 apart
    | consume => rfl

theorem clear_consume {returned : Option Frame} (threaded : t.Threaded SenderThread.sessionId)
    (clear : Clear t.frameQueue k) (apart : k.sessionId ≠ other.sessionId)
    (member : t.frameQueue.data.exit = true →
      other.sessionId ∈ t.frameQueue.data.consumerPositions)
    (consumed : t.consume other other.sessionId = some (returned, t')) : Clear t'.frameQueue k := by
  have different : some k ≠ some other := by
    rintro ⟨⟩
    exact apart rfl
  obtain ⟨_, ⟨_, waits, rfl⟩ | ⟨item, q, took, _, rfl⟩⟩ := consume_cases threaded rfl consumed
  · have sleeps : t.frameQueue.data.consume other.sessionId = none := if_pos waits
    have asleep {thread : Option SenderThread} (elsewhere : thread ≠ some other) :
        ((t.frameQueue.set (t.frameQueue.data.touch other.sessionId)).put (some other)
          (.asleep (.consume other.sessionId))).Sleeps thread → t.frameQueue.Sleeps thread :=
      (Monitor.sleeps_put_ne elsewhere).mp
    exact clear.of_same (clear.room.touch apart sleeps) (fun p here => here.touch_other)
      (CircularQueue.touch_fields _ _).2.1 (asleep nofun) (asleep different)
  · have room := clear.room.consume apart member took
    have kept : q.writePosition = t.frameQueue.data.writePosition ∧
        ∀ p, t.frameQueue.data.Registered k.sessionId p → q.Registered k.sessionId p := by
      rcases CircularQueue.consume_cases took with ⟨_, _, rfl⟩ | ⟨_, _, _, _, write, _, registered⟩
      · exact ⟨(CircularQueue.touch_fields _ _).2.1, fun p here => here.touch_other⟩
      · exact ⟨write, fun p here => (registered _ p).mpr (by rwa [if_neg apart])⟩
    obtain ⟨write, same⟩ := kept
    have asleep {thread : Option SenderThread} (elsewhere : thread ≠ some other) :
        ((t.frameQueue.put (some other) .idle).set q).Sleeps thread → t.frameQueue.Sleeps thread :=
      (Monitor.sleeps_put_ne elsewhere).mp
    split
    · exact clear.of_same room same write (asleep nofun) (asleep different)
    · exact clear.of_same room same write (fun sleeps => asleep nofun sleeps.of_notify)
        fun sleeps => asleep different sleeps.of_notify

theorem clear_sleep {returned : Option Frame} (threaded : t.Threaded SenderThread.sessionId)
    (clear : Clear t.frameQueue k) (consumed : t.consume k k.sessionId = some (returned, t'))
    (sleeps : returned = none) : Clear t'.frameQueue k := by
  obtain ⟨p, registered, _⟩ := clear.room
  obtain ⟨_, ⟨_, waits, rfl⟩ | ⟨item, q, _, returns, _⟩⟩ := consume_cases threaded rfl consumed
  · rw [registered.touch] at waits ⊢
    have apart : none ≠ some k := nofun
    refine ⟨clear.room, fun drained producer => ?_, fun _ => ?_⟩
    · exact clear.awake drained ((Monitor.sleeps_put_ne apart).mp producer)
    · exact (CircularQueue.consumeWaits_iff.mp waits).1
  · rw [sleeps] at returns
    contradiction

end SharedTrack

namespace State
variable {H Track : Type} {n : Track → Nat} {s s' : State H Track n} {h : H} {session : Nat}
  {trackName : TrackName} {object : Shared Track} {mediaTrack : Track}

/-- The handler that holds `sessions_mutex_` joins this sender. -/
def Terminating (s : State H Track n) (session : Nat) (trackName : TrackName) : Prop :=
  ∃ h, s.sessionsMutex = some h ∧ s.joining h = some (session, trackName)

def Consumes (s : State H Track n) (session : Nat) (trackName : TrackName) (mediaTrack : Track)
    (sessionId : SessionId) : Prop :=
  ∃ object isActive, s.objects session = some object ∧ object.sessionId = sessionId ∧
    object.handlers trackName = some (mediaTrack, ⟨isActive, some .consuming⟩)

/-- The sender that is joined by the handler that holds `sessions_mutex_` is in a
`consume` of the track. -/
def Awaits (s : State H Track n) (mediaTrack : Track) (k : SenderThread) : Prop :=
  s.Terminating k.session k.trackName ∧ s.Consumes k.session k.trackName mediaTrack k.sessionId

/-- The sender is told to end, and gets out of `consume`. -/
def Quiet (s : State H Track n) (session : Nat) (object : Shared Track) (trackName : TrackName) :
    Prop :=
  ∀ mediaTrack handler, object.handlers trackName = some (mediaTrack, handler) →
    handler.isActive = false ∧ (handler.sender = some .consuming →
      Clear (s.tracks mediaTrack).frameQueue ⟨session, trackName, object.sessionId⟩)

def Calm (s : State H Track n) : Prop :=
  ∀ session trackName object, s.Terminating session trackName → s.objects session = some object →
    s.Quiet session object trackName

/-- On every track the threads in a call are the producer and the senders. -/
def Threaded (s : State H Track n) : Prop :=
  ∀ mediaTrack, (s.tracks mediaTrack).Threaded SenderThread.sessionId

theorem Terminating.unique {other : Nat} {name : TrackName} (first : s.Terminating session trackName)
    (second : s.Terminating other name) : other = session ∧ name = trackName := by
  obtain ⟨h, holds, joins⟩ := first
  obtain ⟨h', holds', joins'⟩ := second
  obtain rfl := Option.some.inj (holds.symm.trans holds')
  exact Prod.mk.inj (Option.some.inj (joins'.symm.trans joins))

theorem objects_setHandler {handler : Track × TrackHandler} (here : s.objects session = some object) :
    (s.setHandler session trackName handler).objects session =
      some { object with handlers := Function.update object.handlers trackName (some handler) } := by
  change Function.update s.objects session ((s.objects session).map _) session = _
  rw [Function.update_self, here]
  rfl

theorem handler_setHandler_ne {other : Nat} {name : TrackName} {handler : Track × TrackHandler}
    (apart : other ≠ session) :
    (s.setHandler session trackName handler).handler other name = s.handler other name :=
  congrArg (Option.bind · _) (Function.update_of_ne apart _ _)

theorem calm_of_idle (holds : s.sessionsMutex = some h) (idle : s.joining h = none) : s.Calm := by
  rintro session trackName object ⟨h', holds', joins⟩
  obtain rfl := Option.some.inj (holds.symm.trans holds')
  rw [idle] at joins
  contradiction

theorem calm_of_terminating (terminating : s.Terminating session trackName)
    (here : s.objects session = some object) (quiet : s.Quiet session object trackName) : s.Calm := by
  intro other name found terminating' there
  obtain ⟨rfl, rfl⟩ := terminating.unique terminating'
  obtain rfl := Option.some.inj (here.symm.trans there)
  exact quiet

theorem Calm.modify {f : Shared Track → Shared Track} (calm : s.Calm)
    (quiet : ∀ object trackName, s.objects session = some object →
      s.Terminating session trackName → s.Quiet session object trackName →
        s.Quiet session (f object) trackName) :
    (s.modify session f).Calm := by
  intro other trackName object terminating here
  change Function.update s.objects session _ other = some object at here
  rw [Function.update_apply] at here
  split at here
  · subst other
    obtain ⟨before, found, rfl⟩ := Option.map_eq_some_iff.mp here
    exact quiet before trackName found terminating (calm session trackName before terminating found)
  · exact calm other trackName object terminating here

theorem Calm.setHandler {handler : TrackHandler} (calm : s.Calm)
    (quiet : s.Terminating session trackName → handler.isActive = false)
    (clear : ∀ object, s.Terminating session trackName → s.objects session = some object →
      handler.sender = some .consuming →
        Clear (s.tracks mediaTrack).frameQueue ⟨session, trackName, object.sessionId⟩) :
    (s.setHandler session trackName (mediaTrack, handler)).Calm := by
  apply calm.modify
  intro object name here terminating before track after set
  dsimp only at set
  rw [Function.update_apply] at set
  split at set
  · subst name
    obtain ⟨rfl, rfl⟩ := Prod.mk.inj (Option.some.inj set)
    exact ⟨quiet terminating, clear object terminating here⟩
  · exact before track after set

theorem Calm.deactivate {isActive : Bool} {sender : Option Sender} (calm : s.Calm)
    (has : s.handler session trackName = some (mediaTrack, ⟨isActive, sender⟩)) :
    (s.setHandler session trackName (mediaTrack, ⟨false, sender⟩)).Calm := by
  apply calm.setHandler
  · exact fun _ => rfl
  · intro object terminating here consuming
    rw [handler, here] at has
    exact (calm session trackName object terminating here mediaTrack _ has).2 consuming

variable [DecidableEq Track]

theorem Calm.setTrack {t : SharedTrack SenderThread (n mediaTrack)} (calm : s.Calm)
    (clear : ∀ k, s.Awaits mediaTrack k →
      Clear (s.tracks mediaTrack).frameQueue k → Clear t.frameQueue k) :
    (s.setTrack mediaTrack t).Calm := by
  intro session trackName object terminating here track handler has
  obtain ⟨quiet, before⟩ := calm session trackName object terminating here track handler has
  refine ⟨quiet, fun consuming => ?_⟩
  change Clear (Function.update s.tracks mediaTrack t track).frameQueue _
  by_cases same : track = mediaTrack
  · subst track
    rw [Function.update_self]
    obtain ⟨isActive, sender⟩ := handler
    obtain rfl := consuming
    exact clear _ ⟨terminating, object, isActive, here, rfl, has⟩ (before rfl)
  · rw [Function.update_of_ne same]
    exact before consuming

/-- A sender in `consume` is told to end under `sessions_mutex_` only when its
consumer is `Clear`; while it is awaited its consumer is not registered again or
unregistered, and its session is not started. -/
def Careful (h : H) (s : State H Track n) : Action Track → Prop
  | .addMediaTrack _ mediaTrack session => ∀ object, s.objects session = some object →
      ∀ k, s.Awaits mediaTrack k → k.sessionId ≠ object.sessionId
  | .unregisterHandler session trackName => ∀ object mediaTrack handler,
      s.objects session = some object → object.handlers trackName = some (mediaTrack, handler) →
        ∀ k, s.Awaits mediaTrack k → k.sessionId ≠ object.sessionId
  | .startHandlers session (trackName :: _) => ¬ s.Terminating session trackName
  | .stopHandler session trackName => s.sessionsMutex = some h →
      ∀ mediaTrack sessionId, s.Consumes session trackName mediaTrack sessionId →
        Clear (s.tracks mediaTrack).frameQueue ⟨session, trackName, sessionId⟩
  | _ => True

/-- The handlers are `Careful`; no other sender consumes under an awaited id, or
without a key once `exit_` is set; and then no item is stored behind an occupied slot. -/
def Undisturbed (s : State H Track n) : Label H Track → Prop
  | .request .. => True
  | .handler h _ _ => s.joining h = none → ∀ action rest, s.task h = action :: rest → s.Careful h action
  | .sender session trackName => ∀ mediaTrack sessionId,
      s.Consumes session trackName mediaTrack sessionId → ¬ s.Terminating session trackName →
        ∀ awaited, s.Awaits mediaTrack awaited → awaited.sessionId ≠ sessionId ∧
          ((s.tracks mediaTrack).frameQueue.data.exit = true →
            sessionId ∈ (s.tracks mediaTrack).frameQueue.data.consumerPositions)
  | .producer mediaTrack _ => ∀ awaited frame, s.Awaits mediaTrack awaited →
      (s.tracks mediaTrack).producer = some (.producing frame) →
        (s.tracks mediaTrack).frameQueue.data.exit = true →
          (s.tracks mediaTrack).frameQueue.data.isPositionInUse
            (s.tracks mediaTrack).frameQueue.data.nextPosition = false

variable [DecidableEq H]

section Actions
variable {succeeds : Bool} {visits : List TrackName} {first : List (Action Track)}

theorem calm_addMediaTrack (calm : s.Calm)
    (careful : s.Careful h (.addMediaTrack trackName mediaTrack session))
    (performed : s.perform h succeeds visits (.addMediaTrack trackName mediaTrack session) = some (s', first)) :
    s'.Calm := by
  simp only [perform, Option.bind_eq_bind, Option.bind_eq_some_iff] at performed
  obtain ⟨object, here, performed⟩ := performed
  have registered :
      (s.setTrack mediaTrack ((s.tracks mediaTrack).registerConsumer object.sessionId)).Calm := by
    apply calm.setTrack
    intro awaited awaits clear
    exact SharedTrack.clear_registerConsumer clear (careful object here awaited awaits)
  split at performed
  · obtain ⟨rfl, _⟩ := Prod.mk.inj (Option.some.inj performed)
    exact registered
  · split at performed
    · contradiction
    · obtain ⟨rfl, _⟩ := Prod.mk.inj (Option.some.inj performed)
      exact registered.setHandler (fun _ => rfl) (fun _ _ _ => nofun)

theorem calm_startHandlers {trackNames : List TrackName} (calm : s.Calm)
    (careful : s.Careful h (.startHandlers session (trackName :: trackNames)))
    (performed : s.perform h succeeds visits (.startHandlers session (trackName :: trackNames)) =
      some (s', first)) : s'.Calm := by
  simp only [perform] at performed
  split at performed
  · rename_i mediaTrack sender _
    split at performed
    · obtain ⟨rfl, _⟩ := Prod.mk.inj (Option.some.inj performed)
      have activated : (s.setTrack mediaTrack (s.tracks mediaTrack).activate).Calm :=
        calm.setTrack fun _ _ clear => SharedTrack.clear_activate clear
      apply activated.setHandler
      · exact fun terminating => absurd terminating careful
      · exact fun _ terminating => absurd terminating careful
    · split at performed
      · contradiction
      · simp only [Option.bind_eq_bind, Option.bind_eq_some_iff] at performed
        obtain ⟨t, started, performed⟩ := performed
        obtain ⟨rfl, _⟩ := Prod.mk.inj (Option.some.inj performed)
        have running : (s.setTrack mediaTrack t).Calm :=
          calm.setTrack fun _ _ clear => SharedTrack.clear_start clear started
        apply running.setHandler
        · exact fun terminating => absurd terminating careful
        · exact fun _ terminating => absurd terminating careful
  · obtain ⟨rfl, _⟩ := Prod.mk.inj (Option.some.inj performed)
    exact calm

theorem calm_stopHandler (calm : s.Calm) (careful : s.Careful h (.stopHandler session trackName))
    (performed : s.perform h succeeds visits (.stopHandler session trackName) = some (s', first)) :
    s'.Calm := by
  simp only [perform] at performed
  split at performed
  · rename_i mediaTrack isActive sender has
    obtain ⟨rfl, _⟩ := Prod.mk.inj (Option.some.inj performed)
    have told := calm.deactivate has
    split
    · rintro other name object ⟨h', holds, joins⟩ here
      change Function.update s.joining h _ h' = _ at joins
      rw [Function.update_apply] at joins
      split at joins
      · subst h'
        obtain ⟨rfl, rfl⟩ := Prod.mk.inj (Option.some.inj joins)
        obtain ⟨before, found, has⟩ := Option.bind_eq_some_iff.mp has
        obtain rfl := Option.some.inj ((objects_setHandler found).symm.trans here)
        intro track after set
        dsimp only at set
        rw [Function.update_self] at set
        obtain ⟨rfl, rfl⟩ := Prod.mk.inj (Option.some.inj set)
        refine ⟨rfl, fun consuming => ?_⟩
        obtain rfl : sender = some .consuming := consuming
        exact careful holds mediaTrack before.sessionId ⟨before, isActive, found, rfl, has⟩
      · exact told other name object ⟨h', holds, joins⟩ here
    · exact told
  · obtain ⟨rfl, _⟩ := Prod.mk.inj (Option.some.inj performed)
    exact calm

theorem calm_unregisterHandler (calm : s.Calm)
    (careful : s.Careful h (.unregisterHandler session trackName))
    (performed : s.perform h succeeds visits (.unregisterHandler session trackName) = some (s', first)) :
    s'.Calm := by
  simp only [perform, Option.bind_eq_bind, Option.bind_eq_some_iff] at performed
  obtain ⟨object, here, performed⟩ := performed
  split at performed
  · rename_i mediaTrack handler has
    obtain ⟨rfl, _⟩ := Prod.mk.inj (Option.some.inj performed)
    apply calm.setTrack
    intro awaited awaits clear
    exact SharedTrack.clear_unregisterConsumer clear
      (careful object mediaTrack handler here has awaited awaits)
  · obtain ⟨rfl, _⟩ := Prod.mk.inj (Option.some.inj performed)
    exact calm

theorem calm_perform {action : Action Track} (calm : s.Calm) (idle : s.joining h = none)
    (careful : s.Careful h action) (performed : s.perform h succeeds visits action = some (s', first)) :
    s'.Calm := by
  cases action with
  | sessionExists request =>
    simp only [perform, Option.ite_none_left_eq_some, Option.some.injEq, Prod.mk.injEq] at performed
    obtain ⟨_, rfl, _⟩ := performed
    exact calm
  | createSession sessionId trackName mediaTrack =>
    simp only [perform, Option.ite_none_left_eq_some, Option.some.injEq, Prod.mk.injEq] at performed
    obtain ⟨_, rfl, _⟩ := performed
    exact calm_of_idle rfl idle
  | getSession request =>
    simp only [perform, Option.ite_none_left_eq_some, Option.bind_eq_bind, Option.bind_eq_some_iff] at performed
    obtain ⟨_, session, _, got⟩ := performed
    obtain ⟨rfl, _⟩ := Prod.mk.inj (Option.some.inj got)
    exact calm.modify fun _ _ _ _ quiet => quiet
  | terminateSession sessionId =>
    simp only [perform, Option.ite_none_left_eq_some, Option.some.injEq, Prod.mk.injEq] at performed
    obtain ⟨_, rfl, _⟩ := performed
    exact calm_of_idle rfl idle
  | addMediaTrack trackName mediaTrack session => exact calm_addMediaTrack calm careful performed
  | start session | pause session | stop session | unregister session | noConsumer mediaTrack =>
    obtain ⟨rfl, _⟩ := Prod.mk.inj (Option.some.inj performed)
    exact calm
  | startHandlers session trackNames =>
    cases trackNames with
    | nil =>
      obtain ⟨rfl, _⟩ := Prod.mk.inj (Option.some.inj performed)
      exact calm
    | cons trackName trackNames => exact calm_startHandlers calm careful performed
  | pauseHandler session trackName =>
    simp only [perform] at performed
    split at performed
    · rename_i has
      obtain ⟨rfl, _⟩ := Prod.mk.inj (Option.some.inj performed)
      exact calm.deactivate has
    · obtain ⟨rfl, _⟩ := Prod.mk.inj (Option.some.inj performed)
      exact calm
  | stopHandler session trackName => exact calm_stopHandler calm careful performed
  | erase sessionId session =>
    obtain ⟨rfl, _⟩ := Prod.mk.inj (Option.some.inj performed)
    exact calm
  | release session =>
    simp only [perform, Option.bind_eq_bind, Option.bind_eq_some_iff] at performed
    obtain ⟨object, _, released⟩ := performed
    obtain ⟨rfl, _⟩ := Prod.mk.inj (Option.some.inj released)
    exact calm.modify fun _ _ _ _ quiet => quiet
  | unregisterHandler session trackName => exact calm_unregisterHandler calm careful performed
  | stopTrack mediaTrack =>
    obtain ⟨rfl, _⟩ := Prod.mk.inj (Option.some.inj performed)
    exact calm.setTrack fun _ _ clear => SharedTrack.clear_setExit clear
  | joinProducer mediaTrack =>
    simp only [perform] at performed
    split at performed
    · obtain ⟨rfl, _⟩ := Prod.mk.inj (Option.some.inj performed)
      exact calm.setTrack fun _ _ clear => SharedTrack.clear_setExit clear
    · obtain ⟨rfl, _⟩ := Prod.mk.inj (Option.some.inj performed)
      exact calm.setTrack fun _ _ clear => SharedTrack.clear_setExit clear
    · contradiction
  | unlock =>
    obtain ⟨rfl, _⟩ := Prod.mk.inj (Option.some.inj performed)
    rintro session trackName object ⟨_, holds, _⟩
    contradiction

theorem calm_advance (calm : s.Calm)
    (careful : s.joining h = none → ∀ action rest, s.task h = action :: rest → s.Careful h action)
    (advanced : s.advance h succeeds visits = some s') : s'.Calm := by
  unfold advance at advanced
  split at advanced
  · rename_i session trackName _
    split at advanced
    · rename_i mediaTrack isActive has
      obtain rfl := Option.some.inj advanced
      have ended : (s.setHandler session trackName (mediaTrack, ⟨isActive, none⟩)).Calm := by
        apply calm.setHandler
        · intro terminating
          obtain ⟨object, here, has⟩ := Option.bind_eq_some_iff.mp has
          exact (calm session trackName object terminating here mediaTrack _ has).1
        · exact fun _ _ _ => nofun
      rintro other name object ⟨h', holds, joins⟩ here
      change Function.update s.joining h none h' = _ at joins
      rw [Function.update_apply] at joins
      split at joins
      · contradiction
      · exact ended other name object ⟨h', holds, joins⟩ here
    · contradiction
  · rename_i idle
    split at advanced
    · contradiction
    · rename_i action rest task
      obtain ⟨⟨after, first⟩, performed, rfl⟩ := Option.map_eq_some_iff.mp advanced
      have calm : after.Calm := calm_perform calm idle (careful idle action rest task) performed
      exact calm

end Actions

omit [DecidableEq H] in
theorem calm_send (threaded : s.Threaded) (calm : s.Calm)
    (undisturbed : s.Undisturbed (.sender session trackName))
    (sent : s.send session trackName = some s') : s'.Calm := by
  simp only [send, Option.bind_eq_bind, Option.bind_eq_some_iff] at sent
  obtain ⟨object, here, sent⟩ := sent
  split at sent
  · rename_i mediaTrack isActive has
    obtain rfl := Option.some.inj sent
    apply calm.setHandler
    · exact fun terminating => (calm session trackName object terminating here mediaTrack _ has).1
    · intro _ terminating _ consuming
      obtain rfl : isActive = false :=
        (calm session trackName object terminating here mediaTrack _ has).1
      contradiction
  · rename_i mediaTrack isActive has
    have consumes : s.Consumes session trackName mediaTrack object.sessionId :=
      ⟨object, isActive, here, rfl, has⟩
    obtain ⟨⟨returned, t⟩, consumed, sent⟩ := Option.bind_eq_some_iff.mp sent
    obtain rfl := Option.some.inj sent
    by_cases terminating : s.Terminating session trackName
    · obtain ⟨told, clear⟩ := calm session trackName object terminating here mediaTrack _ has
      have here : (s.setTrack mediaTrack t).objects session = some object := here
      refine calm_of_terminating terminating (objects_setHandler here) fun track handler set => ?_
      dsimp only at set
      rw [Function.update_self] at set
      obtain ⟨rfl, rfl⟩ := Prod.mk.inj (Option.some.inj set)
      refine ⟨told, fun consuming => ?_⟩
      have sleeps : returned = none := Sender.after_eq_consuming_iff.mp (Option.some.inj consuming)
      change Clear (Function.update s.tracks mediaTrack t mediaTrack).frameQueue _
      rw [Function.update_self]
      exact SharedTrack.clear_sleep (threaded mediaTrack) (clear rfl) consumed sleeps
    · have moved : (s.setTrack mediaTrack t).Calm := by
        apply calm.setTrack
        intro awaited awaits clear
        obtain ⟨apart, member⟩ := undisturbed mediaTrack object.sessionId consumes terminating awaited awaits
        exact SharedTrack.clear_consume (threaded mediaTrack) clear apart member consumed
      apply moved.setHandler
      · exact fun again => absurd again terminating
      · exact fun _ again => absurd again terminating
  · contradiction

theorem calm_act {label : Label H Track} (threaded : s.Threaded) (calm : s.Calm)
    (undisturbed : s.Undisturbed label) (taken : s.act label = some s') : s'.Calm := by
  cases label with
  | request h request =>
    simp only [act] at taken
    split at taken
    · obtain rfl := Option.some.inj taken
      exact calm
    · contradiction
  | handler h succeeds visits => exact calm_advance calm undisturbed taken
  | sender session trackName => exact calm_send threaded calm undisturbed taken
  | producer mediaTrack read =>
    obtain ⟨t, produced, rfl⟩ := Option.map_eq_some_iff.mp taken
    apply calm.setTrack
    intro awaited awaits clear
    exact SharedTrack.clear_produce (threaded mediaTrack) clear
      (undisturbed awaited · awaits) produced

omit [DecidableEq Track] [DecidableEq H] in
theorem not_deadlocked_of_calm (calm : s.Calm) : ¬ s.Deadlocked := by
  rintro ⟨h, session, trackName, object, mediaTrack, isActive, holds, joins, here, has, sleeps, full⟩
  have clear := (calm session trackName object ⟨h, holds, joins⟩ here mediaTrack _ has).2 rfl
  exact clear.not_blocked sleeps full

def Stops : Option (Action Track) → Bool
  | some (.stopHandler ..) => true
  | _ => false

def Idle (s : State H Track n) : Prop :=
  (∀ h, s.joining h = none) ∧ ∀ h, Stops (s.task h).head? = false

instance [Fintype H] (s : State H Track n) : Decidable s.Idle :=
  inferInstanceAs (Decidable (_ ∧ _))

omit [DecidableEq Track] [DecidableEq H] in
theorem undisturbed_of_idle {label : Label H Track} (idle : s.Idle) : s.Undisturbed label := by
  obtain ⟨idle, goes⟩ := idle
  have free session trackName : ¬ s.Terminating session trackName := by
    rintro ⟨h, _, joins⟩
    rw [idle h] at joins
    contradiction
  have unawaited mediaTrack k : ¬ s.Awaits mediaTrack k := fun awaits => free _ _ awaits.1
  cases label with
  | request h request => trivial
  | handler h succeeds visits =>
    intro _ action rest task
    have going := goes h
    rw [task] at going
    cases action with
    | addMediaTrack trackName mediaTrack session =>
      exact fun _ _ awaited awaits => absurd awaits (unawaited _ awaited)
    | unregisterHandler session trackName =>
      exact fun _ _ _ _ _ awaited awaits => absurd awaits (unawaited _ awaited)
    | startHandlers session trackNames =>
      cases trackNames with
      | nil => trivial
      | cons trackName trackNames => exact free session trackName
    | stopHandler session trackName => contradiction
    | _ => trivial
  | sender session trackName => exact fun _ _ _ _ awaited awaits => absurd awaits (unawaited _ awaited)
  | producer mediaTrack read => exact fun awaited _ awaits => absurd awaits (unawaited _ awaited)

section Threads

omit [DecidableEq H] in
theorem Threaded.setTrack {t : SharedTrack SenderThread (n mediaTrack)} (threaded : s.Threaded)
    (track : t.Threaded SenderThread.sessionId) : (s.setTrack mediaTrack t).Threaded := by
  intro other
  change (Function.update s.tracks mediaTrack t other).Threaded _
  by_cases same : other = mediaTrack
  · subst other
    rwa [Function.update_self]
  · rw [Function.update_of_ne same]
    exact threaded other

theorem threaded_perform {succeeds : Bool} {visits : List TrackName} {first : List (Action Track)}
    {action : Action Track} (threaded : s.Threaded)
    (performed : s.perform h succeeds visits action = some (s', first)) : s'.Threaded := by
  cases action with
  | sessionExists request | createSession sessionId trackName mediaTrack | terminateSession sessionId =>
    simp only [perform, Option.ite_none_left_eq_some, Option.some.injEq, Prod.mk.injEq] at performed
    obtain ⟨_, rfl, _⟩ := performed
    exact threaded
  | getSession request =>
    simp only [perform, Option.ite_none_left_eq_some, Option.bind_eq_bind, Option.bind_eq_some_iff] at performed
    obtain ⟨_, session, _, got⟩ := performed
    obtain ⟨rfl, _⟩ := Prod.mk.inj (Option.some.inj got)
    exact threaded
  | addMediaTrack trackName mediaTrack session =>
    simp only [perform, Option.bind_eq_bind, Option.bind_eq_some_iff] at performed
    obtain ⟨object, here, performed⟩ := performed
    have registered := threaded.setTrack ((threaded mediaTrack).registerConsumer object.sessionId)
    split at performed
    · obtain ⟨rfl, _⟩ := Prod.mk.inj (Option.some.inj performed)
      exact registered
    · split at performed
      · contradiction
      · obtain ⟨rfl, _⟩ := Prod.mk.inj (Option.some.inj performed)
        exact registered
  | start session | pause session | stop session | unregister session | noConsumer mediaTrack
  | erase sessionId session | unlock =>
    obtain ⟨rfl, _⟩ := Prod.mk.inj (Option.some.inj performed)
    exact threaded
  | startHandlers session trackNames =>
    cases trackNames with
    | nil =>
      obtain ⟨rfl, _⟩ := Prod.mk.inj (Option.some.inj performed)
      exact threaded
    | cons trackName trackNames =>
      simp only [perform] at performed
      split at performed
      · rename_i mediaTrack sender _
        split at performed
        · obtain ⟨rfl, _⟩ := Prod.mk.inj (Option.some.inj performed)
          exact threaded.setTrack (threaded mediaTrack).activate
        · split at performed
          · contradiction
          · simp only [Option.bind_eq_bind, Option.bind_eq_some_iff] at performed
            obtain ⟨t, started, performed⟩ := performed
            obtain ⟨rfl, _⟩ := Prod.mk.inj (Option.some.inj performed)
            exact threaded.setTrack ((threaded mediaTrack).start started)
      · obtain ⟨rfl, _⟩ := Prod.mk.inj (Option.some.inj performed)
        exact threaded
  | pauseHandler session trackName =>
    simp only [perform] at performed
    split at performed
    · obtain ⟨rfl, _⟩ := Prod.mk.inj (Option.some.inj performed)
      exact threaded
    · obtain ⟨rfl, _⟩ := Prod.mk.inj (Option.some.inj performed)
      exact threaded
  | stopHandler session trackName =>
    simp only [perform] at performed
    split at performed
    · obtain ⟨rfl, _⟩ := Prod.mk.inj (Option.some.inj performed)
      split
      · exact threaded
      · exact threaded
    · obtain ⟨rfl, _⟩ := Prod.mk.inj (Option.some.inj performed)
      exact threaded
  | release session =>
    simp only [perform, Option.bind_eq_bind, Option.bind_eq_some_iff] at performed
    obtain ⟨object, _, released⟩ := performed
    obtain ⟨rfl, _⟩ := Prod.mk.inj (Option.some.inj released)
    exact threaded
  | unregisterHandler session trackName =>
    simp only [perform, Option.bind_eq_bind, Option.bind_eq_some_iff] at performed
    obtain ⟨object, here, performed⟩ := performed
    split at performed
    · rename_i mediaTrack handler has
      obtain ⟨rfl, _⟩ := Prod.mk.inj (Option.some.inj performed)
      exact threaded.setTrack ((threaded mediaTrack).unregisterConsumer object.sessionId)
    · obtain ⟨rfl, _⟩ := Prod.mk.inj (Option.some.inj performed)
      exact threaded
  | stopTrack mediaTrack =>
    obtain ⟨rfl, _⟩ := Prod.mk.inj (Option.some.inj performed)
    exact threaded.setTrack (threaded mediaTrack).setExit
  | joinProducer mediaTrack =>
    simp only [perform] at performed
    split at performed
    · obtain ⟨rfl, _⟩ := Prod.mk.inj (Option.some.inj performed)
      exact threaded.setTrack (threaded mediaTrack).setExit
    · obtain ⟨rfl, _⟩ := Prod.mk.inj (Option.some.inj performed)
      exact threaded.setTrack (threaded mediaTrack).setExit
    · contradiction

theorem threaded_act {label : Label H Track} (threaded : s.Threaded) (taken : s.act label = some s') :
    s'.Threaded := by
  cases label with
  | request h request =>
    simp only [act] at taken
    split at taken
    · obtain rfl := Option.some.inj taken
      exact threaded
    · contradiction
  | handler h succeeds visits =>
    simp only [act, advance] at taken
    split at taken
    · split at taken
      · obtain rfl := Option.some.inj taken
        exact threaded
      · contradiction
    · split at taken
      · contradiction
      · obtain ⟨⟨after, first⟩, performed, rfl⟩ := Option.map_eq_some_iff.mp taken
        have after : after.Threaded := threaded_perform threaded performed
        exact after
  | sender session trackName =>
    simp only [act, send, Option.bind_eq_bind, Option.bind_eq_some_iff] at taken
    obtain ⟨object, here, sent⟩ := taken
    split at sent
    · obtain rfl := Option.some.inj sent
      exact threaded
    · rename_i mediaTrack isActive has
      obtain ⟨⟨returned, t⟩, consumed, sent⟩ := Option.bind_eq_some_iff.mp sent
      obtain rfl := Option.some.inj sent
      exact threaded.setTrack ((threaded mediaTrack).consume rfl consumed)
    · contradiction
  | producer mediaTrack read =>
    obtain ⟨t, produced, rfl⟩ := Option.map_eq_some_iff.mp taken
    exact threaded.setTrack ((threaded mediaTrack).produce produced)

end Threads

/-- In a run whose steps are all undisturbed no state is a deadlock. -/
theorem never_deadlocked (positive : ∀ mediaTrack, 0 < n mediaTrack) (trace : List (Label H Track))
    (run : Run (Guarded Undisturbed (Takes act)) (start n positive) trace s) : ¬ s.Deadlocked := by
  apply not_deadlocked_of_calm
  refine (run.invariant (P := fun s => s.Threaded ∧ s.Calm) ⟨?_, ?_⟩ ?_).2
  · exact fun mediaTrack => SharedTrack.new_threaded (positive mediaTrack)
  · rintro session trackName object ⟨_, holds, _⟩
    contradiction
  · rintro s label t ⟨threaded, calm⟩ ⟨undisturbed, taken⟩
    exact ⟨threaded_act threaded taken, calm_act threaded calm undisturbed taken⟩

/-- Two sessions play. The sender of the first has taken the only frame and sleeps in
`consume` when the session is torn down; the producer reads on. -/
theorem never_deadlocked_two : ∃ s : State Bool Unit fun _ => 25, s.sessionsMutex = some true ∧
    s.joining true = some (0, "v".toList) ∧
    (s.tracks ()).frameQueue.Sleeps (some ⟨0, "v".toList, "x".toList⟩) ∧
    (s.handler 1 "v".toList).isSome ∧ ¬ s.Deadlocked := by
  let x : SessionId := "x".toList
  let y : SessionId := "y".toList
  let v : TrackName := "v".toList
  let steps (h : Bool) (k : Nat) : List (Label Bool Unit) := List.replicate k (.handler h true [v])
  obtain ⟨trace, outcome⟩ : ∃ trace : List (Label Bool Unit),
      (trace.foldlM (checked (fun s _ => s.Idle) act)
        (start _ fun _ => by decide : State Bool Unit fun _ => 25)).map (fun s => decide
        (s.sessionsMutex = some true ∧ s.joining true = none ∧
          s.task true = [.stopHandler 0 v, .erase x 0, .unlock] ∧
          (s.objects 0).map (·.sessionId) = some x ∧
          s.handler 0 v = some ((), ⟨true, some .consuming⟩) ∧ (s.handler 1 v).isSome ∧
          (s.tracks ()).frameQueue.Sleeps (some ⟨0, v, x⟩) ∧ ¬ (s.tracks ()).frameQueue.Sleeps none ∧
          (s.tracks ()).frameQueue.data.consumerPositions.lookup x =
            some (s.tracks ()).frameQueue.data.writePosition ∧
          (s.tracks ()).frameQueue.data.isPositionInUse
            (s.tracks ()).frameQueue.data.nextPosition = false)) = some true :=
    ⟨.request true (.setup x v ()) :: steps true 5 ++ .request false (.setup y v ()) :: steps false 5 ++
      .request true (.play x) :: steps true 6 ++ .request false (.play y) :: steps false 6 ++
      [.producer () (some []), .producer () none] ++ List.replicate 4 (.sender 0 v) ++
      .request true (.teardown x) :: steps true 3, by decide +kernel⟩
  obtain ⟨s, done, reached⟩ := Option.map_eq_some_iff.mp outcome
  obtain ⟨holds, idle, task, named, has, second, sleeps, awake, drained, free⟩ := of_decide_eq_true reached
  have run : Run (Guarded Undisturbed (Takes act)) (start _ fun _ => by decide) trace s := by
    apply (Run.of_checked done).weaken
    rintro s label t ⟨idle, taken⟩
    exact ⟨undisturbed_of_idle idle, taken⟩
  obtain ⟨t, stops, holds, joins, asleep, second⟩ : ∃ t, s.act (.handler true true []) = some t ∧
      t.sessionsMutex = some true ∧ t.joining true = some (0, v) ∧
      (t.tracks ()).frameQueue.Sleeps (some ⟨0, v, x⟩) ∧ (t.handler 1 v).isSome := by
    simp only [act, advance, idle, task, perform, has]
    refine ⟨_, rfl, holds, rfl, sleeps, ?_⟩
    have kept : (s.setHandler 0 v ((), ⟨false, some .consuming⟩)).handler 1 v = s.handler 1 v :=
      handler_setHandler_ne (by decide)
    exact (congrArg Option.isSome kept).trans second
  have undisturbed : s.Undisturbed (.handler true true []) := by
    intro _ action rest next
    obtain ⟨rfl, _⟩ := List.cons.inj (task.symm.trans next)
    rintro _ mediaTrack sessionId ⟨object, isActive, here, rfl, consumes⟩
    rw [here] at named
    have same : object.sessionId = x := Option.some.inj named
    have registered : (s.tracks ()).frameQueue.data.Registered x _ := drained
    rw [same]
    refine ⟨⟨_, registered, fun _ viewer occupies => ?_⟩, fun _ => awake, fun _ => registered.position⟩
    rw [CircularQueue.isPositionInUse_iff.mpr ⟨viewer, occupies⟩] at free
    contradiction
  exact ⟨t, holds, joins, asleep, second, never_deadlocked _ _ (.snoc run ⟨undisturbed, stops⟩)⟩

/-- One session has been set up only and occupies the slot behind a full queue,
another has played and drained it; the second one is torn down, and the handler that
would tear down the first waits for the mutex. -/
theorem teardown_deadlocks : ¬ ∀ (trace : List (Label Bool Unit)) (s : State Bool Unit fun _ => 25),
    Run (Takes act) (start _ fun _ => by decide) trace s →
      ¬ (s.Deadlocked ∧ ∀ h, s.sessionsMutex ≠ some h → s.WaitsForMutex h) := by
  intro claim
  let x : SessionId := "x".toList
  let y : SessionId := "y".toList
  let v : TrackName := "v".toList
  let steps (h : Bool) (k : Nat) : List (Label Bool Unit) := List.replicate k (.handler h true [v])
  obtain ⟨trace, outcome⟩ : ∃ trace : List (Label Bool Unit),
      (trace.foldlM act (start _ fun _ => by decide : State Bool Unit fun _ => 25)).map (fun s => decide
        (s.sessionsMutex = some true ∧ s.joining true = some (0, v) ∧
          s.task false = [.sessionExists (.teardown y)] ∧ (s.objects 0).map (·.sessionId) = some x ∧
          s.handler 0 v = some ((), ⟨false, some .consuming⟩) ∧
          (s.tracks ()).frameQueue.Sleeps (some ⟨0, v, x⟩) ∧
          (s.tracks ()).producer = some (.producing (some [])) ∧
          (s.tracks ()).frameQueue.Sleeps none)) = some true :=
    ⟨.request true (.setup x v ()) :: steps true 5 ++ .request false (.setup y v ()) :: steps false 5 ++
      .request true (.play x) :: steps true 6 ++ List.replicate 50 (.producer () (some [])) ++
      List.replicate 48 (.sender 0 v) ++ [.producer () none, .sender 0 v, .sender 0 v] ++
      .request true (.teardown x) :: steps true 4 ++ [.request false (.teardown y)], by decide +kernel⟩
  obtain ⟨s, done, reached⟩ := Option.map_eq_some_iff.mp outcome
  obtain ⟨holds, joins, waits, named, has, sleeps, producing, asleep⟩ := of_decide_eq_true reached
  obtain ⟨object, here, named⟩ := Option.map_eq_some_iff.mp named
  rw [handler, here] at has
  rw [← named] at sleeps
  refine claim trace s (.of_foldlM done) ⟨⟨true, 0, v, object, (), false, holds, joins, here, has,
    .inl sleeps, ⟨_, producing⟩, .inl asleep⟩, ?_⟩
  rintro (_ | _) other
  · refine ⟨Option.isSome_of_mem holds, ?_⟩
    rw [waits]
    trivial
  · exact absurd holds other

end State
end TinyRtsp.Termination
