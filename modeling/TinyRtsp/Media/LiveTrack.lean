import TinyRtsp.CircularQueue.Wakeup
import TinyRtsp.Media.Progress

/-! The broadcast with its threads asleep and awake in the queue. A call of `produce` or
`consume` that has to wait sleeps until it is notified, and `register_consumer` and
`unregister_consumer` notify nobody, so a thread may sleep on although it need not wait
any more. Every step is one of the broadcast or leaves it as it is. -/
namespace TinyRtsp
open Transition CircularQueue RtpRtcpHandler
open H264MediaTrack (NalUnit division maxFrameSize)
open AacMediaTrack (AdtsFrame)

structure LiveTrack (mediaType : MediaType) where
  producer : Producer
  frameQueue : Threads SessionId SessionId Frame mediaType.queueCapacity
  viewers : SessionId → Option Viewer

namespace LiveTrack
variable {mediaType : MediaType}

/-- A step of the broadcast, or one of a thread that goes to sleep. -/
inductive Label where
  | goes (label : Broadcast.Label)
  | waits (thread : Broadcast.Thread)

def Label.broadcast : Label → Option Broadcast.Label
  | .goes label => some label
  | .waits _ => none

def start (file : List (List UInt8)) : LiveTrack mediaType :=
  ⟨.reading file, CircularQueue.start _ mediaType.queueCapacity_pos, fun _ => none⟩

def broadcast (s : LiveTrack mediaType) : Broadcast mediaType := ⟨⟨s.frameQueue.data, s.producer⟩, s.viewers⟩

def call (s : LiveTrack mediaType) :
    Broadcast.Thread → Option (Option SessionId × Action SessionId SessionId Frame)
  | .producer =>
    match s.producer with
    | .producing frame _ => some (none, .produce (some frame))
    | _ => none
  | .sender sessionId =>
    if (s.viewers sessionId).any (·.sender = .fetching) then
      some (some sessionId, .consume sessionId sessionId)
    else none

/-- The call on the queue that is part of a step. -/
def moveQueue (m : Threads SessionId SessionId Frame mediaType.queueCapacity) :
    Broadcast.Label → Option (Threads SessionId SessionId Frame mediaType.queueCapacity)
  | .produce frame => proceed m none (.produce (some frame))
  | .getNextFrame sessionId _ => proceed m (some sessionId) (.consume sessionId sessionId)
  | .setExit => CircularQueue.act m .setExit
  | .addMediaTrack sessionId _ _ _ _ | .addMediaTrackThrows sessionId =>
    CircularQueue.act m (.registerConsumer sessionId)
  | .unregisterSession sessionId => CircularQueue.act m (.unregisterConsumer sessionId)
  | _ => some m

def act (s : LiveTrack mediaType) : Label → Option (LiveTrack mediaType)
  | .goes label => do
    let after ← s.broadcast.act label
    let frameQueue ← moveQueue s.frameQueue label
    return ⟨after.production.producer, frameQueue, after.viewers⟩
  | .waits thread => do
    let (t, call) ← s.call thread
    let frameQueue ← proceed s.frameQueue t call
    if frameQueue.Sleeps t then some { s with frameQueue } else none

end LiveTrack

namespace Broadcast
variable {mediaType : MediaType} {s s' : Broadcast mediaType} {label : Label}

def Thread.key : Thread → Option SessionId
  | .producer => none
  | .sender sessionId => some sessionId

theorem Thread.key_injective {thread other : Thread} (same : thread.key = other.key) : thread = other := by
  cases thread with
  | producer =>
    cases other with
    | producer => rfl
    | sender => contradiction
  | sender sessionId =>
    cases other with
    | producer => contradiction
    | sender other => exact congrArg _ (Option.some.inj same)

def Label.caller : Label → Option (Option SessionId)
  | .produce _ => some none
  | .getNextFrame sessionId _ => some (some sessionId)
  | _ => none

theorem producing_act {frame : List UInt8} {file : List (List UInt8)} (taken : s.act label = some s')
    (busy : s.production.producer = .producing frame file) (other : label.caller ≠ some none) :
    s'.production.producer = .producing frame file := by
  have produced := act_production taken
  cases label with
  | produce => exact absurd rfl other
  | readNextFrame =>
    simp only [Label.production, Option.elim_some, Production.act, busy] at produced
    contradiction
  | setExit =>
    simp only [Label.production, Option.elim_some, Production.act, busy] at produced
    contradiction
  | addMediaTrack | addMediaTrackThrows | unregisterSession =>
    obtain same := Option.some.inj produced
    rw [← same]
    exact busy
  | getNextFrame =>
    obtain ⟨_, _, _, _, same⟩ := Production.act_consume produced
    rw [same]
    exact busy
  | start | pause | testActive | sendRtpPacket =>
    have same : s'.production = s.production := produced
    rw [same]
    exact busy

theorem fetching_act {sessionId : SessionId} {viewer : Viewer} (taken : s.act label = some s')
    (here : s.viewers sessionId = some viewer) (busy : viewer.sender = .fetching)
    (other : label.caller ≠ some (some sessionId)) :
    ∃ after, s'.viewers sessionId = some after ∧ after.sender = .fetching := by
  -- a viewer that is at no call is none that was
  have apart {x : SessionId} {was : Viewer} (there : s.viewers x = some was) (free : was.sender ≠ .fetching) :
      sessionId ≠ x := by
    rintro rfl
    obtain rfl := Option.some.inj (here.symm.trans there)
    exact free busy
  cases act_effect taken with
  | produces | throws | stays => exact ⟨viewer, here, busy⟩
  | @adds x _ _ _ _ production added _ idle =>
    have free : sessionId ≠ x := by
      rintro rfl
      rw [idle viewer here] at busy
      contradiction
    exact ⟨viewer, by rw [viewers_setViewer, if_neg free]; exact here, busy⟩
  | @calls x _ was after _ _ there same =>
    by_cases own : sessionId = x
    · subst x
      obtain rfl := Option.some.inj (here.symm.trans there)
      refine ⟨after, by rw [viewers_setViewer, if_pos rfl], ?_⟩
      rw [same.resolve_left (by rw [busy]; exact SenderLoop.noConfusion), busy]
    · exact ⟨viewer, by rw [viewers_setViewer, if_neg own, here], busy⟩
  | @tests x was there looping =>
    have free := apart there (by rw [looping]; exact SenderLoop.noConfusion)
    exact ⟨viewer, by rw [viewers_setViewer, if_neg free, here], busy⟩
  | @fetches x production was frame there =>
    have free : sessionId ≠ x := fun same => other (by rw [same]; rfl)
    exact ⟨viewer, by rw [viewers_setViewer, if_neg free]; exact here, busy⟩
  | @sends x was frame stream there sending =>
    have free := apart there (by rw [sending]; exact SenderLoop.noConfusion)
    exact ⟨viewer, by rw [viewers_setViewer, if_neg free, here], busy⟩
  | @leaves x production was there ended =>
    have free : sessionId ≠ x := by
      refine apart there ?_
      rcases ended with idle | finished
      · rw [idle]
        exact SenderLoop.noConfusion
      · rw [finished]
        exact SenderLoop.noConfusion
    exact ⟨viewer, (Function.update_of_ne free ..).trans here, busy⟩

end Broadcast

namespace LiveTrack
variable {mediaType : MediaType} {file : List (List UInt8)} {s s' : LiveTrack mediaType}
  {label : Broadcast.Label} {after : Broadcast mediaType}
  {m : Threads SessionId SessionId Frame mediaType.queueCapacity}

/-- A thread is inside of no other call than the one it is at. -/
structure Threaded (s : LiveTrack mediaType) : Prop where
  calls : s.frameQueue.Pending (KeptBy fun t sessionId => t = some sessionId)
  producing : ∀ item next, (s.frameQueue.thread none).Holds (.produce item next) →
    ∃ frame file, s.producer = .producing frame file ∧ item = some frame
  fetching : ∀ sessionId wait, (s.frameQueue.thread (some sessionId)).Holds wait →
    ∃ viewer, s.viewers sessionId = some viewer ∧ viewer.sender = .fetching

/-- The producer's call tests the slot behind the one it will write, for its frame. -/
theorem proceed_frame {frame : List UInt8} {left : List (List UInt8)} (threaded : s.Threaded)
    (busy : s.producer = .producing frame left)
    (went : proceed s.frameQueue none (.produce (some frame)) = some m) :
    ¬ s.frameQueue.Sleeps none ∧
      m = attempt s.frameQueue none (.produce (some frame) s.frameQueue.data.nextPosition) := by
  obtain ⟨awake, held, own, rfl⟩ := proceed_produce threaded.calls nofun went
  refine ⟨awake, ?_⟩
  rcases own with rfl | inside
  · rfl
  · obtain ⟨other, _, same, rfl⟩ := threaded.producing held _ inside
    obtain ⟨rfl, _⟩ := Producer.producing.inj (same.symm.trans busy)
    rfl

theorem proceed_viewer {sessionId : SessionId} (threaded : s.Threaded)
    (went : proceed s.frameQueue (some sessionId) (.consume sessionId sessionId) = some m) :
    ¬ s.frameQueue.Sleeps (some sessionId) ∧ m = attempt s.frameQueue (some sessionId) (.consume sessionId) :=
  proceed_consume threaded.calls (fun _ same => (Option.some.inj same).symm) went

structure Moved (s : LiveTrack mediaType) (label : Broadcast.Label) (after : Broadcast mediaType)
    (m : Threads SessionId SessionId Frame mediaType.queueCapacity) : Prop where
  data : m.data = after.production.frameQueue
  calls : m.Pending (KeptBy fun t sessionId => t = some sessionId)
  inside : ∀ t wait, (m.thread t).Holds wait → (s.frameQueue.thread t).Holds wait ∧ label.caller ≠ some t

theorem Moved.of_returned {t : Option SessionId} {q : CircularQueue SessionId Frame mediaType.queueCapacity}
    (pending : m.Pending (KeptBy fun t sessionId => t = some sessionId))
    (returned : m = (s.frameQueue.put t .idle).set q ∨
      ∃ notified, m = ((s.frameQueue.put t .idle).set q).notify notified)
    (data : q = after.production.frameQueue) (caller : label.caller = some t) : Moved s label after m := by
  have idle (other wait) (holds : (((s.frameQueue.put t .idle).set q).thread other).Holds wait) :
      (s.frameQueue.thread other).Holds wait ∧ label.caller ≠ some other := by
    obtain ⟨apart, holds⟩ := Monitor.put_idle_holds_iff.mp holds
    rw [caller]
    exact ⟨holds, fun same => apart (Option.some.inj same).symm⟩
  rcases returned with rfl | ⟨notified, rfl⟩
  · exact ⟨data, pending, idle⟩
  · exact ⟨data, pending, fun other wait holds => idle other wait (Thread.holds_wake_iff.mp holds)⟩

theorem Moved.of_set {q : CircularQueue SessionId Frame mediaType.queueCapacity}
    (threaded : s.Threaded) (returned : m = s.frameQueue.set q ∨ ∃ notified, m = (s.frameQueue.set q).notify notified)
    (same : q.writePosition = s.frameQueue.data.writePosition)
    (data : q = after.production.frameQueue) (caller : label.caller = none) : Moved s label after m := by
  have pending := pending_of_writePosition threaded.calls same
  have other (t) : label.caller ≠ some t := by
    rw [caller]
    exact nofun
  rcases returned with rfl | ⟨notified, rfl⟩
  · exact ⟨data, pending, fun t wait holds => ⟨holds, other t⟩⟩
  · exact ⟨data, pending.notify, fun t wait holds => ⟨Thread.holds_wake_iff.mp holds, other t⟩⟩

theorem moved_of_act (threaded : s.Threaded) (taken : s.broadcast.act label = some after)
    (went : moveQueue s.frameQueue label = some m) : Moved s label after m := by
  have produced := Broadcast.act_production taken
  cases label with
  | produce frame =>
    obtain ⟨left, q, busy, stored, same⟩ := Production.act_produce produced
    obtain ⟨_, rfl⟩ := proceed_frame threaded busy went
    have pending : (attempt s.frameQueue none (.produce (some frame) s.frameQueue.data.nextPosition)).Pending _ :=
      attempt_pending threaded.calls ⟨rfl, rfl⟩
    rcases attempt_produce s.frameQueue (some frame) with ⟨waits, _⟩ | ⟨q', stored', done⟩
    · exact absurd waits (produce_cases stored).1
    · obtain rfl : q' = q := Option.some.inj (stored'.symm.trans stored)
      exact .of_returned pending (.inr ⟨_, done⟩) (by rw [same]) rfl
  | getNextFrame sessionId frame =>
    obtain ⟨p, q, here, consumed, same⟩ := Production.act_consume produced
    obtain ⟨_, rfl⟩ := proceed_viewer threaded went
    have pending : (attempt s.frameQueue (some sessionId) (.consume sessionId)).Pending _ :=
      attempt_pending threaded.calls rfl
    rcases attempt_consume s.frameQueue sessionId sessionId with ⟨waits, _⟩ | ⟨item, q', consumed', done⟩
    · have none : s.frameQueue.data.consume sessionId = none := if_pos waits
      exact absurd (consumed.symm.trans none) (Option.some_ne_none _)
    · obtain ⟨rfl, rfl⟩ := Prod.mk.inj (Option.some.inj (consumed'.symm.trans consumed))
      refine .of_returned pending ?_ (by rw [same]) rfl
      rw [done]
      split
      · exact .inl rfl
      · exact .inr ⟨_, rfl⟩
  | setExit =>
    obtain rfl := Option.some.inj went
    exact .of_set threaded (.inr ⟨_, rfl⟩) rfl (by rw [Production.act_setExit produced]; rfl) rfl
  | addMediaTrack sessionId | addMediaTrackThrows sessionId | unregisterSession sessionId =>
    obtain rfl := Option.some.inj went
    exact .of_set threaded (.inl rfl) rfl (by rw [← Option.some.inj produced]; rfl) rfl
  | readNextFrame =>
    obtain rfl := Option.some.inj went
    obtain ⟨producer, _, _, same⟩ := Production.act_readNextFrame produced
    exact ⟨by rw [same]; rfl, threaded.calls, fun t wait holds => ⟨holds, nofun⟩⟩
  | start | pause | testActive | sendRtpPacket =>
    obtain rfl := Option.some.inj went
    have same : after.production = s.broadcast.production := produced
    exact ⟨by rw [same]; rfl, threaded.calls, fun t wait holds => ⟨holds, nofun⟩⟩

inductive Falls (s : LiveTrack mediaType) :
    Broadcast.Thread → Wait SessionId Frame mediaType.queueCapacity → Prop
  | producer {frame : List UInt8} {left : List (List UInt8)} : s.producer = .producing frame left →
      Falls s .producer (.produce (some frame) s.frameQueue.data.nextPosition)
  | sender {sessionId : SessionId} {viewer : Viewer} : s.viewers sessionId = some viewer →
      viewer.sender = .fetching → Falls s (.sender sessionId) (.consume sessionId)

theorem waits_cases {thread : Broadcast.Thread} (threaded : s.Threaded)
    (registered : ∀ sessionId, (s.viewers sessionId).isSome → sessionId ∈ s.frameQueue.data.consumerPositions)
    (taken : s.act (.waits thread) = some s') : ∃ wait, s.Falls thread wait ∧
      ¬ s.frameQueue.Sleeps thread.key ∧
      s' = { s with frameQueue := s.frameQueue.put thread.key (.asleep wait) } := by
  obtain ⟨⟨t, call⟩, atCall, taken⟩ := Option.bind_eq_some_iff.mp taken
  obtain ⟨m, went, taken⟩ := Option.bind_eq_some_iff.mp taken
  obtain ⟨sleeps, taken⟩ := Option.ite_none_right_eq_some.mp taken
  obtain rfl := Option.some.inj taken
  cases thread with
  | producer =>
    simp only [LiveTrack.call] at atCall
    split at atCall
    · rename_i frame left busy
      obtain ⟨rfl, rfl⟩ := Prod.mk.inj (Option.some.inj atCall)
      obtain ⟨awake, rfl⟩ := proceed_frame threaded busy went
      rcases attempt_produce s.frameQueue (some frame) with ⟨_, done⟩ | ⟨q, _, done⟩
      · exact ⟨_, .producer busy, awake, by rw [done]; rfl⟩
      · rw [done] at sleeps
        exact absurd sleeps Monitor.not_sleeps_returned
    · contradiction
  | sender sessionId =>
    obtain ⟨busy, atCall⟩ := Option.ite_none_right_eq_some.mp atCall
    obtain ⟨rfl, rfl⟩ := Prod.mk.inj (Option.some.inj atCall)
    obtain ⟨viewer, here, fetching⟩ := (Option.any_eq_true _ _).mp busy
    obtain ⟨p, there⟩ := Production.registered_iff_mem.mp (registered sessionId (by rw [here]; rfl))
    obtain ⟨awake, rfl⟩ := proceed_viewer threaded went
    rcases attempt_consume s.frameQueue sessionId sessionId with ⟨_, done⟩ | ⟨item, q, _, done⟩
    · exact ⟨_, .sender here (of_decide_eq_true fetching), awake, by rw [done, there.touch]; rfl⟩
    · rw [done] at sleeps
      refine absurd sleeps ?_
      split
      · exact Monitor.not_sleeps_put_idle
      · exact Monitor.not_sleeps_returned

theorem Falls.threaded {thread : Broadcast.Thread} {wait : Wait SessionId Frame mediaType.queueCapacity}
    (threaded : s.Threaded) (falls : s.Falls thread wait) :
    ({ s with frameQueue := s.frameQueue.put thread.key (.asleep wait) } : LiveTrack mediaType).Threaded := by
  cases falls with
  | @producer frame left busy =>
    refine ⟨threaded.calls.put_asleep ⟨rfl, rfl⟩, fun item next holds => ?_, fun other wait holds => ?_⟩
    · obtain ⟨_, same⟩ | ⟨apart, _⟩ := Monitor.put_asleep_holds_iff.mp holds
      · exact ⟨frame, left, busy, (Wait.produce.inj same).1.symm⟩
      · exact absurd rfl apart
    · obtain ⟨same, _⟩ | ⟨_, before⟩ := Monitor.put_asleep_holds_iff.mp holds
      · exact absurd same (Option.some_ne_none other)
      · exact threaded.fetching other wait before
  | @sender sessionId viewer here fetching =>
    refine ⟨threaded.calls.put_asleep rfl, fun item next holds => ?_, fun other wait holds => ?_⟩
    · obtain ⟨same, _⟩ | ⟨_, before⟩ := Monitor.put_asleep_holds_iff.mp holds
      · exact absurd same.symm (Option.some_ne_none sessionId)
      · exact threaded.producing item next before
    · obtain ⟨same, _⟩ | ⟨_, before⟩ := Monitor.put_asleep_holds_iff.mp holds
      · obtain rfl := Option.some.inj same
        exact ⟨viewer, here, fetching⟩
      · exact threaded.fetching other wait before

theorem goes_threaded (threaded : s.Threaded) (taken : s.act (.goes label) = some s') :
    s.broadcast.act label = some s'.broadcast ∧ s'.Threaded := by
  obtain ⟨after, acted, taken⟩ := Option.bind_eq_some_iff.mp taken
  obtain ⟨m, went, taken⟩ := Option.bind_eq_some_iff.mp taken
  obtain rfl := Option.some.inj taken
  have moved := moved_of_act threaded acted went
  refine ⟨?_, moved.calls, fun item next holds => ?_, fun sessionId wait holds => ?_⟩
  · rw [acted, broadcast, moved.data]
  · obtain ⟨before, other⟩ := moved.inside _ _ holds
    obtain ⟨frame, left, busy, same⟩ := threaded.producing item next before
    exact ⟨frame, left, Broadcast.producing_act acted busy other, same⟩
  · obtain ⟨before, other⟩ := moved.inside _ _ holds
    obtain ⟨viewer, here, busy⟩ := threaded.fetching sessionId wait before
    exact Broadcast.fetching_act acted here busy other

theorem start_threaded : (start file : LiveTrack mediaType).Threaded where
  calls := by rintro t wait (⟨⟨⟩⟩ | ⟨⟨⟩⟩)
  producing := by rintro item next (⟨⟨⟩⟩ | ⟨⟨⟩⟩)
  fetching := by rintro sessionId wait (⟨⟨⟩⟩ | ⟨⟨⟩⟩)

def steps (trace : List Label) : List Broadcast.Label := trace.filterMap Label.broadcast

/-- A SETUP that throws is none of the session while it has the track. -/
def Steady (sessionId : SessionId) (s : LiveTrack mediaType) : Label → Prop
  | .goes label => s.broadcast.Steady sessionId label
  | .waits _ => True

abbrev Retained (mediaType : MediaType) (sessionId : SessionId) :
    LiveTrack mediaType → Label → LiveTrack mediaType → Prop :=
  Guarded (Steady sessionId) (Takes act)

variable {trace : List Label}

/-- Whoever sleeps, the steps that go on are a run of the broadcast. -/
theorem refines_broadcast {sessionId : SessionId} (run : Run (Retained mediaType sessionId) (start file) trace s) :
    Run (Broadcast.Retained mediaType sessionId) (.start file) (steps trace) s.broadcast ∧ s.Threaded := by
  refine run.history (P := fun trace (s : LiveTrack mediaType) =>
    Run (Broadcast.Retained mediaType sessionId) (.start file) (steps trace) s.broadcast ∧ s.Threaded)
    ⟨.start, start_threaded⟩ ?_
  rintro trace s label s' ⟨run, threaded⟩ ⟨steady, taken⟩
  rw [steps, List.filterMap_append]
  cases label with
  | goes label =>
    obtain ⟨acted, after⟩ := goes_threaded threaded taken
    exact ⟨.snoc run ⟨steady, acted⟩, after⟩
  | waits thread =>
    obtain ⟨wait, falls, _, rfl⟩ := waits_cases threaded
      (Broadcast.manned_of_run (run.weaken And.right)).viewers taken
    exact ⟨(List.append_nil (steps trace)).symm ▸ run, falls.threaded threaded⟩

section Progress
variable {more : List Label}

/-- A step of one of the threads, and not a call on a session. -/
def Label.Own : Label → Prop
  | .goes label => label.thread.isSome = true
  | .waits _ => True

abbrev Moving : LiveTrack mediaType → Label → LiveTrack mediaType → Prop :=
  Guarded (fun _ label => label.Own) (Takes act)

theorem Threaded.kept (threaded : s.Threaded) : s.frameQueue.Pending Kept := by
  intro t wait holds
  have kept := threaded.calls t wait holds
  cases wait with
  | produce => exact kept
  | consume sessionId =>
    intro same
    exact absurd (kept.symm.trans same) (Option.some_ne_none sessionId)

/-- Whoever sleeps has its reason to, as long as only the threads step. -/
theorem awake_act {step : Label} (threaded : s.Threaded) (awake : Awake s.frameQueue) (own : step.Own)
    (taken : s.act step = some s') : Awake s'.frameQueue := by
  cases step with
  | goes label =>
    obtain ⟨after, acted, taken⟩ := Option.bind_eq_some_iff.mp taken
    obtain ⟨m, went, taken⟩ := Option.bind_eq_some_iff.mp taken
    obtain rfl := Option.some.inj taken
    cases label with
    | produce frame =>
      have harmless : Harmless s.frameQueue (.produce (some frame)) := trivial
      exact proceed_awake awake threaded.kept harmless went
    | getNextFrame sessionId =>
      have harmless : Harmless s.frameQueue (.consume sessionId sessionId) := trivial
      exact proceed_awake awake threaded.kept harmless went
    | setExit =>
      have harmless : Harmless s.frameQueue .setExit := trivial
      exact act_awake awake threaded.kept harmless went
    | readNextFrame | testActive | sendRtpPacket =>
      obtain rfl := Option.some.inj went
      exact awake
    | addMediaTrack | addMediaTrackThrows | start | pause | unregisterSession => contradiction
  | waits thread =>
    obtain ⟨⟨t, call⟩, atCall, taken⟩ := Option.bind_eq_some_iff.mp taken
    obtain ⟨m, went, taken⟩ := Option.bind_eq_some_iff.mp taken
    obtain ⟨_, taken⟩ := Option.ite_none_right_eq_some.mp taken
    obtain rfl := Option.some.inj taken
    refine proceed_awake awake threaded.kept ?_ went
    cases thread with
    | producer =>
      simp only [LiveTrack.call] at atCall
      split at atCall
      · obtain ⟨_, rfl⟩ := Prod.mk.inj (Option.some.inj atCall)
        trivial
      · contradiction
    | sender sessionId =>
      obtain ⟨_, atCall⟩ := Option.ite_none_right_eq_some.mp atCall
      obtain ⟨_, rfl⟩ := Prod.mk.inj (Option.some.inj atCall)
      trivial

/-- With every sleeper having its reason, a thread that the broadcast lets go on is
awake. -/
theorem goes_enabled (threaded : s.Threaded) (awake : Awake s.frameQueue)
    (goes : (s.broadcast.act label).isSome = true) (running : label.thread.isSome = true) :
    (s.act (.goes label)).isSome = true := by
  obtain ⟨after, acted⟩ := Option.isSome_iff_exists.mp goes
  have produced := Broadcast.act_production acted
  obtain ⟨m, went⟩ : ∃ m, moveQueue s.frameQueue label = some m := by
    rw [← Option.isSome_iff_exists]
    cases label with
    | produce frame =>
      obtain ⟨left, q, busy, stored, _⟩ := Production.act_produce produced
      refine proceed_produce_isSome ?_
      rintro ⟨wait, asleep⟩
      have reason := awake none wait asleep
      cases wait with
      | produce item next =>
        obtain ⟨_, rfl⟩ := threaded.calls none _ (.inr asleep)
        exact (produce_cases stored).1 (produceWaits_iff.mpr ⟨reason.2.2, reason.1⟩)
      | consume sessionId => exact absurd (threaded.calls none _ (.inr asleep)).symm (Option.some_ne_none sessionId)
    | getNextFrame sessionId frame =>
      obtain ⟨p, q, here, consumed, _⟩ := Production.act_consume produced
      refine proceed_consume_isSome ?_
      rintro ⟨wait, asleep⟩
      have reason := awake _ wait asleep
      cases wait with
      | produce => exact absurd (threaded.calls _ _ (.inr asleep)).1 (Option.some_ne_none sessionId)
      | consume other =>
        obtain rfl : sessionId = other := Option.some.inj (threaded.calls _ _ (.inr asleep))
        have waits : s.frameQueue.data.consumeWaits sessionId = true :=
          consumeWaits_iff.mpr ⟨reason.2.position, reason.1⟩
        have touched : s.frameQueue.data.touch sessionId = s.frameQueue.data := here.touch
        have none : s.frameQueue.data.consume sessionId = none := by
          rw [consume, touched]
          exact if_pos waits
        exact absurd (consumed.symm.trans none) (Option.some_ne_none _)
    | setExit | readNextFrame | testActive | sendRtpPacket => rfl
    | addMediaTrack | addMediaTrackThrows | start | pause | unregisterSession => contradiction
  simp [act, acted, went]

theorem steps_append (trace more : List Label) : steps (trace ++ more) = steps trace ++ steps more :=
  List.filterMap_append

def awake (crew : Finset Broadcast.Thread) (s : LiveTrack mediaType) : Finset Broadcast.Thread :=
  crew.filter fun thread => ¬ s.frameQueue.Sleeps thread.key

theorem awake_falls {crew : Finset Broadcast.Thread} {thread : Broadcast.Thread}
    {wait : Wait SessionId Frame mediaType.queueCapacity} (member : thread ∈ crew)
    (free : ¬ s.frameQueue.Sleeps thread.key) :
    (awake crew { s with frameQueue := s.frameQueue.put thread.key (.asleep wait) }).card <
      (awake crew s).card := by
  have asleep : (s.frameQueue.put thread.key (.asleep wait)).Sleeps thread.key :=
    ⟨wait, Function.update_self ..⟩
  refine Finset.card_lt_card (Finset.ssubset_iff_of_subset ?_ |>.mpr ⟨thread, ?_, ?_⟩)
  · intro other still
    obtain ⟨crew, free⟩ := Finset.mem_filter.mp still
    refine Finset.mem_filter.mpr ⟨crew, fun sleeps => free ?_⟩
    by_cases same : other = thread
    · rw [same]
      exact asleep
    · exact (Monitor.sleeps_put_ne fun key => same (Broadcast.Thread.key_injective key)).mpr sleeps
  · exact Finset.mem_filter.mpr ⟨member, free⟩
  · exact fun still => (Finset.mem_filter.mp still).2 asleep

/-- While only the threads step, their steps are a run of the threads of the broadcast,
and each thread falls asleep at most once between two of these. -/
theorem moves_of_run (run : Run (Takes Broadcast.act) (.start file) trace' s.broadcast) (threaded : s.Threaded)
    (moves : Run Moving s more s') : Run Broadcast.Moving s.broadcast (steps more) s'.broadcast ∧ s'.Threaded ∧
      more.length + (awake s.broadcast.crew s').card ≤
        (steps more).length + s.broadcast.crew.card * ((steps more).length + 1) := by
  refine moves.history (P := fun more s' =>
    Run Broadcast.Moving s.broadcast (steps more) s'.broadcast ∧ s'.Threaded ∧
      more.length + (awake s.broadcast.crew s').card ≤
        (steps more).length + s.broadcast.crew.card * ((steps more).length + 1))
    ⟨.start, threaded, ?_⟩ ?_
  · have most : (awake s.broadcast.crew s).card ≤ s.broadcast.crew.card := Finset.card_filter_le ..
    simpa [steps] using most
  rintro more s' label next ⟨before, threaded, bound⟩ ⟨own, taken⟩
  rw [steps_append, List.length_append]
  cases label with
  | goes label =>
    obtain ⟨acted, after⟩ := goes_threaded threaded taken
    refine ⟨.snoc before ⟨own, acted⟩, after, ?_⟩
    have most : (awake s.broadcast.crew next).card ≤ s.broadcast.crew.card := Finset.card_filter_le ..
    have one : steps [.goes label] = [label] := rfl
    rw [one, List.length_append, List.length_singleton, List.length_singleton, Nat.mul_succ]
    omega
  | waits thread =>
    have manned := Broadcast.manned_of_run (Broadcast.steps_of_run run before .producer).1
    obtain ⟨wait, falls, free, rfl⟩ := waits_cases threaded manned.viewers taken
    have member : thread ∈ s.broadcast.crew := by
      cases falls with
      | producer => exact Finset.mem_insert_self ..
      | @sender sessionId viewer here =>
        refine Broadcast.sender_mem_crew (Broadcast.manned_of_run run) ?_
        refine (Broadcast.viewers_of_run before sessionId).mp ?_
        exact Option.isSome_iff_exists.mpr ⟨viewer, here⟩
    have less := @awake_falls _ s' _ _ wait member free
    have none : steps [.waits thread] = [] := rfl
    rw [none, List.append_nil, List.length_singleton]
    exact ⟨before, falls.threaded threaded, by omega⟩

end Progress

theorem retained_of_quiet (sessionId : SessionId) (run : Run (Takes act) (start file) trace s)
    (quiet : ∀ label ∈ trace, ∀ other, label ≠ .goes (.addMediaTrackThrows other)) :
    Run (Retained mediaType sessionId) (start file) trace s := by
  refine (run.guard quiet).weaken ?_
  rintro s label s' ⟨quiet, taken⟩
  refine ⟨?_, taken⟩
  cases label with
  | waits => trivial
  | goes label =>
    cases label with
    | addMediaTrackThrows other => exact absurd rfl (quiet other)
    | _ => trivial

/-- A viewer of a file of one block, and what the threads do up to the end: the sender
waits for the block, and again for the end of the file. -/
def oneViewer : List Label :=
  [.goes (.addMediaTrack ['x'] ⟨10, 0, 0, 7⟩ 5000 1 ⟨0, ⟨0, 0, 0, 0⟩⟩), .goes (.start ['x'])]

def oneBlock : List Label := [.goes .readNextFrame, .goes (.testActive ['x']), .waits (.sender ['x']),
  .goes (.produce [0x21, 0x10]), .goes (.getNextFrame ['x'] (some [0x21, 0x10])), .goes .readNextFrame,
  .goes (.sendRtpPacket ['x']), .goes (.testActive ['x']), .waits (.sender ['x']), .goes .setExit,
  .goes (.getNextFrame ['x'] none)]

end LiveTrack
end TinyRtsp
