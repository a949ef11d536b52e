import Mathlib.Algebra.Order.BigOperators.Group.Finset
import TinyRtsp.Media.Streaming

/-! Whether a broadcast goes on and comes to an end: while its viewers play, each of its
threads takes a bounded number of steps, and until all are done one of them can step. -/
namespace TinyRtsp
open Transition CircularQueue RtpRtcpHandler

def Producer.work : Producer → Nat
  | .reading file => 2 * file.length + 2
  | .producing _ file => 2 * file.length + 3
  | .ending => 1
  | .ended => 0

def SenderLoop.work : SenderLoop → Nat
  | .idle | .finished => 0
  | .fetching => 1
  | .looping => 2
  | .sending _ => 3

namespace Production
variable {mediaType : MediaType} {s s' : Production mediaType} {sessionId : SessionId} {label : Label}

/-- The frames that a session can still receive: those that wait for it and those that
are not in the queue yet. -/
def ahead (s : Production mediaType) (sessionId : SessionId) : Nat :=
  Ring.distance (s.frameQueue.position sessionId) s.frameQueue.writePosition + s.producer.left.length

theorem position_of_registered {q q' : CircularQueue SessionId Frame mediaType.queueCapacity}
    (same : ∀ p, q'.Registered sessionId p ↔ q.Registered sessionId p) (member : sessionId ∈ q.consumerPositions) :
    q'.position sessionId = q.position sessionId := by
  obtain ⟨p, here⟩ := registered_iff_mem.mp member
  rw [here.position, ((same p).mpr here).position]

/-- A step makes no more frames receivable for a session that was registered and does
not register anew, and takes one from a session that receives it. -/
theorem ahead_act (exits : s.frameQueue.exit = true ↔ s.producer = .ended) (taken : s.act label = some s')
    (member : sessionId ∈ s.frameQueue.consumerPositions) (stays : label ≠ .registerConsumer sessionId)
    (still : label ≠ .unregisterConsumer sessionId) :
    s'.ahead sessionId ≤ s.ahead sessionId ∧
      ∀ frame, label = .consume sessionId (some frame) → s'.ahead sessionId < s.ahead sessionId := by
  unfold ahead
  cases label with
  | readNextFrame =>
    simp only [act] at taken
    split at taken
    · rename_i busy
      obtain rfl := Option.some.inj taken
      exact ⟨by simp [busy, Producer.left], fun _ => Label.noConfusion⟩
    · rename_i busy
      obtain rfl := Option.some.inj taken
      exact ⟨by simp [busy, Producer.left], fun _ => Label.noConfusion⟩
    · contradiction
  | produce frame =>
    obtain ⟨file, frameQueue, busy, produced, rfl⟩ := act_produce taken
    obtain ⟨waits, rfl⟩ := produce_cases produced
    obtain ⟨p, here⟩ := registered_iff_mem.mp member
    have running : s.frameQueue.exit = false := by
      rw [← Bool.not_eq_true, exits, busy]
      exact Producer.noConfusion
    have free : p ≠ Ring.succ s.frameQueue.writePosition := by
      rintro rfl
      exact waits (produceWaits_iff.mpr ⟨⟨sessionId, here⟩, running⟩)
    have stored : (s.frameQueue.store (some frame) s.frameQueue.nextPosition).Registered sessionId p :=
      registered_store.mpr here
    refine ⟨?_, fun _ => Label.noConfusion⟩
    dsimp only
    rw [stored.position, here.position, busy]
    have longer := Ring.distance_succ free
    simp only [store, nextPosition, longer, Producer.left, List.length_cons]
    omega
  | setExit =>
    simp only [act] at taken
    split at taken
    · rename_i busy
      obtain rfl := Option.some.inj taken
      refine ⟨?_, fun _ => Label.noConfusion⟩
      rw [busy]
      exact Nat.le_refl _
    · contradiction
  | registerConsumer other =>
    obtain rfl := Option.some.inj taken
    have apart : sessionId ≠ other := fun same => stays (by rw [same])
    refine ⟨?_, fun _ => Label.noConfusion⟩
    rw [position_of_registered (fun p => registered_registerConsumer.trans (by rw [if_neg apart])) member]
    exact Nat.le_refl _
  | unregisterConsumer other =>
    obtain rfl := Option.some.inj taken
    have apart : sessionId ≠ other := fun same => still (by rw [same])
    refine ⟨?_, fun _ => Label.noConfusion⟩
    rw [position_of_registered (fun p => registered_unregisterConsumer.trans (and_iff_right apart)) member]
    exact Nat.le_refl _
  | consume other frame =>
    obtain ⟨p, frameQueue, here, consumed, rfl⟩ := act_consume taken
    dsimp only
    rcases consume_cases consumed with ⟨exited, rfl, rfl⟩ | ⟨running, waiting, _, _, write, _, registered⟩
    · rw [here.touch]
      exact ⟨Nat.le_refl _, fun frame same => by simp at same⟩
    · rw [write]
      by_cases same : sessionId = other
      · subst other
        have moved : frameQueue.position sessionId = Ring.succ (s.frameQueue.position sessionId) :=
          ((registered sessionId _).mpr (by rw [if_pos rfl])).position
        have shorter := Ring.distance_succ_left waiting
        rw [moved]
        exact ⟨by omega, fun _ _ => by omega⟩
      · rw [position_of_registered (fun p => (registered sessionId p).trans (by rw [if_neg same])) member]
        refine ⟨Nat.le_refl _, fun frame' asked => ?_⟩
        exact absurd (Label.consume.inj asked).1.symm same

theorem mem_act (taken : s.act label = some s') : sessionId ∈ s'.frameQueue.consumerPositions ↔
    label ≠ .unregisterConsumer sessionId ∧
      (label = .registerConsumer sessionId ∨ sessionId ∈ s.frameQueue.consumerPositions) := by
  cases label with
  | readNextFrame =>
    obtain ⟨producer, _, _, rfl⟩ := act_readNextFrame taken
    simp
  | produce frame =>
    obtain ⟨file, frameQueue, _, produced, rfl⟩ := act_produce taken
    obtain ⟨_, rfl⟩ := produce_cases produced
    simp [store]
  | setExit =>
    obtain rfl := act_setExit taken
    simp [setExit]
  | registerConsumer other =>
    obtain rfl := Option.some.inj taken
    simp only [registerConsumer, AList.mem_insert, ne_eq, reduceCtorEq, not_false_eq_true, true_and,
      Label.registerConsumer.injEq]
    rw [eq_comm]
  | unregisterConsumer other =>
    obtain rfl := Option.some.inj taken
    simp only [unregisterConsumer, AList.mem_erase, ne_eq, reduceCtorEq, false_or,
      Label.unregisterConsumer.injEq]
    rw [eq_comm]
  | consume other frame =>
    obtain ⟨p, frameQueue, here, consumed, rfl⟩ := act_consume taken
    simp [mem_consume here.mem consumed]

theorem ahead_registered (taken : s.act (.registerConsumer sessionId) = some s') :
    s'.ahead sessionId = s'.producer.left.length := by
  obtain rfl := Option.some.inj taken
  have here : (s.frameQueue.registerConsumer sessionId).Registered sessionId s.frameQueue.writePosition :=
    registered_registerConsumer.mpr (by rw [if_pos rfl])
  unfold ahead
  dsimp only
  rw [here.position]
  exact (congrArg (· + _) (Ring.distance_self _)).trans (Nat.zero_add _)

theorem work_act (taken : s.act label = some s') (own : ∀ viewer, ¬ label.concerns viewer) :
    s'.producer.work < s.producer.work := by
  cases label with
  | readNextFrame =>
    simp only [act] at taken
    split at taken
    · rename_i busy
      obtain rfl := Option.some.inj taken
      simp [busy, Producer.work]
    · rename_i busy
      obtain rfl := Option.some.inj taken
      simp only [busy, Producer.work, List.length_cons]
      omega
    · contradiction
  | produce frame =>
    obtain ⟨file, frameQueue, busy, _, rfl⟩ := act_produce taken
    simp [busy, Producer.work]
  | setExit =>
    simp only [act] at taken
    split at taken
    · rename_i busy
      obtain rfl := Option.some.inj taken
      simp [busy, Producer.work]
    · contradiction
  | registerConsumer other | unregisterConsumer other | consume other frame => exact absurd rfl (own other)

end Production

namespace Broadcast
variable {mediaType : MediaType}

inductive Thread where
  | producer
  | sender (sessionId : SessionId)
  deriving DecidableEq

def Label.thread : Label → Option Thread
  | .readNextFrame | .produce _ | .setExit => some .producer
  | .testActive sessionId | .getNextFrame sessionId _ | .sendRtpPacket sessionId =>
    some (.sender sessionId)
  | _ => none

/-- What a thread has to do yet: a sender takes three steps for each frame. -/
def work (s : Broadcast mediaType) : Thread → Nat
  | .producer => s.production.producer.work
  | .sender sessionId =>
    (s.viewers sessionId).elim 0 fun viewer => 3 * s.production.ahead sessionId + viewer.sender.work

/-- The viewers are consumers of the queue, and no consumer has more before it than the
file has frames. -/
structure Manned (n : Nat) (s : Broadcast mediaType) : Prop where
  exits : s.production.frameQueue.exit = true ↔ s.production.producer = .ended
  viewers : ∀ sessionId, (s.viewers sessionId).isSome → sessionId ∈ s.production.frameQueue.consumerPositions
  left : s.production.producer.left.length ≤ n
  ahead : ∀ sessionId ∈ s.production.frameQueue.consumerPositions, s.production.ahead sessionId ≤ n

/-- What a step does to the viewers and the queue. -/
inductive Effect (s : Broadcast mediaType) : Label → Broadcast mediaType → Prop
  | produces {production : Production mediaType} (step : Production.Label) :
      label.thread = some .producer → label.production = some step → (∀ viewer, ¬ step.concerns viewer) →
      s.production.act step = some production → Effect s label { s with production }
  | adds {production : Production mediaType} (viewer : Viewer) : viewer.sender = .idle →
      (∀ before, s.viewers sessionId = some before → before.sender = .idle) →
      s.production.act (.registerConsumer sessionId) = some production →
      Effect s (.addMediaTrack sessionId client rtpPort ssrc clientAddress)
        (setViewer { s with production } sessionId viewer)
  | throws {production : Production mediaType} : s.production.act (.registerConsumer sessionId) = some production →
      Effect s (.addMediaTrackThrows sessionId) { s with production }
  | calls (viewer after : Viewer) : label.thread = none → label.production = none →
      s.viewers sessionId = some viewer → viewer.sender = .idle ∨ after.sender = viewer.sender →
      Effect s label (s.setViewer sessionId after)
  | stays : label.thread = none → label.production = none → Effect s label s
  | tests (viewer : Viewer) : s.viewers sessionId = some viewer → viewer.sender = .looping →
      Effect s (.testActive sessionId) (s.setViewer sessionId
        { viewer with sender := if viewer.isActive then .fetching else .finished })
  | fetches {production : Production mediaType} (viewer : Viewer) (frame : Frame) :
      s.viewers sessionId = some viewer → viewer.sender = .fetching →
      s.production.act (.consume sessionId frame) = some production →
      Effect s (.getNextFrame sessionId frame) (setViewer { s with production } sessionId
        { viewer with sender := match frame with
          | some frame => .sending frame
          | none => .finished })
  | sends (viewer : Viewer) (frame : List UInt8) (stream : Stream) : s.viewers sessionId = some viewer →
      viewer.sender = .sending frame → (sendRtpPacket frame mediaType).run viewer.stream = .ok () stream →
      Effect s (.sendRtpPacket sessionId) (s.setViewer sessionId { viewer with stream, sender := .looping })
  | leaves {production : Production mediaType} (viewer : Viewer) : s.viewers sessionId = some viewer →
      viewer.sender = .idle ∨ viewer.sender = .finished →
      s.production.act (.unregisterConsumer sessionId) = some production →
      Effect s (.unregisterSession sessionId) ⟨production, Function.update s.viewers sessionId none⟩

variable {file : List (List UInt8)} {trace more : List Label} {s s' : Broadcast mediaType} {label : Label}

theorem act_effect (taken : s.act label = some s') : s.Effect label s' := by
  cases label with
  | readNextFrame | produce frame | setExit =>
    obtain ⟨production, acted, rfl⟩ := Option.map_eq_some_iff.mp taken
    exact .produces _ rfl rfl (fun _ => id) acted
  | addMediaTrack sessionId client rtpPort ssrc clientAddress =>
    obtain ⟨idle, taken⟩ := Option.ite_none_right_eq_some.mp taken
    obtain ⟨production, acted, rfl⟩ := Option.map_eq_some_iff.mp taken
    refine .adds _ rfl (fun before here => ?_) acted
    rw [here] at idle
    exact of_decide_eq_true idle
  | addMediaTrackThrows sessionId =>
    obtain rfl := Option.some.inj taken
    exact .throws rfl
  | start sessionId =>
    obtain ⟨viewer, here, taken⟩ := Option.bind_eq_some_iff.mp taken
    split at taken
    · obtain rfl := Option.some.inj taken
      exact .stays rfl rfl
    · obtain ⟨idle, same⟩ := Option.ite_none_right_eq_some.mp taken
      obtain rfl := Option.some.inj same
      exact .calls viewer _ rfl rfl here (.inl idle)
  | pause sessionId =>
    obtain ⟨viewer, here, taken⟩ := Option.bind_eq_some_iff.mp taken
    obtain rfl := Option.some.inj taken
    exact .calls viewer _ rfl rfl here (.inr rfl)
  | testActive sessionId =>
    obtain ⟨viewer, here, taken⟩ := Option.bind_eq_some_iff.mp taken
    obtain ⟨looping, same⟩ := Option.ite_none_right_eq_some.mp taken
    obtain rfl := Option.some.inj same
    exact .tests viewer here looping
  | getNextFrame sessionId frame =>
    obtain ⟨viewer, here, taken⟩ := Option.bind_eq_some_iff.mp taken
    obtain ⟨fetching, taken⟩ := Option.ite_none_right_eq_some.mp taken
    obtain ⟨production, acted, rfl⟩ := Option.map_eq_some_iff.mp taken
    exact .fetches viewer frame here fetching acted
  | sendRtpPacket sessionId =>
    obtain ⟨viewer, here, taken⟩ := Option.bind_eq_some_iff.mp taken
    split at taken
    · rename_i frame sending
      split at taken
      · rename_i stream sent
        obtain rfl := Option.some.inj taken
        exact .sends viewer frame stream here sending sent
      · contradiction
    · contradiction
  | unregisterSession sessionId =>
    obtain ⟨viewer, here, taken⟩ := Option.bind_eq_some_iff.mp taken
    obtain ⟨ended, taken⟩ := Option.ite_none_right_eq_some.mp taken
    obtain ⟨production, acted, rfl⟩ := Option.map_eq_some_iff.mp taken
    exact .leaves viewer here ended.1 acted

theorem viewers_setViewer (s : Broadcast mediaType) (sessionId other : SessionId) (viewer : Viewer) :
    (s.setViewer sessionId viewer).viewers other =
      if other = sessionId then some viewer else s.viewers other :=
  Function.update_apply ..

theorem isSome_viewers (taken : s.act label = some s') {sessionId : SessionId}
    (there : (s'.viewers sessionId).isSome) : label.production ≠ some (.unregisterConsumer sessionId) ∧
      (label.production = some (.registerConsumer sessionId) ∨ (s.viewers sessionId).isSome) := by
  cases act_effect taken with
  | produces step _ produces apart =>
    rw [produces]
    exact ⟨fun same => apart sessionId (Option.some.inj same ▸ rfl), .inr there⟩
  | adds viewer =>
    rw [viewers_setViewer] at there
    split at there
    · subst sessionId
      simp [Label.production]
    · simp [Label.production, there]
  | throws => exact ⟨by simp [Label.production], .inr there⟩
  | calls viewer after _ quiet here =>
    rw [viewers_setViewer] at there
    rw [quiet]
    split at there
    · subst sessionId
      simp [here]
    · simp [there]
  | stays _ quiet => simp [quiet, there]
  | tests viewer here | fetches viewer _ here | sends viewer _ _ here =>
    rw [viewers_setViewer] at there
    split at there
    · subst sessionId
      simp [here, Label.production]
    · simp [Label.production, there]
  | @leaves other production viewer =>
    by_cases same : sessionId = other
    · subst other
      simp at there
    · simp only [Function.update_of_ne same] at there
      simp [Label.production, there, Ne.symm same]

theorem isSome_viewers_running (taken : s.act label = some s') (running : label.thread.isSome = true)
    (sessionId : SessionId) : (s'.viewers sessionId).isSome ↔ (s.viewers sessionId).isSome := by
  cases act_effect taken with
  | produces => exact Iff.rfl
  | adds | throws | leaves => simp [Label.thread] at running
  | calls _ _ quiet | stays quiet => simp [quiet] at running
  | tests viewer here | fetches viewer _ here | sends viewer _ _ here =>
    rw [viewers_setViewer]
    split
    · subst sessionId
      simp [here]
    · exact Iff.rfl

theorem manned_of_run (run : Run (Takes act) (start file : Broadcast mediaType) trace s) :
    s.Manned file.length := by
  have produces {trace} {s : Broadcast mediaType} (run : Run (Takes act) (start file) trace s) :=
    production_of_run run
  have exits {trace} {s : Broadcast mediaType} (run : Run (Takes act) (start file) trace s) :=
    (Production.queue_run (produces run)).2
  have left {trace} {s : Broadcast mediaType} (run : Run (Takes act) (start file) trace s) :
      s.production.producer.left.length ≤ file.length := by
    have whole := congrArg List.length (Production.frames_of_run (produces run))
    rw [List.length_append] at whole
    exact whole ▸ Nat.le_add_left ..
  induction run with
  | start => exact ⟨exits .start, fun _ => nofun, left .start, fun _ => by rintro ⟨⟩⟩
  | @snoc trace s label s' run taken manned =>
    have next : Run (Takes act) (start file) (trace ++ [label]) s' := .snoc run taken
    have produced := act_production taken
    refine ⟨exits next, fun sessionId there => ?_, left next, fun sessionId member => ?_⟩
    · obtain ⟨still, joined⟩ := isSome_viewers taken there
      have before := joined.imp_right (manned.viewers sessionId)
      cases step : label.production with
      | none =>
        rw [step] at produced before
        rw [show s'.production = s.production from produced]
        exact before.resolve_left nofun
      | some step' =>
        rw [step] at produced before still
        exact (Production.mem_act produced).mpr
          ⟨fun same => still (congrArg some same), before.imp_left Option.some.inj⟩
    · cases step : label.production with
      | none =>
        rw [step] at produced
        rw [show s'.production = s.production from produced] at member ⊢
        exact manned.ahead sessionId member
      | some step' =>
        rw [step] at produced
        obtain ⟨still, either⟩ := (Production.mem_act produced).mp member
        by_cases joins : step' = .registerConsumer sessionId
        · subst step'
          rw [Production.ahead_registered produced]
          exact left next
        · have before := either.resolve_left joins
          exact (Production.ahead_act manned.exits produced before joins still).1.trans
            (manned.ahead sessionId before)

theorem work_sender {sessionId : SessionId} {viewer : Viewer} (here : s.viewers sessionId = some viewer) :
    s.work (.sender sessionId) = 3 * s.production.ahead sessionId + viewer.sender.work := by
  rw [work, here, Option.elim_some]

/-- A step that makes no more frames receivable adds nothing to a sender it leaves. -/
theorem work_sender_le {sessionId : SessionId} (same : s'.viewers sessionId = s.viewers sessionId)
    (fewer : (s.viewers sessionId).isSome → s'.production.ahead sessionId ≤ s.production.ahead sessionId) :
    s'.work (.sender sessionId) ≤ s.work (.sender sessionId) := by
  rw [work, work, same]
  cases here : s.viewers sessionId with
  | none => exact Nat.le_refl _
  | some viewer =>
    have less := fewer (by rw [here]; rfl)
    simp only [Option.elim_some]
    omega

theorem work_setViewer {base : Broadcast mediaType} {sessionId : SessionId} {viewer after : Viewer}
    (here : s.viewers sessionId = some viewer) (same : base.viewers = s.viewers)
    (producer : base.production.producer = s.production.producer)
    (fewer : ∀ other, (s.viewers other).isSome → base.production.ahead other ≤ s.production.ahead other)
    (less : 3 * base.production.ahead sessionId + after.sender.work <
      3 * s.production.ahead sessionId + viewer.sender.work) :
    (base.setViewer sessionId after).work (.sender sessionId) < s.work (.sender sessionId) ∧
      ∀ other, (base.setViewer sessionId after).work other ≤ s.work other := by
  have viewers := viewers_setViewer base sessionId
  have moved : (base.setViewer sessionId after).work (.sender sessionId) < s.work (.sender sessionId) := by
    rw [work_sender ((viewers sessionId after).trans (if_pos rfl)), work_sender here]
    exact less
  refine ⟨moved, fun other => ?_⟩
  cases other with
  | producer => exact (congrArg Producer.work producer).le
  | sender other =>
    by_cases own : other = sessionId
    · subst other
      exact Nat.le_of_lt moved
    · exact work_sender_le (by rw [viewers, if_neg own, same]) (fewer other)

theorem work_act {n : Nat} {thread : Thread} (manned : s.Manned n) (taken : s.act label = some s')
    (own : label.thread = some thread) :
    s'.work thread < s.work thread ∧ ∀ other, s'.work other ≤ s.work other := by
  have member {sessionId} (here : (s.viewers sessionId).isSome) := manned.viewers sessionId here
  cases act_effect taken with
  | produces step running _ apart acted =>
    obtain rfl : Thread.producer = thread := Option.some.inj (running.symm.trans own)
    have less := Production.work_act acted apart
    refine ⟨less, fun other => ?_⟩
    cases other with
    | producer => exact Nat.le_of_lt less
    | sender sessionId =>
      refine work_sender_le rfl fun here => (Production.ahead_act manned.exits acted (member here) ?_ ?_).1
      · rintro rfl
        exact apart sessionId rfl
      · rintro rfl
        exact apart sessionId rfl
  | adds | throws | leaves => contradiction
  | calls _ _ quiet | stays quiet =>
    rw [quiet] at own
    contradiction
  | @tests sessionId viewer here looping =>
    obtain rfl : Thread.sender sessionId = thread := Option.some.inj own
    refine work_setViewer here rfl rfl (fun _ _ => Nat.le_refl _) ?_
    rw [looping]
    refine Nat.add_lt_add_left ?_ _
    dsimp only
    split
    · decide
    · decide
  | @fetches sessionId production viewer frame here fetching acted =>
    obtain rfl : Thread.sender sessionId = thread := Option.some.inj own
    have producer : production.producer = s.production.producer := by
      obtain ⟨_, _, _, _, rfl⟩ := Production.act_consume acted
      rfl
    have fewer {other} (here : (s.viewers other).isSome) :=
      Production.ahead_act manned.exits acted (member here) Production.Label.noConfusion
        Production.Label.noConfusion
    refine work_setViewer here rfl producer (fun other here => (fewer here).1) ?_
    have both := @fewer sessionId (by rw [here]; rfl)
    rw [fetching]
    cases frame with
    | none =>
      have most := both.1
      simp only [SenderLoop.work]
      omega
    | some frame =>
      have less := both.2 frame rfl
      simp only [SenderLoop.work]
      omega
  | @sends sessionId viewer frame stream here sending sent =>
    obtain rfl : Thread.sender sessionId = thread := Option.some.inj own
    refine work_setViewer here rfl rfl (fun _ _ => Nat.le_refl _) ?_
    rw [sending]
    exact Nat.add_lt_add_left (Nat.lt_succ_self 2) _

abbrev Moving : Broadcast mediaType → Label → Broadcast mediaType → Prop :=
  Guarded (fun _ label => label.thread.isSome = true) (Takes act)

/-- The threads of the trace, one for each of its steps. -/
def threads (trace : List Label) : List Thread := trace.filterMap Label.thread

/-- Every registered session is a viewer that plays, and its sender runs until the
producer has ended. -/
structure Attended (s : Broadcast mediaType) : Prop where
  viewed : ∀ sessionId ∈ s.production.frameQueue.consumerPositions, (s.viewers sessionId).isSome
  plays : ∀ sessionId viewer, s.viewers sessionId = some viewer → viewer.isActive = true ∧
    viewer.sender ≠ .idle ∧ (viewer.sender = .finished → s.production.producer = .ended)

/-- While only the threads step, each takes at most the steps it had to take. -/
theorem steps_of_run (run : Run (Takes act) (start file : Broadcast mediaType) trace s)
    (moves : Run Moving s more s') (thread : Thread) :
    Run (Takes act) (start file) (trace ++ more) s' ∧
      (threads more).count thread + s'.work thread ≤ s.work thread := by
  refine moves.history (P := fun more s' => Run (Takes act) (start file) (trace ++ more) s' ∧
    (threads more).count thread + s'.work thread ≤ s.work thread) ⟨by rwa [List.append_nil], by simp [threads]⟩ ?_
  rintro more s' label next ⟨run, bound⟩ ⟨running, taken⟩
  obtain ⟨own, here⟩ := Option.isSome_iff_exists.mp running
  have step := work_act (manned_of_run run) taken here
  refine ⟨by rw [← List.append_assoc]; exact .snoc run taken, ?_⟩
  rw [threads] at bound
  rw [threads, List.filterMap_append, List.filterMap_cons_some here, List.filterMap_nil, List.count_append,
    List.count_singleton]
  by_cases same : own = thread
  · subst own
    have less := step.1
    simp only [beq_self_eq_true, if_true]
    omega
  · have most := step.2 thread
    simp only [beq_eq_false_iff_ne.mpr same, Bool.false_eq_true, if_false]
    omega

theorem viewed_act (attended : s.Attended) (taken : s.act label = some s') (running : label.thread.isSome = true)
    (sessionId : SessionId) (member : sessionId ∈ s'.production.frameQueue.consumerPositions) :
    (s'.viewers sessionId).isSome := by
  rw [isSome_viewers_running taken running]
  apply attended.viewed
  have produced := act_production taken
  cases step : label.production with
  | none =>
    rw [step] at produced
    rwa [show s'.production = s.production from produced] at member
  | some step' =>
    rw [step] at produced
    refine ((Production.mem_act produced).mp member).2.resolve_left ?_
    rintro rfl
    cases label with
    | addMediaTrack | addMediaTrackThrows => simp [Label.thread] at running
    | _ => simp [Label.production] at step

theorem plays_setViewer {base : Broadcast mediaType} {sessionId : SessionId} {after : Viewer}
    (attended : s.Attended) (same : base.viewers = s.viewers)
    (producer : base.production.producer = s.production.producer) (active : after.isActive = true)
    (running : after.sender ≠ .idle)
    (ends : after.sender = .finished → base.production.producer = .ended) (other : SessionId) (viewer : Viewer)
    (here : (base.setViewer sessionId after).viewers other = some viewer) : viewer.isActive = true ∧
      viewer.sender ≠ .idle ∧ (viewer.sender = .finished → base.production.producer = .ended) := by
  rw [viewers_setViewer, same] at here
  split at here
  · obtain rfl := Option.some.inj here
    exact ⟨active, running, ends⟩
  · obtain ⟨active, running, ends⟩ := attended.plays other viewer here
    exact ⟨active, running, fun finished => producer.trans (ends finished)⟩

theorem attended_act (run : Run (Takes act) (start file : Broadcast mediaType) trace s)
    (attended : s.Attended) (taken : s.act label = some s') (running : label.thread.isSome = true) :
    s'.Attended := by
  refine ⟨viewed_act attended taken running, ?_⟩
  cases act_effect taken with
  | produces step _ _ apart acted =>
    intro sessionId viewer here
    obtain ⟨active, busy, ends⟩ := attended.plays sessionId viewer here
    refine ⟨active, busy, fun finished => ?_⟩
    have less := Production.work_act acted apart
    rw [ends finished] at less
    exact absurd less (Nat.not_lt_zero _)
  | adds | throws | leaves => simp [Label.thread] at running
  | calls _ _ quiet | stays quiet => simp [quiet] at running
  | @tests sessionId viewer here looping =>
    obtain ⟨active, _, _⟩ := attended.plays sessionId viewer here
    refine plays_setViewer attended rfl rfl active ?_ ?_
    · rw [if_pos active]
      exact SenderLoop.noConfusion
    · rw [if_pos active]
      exact SenderLoop.noConfusion
  | @fetches sessionId production viewer frame here fetching acted =>
    obtain ⟨p, frameQueue, registered, consumed, rfl⟩ := Production.act_consume acted
    obtain ⟨active, _, _⟩ := attended.plays sessionId viewer here
    refine plays_setViewer attended rfl rfl active ?_ ?_
    · cases frame with
      | none => exact SenderLoop.noConfusion
      | some frame => exact SenderLoop.noConfusion
    · cases frame with
      | none =>
        obtain ⟨queue, exits⟩ := Production.queue_run (production_of_run run)
        intro _
        cases exited : s.production.frameQueue.exit with
        | true => exact exits.mp exited
        | false => exact absurd rfl (Production.frame_of_consume queue registered exited consumed)
      | some frame => exact SenderLoop.noConfusion
  | @sends sessionId viewer frame stream here sending sent =>
    obtain ⟨active, _, _⟩ := attended.plays sessionId viewer here
    exact plays_setViewer attended rfl rfl active SenderLoop.noConfusion SenderLoop.noConfusion

def Sendable (mediaType : MediaType) (frame : List UInt8) : Prop :=
  ∀ stream : Stream, (Ipv4.inetPton stream.handler.ip).isSome → ∃ after,
    (sendRtpPacket frame mediaType).run stream = .ok () after ∧ after.handler.ip = stream.handler.ip

theorem sendAll_ip {frames : List (List UInt8)} {stream after : Stream} {groups : List (List Datagram)}
    (sendable : ∀ frame ∈ frames, Sendable mediaType frame) (known : (Ipv4.inetPton stream.handler.ip).isSome)
    (ran : (sendAll (frames.map fun frame => ⟨frame, mediaType⟩)).run stream = .ok groups after) :
    after.handler.ip = stream.handler.ip := by
  induction frames generalizing stream groups with
  | nil =>
    obtain ⟨_, rfl⟩ := EStateM.Result.ok.inj ran
    rfl
  | cons frame rest ih =>
    obtain ⟨here, sendable⟩ := List.forall_mem_cons.mp sendable
    obtain ⟨middle, sends, ip⟩ := here stream known
    simp only [List.map_cons, sendAll, EStateM.run_bind, EStateM.run_get, sends] at ran
    cases later : (sendAll (rest.map fun frame => (⟨frame, mediaType⟩ : Call))).run middle with
    | error e left =>
      rw [later] at ran
      contradiction
    | ok others left =>
      rw [later] at ran
      obtain ⟨_, rfl⟩ := EStateM.Result.ok.inj ran
      exact (ih sendable (ip ▸ known) later).trans ip

/-- What a sender holds is a frame of the file, and its handler has a client address. -/
theorem holding_of_run (sendable : ∀ frame ∈ file, Sendable mediaType frame) {sessionId : SessionId}
    (run : Run (Retained mediaType sessionId) (start file) trace s) {viewer : Viewer}
    (here : s.viewers sessionId = some viewer) :
    (∀ frame ∈ viewer.sender.holding, frame ∈ file) ∧ (Ipv4.inetPton viewer.stream.handler.ip).isSome := by
  obtain ⟨client, rtpPort, ssrc, clientAddress, sent, groups, produced, ran, since⟩ := sent_of_run run viewer here
  obtain ⟨joined, window, _, _⟩ :=
    Production.window_of_run (production_of_run (run.weaken And.right)) since
  have frames := List.map_injective_iff.mpr (Option.some_injective _) window
  have inside : ∀ frame ∈ sent ++ viewer.sender.holding, frame ∈ file := by
    rw [frames]
    exact fun frame member => List.mem_of_mem_drop (List.mem_of_mem_take member)
  have known : (Ipv4.inetPton (opened mediaType client rtpPort ssrc clientAddress).handler.ip).isSome := by
    rw [opened_client]
    rfl
  refine ⟨fun frame member => inside frame (List.mem_append_right _ member), ?_⟩
  rw [sendAll_ip (fun frame member => sendable frame (inside frame (List.mem_append_left _ member))) known ran]
  exact known

theorem sender_enabled {n : Nat} (manned : s.Manned n) {sessionId : SessionId} {viewer : Viewer}
    (here : s.viewers sessionId = some viewer) (started : viewer.sender ≠ .idle)
    (goes : viewer.sender ≠ .finished)
    (fed : s.production.frameQueue.position sessionId ≠ s.production.frameQueue.writePosition ∨
      s.production.frameQueue.exit = true)
    (sends : ∀ frame, viewer.sender = .sending frame → ∃ after,
      (sendRtpPacket frame mediaType).run viewer.stream = .ok () after) :
    ∃ label : Label, label.thread.isSome = true ∧ (s.act label).isSome = true := by
  cases busy : viewer.sender with
  | idle => exact absurd busy started
  | finished => exact absurd busy goes
  | looping =>
    refine ⟨.testActive sessionId, rfl, ?_⟩
    simp only [act, here, Option.bind_eq_bind, Option.bind_some, busy, if_true, Option.isSome_some]
  | sending frame =>
    obtain ⟨after, sent⟩ := sends frame busy
    refine ⟨.sendRtpPacket sessionId, rfl, ?_⟩
    simp only [act, here, Option.bind_eq_bind, Option.bind_some, busy, sent, Option.isSome_some]
  | fetching =>
    have member := manned.viewers sessionId (by rw [here]; rfl)
    obtain ⟨p, registered⟩ := Production.registered_iff_mem.mp member
    have goes : ¬ (s.production.frameQueue.touch sessionId).consumeWaits sessionId = true := by
      rw [registered.touch, consumeWaits_iff]
      rintro ⟨waits, running⟩
      rcases fed with apart | exited
      · exact apart waits
      · rw [running] at exited
        contradiction
    refine ⟨.getNextFrame sessionId ((s.production.frameQueue.touch sessionId).take sessionId).1, rfl, ?_⟩
    simp only [act, here, Option.bind_eq_bind, Option.bind_some, busy, if_true, Production.act, member,
      consume, if_neg goes, Option.map_some, Option.isSome_some]

def Done (s : Broadcast mediaType) : Prop :=
  s.production.producer = .ended ∧ ∀ sessionId viewer, s.viewers sessionId = some viewer →
    viewer.sender = .finished

/-- While every session plays one of the threads can step, until all of them are done. -/
theorem thread_enabled (sendable : ∀ frame ∈ file, Sendable mediaType frame)
    (run : ∀ sessionId, Run (Retained mediaType sessionId) (start file) trace s) (attended : s.Attended) :
    (∃ label : Label, label.thread.isSome = true ∧ (s.act label).isSome = true) ∨ s.Done := by
  have manned := manned_of_run ((run []).weaken And.right)
  have sends {sessionId viewer} (here : s.viewers sessionId = some viewer) (frame : List UInt8)
      (busy : viewer.sender = .sending frame) :
      ∃ after, (sendRtpPacket frame mediaType).run viewer.stream = .ok () after := by
    obtain ⟨held, known⟩ := holding_of_run sendable (run sessionId) here
    obtain ⟨after, sent, _⟩ := sendable frame (held frame (by rw [busy]; exact List.mem_singleton_self _)) _ known
    exact ⟨after, sent⟩
  cases busy : s.production.producer with
  | reading left =>
    cases left with
    | nil | cons =>
      refine .inl ⟨.readNextFrame, rfl, ?_⟩
      simp only [act, Production.act, busy, Option.map_some, Option.isSome_some]
  | ending =>
    refine .inl ⟨.setExit, rfl, ?_⟩
    simp only [act, Production.act, busy, Option.map_some, Option.isSome_some]
  | producing frame left =>
    by_cases waits : s.production.frameQueue.produceWaits s.production.frameQueue.nextPosition = true
    · -- the session that the producer waits for has a frame to take
      obtain ⟨⟨sessionId, behind⟩, running⟩ := produceWaits_iff.mp waits
      obtain ⟨viewer, here⟩ := Option.isSome_iff_exists.mp (attended.viewed sessionId behind.mem)
      obtain ⟨_, started, ends⟩ := attended.plays sessionId viewer here
      have large : 2 ≤ mediaType.queueCapacity := by cases mediaType <;> decide
      have fed : s.production.frameQueue.position sessionId ≠ s.production.frameQueue.writePosition := by
        rw [behind.position]
        exact Ring.succ_ne large _
      have goes : viewer.sender ≠ .finished := by
        intro finished
        rw [ends finished] at busy
        contradiction
      exact .inl (sender_enabled manned here started goes (.inl fed) (sends here))
    · refine .inl ⟨.produce frame, rfl, ?_⟩
      simp only [act, Production.act, busy, if_true, produce, if_neg waits, Option.map_some, Option.isSome_some]
  | ended =>
    by_cases done : ∀ sessionId viewer, s.viewers sessionId = some viewer → viewer.sender = .finished
    · exact .inr ⟨busy, done⟩
    · simp only [not_forall] at done
      obtain ⟨sessionId, viewer, here, goes⟩ := done
      obtain ⟨_, started, _⟩ := attended.plays sessionId viewer here
      exact .inl (sender_enabled manned here started goes (.inr (manned.exits.mpr busy)) (sends here))

theorem work_le {n : Nat} (manned : s.Manned n) (thread : Thread) : s.work thread ≤ 3 * n + 3 := by
  cases thread with
  | producer =>
    have left := manned.left
    unfold work
    cases busy : s.production.producer with
    | reading file | producing frame file =>
      simp only [busy, Producer.left, Producer.work, List.length_cons] at left ⊢
      omega
    | ending | ended =>
      simp only [Producer.work]
      omega
  | sender sessionId =>
    cases here : s.viewers sessionId with
    | none =>
      rw [work, here]
      exact Nat.zero_le _
    | some viewer =>
      have ahead := manned.ahead sessionId (manned.viewers sessionId (by rw [here]; rfl))
      have own : viewer.sender.work ≤ 3 := by
        cases viewer.sender <;> simp [SenderLoop.work]
      rw [work_sender here]
      omega

/-- The producer and the senders of the viewers. -/
def crew (s : Broadcast mediaType) : Finset Thread :=
  insert .producer (s.production.frameQueue.consumerPositions.keys.toFinset.image Thread.sender)

theorem sender_mem_crew {n : Nat} (manned : s.Manned n) {sessionId : SessionId}
    (there : (s.viewers sessionId).isSome) : .sender sessionId ∈ s.crew := by
  refine Finset.mem_insert_of_mem (Finset.mem_image_of_mem _ (List.mem_toFinset.mpr ?_))
  exact AList.mem_keys.mp (manned.viewers sessionId there)

/-- Who is there, and whose sender is in the crew, is the same all the time that only
the threads step. -/
theorem viewers_of_run (moves : Run Moving s more s') (sessionId : SessionId) :
    (s'.viewers sessionId).isSome ↔ (s.viewers sessionId).isSome := by
  refine moves.invariant (P := fun s' : Broadcast mediaType =>
    (s'.viewers sessionId).isSome ↔ (s.viewers sessionId).isSome) Iff.rfl ?_
  intro s' label next same step
  exact (isSome_viewers_running step.2 step.1 sessionId).trans same

theorem crew_of_run (run : Run (Takes act) (start file : Broadcast mediaType) trace s)
    (moves : Run Moving s more s') : ∀ thread ∈ threads more, thread ∈ s.crew := by
  refine (moves.history (P := fun more s' => Run Moving s more s' ∧ ∀ thread ∈ threads more, thread ∈ s.crew)
    ⟨.start, fun _ => nofun⟩ ?_).2
  rintro more s' label next ⟨before, old⟩ ⟨running, taken⟩
  refine ⟨.snoc before ⟨running, taken⟩, fun thread member => ?_⟩
  rw [threads, List.filterMap_append] at member
  rcases List.mem_append.mp member with earlier | last
  · exact old thread earlier
  · obtain ⟨_, one, own⟩ := List.mem_filterMap.mp last
    obtain rfl := List.mem_singleton.mp one
    have manned := manned_of_run run
    cases act_effect taken with
    | produces step producer =>
      obtain rfl := Option.some.inj (producer.symm.trans own)
      exact Finset.mem_insert_self ..
    | adds | throws | leaves => simp [Label.thread] at own
    | calls _ _ quiet | stays quiet => simp [quiet] at own
    | tests viewer here | fetches viewer _ here | sends viewer _ _ here =>
      obtain rfl := Option.some.inj own
      exact sender_mem_crew manned ((viewers_of_run before _).mp (by rw [here]; rfl))

theorem length_of_run (run : Run (Takes act) (start file : Broadcast mediaType) trace s)
    (moves : Run Moving s more s') : more.length ≤ s.crew.card * (3 * file.length + 3) := by
  have length : more.length = (threads more).length := by
    refine (moves.history (P := fun more _ => more.length = (threads more).length) rfl ?_)
    rintro more s' label next same ⟨running, _⟩
    obtain ⟨own, here⟩ := Option.isSome_iff_exists.mp running
    rw [threads] at same ⊢
    rw [List.filterMap_append, List.length_append, List.length_append, same, List.filterMap_cons_some here]
    rfl
  have few : ∀ thread ∈ (threads more).toFinset, (threads more).count thread ≤ 3 * file.length + 3 := by
    intro thread _
    have bound := (steps_of_run run moves thread).2
    have most := work_le (manned_of_run run) thread
    omega
  have known : (threads more).toFinset ⊆ s.crew := fun thread member =>
    crew_of_run run moves thread (List.mem_toFinset.mp member)
  calc more.length
      = ∑ thread ∈ (threads more).toFinset, (threads more).count thread := by
        rw [length, List.sum_toFinset_count_eq_length]
    _ ≤ (threads more).toFinset.card * (3 * file.length + 3) := Finset.sum_le_card_nsmul _ _ _ few
    _ ≤ _ := Nat.mul_le_mul_right _ (Finset.card_le_card known)

theorem attended_of_run (run : Run (Takes act) (start file : Broadcast mediaType) trace s)
    (attended : s.Attended) (moves : Run Moving s more s') : s'.Attended := by
  refine (moves.history (P := fun more s' => Run (Takes act) (start file) (trace ++ more) s' ∧ s'.Attended)
    ⟨by rwa [List.append_nil], attended⟩ ?_).2
  rintro more s' label next ⟨run, attended⟩ ⟨running, taken⟩
  exact ⟨by rw [← List.append_assoc]; exact .snoc run taken, attended_act run attended taken running⟩

theorem retained_of_run {sessionId : SessionId} (run : Run (Retained mediaType sessionId) (start file) trace s)
    (moves : Run Moving s more s') : Run (Retained mediaType sessionId) (start file) (trace ++ more) s' := by
  refine moves.history (P := fun more s' => Run (Retained mediaType sessionId) (start file) (trace ++ more) s')
    (by rwa [List.append_nil]) ?_
  rintro more s' label next run ⟨running, taken⟩
  refine List.append_assoc .. ▸ .snoc run ⟨?_, taken⟩
  cases label with
  | addMediaTrackThrows => simp [Label.thread] at running
  | _ => trivial

/-- Once the producer has ended, a viewer whose sender has ended has sent the frames from
where its session joined up to at most what the queue holds. -/
theorem sent_of_done {sessionId : SessionId} {viewer : Viewer}
    (run : Run (Retained mediaType sessionId) (start file) trace s) (done : s.Done)
    (here : s.viewers sessionId = some viewer) : ∃ client rtpPort ssrc clientAddress joined count groups,
      (sendAll (((file.drop joined).take count).map fun frame => ⟨frame, mediaType⟩)).run
        (opened mediaType client rtpPort ssrc clientAddress) = .ok groups viewer.stream ∧
      file.length ≤ joined + count + mediaType.queueCapacity := by
  obtain ⟨client, rtpPort, ssrc, clientAddress, joined, count, groups, ran, _, high⟩ := viewer_stream run here
  refine ⟨client, rtpPort, ssrc, clientAddress, joined, count, groups, ran, ?_⟩
  have frames := Production.frames_of_run (production_of_run (run.weaken And.right))
  have none : Producer.ended.left = [] := rfl
  rw [done.1, none, List.append_nil] at frames
  rw [frames]
  exact high

end Broadcast
end TinyRtsp
