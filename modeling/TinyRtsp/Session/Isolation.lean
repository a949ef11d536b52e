import TinyRtsp.Session.Termination

/-! The sessions that share a track, each with its own handler: whose consumer the
producer waits for. SETUP registers a consumer; only between PLAY and PAUSE does a
sender take frames for it. The threads sleep and wake as the queue's calls do. -/
namespace TinyRtsp
open Transition CircularQueue
open Termination (Sender TrackHandler SharedTrack)

/-- A track, and the handler that each session has for it. -/
structure Sharing (mediaType : MediaType) where
  track : SharedTrack SessionId mediaType.queueCapacity
  handlers : SessionId → Option TrackHandler

namespace Sharing

inductive Label where
  | setup (sessionId : SessionId) (constructs : Bool)
  | play (sessionId : SessionId) (opens : Bool)
  | pause (sessionId : SessionId)
  | produce (read : Frame)
  | test (sessionId : SessionId)
  | consume (sessionId : SessionId)

def start (mediaType : MediaType) : Sharing mediaType where
  track := .new mediaType.queueCapacity mediaType.queueCapacity_pos
  handlers _ := none

variable {mediaType : MediaType}

def setHandler (s : Sharing mediaType) (sessionId : SessionId) (handler : TrackHandler) :
    Sharing mediaType :=
  { s with handlers := Function.update s.handlers sessionId (some handler) }

/-- A step, which is missing while its thread sleeps or when it would end the process. -/
def act (s : Sharing mediaType) : Label → Option (Sharing mediaType)
  | .setup sessionId constructs =>
    let s := { s with track := s.track.registerConsumer sessionId }
    if !constructs then some s
    else if (s.handlers sessionId).any (·.sender.isSome) then none
    else some (s.setHandler sessionId ⟨false, none⟩)
  | .play sessionId opens =>
    match s.handlers sessionId with
    | some ⟨false, sender⟩ =>
      if !opens && !s.track.isActive then
        some ({ s with track := s.track.activate }.setHandler sessionId ⟨true, sender⟩)
      else if sender.isSome then none
      else s.track.start.map fun track =>
        { s with track }.setHandler sessionId ⟨true, some .testing⟩
    | _ => some s
  | .pause sessionId =>
    match s.handlers sessionId with
    | some handler => some (s.setHandler sessionId { handler with isActive := false })
    | none => some s
  | .produce read => (s.track.produce read).map fun track => { s with track }
  | .test sessionId =>
    match s.handlers sessionId with
    | some ⟨isActive, some .testing⟩ =>
      some (s.setHandler sessionId ⟨isActive, some (if isActive then .consuming else .ended)⟩)
    | _ => none
  | .consume sessionId =>
    match s.handlers sessionId with
    | some ⟨isActive, some .consuming⟩ =>
      (s.track.consume sessionId sessionId).map fun (returned, track) =>
        { s with track }.setHandler sessionId ⟨isActive, some (.after returned)⟩
    | _ => none

/-- The session's handler for the track has been started and not paused since. -/
def Active (s : Sharing mediaType) (sessionId : SessionId) : Prop :=
  ∃ handler, s.handlers sessionId = some handler ∧ handler.isActive = true

/-- The producer has been started and has not reached the end of the file. -/
def Producing (s : Sharing mediaType) : Prop :=
  s.track.producer ≠ none ∧ s.track.producer ≠ some .ended

/-- The producer sleeps in `produce`, or would at its next test. -/
def Blocked (s : Sharing mediaType) : Prop :=
  s.track.frameQueue.Sleeps none ∨ s.Producing ∧
    s.track.frameQueue.data.produceWaits s.track.frameQueue.data.nextPosition = true

/-- The producer waits for an active session at least. -/
def Isolated (s : Sharing mediaType) : Prop :=
  s.Blocked → ∃ sessionId, s.Active sessionId ∧
    s.track.frameQueue.data.Registered sessionId s.track.frameQueue.data.nextPosition

def most (mediaType : MediaType) : Nat := mediaType.queueCapacity - 1

/-- The session has been set up, and the ring holds so many frames that it has not read. -/
def Unread (s : Sharing mediaType) (sessionId : SessionId) (frames : Nat) : Prop :=
  ∃ p, s.track.frameQueue.data.Registered sessionId p ∧
    Ring.distance p s.track.frameQueue.data.writePosition = frames

/-- No step leaves sessions that do not play with the most unread frames and no
session that plays with as many, nor does a SETUP leave the producer asleep with no
session that plays with as many. -/
def KeepsUp (s : Sharing mediaType) : Label → Prop
  | .produce _ => (∃ frame, s.track.producer = some (.producing frame)) →
      (∀ viewer, ¬ s.Unread viewer (most mediaType)) →
      (∃ viewer, s.Unread viewer (most mediaType - 1)) →
      ∃ viewer, s.Active viewer ∧ s.Unread viewer (most mediaType - 1)
  | .setup sessionId _ => s.Producing →
      (s.track.frameQueue.Sleeps none ∨ ∃ viewer ≠ sessionId, s.Unread viewer (most mediaType)) →
      ∃ viewer ≠ sessionId, s.Active viewer ∧ s.Unread viewer (most mediaType)
  | .consume sessionId => s.Producing → (∃ viewer ≠ sessionId, s.Unread viewer (most mediaType)) →
      ∃ viewer ≠ sessionId, s.Active viewer ∧ s.Unread viewer (most mediaType)
  | .pause sessionId => s.Producing → (∃ viewer, s.Unread viewer (most mediaType)) →
      ∃ viewer ≠ sessionId, s.Active viewer ∧ s.Unread viewer (most mediaType)
  | .play .. | .test _ => True

/-- What holds in every state: only the end of the file stops the track, nothing is
produced before it is started, and every handler has a consumer. -/
structure Running (s : Sharing mediaType) : Prop where
  threaded : s.track.Threaded id
  asleep : s.track.frameQueue.Sleeps none → ∃ frame, s.track.producer = some (.producing frame)
  live : s.track.producer ≠ some .ended → s.track.frameQueue.data.exit = false
  fresh : s.track.isActive = false → s.track.producer = none
  idle : s.track.producer = none → ∀ sessionId p, s.track.frameQueue.data.Registered sessionId p →
    p = s.track.frameQueue.data.writePosition
  registered : ∀ sessionId handler, s.handlers sessionId = some handler →
    ∃ p, s.track.frameQueue.data.Registered sessionId p

variable {s s' : Sharing mediaType} {label : Label} {sessionId viewer : SessionId}

theorem unread_most (s : Sharing mediaType) : s.Unread viewer (most mediaType) ↔
    s.track.frameQueue.data.Registered viewer s.track.frameQueue.data.nextPosition := by
  have positive := mediaType.queueCapacity_pos
  constructor
  · rintro ⟨p, here, count⟩
    have farthest : Ring.distance p s.track.frameQueue.data.writePosition + 1 =
        mediaType.queueCapacity := by
      rw [count, most]
      omega
    obtain rfl := Ring.distance_eq_pred_iff.mp farthest
    exact here
  · intro here
    refine ⟨_, here, ?_⟩
    have farthest := Ring.distance_eq_pred_iff.mpr (rfl : s.track.frameQueue.data.nextPosition = _)
    rw [most]
    omega

theorem isolated_iff_unread (running : s.Running) : s.Isolated ↔
    (s.Producing → (s.track.frameQueue.Sleeps none ∨ ∃ viewer, s.Unread viewer (most mediaType)) →
      ∃ viewer, s.Active viewer ∧ s.Unread viewer (most mediaType)) := by
  have blocked : s.Blocked ↔ s.Producing ∧ (s.track.frameQueue.Sleeps none ∨
      s.track.frameQueue.data.produceWaits s.track.frameQueue.data.nextPosition = true) := by
    constructor
    · rintro (sleeps | ⟨producing, waits⟩)
      · obtain ⟨frame, here⟩ := running.asleep sleeps
        exact ⟨⟨by rw [here]; exact nofun, by rw [here]; exact nofun⟩, .inl sleeps⟩
      · exact ⟨producing, .inr waits⟩
    · rintro ⟨producing, waits⟩
      exact waits.imp_right fun waits => ⟨producing, waits⟩
  rw [Isolated, blocked, and_imp]
  refine imp_congr_right fun producing => ?_
  simp only [produceWaits_iff, running.live producing.2, and_true, unread_most]

theorem most_pos (mediaType : MediaType) : 0 < most mediaType := by
  cases mediaType with
  | h264 | aac => decide

theorem not_unread_idle (running : s.Running) (idle : s.track.producer = none) :
    ¬ s.Unread viewer (most mediaType) := by
  rintro ⟨p, here, count⟩
  rw [running.idle idle viewer p here, Ring.distance_self] at count
  exact absurd count (Nat.ne_of_lt (most_pos mediaType))

/-- A step that takes only one session out of the producer's way leaves it to the
others. -/
theorem isolated_without (running' : s'.Running) {asleep : Prop}
    (producer : s'.track.producer = s.track.producer) (sleeps : s'.track.frameQueue.Sleeps none ↔ asleep)
    (others : ∀ viewer ≠ sessionId, (s'.Active viewer ↔ s.Active viewer) ∧
      (s'.Unread viewer (most mediaType) ↔ s.Unread viewer (most mediaType)))
    (moved : ¬ s'.Unread sessionId (most mediaType)) :
    s'.Isolated ↔ (s.Producing → (asleep ∨ ∃ viewer ≠ sessionId, s.Unread viewer (most mediaType)) →
      ∃ viewer ≠ sessionId, s.Active viewer ∧ s.Unread viewer (most mediaType)) := by
  have pressed : (∃ viewer, s'.Unread viewer (most mediaType)) ↔
      ∃ viewer ≠ sessionId, s.Unread viewer (most mediaType) := by
    constructor
    · rintro ⟨viewer, unread⟩
      have apart : viewer ≠ sessionId := fun same => moved (same ▸ unread)
      exact ⟨viewer, apart, (others viewer apart).2.mp unread⟩
    · rintro ⟨viewer, apart, unread⟩
      exact ⟨viewer, (others viewer apart).2.mpr unread⟩
  have covered : (∃ viewer, s'.Active viewer ∧ s'.Unread viewer (most mediaType)) ↔
      ∃ viewer ≠ sessionId, s.Active viewer ∧ s.Unread viewer (most mediaType) := by
    constructor
    · rintro ⟨viewer, active, unread⟩
      have apart : viewer ≠ sessionId := fun same => moved (same ▸ unread)
      exact ⟨viewer, apart, (others viewer apart).1.mp active, (others viewer apart).2.mp unread⟩
    · rintro ⟨viewer, apart, active, unread⟩
      exact ⟨viewer, (others viewer apart).1.mpr active, (others viewer apart).2.mpr unread⟩
  have same : s'.Producing ↔ s.Producing := by rw [Producing, producer, Producing]
  rw [isolated_iff_unread running', pressed, covered, sleeps, same]

theorem active_setHandler {handler : TrackHandler} : (s.setHandler sessionId handler).Active viewer ↔
    if viewer = sessionId then handler.isActive = true else s.Active viewer := by
  unfold Active setHandler
  dsimp only
  split
  · subst viewer
    simp
  · rename_i apart
    rw [Function.update_of_ne apart]

theorem active_same {before after : TrackHandler} (found : s.handlers sessionId = some before)
    (same : after.isActive = before.isActive) :
    (s.setHandler sessionId after).Active viewer ↔ s.Active viewer := by
  rw [active_setHandler]
  split
  · subst viewer
    rw [Active, found, same]
    simp
  · rfl

theorem handled_update {handlers : SessionId → Option TrackHandler} {R : SessionId → Prop}
    {handler : TrackHandler} (registered : ∀ viewer found, handlers viewer = some found → R viewer)
    (here : R sessionId) (viewer : SessionId) (found : TrackHandler)
    (handled : Function.update handlers sessionId (some handler) viewer = some found) : R viewer := by
  by_cases same : viewer = sessionId
  · exact same ▸ here
  · exact registered viewer found ((Function.update_of_ne same _ _).symm.trans handled)

theorem Running.setHandler {before after : TrackHandler} (running : s.Running)
    (found : s.handlers sessionId = some before) : (s.setHandler sessionId after).Running :=
  { running with
    registered := handled_update running.registered (running.registered sessionId before found) }

def Steps (s : Sharing mediaType) (label : Label) (s' : Sharing mediaType) : Prop :=
  s'.Running ∧ (s.Isolated → (s'.Isolated ↔ s.KeepsUp label))

theorem setup_steps (running : s.Running) {constructs : Bool}
    (taken : s.act (.setup sessionId constructs) = some s') : s.Steps (.setup sessionId constructs) s' := by
  have effect {handlers : SessionId → Option TrackHandler}
      (same : ∀ viewer ≠ sessionId, handlers viewer = s.handlers viewer) :
      s.Steps (.setup sessionId constructs) ⟨s.track.registerConsumer sessionId, handlers⟩ := by
    have registered {viewer p} : (s.track.registerConsumer sessionId).frameQueue.data.Registered viewer p ↔
        if viewer = sessionId then s.track.frameQueue.data.writePosition = p
        else s.track.frameQueue.data.Registered viewer p := registered_registerConsumer
    have running' : Running ⟨s.track.registerConsumer sessionId, handlers⟩ := by
      refine ⟨running.threaded.registerConsumer sessionId, running.asleep, running.live, running.fresh,
        fun idle viewer p here => ?_, fun viewer handler handled => ?_⟩
      · have here := registered.mp here
        split at here
        · exact here.symm
        · exact running.idle idle viewer p here
      · by_cases joins : viewer = sessionId
        · exact ⟨s.track.frameQueue.data.writePosition, registered.mpr (by rw [if_pos joins])⟩
        · obtain ⟨p, here⟩ := running.registered viewer handler ((same viewer joins).symm.trans handled)
          exact ⟨p, registered.mpr (by rwa [if_neg joins])⟩
    refine ⟨running', fun _ => isolated_without running' rfl .rfl (fun viewer apart => ⟨?_, ?_⟩) ?_⟩
    · simp only [Active, same viewer apart]
    · refine exists_congr fun p => and_congr_left' (registered.trans ?_)
      rw [if_neg apart]
    · rintro ⟨p, here, count⟩
      have here := registered.mp here
      rw [if_pos rfl] at here
      subst here
      exact absurd ((Ring.distance_self _).symm.trans count) (Nat.ne_of_lt (most_pos _))
  simp only [act] at taken
  split at taken
  · obtain rfl := Option.some.inj taken
    exact effect fun _ _ => rfl
  · split at taken
    · contradiction
    · obtain rfl := Option.some.inj taken
      exact effect fun viewer apart => Function.update_of_ne apart _ _

/-- A track that is not active has not been started: its queue runs and is only
read. -/
theorem activate_eq (running : s.Running) (inactive : s.track.isActive = false) :
    s.track.activate = { s.track with isActive := true } := by
  have live : s.track.frameQueue.data.isExit = false := by
    refine running.live fun ended => ?_
    rw [running.fresh inactive] at ended
    contradiction
  simp [SharedTrack.activate, live]

theorem play_steps (running : s.Running) {opens : Bool}
    (taken : s.act (.play sessionId opens) = some s') : s.Steps (.play sessionId opens) s' := by
  have covers {t : Sharing mediaType} {sender : Option Sender} (isolated : t.Isolated) :
      (t.setHandler sessionId ⟨true, sender⟩).Isolated := by
    intro blocked
    obtain ⟨viewer, active, here⟩ := isolated blocked
    refine ⟨viewer, active_setHandler.mpr ?_, here⟩
    split
    · rfl
    · exact active
  simp only [act] at taken
  split at taken
  · rename_i sender found
    split at taken
    · rename_i closed
      obtain rfl := Option.some.inj taken
      have inactive : s.track.isActive = false := by
        simp only [Bool.and_eq_true, Bool.not_eq_true'] at closed
        exact closed.2
      rw [activate_eq running inactive]
      have running' : Running { s with track := { s.track with isActive := true } } :=
        { running with fresh := fun never => Bool.noConfusion never }
      exact ⟨running'.setHandler found, fun isolated => iff_of_true (covers isolated) trivial⟩
    · split at taken
      · contradiction
      · obtain ⟨track, started, rfl⟩ := Option.map_eq_some_iff.mp taken
        unfold SharedTrack.start at started
        split at started
        · obtain rfl := Option.some.inj started
          exact ⟨running.setHandler found, fun isolated => iff_of_true (covers isolated) trivial⟩
        · rename_i inactive
          have inactive : s.track.isActive = false := by simpa using inactive
          have idle := running.fresh inactive
          split at started
          · contradiction
          · obtain rfl := Option.some.inj started
            rw [activate_eq running inactive]
            have running' : Running { s with track :=
                { s.track with isActive := true, producer := some .reading } } :=
              { threaded := running.threaded
                asleep := fun sleeps => by
                  obtain ⟨frame, producing⟩ := running.asleep sleeps
                  rw [idle] at producing
                  contradiction
                live := fun _ => running.live (by rw [idle]; exact nofun)
                fresh := fun never => Bool.noConfusion never
                idle := nofun
                registered := running.registered }
            refine ⟨running'.setHandler found, fun _ => iff_of_true (covers ?_) trivial⟩
            refine (isolated_iff_unread running').mpr fun _ waits => ?_
            rcases waits with sleeps | ⟨viewer, unread⟩
            · obtain ⟨frame, producing⟩ := running.asleep sleeps
              rw [idle] at producing
              contradiction
            · have unread : s.Unread viewer (most mediaType) := unread
              exact absurd unread (not_unread_idle running idle)
  · obtain rfl := Option.some.inj taken
    exact ⟨running, fun isolated => iff_of_true isolated trivial⟩

theorem pause_steps (running : s.Running) (taken : s.act (.pause sessionId) = some s') :
    s.Steps (.pause sessionId) s' := by
  simp only [act] at taken
  split at taken
  · rename_i handler found
    obtain rfl := Option.some.inj taken
    have running' : (s.setHandler sessionId { handler with isActive := false }).Running :=
      running.setHandler found
    refine ⟨running', fun isolated => (isolated_iff_unread running').trans ?_⟩
    have covered : (∃ viewer, (s.setHandler sessionId { handler with isActive := false }).Active viewer ∧
        s.Unread viewer (most mediaType)) ↔
          ∃ viewer ≠ sessionId, s.Active viewer ∧ s.Unread viewer (most mediaType) := by
      refine exists_congr fun viewer => ?_
      rw [active_setHandler]
      by_cases paused : viewer = sessionId
      · simp [paused]
      · simp [paused]
    refine imp_congr_right fun producing => ?_
    -- a producer that sleeps has had an active session to wait for
    constructor
    · exact fun all waits => covered.mp (all (.inr waits))
    · rintro all (sleeps | waits)
      · obtain ⟨viewer, _, unread⟩ := (isolated_iff_unread running).mp isolated producing (.inl sleeps)
        exact covered.mpr (all ⟨viewer, unread⟩)
      · exact covered.mpr (all waits)
  · rename_i missing
    obtain rfl := Option.some.inj taken
    refine ⟨running, fun isolated => iff_of_true isolated fun producing waits => ?_⟩
    obtain ⟨other, active, unread⟩ := (isolated_iff_unread running).mp isolated producing (.inr waits)
    refine ⟨other, ?_, active, unread⟩
    rintro rfl
    obtain ⟨handler, found, _⟩ := active
    rw [missing] at found
    contradiction

theorem produce_steps (running : s.Running) {read : Frame}
    (taken : s.act (.produce read) = some s') : s.Steps (.produce read) s' := by
  obtain ⟨track, produced, rfl⟩ := Option.map_eq_some_iff.mp taken
  have threaded : track.Threaded id := running.threaded.produce produced
  have started {producer : Termination.Producer} (here : s.track.producer = some producer) :
      s.track.isActive = false → False := by
    intro inactive
    rw [running.fresh inactive] at here
    contradiction
  rcases SharedTrack.produce_cases running.threaded produced with
    ⟨reads, rfl⟩ | ⟨reads, rfl⟩ | ⟨frame, producing, awake, ⟨held, full, rfl⟩ | ⟨item, q, stored, rfl⟩⟩
  · have live := running.live (by rw [reads]; exact nofun)
    refine ⟨⟨threaded, fun _ => ⟨read, rfl⟩, fun _ => live, fun inactive => (started reads inactive).elim,
      nofun, running.registered⟩, fun isolated => iff_of_true ?_ ?_⟩
    · intro blocked
      refine isolated (blocked.imp_right fun ⟨_, waits⟩ => ⟨⟨?_, ?_⟩, waits⟩)
      · rw [reads]
        exact nofun
      · rw [reads]
        exact nofun
    · rintro ⟨frame, producing⟩
      cases reads.symm.trans producing
  · refine ⟨⟨threaded, ?_, fun going => absurd rfl going, fun inactive => (started reads inactive).elim,
      nofun, running.registered⟩, fun isolated => iff_of_true ?_ ?_⟩
    · intro sleeps
      exact absurd sleeps (Monitor.not_sleeps_notify fun _ _ => rfl)
    · rintro (sleeps | ⟨⟨_, going⟩, _⟩)
      · exact absurd sleeps (Monitor.not_sleeps_notify fun _ _ => rfl)
      · exact absurd rfl going
    · rintro ⟨frame, producing⟩
      cases reads.symm.trans producing
  · have going : s.Producing := ⟨by rw [producing]; exact nofun, by rw [producing]; exact nofun⟩
    refine ⟨⟨threaded, fun _ => ⟨frame, producing⟩, fun _ => running.live going.2,
      fun inactive => (started producing inactive).elim, fun never => absurd never going.1,
      running.registered⟩, fun isolated => ?_⟩
    obtain ⟨viewer, active, here⟩ := isolated (.inr ⟨going, full⟩)
    refine iff_of_true (fun _ => ⟨viewer, active, here⟩) fun _ free => ?_
    exact absurd ((unread_most s).mpr here) (free viewer)
  · obtain ⟨free, rfl⟩ := CircularQueue.produce_cases stored
    have live := running.live (by rw [producing]; exact nofun)
    have running' : Running { s with track := { s.track with
        frameQueue := ((s.track.frameQueue.put none .idle).set (s.track.frameQueue.data.store item
          s.track.frameQueue.data.nextPosition)).notify onNotEmpty
        producer := some .reading } } := by
      refine ⟨threaded, fun sleeps => ?_, fun _ => live, fun inactive => (started producing inactive).elim,
        nofun, running.registered⟩
      exact absurd sleeps Monitor.not_sleeps_returned
    have empty (viewer) : ¬ s.Unread viewer (most mediaType) := fun unread =>
      free (produceWaits_iff.mpr ⟨⟨viewer, (unread_most s).mp unread⟩, live⟩)
    have later (viewer) : (Unread { s with track := { s.track with
        frameQueue := ((s.track.frameQueue.put none .idle).set (s.track.frameQueue.data.store item
          s.track.frameQueue.data.nextPosition)).notify onNotEmpty
        producer := some .reading } } viewer (most mediaType)) ↔
          s.Unread viewer (most mediaType - 1) := by
      refine exists_congr fun p => and_congr_right fun here => ?_
      have notLast : p ≠ Ring.succ s.track.frameQueue.data.writePosition := by
        rintro rfl
        exact empty viewer ((unread_most s).mpr here)
      have positive := most_pos mediaType
      show Ring.distance p (Ring.succ s.track.frameQueue.data.writePosition) = most mediaType ↔ _
      rw [Ring.distance_succ notLast]
      omega
    refine ⟨running', fun _ => (isolated_iff_unread running').trans ?_⟩
    have pressed := exists_congr later
    have covered := exists_congr fun viewer => and_congr_right fun _ : s.Active viewer => later viewer
    constructor
    · exact fun all _ _ waits => covered.mp (all ⟨nofun, nofun⟩ (.inr (pressed.mpr waits)))
    · rintro all _ (sleeps | waits)
      · exact absurd sleeps Monitor.not_sleeps_returned
      · exact covered.mpr (all ⟨frame, producing⟩ empty (pressed.mp waits))

theorem test_steps (running : s.Running) (taken : s.act (.test sessionId) = some s') :
    s.Steps (.test sessionId) s' := by
  simp only [act] at taken
  split at taken
  · rename_i isActive found
    obtain rfl := Option.some.inj taken
    refine ⟨running.setHandler found, fun isolated => iff_of_true (fun blocked => ?_) trivial⟩
    obtain ⟨viewer, active, here⟩ := isolated blocked
    exact ⟨viewer, (active_same found (by rfl)).mpr active, here⟩
  · contradiction

/-- A consumer that has drained the ring is not the one that the producer waits for. -/
theorem drained_apart {p : Fin mediaType.queueCapacity} (here : s.track.frameQueue.data.Registered viewer p)
    (drained : p = s.track.frameQueue.data.writePosition) : ¬ s.Unread viewer (most mediaType) := by
  rintro ⟨other, there, count⟩
  obtain rfl := Option.some.inj (here.symm.trans there)
  rw [drained, Ring.distance_self] at count
  exact absurd count (Nat.ne_of_lt (most_pos mediaType))

theorem consume_steps (running : s.Running) (taken : s.act (.consume sessionId) = some s') :
    s.Steps (.consume sessionId) s' := by
  simp only [act] at taken
  split at taken
  · rename_i isActive found
    obtain ⟨⟨returned, track⟩, consumed, rfl⟩ := Option.map_eq_some_iff.mp taken
    obtain ⟨p, here⟩ := running.registered sessionId _ found
    have own : id sessionId = sessionId := rfl
    have threaded : track.Threaded id := running.threaded.consume own consumed
    obtain ⟨_, ⟨rfl, waits, rfl⟩ | ⟨item, q, took, rfl, rfl⟩⟩ :=
      SharedTrack.consume_cases running.threaded own consumed
    · rw [here.touch] at waits
      obtain ⟨drained, _⟩ := consumeWaits_iff.mp waits
      have last := drained_apart here (here.position.symm.trans drained)
      have same : s.track.frameQueue.data.touch sessionId = s.track.frameQueue.data := here.touch
      have sleeps {thread : Thread (Wait SessionId Frame mediaType.queueCapacity)} :
          ((s.track.frameQueue.set s.track.frameQueue.data).put (some sessionId) thread).Sleeps none ↔
            s.track.frameQueue.Sleeps none := Monitor.sleeps_put_ne nofun
      rw [same] at threaded ⊢
      have running' : Running { s with track := { s.track with
          frameQueue := (s.track.frameQueue.set s.track.frameQueue.data).put (some sessionId)
            (.asleep (.consume sessionId)) } } :=
        ⟨threaded, fun asleep => running.asleep (sleeps.mp asleep), running.live, running.fresh,
          running.idle, running.registered⟩
      refine ⟨running'.setHandler found, fun isolated => iff_of_true ?_ ?_⟩
      · intro blocked
        obtain ⟨viewer, active, there⟩ := isolated (blocked.imp_left sleeps.mp)
        exact ⟨viewer, (active_same found rfl).mpr active, there⟩
      · rintro producing ⟨viewer, _, unread⟩
        obtain ⟨other, active, unread⟩ :=
          (isolated_iff_unread running).mp isolated producing (.inr ⟨viewer, unread⟩)
        exact ⟨other, fun same => last (same ▸ unread), active, unread⟩
    · rcases CircularQueue.consume_cases took with
        ⟨exited, rfl, rfl⟩ | ⟨live, waiting, _, live', write, _, registered⟩
      · rw [if_pos exited] at threaded ⊢
        rw [here.touch] at threaded ⊢
        have sleeps : ((s.track.frameQueue.put (some sessionId) .idle).set
            s.track.frameQueue.data).Sleeps none ↔ s.track.frameQueue.Sleeps none :=
          Monitor.sleeps_put_ne nofun
        have ended : s.track.producer = some .ended := by
          by_contra going
          rw [running.live going] at exited
          contradiction
        have running' : Running { s with track := { s.track with
            frameQueue := (s.track.frameQueue.put (some sessionId) .idle).set s.track.frameQueue.data } } :=
          ⟨threaded, fun asleep => running.asleep (sleeps.mp asleep), running.live, running.fresh,
            running.idle, running.registered⟩
        refine ⟨running'.setHandler found, fun _ => iff_of_true ?_ ?_⟩
        · rintro (asleep | ⟨⟨_, going⟩, _⟩)
          · obtain ⟨frame, producing⟩ := running.asleep (sleeps.mp asleep)
            cases ended.symm.trans producing
          · exact absurd ended going
        · rintro ⟨_, going⟩
          exact absurd ended going
      · rw [if_neg (by rw [live]; exact Bool.false_ne_true)] at threaded ⊢
        have stays (viewer) (before : ∃ p, s.track.frameQueue.data.Registered viewer p) :
            ∃ p, q.Registered viewer p := by
          obtain ⟨p, here⟩ := before
          by_cases same : viewer = sessionId
          · exact ⟨Ring.succ (s.track.frameQueue.data.position sessionId),
              (registered _ _).mpr (by rw [if_pos same])⟩
          · exact ⟨p, (registered _ _).mpr (by rwa [if_neg same])⟩
        have awake :
            ¬ (((s.track.frameQueue.put (some sessionId) .idle).set q).notify onNotFull).Sleeps none := by
          refine Monitor.not_sleeps_notify fun wait asleep => ?_
          cases wait with
          | produce => rfl
          | consume =>
            have apart : (none : Option SessionId) ≠ some sessionId := nofun
            have asleep : s.track.frameQueue.thread none = _ :=
              (Function.update_of_ne apart .idle _).symm.trans asleep
            obtain ⟨_, never, _⟩ := running.threaded none _ (.inr asleep)
            contradiction
        have running' : Running { s with track := { s.track with
            frameQueue := ((s.track.frameQueue.put (some sessionId) .idle).set q).notify onNotFull } } :=
          ⟨threaded, fun asleep => absurd asleep awake, fun _ => live', running.fresh,
            fun never => absurd (here.position.trans (running.idle never sessionId p here)) waiting,
            fun viewer handler handled => stays viewer (running.registered viewer handler handled)⟩
        refine ⟨running'.setHandler found, fun _ => ?_⟩
        refine Iff.trans (isolated_without (s := s) (running'.setHandler found) rfl
          (iff_false_intro awake) (fun viewer (apart : viewer ≠ sessionId) => ⟨?_, ?_⟩) ?_) ?_
        · exact active_same (s := { s with track := { s.track with
            frameQueue := ((s.track.frameQueue.put (some sessionId) .idle).set q).notify onNotFull } }) found rfl
        · have same (p : Fin mediaType.queueCapacity) :
              q.Registered viewer p ∧ Ring.distance p q.writePosition = most mediaType ↔
                s.track.frameQueue.data.Registered viewer p ∧
                  Ring.distance p s.track.frameQueue.data.writePosition = most mediaType := by
            rw [registered, if_neg apart, write]
          exact exists_congr same
        · intro unread
          have next : q.Registered sessionId (Ring.succ q.writePosition) := (unread_most _).mp unread
          rw [registered, if_pos rfl, write] at next
          exact waiting (Ring.succ_injective next)
        · simp only [KeepsUp, false_or]
  · contradiction

theorem act_steps (running : s.Running) (taken : s.act label = some s') : s.Steps label s' := by
  cases label with
  | setup sessionId constructs => exact setup_steps running taken
  | play sessionId opens => exact play_steps running taken
  | pause sessionId => exact pause_steps running taken
  | produce read => exact produce_steps running taken
  | test sessionId => exact test_steps running taken
  | consume sessionId => exact consume_steps running taken

theorem start_running (mediaType : MediaType) :
    (start mediaType).Running ∧ (start mediaType).Isolated := by
  have nobody {sessionId p} : ¬ (start mediaType).track.frameQueue.data.Registered sessionId p := by
    simp [start, SharedTrack.new, CircularQueue.start, make, Registered]
  have asleep : ¬ (start mediaType).track.frameQueue.Sleeps none := by
    rintro ⟨wait, ⟨⟩⟩
  refine ⟨⟨SharedTrack.new_threaded _, fun sleeps => absurd sleeps asleep, fun _ => rfl, fun _ => rfl,
    fun _ _ _ here => absurd here nobody, by rintro _ _ ⟨⟩⟩, ?_⟩
  rintro (sleeps | ⟨⟨started, _⟩, _⟩)
  · exact absurd sleeps asleep
  · exact absurd rfl started

/-- In a run in which the sessions that do not play keep up and no SETUP leaves a
sleeping producer without a session that plays, the producer never waits for others
alone, and these are the only such runs. -/
theorem isolated_iff_keepsUp (mediaType : MediaType) (trace : List Label) :
    (∀ s, Run (Guarded KeepsUp (Takes act)) (start mediaType) trace s → s.Isolated) ∧
    ∀ s, Run (fun s label s' => act s label = some s' ∧ s'.Isolated) (start mediaType) trace s →
      Run (Guarded KeepsUp (Takes act)) (start mediaType) trace s := by
  obtain ⟨running, isolated⟩ := start_running mediaType
  refine Run.guarded_iff running isolated (fun running isolated taken => ?_) trace
  obtain ⟨running', exactly⟩ := act_steps running taken
  exact ⟨exactly isolated, fun _ => running'⟩

/-- One session plays and takes every frame, the other has only been set up: behind
24 frames the producer sleeps, and the second session alone is in its way. -/
theorem setup_blocks_producer : ¬ ∀ (trace : List Label) (s : Sharing .h264),
    Run (Takes act) (start .h264) trace s → s.track.frameQueue.Sleeps none →
      ∃ sessionId, s.Active sessionId ∧
        s.track.frameQueue.data.Registered sessionId s.track.frameQueue.data.nextPosition := by
  intro claim
  obtain ⟨trace, outcome⟩ : ∃ trace : List Label,
      (trace.foldlM act (start .h264)).map (fun s =>
        (decide (s.track.frameQueue.Sleeps none),
          s.track.frameQueue.data.consumerPositions.entries.map fun consumer =>
            (consumer.1, consumer.2.val), s.track.frameQueue.data.nextPosition.val,
          (s.handlers "y".toList).map (·.isActive))) =
        some (true, [("x".toList, 24), ("y".toList, 0)], 0, some false) :=
    ⟨[.setup "y".toList true, .setup "x".toList true, .play "x".toList true] ++
      (List.replicate 24
        [.produce (some [1]), .produce none, .test "x".toList, .consume "x".toList]).flatten ++
      [.produce (some [1]), .produce none], by decide +kernel⟩
  obtain ⟨s, done, same⟩ := Option.map_eq_some_iff.mp outcome
  obtain ⟨asleep, rest⟩ := Prod.mk.inj same
  obtain ⟨consumers, rest⟩ := Prod.mk.inj rest
  obtain ⟨next, paused⟩ := Prod.mk.inj rest
  obtain ⟨viewer, ⟨handler, found, active⟩, here⟩ := claim trace s (.of_foldlM done)
    (of_decide_eq_true asleep)
  have member : (viewer, s.track.frameQueue.data.nextPosition.val) ∈
      s.track.frameQueue.data.consumerPositions.entries.map fun consumer =>
        (consumer.1, consumer.2.val) :=
    List.mem_map.mpr ⟨⟨viewer, s.track.frameQueue.data.nextPosition⟩, AList.mem_lookup_iff.mp here, rfl⟩
  rw [consumers, next] at member
  have yours : viewer = "y".toList := by simpa using member
  rw [← yours, found] at paused
  simp [active] at paused

end Sharing
end TinyRtsp
