import TinyRtsp.CircularQueue.Basic
import TinyRtsp.Foundation.Monitor
import TinyRtsp.Foundation.Transition

/-! The queue's calls as threads that sleep and wake. `produce` and `consume`
test, sleep and test again; `register_consumer` and `unregister_consumer` change
the positions without a notification, which is where a wake-up can be lost. -/
namespace TinyRtsp.CircularQueue

/-- A call that may sleep: `produce` with its saved `next_position`, on
`not_full_`, or `consume`, on `not_empty_`. -/
inductive Wait (Id α : Type) (n : Nat) where
  | produce (item : α) (nextPosition : Fin n)
  | consume (sessionId : Id)
  deriving DecidableEq

variable {Id α K : Type} {n : Nat}

def onNotFull : Wait Id α n → Bool
  | .produce .. => true
  | .consume _ => false

def onNotEmpty : Wait Id α n → Bool
  | .produce .. => false
  | .consume _ => true

/-- One producer thread, `none`, and a consumer thread for each `k : K`. -/
abbrev Threads (K Id α : Type) (n : Nat) :=
  Monitor (CircularQueue Id α n) (Wait Id α n) (Option K)

inductive Action (K Id α : Type) where
  | produce (item : α)
  | consume (thread : K) (sessionId : Id)
  | resume (thread : Option K)
  | registerConsumer (sessionId : Id)
  | unregisterConsumer (sessionId : Id)
  | setExit
  | setRun

variable [DecidableEq Id] [DecidableEq K] [Inhabited α]

def start (n : Nat) (positive : 0 < n) : Threads K Id α n := ⟨make n positive, fun _ => .idle⟩

/-- From the test of the loop condition to the next sleep or to the return. -/
def attempt (m : Threads K Id α n) (t : Option K) : Wait Id α n → Threads K Id α n
  | .produce item nextPosition =>
    if m.data.produceWaits nextPosition then m.put t (.asleep (.produce item nextPosition))
    else ((m.put t .idle).set (m.data.store item nextPosition)).notify onNotEmpty
  | .consume sessionId =>
    let q := m.data.touch sessionId
    if q.consumeWaits sessionId then (m.set q).put t (.asleep (.consume sessionId))
    else if q.exit then (m.put t .idle).set q
    else ((m.put t .idle).set (q.take sessionId).2).notify onNotFull

def act (m : Threads K Id α n) : Action K Id α → Option (Threads K Id α n)
  | .produce item =>
    match m.thread none with
    | .idle => some (attempt m none (.produce item m.data.nextPosition))
    | _ => none
  | .consume k sessionId =>
    match m.thread (some k) with
    | .idle => some (attempt m (some k) (.consume sessionId))
    | _ => none
  | .resume t =>
    match m.thread t with
    | .ready wait => some (attempt m t wait)
    | _ => none
  | .registerConsumer sessionId => some (m.set (m.data.registerConsumer sessionId))
  | .unregisterConsumer sessionId => some (m.set (m.data.unregisterConsumer sessionId))
  | .setExit => some ((m.set m.data.setExit).notify fun _ => true)
  | .setRun => some ((m.set m.data.setRun).notify onNotFull)

/-- The reason to sleep: `exit_` is false and the producer's next position is
occupied, or the consumer's position is the write position. -/
def Justified (q : CircularQueue Id α n) : Wait Id α n → Prop
  | .produce _ nextPosition => q.exit = false ∧ nextPosition = q.nextPosition ∧
      ∃ id, q.Registered id nextPosition
  | .consume sessionId => q.exit = false ∧ q.Registered sessionId q.writePosition

/-- No wake-up is lost: whoever sleeps has its reason to. -/
def Awake (m : Threads K Id α n) : Prop := m.Sound Justified

/-- Only the producer thread is inside `produce`, with the position after the
one it will write; its own calls are the only ones that move the write position. The
other threads are inside `consume`, each for an id that is its own. -/
def KeptBy (mine : Option K → Id → Prop) (q : CircularQueue Id α n) (t : Option K) :
    Wait Id α n → Prop
  | .produce _ nextPosition => t = none ∧ nextPosition = q.nextPosition
  | .consume sessionId => mine t sessionId

abbrev Kept : CircularQueue Id α n → Option K → Wait Id α n → Prop := KeptBy fun t _ => t ≠ none

/-- The registration changes that cannot cost a wake-up: the slot a sleeping
producer waits for stays occupied by another consumer, and no consumer is
unregistered while it sleeps. -/
def Harmless (m : Threads K Id α n) : Action K Id α → Prop
  | .registerConsumer sessionId => ∀ item next, m.thread none = .asleep (.produce item next) →
      ∃ other, other ≠ sessionId ∧ m.data.Registered other next
  | .unregisterConsumer sessionId =>
      (∀ item next, m.thread none = .asleep (.produce item next) →
        ∃ other, other ≠ sessionId ∧ m.data.Registered other next) ∧
      ∀ k, m.thread (some k) ≠ .asleep (.consume sessionId)
  | _ => True

/-- A thread makes its call, or goes on with the one in which it has been woken. -/
def proceed (m : Threads K Id α n) (t : Option K) (call : Action K Id α) : Option (Threads K Id α n) :=
  match m.thread t with
  | .idle => act m call
  | _ => act m (.resume t)

variable {q : CircularQueue Id α n} {m m' : Threads K Id α n} {wait : Wait Id α n} {id : Id}
  {t : Option K} {mine : Option K → Id → Prop}

omit [DecidableEq K] [Inhabited α] in
theorem Justified.touch (reason : Justified q wait) : Justified (q.touch id) wait := by
  obtain ⟨sameExit, sameWrite, _⟩ := q.touch_fields id
  cases wait with
  | produce item next =>
    obtain ⟨running, rfl, holder, pinned⟩ := reason
    exact ⟨sameExit ▸ running, by simp only [nextPosition, sameWrite],
      holder, pinned.touch_other⟩
  | consume sessionId =>
    obtain ⟨running, drained⟩ := reason
    exact ⟨sameExit ▸ running, sameWrite ▸ drained.touch_other⟩

/-- A consumer that takes an item was not at the write position, so no other
sleeping consumer is disturbed. -/
theorem Justified.take (reason : Justified q (.consume (α := α) (n := n) id)) {other : Id}
    (proceeds : q.consumeWaits other = false) :
    Justified (q.take other).2 (.consume (α := α) (n := n) id) := by
  obtain ⟨running, drained⟩ := reason
  have apart : id ≠ other := by
    rintro rfl
    have waits := consumeWaits_iff.mpr ⟨drained.position, running⟩
    rw [proceeds] at waits
    contradiction
  refine ⟨by simp only [CircularQueue.take, running, Bool.false_eq_true, if_false], ?_⟩
  rw [registered_take running, if_neg apart]
  simpa only [CircularQueue.take, running, Bool.false_eq_true, if_false] using drained

/-- A call that goes back to sleep has its reason, and one that returns wakes
whoever its update could concern. -/
theorem attempt_awake (awake : Awake m) (pending : m.Pending Kept) (kept : Kept m.data t wait) :
    Awake (attempt m t wait) := by
  cases wait with
  | produce item next =>
    obtain ⟨rfl, rfl⟩ := kept
    simp only [attempt]
    split
    · rename_i waits
      obtain ⟨pinned, running⟩ := produceWaits_iff.mp waits
      exact Monitor.sound_put_asleep awake ⟨running, rfl, pinned⟩
    · refine Monitor.sound_notify_iff.mpr ?_
      intro other held asleep missed
      cases held with
      | consume => simp [onNotEmpty] at missed
      | produce item' next' =>
        obtain ⟨apart, asleep⟩ := Monitor.put_idle_asleep_iff.mp asleep
        exact absurd (pending other _ (Or.inr asleep)).1 apart
  | consume sessionId =>
    have touched : Monitor.Sound Justified (m.set (m.data.touch sessionId)) :=
      fun other held asleep => (awake other held asleep).touch
    obtain ⟨sameExit, sameWrite, _⟩ := m.data.touch_fields sessionId
    simp only [attempt]
    split
    · rename_i waits
      obtain ⟨drained, running⟩ := consumeWaits_iff.mp waits
      refine Monitor.sound_put_asleep touched ⟨running, ?_⟩
      have here := m.data.touch_registered sessionId
      rw [here.position] at drained
      exact drained ▸ here
    · rename_i proceeds
      split
      · exact Monitor.sound_put_idle touched
      · refine Monitor.sound_notify_iff.mpr ?_
        intro other held asleep missed
        cases held with
        | produce => simp [onNotFull] at missed
        | consume id =>
          have still := Monitor.sound_put_idle (t := t) touched other (.consume id) asleep
          exact Justified.take (q := m.data.touch sessionId) still (by simpa using proceeds)

omit [DecidableEq Id] [DecidableEq K] [Inhabited α] in
theorem pending_of_writePosition {q' : CircularQueue Id α n} (pending : m.Pending (KeptBy mine))
    (same : q'.writePosition = m.data.writePosition) : (m.set q').Pending (KeptBy mine) := by
  intro other held holds
  have before := pending other held holds
  cases held with
  | produce => exact ⟨before.1, by simpa only [Monitor.set, nextPosition, same] using before.2⟩
  | consume => exact before

theorem attempt_pending (pending : m.Pending (KeptBy mine)) (kept : KeptBy mine m.data t wait) :
    (attempt m t wait).Pending (KeptBy mine) := by
  cases wait with
  | produce item next =>
    simp only [attempt]
    split
    · exact pending.put_asleep kept
    · refine Monitor.Pending.notify fun other held holds => ?_
      obtain ⟨apart, holds⟩ := Monitor.put_idle_holds_iff.mp holds
      have before := pending other held holds
      cases held with
      | produce => exact absurd (before.1.trans kept.1.symm) apart
      | consume => exact before
  | consume sessionId =>
    obtain ⟨_, sameWrite, _⟩ := m.data.touch_fields sessionId
    simp only [attempt]
    split
    · exact (pending_of_writePosition pending sameWrite).put_asleep kept
    · split
      · exact pending_of_writePosition pending.put_idle sameWrite
      · refine Monitor.Pending.notify (pending_of_writePosition pending.put_idle ?_)
        simp only [CircularQueue.take]
        split <;> exact sameWrite

/-- What one action can do: make an attempt at a call, or change the data and
notify. -/
inductive Effect (m : Threads K Id α n) : Action K Id α → Threads K Id α n → Prop where
  | attempt {t wait action} (kept : Kept m.data t wait) (harmless : Harmless m action) :
      Effect m action (attempt m t wait)
  | registerConsumer {sessionId} :
      Effect m (.registerConsumer sessionId) (m.set (m.data.registerConsumer sessionId))
  | unregisterConsumer {sessionId} :
      Effect m (.unregisterConsumer sessionId) (m.set (m.data.unregisterConsumer sessionId))
  | setExit : Effect m .setExit ((m.set m.data.setExit).notify fun _ => true)
  | setRun : Effect m .setRun ((m.set m.data.setRun).notify onNotFull)

theorem act_effect {action : Action K Id α} (pending : m.Pending Kept)
    (taken : act m action = some m') : Effect m action m' := by
  cases action with
  | produce item =>
    simp only [act] at taken
    split at taken
    · cases taken
      exact .attempt ⟨rfl, rfl⟩ trivial
    · contradiction
  | consume k id =>
    simp only [act] at taken
    split at taken
    · cases taken
      exact .attempt nofun trivial
    · contradiction
  | resume t =>
    simp only [act] at taken
    split at taken
    · rename_i wait held
      cases taken
      exact .attempt (pending t wait (Or.inl held)) trivial
    · contradiction
  | registerConsumer => cases taken; exact .registerConsumer
  | unregisterConsumer => cases taken; exact .unregisterConsumer
  | setExit => cases taken; exact .setExit
  | setRun => cases taken; exact .setRun

theorem act_pending {action : Action K Id α} (pending : m.Pending Kept)
    (taken : act m action = some m') : m'.Pending Kept := by
  cases act_effect pending taken with
  | attempt kept => exact attempt_pending pending kept
  | registerConsumer | unregisterConsumer => exact pending_of_writePosition pending rfl
  | setExit | setRun => exact (pending_of_writePosition pending rfl).notify

theorem proceed_cases {call : Action K Id α} (went : proceed m t call = some m') :
    m.thread t = .idle ∧ act m call = some m' ∨ ∃ wait, m.thread t = .ready wait ∧ m' = attempt m t wait := by
  unfold proceed at went
  split at went
  · rename_i idle
    exact .inl ⟨idle, went⟩
  · simp only [act] at went
    split at went
    · rename_i wait held
      exact .inr ⟨wait, held, (Option.some.inj went).symm⟩
    · contradiction

/-- A producer that goes on tests the position behind the one it will write, for the item
of the call that it is inside of, if it is inside of one. -/
theorem proceed_produce {item : α} (pending : m.Pending (KeptBy mine)) (apart : ∀ id, ¬ mine none id)
    (went : proceed m none (.produce item) = some m') : ¬ m.Sleeps none ∧ ∃ held,
      (held = item ∨ (m.thread none).Holds (.produce held m.data.nextPosition)) ∧
      m' = attempt m none (.produce held m.data.nextPosition) := by
  rcases proceed_cases went with ⟨idle, acted⟩ | ⟨wait, held, rfl⟩
  · simp only [act, idle] at acted
    exact ⟨Monitor.not_sleeps_of_eq idle nofun, item, .inl rfl, (Option.some.inj acted).symm⟩
  · have kept := pending none wait (.inl held)
    refine ⟨Monitor.not_sleeps_of_eq held nofun, ?_⟩
    cases wait with
    | produce item next =>
      obtain ⟨_, rfl⟩ := kept
      exact ⟨item, .inr (.inl held), rfl⟩
    | consume id => exact absurd kept (apart id)

theorem proceed_consume {k : K} (pending : m.Pending (KeptBy mine))
    (own : ∀ other, mine (some k) other → other = id)
    (went : proceed m (some k) (.consume k id) = some m') :
    ¬ m.Sleeps (some k) ∧ m' = attempt m (some k) (.consume id) := by
  rcases proceed_cases went with ⟨idle, acted⟩ | ⟨wait, held, rfl⟩
  · simp only [act, idle] at acted
    exact ⟨Monitor.not_sleeps_of_eq idle nofun, (Option.some.inj acted).symm⟩
  · have kept := pending (some k) wait (.inl held)
    refine ⟨Monitor.not_sleeps_of_eq held nofun, ?_⟩
    cases wait with
    | produce => exact absurd kept.1 nofun
    | consume other =>
      obtain rfl := own other kept
      rfl

theorem proceed_produce_isSome {item : α} (awake : ¬ m.Sleeps none) :
    (proceed m none (.produce item)).isSome = true := by
  cases held : m.thread none with
  | idle | ready => simp [proceed, act, held]
  | asleep wait => exact absurd ⟨wait, held⟩ awake

theorem proceed_consume_isSome {k : K} (awake : ¬ m.Sleeps (some k)) :
    (proceed m (some k) (.consume k id)).isSome = true := by
  cases held : m.thread (some k) with
  | idle | ready => simp [proceed, act, held]
  | asleep wait => exact absurd ⟨wait, held⟩ awake

theorem attempt_produce (m : Threads K Id α n) (item : α) :
    m.data.produceWaits m.data.nextPosition = true ∧
      attempt m none (.produce item m.data.nextPosition) =
        m.put none (.asleep (.produce item m.data.nextPosition)) ∨
    ∃ q, m.data.produce item = some q ∧
      attempt m none (.produce item m.data.nextPosition) =
        ((m.put none .idle).set q).notify onNotEmpty := by
  simp only [attempt, produce]
  split
  · exact .inl ⟨‹_›, rfl⟩
  · exact .inr ⟨_, rfl, rfl⟩

theorem attempt_consume (m : Threads K Id α n) (k : K) (id : Id) :
    (m.data.touch id).consumeWaits id = true ∧
      attempt m (some k) (.consume id) =
        (m.set (m.data.touch id)).put (some k) (.asleep (.consume id)) ∨
    ∃ item q, m.data.consume id = some (item, q) ∧
      attempt m (some k) (.consume id) =
        if m.data.exit then (m.put (some k) .idle).set q
        else ((m.put (some k) .idle).set q).notify onNotFull := by
  have exit := (m.data.touch_fields id).1
  simp only [attempt, consume, exit]
  split
  · exact .inl ⟨‹_›, rfl⟩
  · refine .inr ⟨((m.data.touch id).take id).1, ((m.data.touch id).take id).2, rfl, ?_⟩
    split
    · rename_i exited
      rw [take_exited (exit.trans exited)]
    · rfl

omit [DecidableEq K] [Inhabited α] in
theorem registerConsumer_awake (awake : Awake m) (pending : m.Pending Kept)
    (harmless : Harmless m (.registerConsumer id)) :
    Awake (m.set (m.data.registerConsumer id)) := by
  intro t wait asleep
  have reason := awake t wait asleep
  cases wait with
  | produce item next =>
    obtain ⟨rfl, _⟩ := pending t _ (Or.inr asleep)
    obtain ⟨other, apart, pinned⟩ := harmless item next asleep
    exact ⟨reason.1, reason.2.1, other, registered_registerConsumer.mpr (by rwa [if_neg apart])⟩
  | consume sessionId =>
    refine ⟨reason.1, registered_registerConsumer.mpr ?_⟩
    split
    · rfl
    · exact reason.2

omit [DecidableEq K] [Inhabited α] in
theorem unregisterConsumer_awake (awake : Awake m) (pending : m.Pending Kept)
    (harmless : Harmless m (.unregisterConsumer id)) :
    Awake (m.set (m.data.unregisterConsumer id)) := by
  intro t wait asleep
  have reason := awake t wait asleep
  have kept := pending t wait (Or.inr asleep)
  cases wait with
  | produce item next =>
    obtain ⟨rfl, _⟩ := kept
    obtain ⟨other, apart, pinned⟩ := harmless.1 item next asleep
    exact ⟨reason.1, reason.2.1, other, registered_unregisterConsumer.mpr ⟨apart, pinned⟩⟩
  | consume sessionId =>
    obtain ⟨k, rfl⟩ := Option.ne_none_iff_exists'.mp kept
    have apart : sessionId ≠ id := by
      rintro rfl
      exact harmless.2 k asleep
    exact ⟨reason.1, registered_unregisterConsumer.mpr ⟨apart, reason.2⟩⟩

/-- Every other action keeps the sleepers justified, and so does a harmless
registration change. -/
theorem act_awake {action : Action K Id α} (awake : Awake m) (pending : m.Pending Kept)
    (harmless : Harmless m action) (taken : act m action = some m') : Awake m' := by
  cases act_effect pending taken with
  | attempt kept => exact attempt_awake awake pending kept
  | registerConsumer => exact registerConsumer_awake awake pending harmless
  | unregisterConsumer => exact unregisterConsumer_awake awake pending harmless
  | setExit => exact Monitor.sound_notify_iff.mpr fun _ _ _ missed => nomatch missed
  | setRun =>
    refine Monitor.sound_notify_iff.mpr fun t wait asleep missed => ?_
    have reason := awake t wait asleep
    cases wait with
    | produce => simp [onNotFull] at missed
    | consume id => exact ⟨rfl, reason.2⟩

theorem proceed_awake {call : Action K Id α} (awake : Awake m) (pending : m.Pending Kept)
    (harmless : Harmless m call) (went : proceed m t call = some m') : Awake m' := by
  unfold proceed at went
  split at went
  · exact act_awake awake pending harmless went
  · have resumes : Harmless m (.resume t : Action K Id α) := trivial
    exact act_awake awake pending resumes went

/-- With two slots or more a registration change that is not harmless leaves
somebody asleep for no reason. -/
theorem harmless_of_awake {action : Action K Id α} (large : 2 ≤ n) (pending : m.Pending Kept)
    (taken : act m action = some m') (awake' : Awake m') : Harmless m action := by
  cases act_effect pending taken with
  | attempt _ harmless => exact harmless
  | setExit | setRun => trivial
  | registerConsumer =>
    intro item next asleep
    obtain ⟨_, same, other, pinned⟩ := awake' none _ asleep
    rw [Monitor.set, registered_registerConsumer] at pinned
    split at pinned
    · have written : m.data.writePosition = Ring.succ m.data.writePosition := pinned.trans same
      exact absurd written.symm (Ring.succ_ne large _)
    · rename_i apart
      exact ⟨other, apart, pinned⟩
  | unregisterConsumer =>
    constructor
    · intro item next asleep
      obtain ⟨_, _, other, pinned⟩ := awake' none _ asleep
      obtain ⟨apart, pinned⟩ := registered_unregisterConsumer.mp pinned
      exact ⟨other, apart, pinned⟩
    · intro k asleep
      obtain ⟨_, drained⟩ := awake' (some k) _ asleep
      exact (registered_unregisterConsumer.mp drained).1 rfl

omit [DecidableEq K] in
theorem start_awake (positive : 0 < n) : Awake (start n positive : Threads K Id α n) :=
  fun _ _ asleep => nomatch asleep

omit [DecidableEq Id] [DecidableEq K] in
theorem start_pending (positive : 0 < n) : (start n positive : Threads K Id α n).Pending Kept := by
  rintro t wait (⟨⟨⟩⟩ | ⟨⟨⟩⟩)

/-- In a run whose registration changes are all harmless nobody sleeps without
its reason, and with two slots or more these are the only such runs. -/
theorem awake_iff_harmless (positive : 0 < n) {trace : List (Action K Id α)} :
    (∀ m, Transition.Run (Transition.Guarded Harmless (Transition.Takes act)) (start n positive)
        trace m → Awake m) ∧
    (2 ≤ n → ∀ m : Threads K Id α n,
      Transition.Run (fun m action m' => act m action = some m' ∧ Awake m') (start n positive) trace m →
        Transition.Run (Transition.Guarded Harmless (Transition.Takes act)) (start n positive)
          trace m) := by
  constructor
  · intro m run
    refine (run.invariant (P := fun m => Awake m ∧ m.Pending Kept)
      ⟨start_awake positive, start_pending positive⟩ ?_).1
    rintro m action m' ⟨awake, pending⟩ ⟨harmless, taken⟩
    exact ⟨act_awake awake pending harmless taken, act_pending pending taken⟩
  · intro large m run
    refine (run.history (P := fun trace m =>
      Transition.Run (Transition.Guarded Harmless (Transition.Takes act)) (start n positive)
        trace m ∧ m.Pending Kept) ⟨.start, start_pending positive⟩ ?_).1
    rintro trace m action m' ⟨run, pending⟩ ⟨taken, awake'⟩
    exact ⟨.snoc run ⟨harmless_of_awake large pending taken awake', taken⟩, act_pending pending taken⟩

/-- Two slots, one consumer: the second `produce` sleeps with its reason. -/
theorem awake_iff_harmless_two :
    ∃ m : Threads Nat Nat Nat 2, m.thread none = .asleep (.produce 8 0) ∧ Awake m := by
  have run : Transition.Run (Transition.Guarded Harmless (Transition.Takes act))
      (start 2 (by decide) : Threads Nat Nat Nat 2)
      ([] ++ [.registerConsumer 0] ++ [.produce 7] ++ [.produce 8]) _ :=
    .snoc (.snoc (.snoc .start ⟨nofun, rfl⟩) ⟨trivial, rfl⟩) ⟨trivial, rfl⟩
  exact ⟨_, rfl, (awake_iff_harmless (by decide)).1 _ run⟩

/-- An H.264 track's queue has 25 slots. Viewer 0 never plays and the producer
fills the ring against its slot; viewer 1 drains its backlog and sleeps; viewer 0
leaves, and the producer sleeps on although no consumer holds its next slot. -/
theorem unregisterConsumer_loses_wakeup :
    ¬ ∀ (trace : List (Action Unit Nat Nat)) (m : Threads Unit Nat Nat 25),
      Transition.Run (Transition.Takes act) (start 25 (by decide)) trace m → Awake m := by
  intro claim
  obtain ⟨trace, outcome⟩ : ∃ trace : List (Action Unit Nat Nat),
      (trace.foldlM act (start 25 (by decide))).map
        (fun m => (m.thread none, m.data.isPositionInUse 0)) =
          some (.asleep (.produce 7 0), false) :=
    ⟨[.registerConsumer 0, .registerConsumer 1] ++ List.replicate 25 (.produce 7) ++
      List.replicate 24 (.consume () 1) ++ [.resume none, .consume () 1, .unregisterConsumer 0],
      by decide +kernel⟩
  obtain ⟨m, done, same⟩ := Option.map_eq_some_iff.mp outcome
  obtain ⟨asleep, free⟩ := Prod.mk.inj same
  obtain ⟨_, _, pinned⟩ := claim trace m (.of_foldlM done) none _ asleep
  rw [isPositionInUse_iff.mpr pinned] at free
  contradiction

end TinyRtsp.CircularQueue
