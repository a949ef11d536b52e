import TinyRtsp.CircularQueue.Wakeup

/-! Which ids the queue's map has. `register_consumer` and `unregister_consumer` are
meant to decide it alone, but `consume` reads its position with an access that
inserts the key, before it sleeps and after each time it wakes. -/
namespace TinyRtsp.CircularQueue
variable {Id α K : Type} {n : Nat}

def Action.enrols (id : Id) (now : Prop) : Action K Id α → Prop
  | .registerConsumer sessionId => id = sessionId ∨ now
  | .unregisterConsumer sessionId => id ≠ sessionId ∧ now
  | _ => now

/-- The id has been registered, and not unregistered since. -/
def Enrolled (trace : List (Action K Id α)) (id : Id) : Prop :=
  trace.foldl (Action.enrols id) False

def attempted (m : Threads K Id α n) : Action K Id α → Option Id
  | .consume _ sessionId => some sessionId
  | .resume t =>
    match m.thread t with
    | .ready (.consume sessionId) => some sessionId
    | _ => none
  | _ => none

/-- The map has the id of every `consume` that tests its condition, at its start or
after it has woken. -/
def Present (m : Threads K Id α n) (action : Action K Id α) : Prop :=
  ∀ id ∈ attempted m action, id ∈ m.data.consumerPositions

instance [DecidableEq Id] (m : Threads K Id α n) (action : Action K Id α) : Decidable (Present m action) :=
  inferInstanceAs (Decidable (∀ id ∈ attempted m action, _))

/-- The map has the registered ids, and `no_consumer` says whether there are any. -/
structure Faithful (trace : List (Action K Id α)) (m : Threads K Id α n) : Prop where
  keys : ∀ id, id ∈ m.data.consumerPositions ↔ Enrolled trace id
  none : m.data.noConsumer = true ↔ ∀ id, ¬ Enrolled trace id

theorem faithful_iff {trace : List (Action K Id α)} {m : Threads K Id α n} :
    Faithful trace m ↔ ∀ id, id ∈ m.data.consumerPositions ↔ Enrolled trace id := by
  constructor
  · exact Faithful.keys
  · intro keys
    refine ⟨keys, noConsumer_iff.trans ?_⟩
    simp only [keys]

theorem enrolled_snoc {trace : List (Action K Id α)} {action : Action K Id α} {id : Id} :
    Enrolled (trace ++ [action]) id = action.enrols id (Enrolled trace id) := by
  rw [Enrolled, List.foldl_append]
  rfl

variable [DecidableEq Id] [DecidableEq K] [Inhabited α] {m m' : Threads K Id α n}
  {action : Action K Id α}

theorem mem_attempt_produce {t : Option K} {item : α} {next : Fin n} {id : Id} :
    id ∈ (attempt m t (.produce item next)).data.consumerPositions ↔ id ∈ m.data.consumerPositions := by
  simp only [attempt]
  split
  · exact Iff.rfl
  · exact Iff.rfl

theorem mem_attempt_consume {t : Option K} {sessionId id : Id} :
    id ∈ (attempt m t (.consume sessionId)).data.consumerPositions ↔
      id ∈ m.data.consumerPositions ∨ some sessionId = some id := by
  have touched : id ∈ (m.data.touch sessionId).consumerPositions ↔
      id ∈ m.data.consumerPositions ∨ some sessionId = some id := by
    rw [mem_touch, or_comm, Option.some.injEq, eq_comm]
  refine Iff.trans ?_ touched
  simp only [attempt]
  split
  · exact Iff.rfl
  · split
    · exact Iff.rfl
    · exact mem_take (mem_touch.mpr (.inl rfl))

theorem mem_act (taken : act m action = some m') (id : Id) : id ∈ m'.data.consumerPositions ↔
    action.enrols id (id ∈ m.data.consumerPositions) ∨ attempted m action = some id := by
  cases action with
  | produce item =>
    simp only [act] at taken
    split at taken
    · obtain rfl := Option.some.inj taken
      simpa [Action.enrols, attempted] using mem_attempt_produce
    · contradiction
  | consume k sessionId =>
    simp only [act] at taken
    split at taken
    · obtain rfl := Option.some.inj taken
      exact mem_attempt_consume
    · contradiction
  | resume t =>
    simp only [act] at taken
    split at taken
    · rename_i wait ready
      obtain rfl := Option.some.inj taken
      cases wait with
      | produce item next => simpa [Action.enrols, attempted, ready] using mem_attempt_produce
      | consume sessionId =>
        simp only [attempted, ready]
        exact mem_attempt_consume
    · contradiction
  | registerConsumer sessionId =>
    obtain rfl := Option.some.inj taken
    have added : id ∈ (m.data.registerConsumer sessionId).consumerPositions ↔
        id = sessionId ∨ id ∈ m.data.consumerPositions := AList.mem_insert _
    simpa [Action.enrols, attempted, Monitor.set] using added
  | unregisterConsumer sessionId =>
    obtain rfl := Option.some.inj taken
    have removed : id ∈ (m.data.unregisterConsumer sessionId).consumerPositions ↔
        id ≠ sessionId ∧ id ∈ m.data.consumerPositions := AList.mem_erase
    simpa [Action.enrols, attempted, Monitor.set] using removed
  | setExit | setRun =>
    obtain rfl := Option.some.inj taken
    simp [Action.enrols, attempted, Monitor.notify, Monitor.set, setExit, setRun]

theorem faithful_act {trace : List (Action K Id α)} (faithful : Faithful trace m)
    (taken : act m action = some m') : Faithful (trace ++ [action]) m' ↔ Present m action := by
  have quiet {id : Id} (reads : attempted m action = some id) (now : Prop) :
      action.enrols id now ↔ now := by
    cases action with
    | consume | resume => exact Iff.rfl
    | produce | registerConsumer | unregisterConsumer | setExit | setRun => contradiction
  rw [faithful_iff, Present]
  refine forall_congr' fun id => ?_
  rw [mem_act taken, enrolled_snoc, ← propext (faithful.keys id)]
  constructor
  · intro same reads
    exact (quiet reads _).mp (same.mp (.inr reads))
  · intro present
    constructor
    · rintro (enrols | reads)
      · exact enrols
      · exact (quiet reads _).mpr (present reads)
    · exact .inl

/-- Along a run the map has just the registered ids if and only if the id of every
`consume` that tests its condition is in the map at that time. -/
theorem faithful_iff_present (positive : 0 < n) (trace : List (Action K Id α)) :
    (∀ m, Transition.Run (Transition.Guarded Present (Transition.Takes act)) (start n positive) trace m →
      Faithful trace m) ∧
    ∀ m : Threads K Id α n, Transition.Run (Transition.Takes act) (start n positive) trace m →
      (∀ before m₀, before <+: trace →
        Transition.Run (Transition.Takes act) (start n positive) before m₀ → Faithful before m₀) →
      Transition.Run (Transition.Guarded Present (Transition.Takes act)) (start n positive) trace m := by
  refine Transition.Run.guarded_history_iff ?_ faithful_act trace
  refine faithful_iff.mpr fun id => iff_of_false ?_ not_false
  exact AList.notMem_empty id

/-- A viewer that sleeps in `consume` is woken by `set_exit` and then leaves. -/
theorem faithful_iff_present_one : ∃ m : Threads Unit Nat Nat 25, m.data.noConsumer = true ∧
    Faithful [.registerConsumer 7, .consume () 7, .setExit, .resume (some ()), .unregisterConsumer 7] m := by
  let trace : List (Action Unit Nat Nat) :=
    [.registerConsumer 7, .consume () 7, .setExit, .resume (some ()), .unregisterConsumer 7]
  have outcome : (trace.foldlM (Transition.checked Present act) (start 25 (by decide))).map
      (fun m => m.data.noConsumer) = some true := by decide +kernel
  obtain ⟨m, done, none⟩ := Option.map_eq_some_iff.mp outcome
  exact ⟨m, none, (faithful_iff_present (by decide) trace).1 m (.of_checked done)⟩

/-- A viewer is unregistered while it sleeps in `consume`, and puts itself back when
`set_exit` wakes it. -/
theorem consume_after_unregister_inserts :
    ¬ ∀ (trace : List (Action Unit Nat Nat)) (m : Threads Unit Nat Nat 25),
      Transition.Run (Transition.Takes act) (start 25 (by decide)) trace m → Faithful trace m := by
  intro claim
  let trace : List (Action Unit Nat Nat) :=
    [.registerConsumer 7, .consume () 7, .unregisterConsumer 7, .setExit, .resume (some ())]
  have outcome : (trace.foldlM act (start 25 (by decide))).map (fun m => m.data.consumerPositions.keys) =
      some [7] := by decide +kernel
  obtain ⟨m, done, keys⟩ := Option.map_eq_some_iff.mp outcome
  have member : 7 ∈ m.data.consumerPositions := by
    rw [AList.mem_keys, keys]
    exact List.mem_cons_self
  have enrolled := ((claim trace m (.of_foldlM done)).keys 7).mp member
  exact enrolled.1 rfl

end TinyRtsp.CircularQueue
