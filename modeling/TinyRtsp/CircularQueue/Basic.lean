import Mathlib.Data.List.AList
import TinyRtsp.Foundation.Ring

/-! The queue a track shares with its viewers. Every function is one critical
section under `mutex_`; a wait is split into the test made before sleeping and
the code that runs once the test fails, so that the same parts serve the atomic
reading of a call and the one that sleeps and wakes. -/
namespace TinyRtsp

/-- `n` is `buffer_.size()`. Positions are slots of the buffer by type: the
source only ever stores 0 or a value taken modulo the size. -/
structure CircularQueue (Id α : Type) (n : Nat) where
  buffer : Vector α n
  writePosition : Fin n
  consumerPositions : AList fun _ : Id => Fin n
  exit : Bool

namespace CircularQueue
variable {Id α : Type} {n : Nat}

/-- `CircularQueue(size_t capacity)`; `std::vector` default-initialises its slots. -/
def make [Inhabited α] (n : Nat) (positive : 0 < n) : CircularQueue Id α n where
  buffer := Vector.replicate n default
  writePosition := ⟨0, positive⟩
  consumerPositions := ∅
  exit := false

def setExit (q : CircularQueue Id α n) : CircularQueue Id α n := { q with exit := true }

def isExit (q : CircularQueue Id α n) : Bool := q.exit

def setRun (q : CircularQueue Id α n) : CircularQueue Id α n := { q with exit := false }

def noConsumer (q : CircularQueue Id α n) : Bool := q.consumerPositions.entries.isEmpty

def isPositionInUse (q : CircularQueue Id α n) (position : Fin n) : Bool :=
  q.consumerPositions.entries.any fun consumer => decide (consumer.2 = position)

def nextPosition (q : CircularQueue Id α n) : Fin n := Ring.succ q.writePosition

def produceWaits (q : CircularQueue Id α n) (nextPosition : Fin n) : Bool :=
  q.isPositionInUse nextPosition && !q.exit

/-- `produce` after its loop. -/
def store (q : CircularQueue Id α n) (item : α) (nextPosition : Fin n) : CircularQueue Id α n :=
  { q with buffer := q.buffer.set q.writePosition item, writePosition := nextPosition }

variable [DecidableEq Id]

/-- The value of `consumer_positions_[session_id]`, 0 for a key it inserts. -/
def position (q : CircularQueue Id α n) (sessionId : Id) : Fin n :=
  (q.consumerPositions.lookup sessionId).getD ⟨0, Nat.zero_lt_of_lt q.writePosition.isLt⟩

/-- The side effect of `consumer_positions_[session_id]` on the map. -/
def touch (q : CircularQueue Id α n) (sessionId : Id) : CircularQueue Id α n :=
  if sessionId ∈ q.consumerPositions then q
  else { q with consumerPositions := q.consumerPositions.insert sessionId (q.position sessionId) }

def consumeWaits (q : CircularQueue Id α n) (sessionId : Id) : Bool :=
  decide (q.position sessionId = q.writePosition) && !q.exit

/-- `consume` after its loop. -/
def take [Inhabited α] (q : CircularQueue Id α n) (sessionId : Id) : α × CircularQueue Id α n :=
  if q.exit then (default, q)
  else
    (q.buffer[q.position sessionId],
      { q with
        consumerPositions :=
          q.consumerPositions.insert sessionId (Ring.succ (q.position sessionId)) })

/-- A whole `produce` as one step; `none` while it would sleep. -/
def produce (q : CircularQueue Id α n) (item : α) : Option (CircularQueue Id α n) :=
  if q.produceWaits q.nextPosition then none else some (q.store item q.nextPosition)

/-- A whole `consume` as one step; `none` while it would sleep. -/
def consume [Inhabited α] (q : CircularQueue Id α n) (sessionId : Id) :
    Option (α × CircularQueue Id α n) :=
  if (q.touch sessionId).consumeWaits sessionId then none
  else some ((q.touch sessionId).take sessionId)

def registerConsumer (q : CircularQueue Id α n) (sessionId : Id) : CircularQueue Id α n :=
  { q with consumerPositions := q.consumerPositions.insert sessionId q.writePosition }

def unregisterConsumer (q : CircularQueue Id α n) (sessionId : Id) : CircularQueue Id α n :=
  { q with consumerPositions := q.consumerPositions.erase sessionId }

def Registered (q : CircularQueue Id α n) (sessionId : Id) (position : Fin n) : Prop :=
  q.consumerPositions.lookup sessionId = some position

variable {q : CircularQueue Id α n} {id other : Id} {p : Fin n}

theorem isPositionInUse_iff : q.isPositionInUse p = true ↔ ∃ id, q.Registered id p := by
  simp only [isPositionInUse, List.any_eq_true, decide_eq_true_eq, Registered]
  constructor
  · rintro ⟨⟨id, _⟩, member, rfl⟩
    exact ⟨id, AList.mem_lookup_iff.mpr member⟩
  · rintro ⟨id, found⟩
    exact ⟨⟨id, p⟩, AList.mem_lookup_iff.mp found, rfl⟩

theorem Registered.position (at_p : q.Registered id p) : q.position id = p := by
  simp only [CircularQueue.position, show q.consumerPositions.lookup id = some p from at_p,
    Option.getD_some]

theorem Registered.mem (at_p : q.Registered id p) : id ∈ q.consumerPositions :=
  AList.lookup_isSome.mp (Option.isSome_iff_exists.mpr ⟨p, at_p⟩)

theorem Registered.touch (at_p : q.Registered id p) : q.touch id = q := by
  simp only [CircularQueue.touch, at_p.mem, if_true]

theorem touch_registered (q : CircularQueue Id α n) (id : Id) :
    (q.touch id).Registered id (q.position id) := by
  unfold CircularQueue.touch
  split
  · rename_i member
    obtain ⟨p, found⟩ := Option.isSome_iff_exists.mp (AList.lookup_isSome.mpr member)
    rw [Registered.position found]
    exact found
  · exact AList.lookup_insert _

theorem Registered.touch_other (at_p : q.Registered id p) : (q.touch other).Registered id p := by
  unfold CircularQueue.touch
  split
  · exact at_p
  · rename_i absent
    have apart : id ≠ other := by
      rintro rfl
      exact absent at_p.mem
    exact (AList.lookup_insert_ne apart).trans at_p

theorem registered_touch_ne (apart : id ≠ other) :
    (q.touch other).Registered id p ↔ q.Registered id p := by
  unfold CircularQueue.touch
  split
  · rfl
  · unfold Registered
    rw [AList.lookup_insert_ne apart]

theorem touch_fields (q : CircularQueue Id α n) (id : Id) :
    (q.touch id).exit = q.exit ∧ (q.touch id).writePosition = q.writePosition ∧
      (q.touch id).buffer = q.buffer := by
  unfold CircularQueue.touch
  split <;> exact ⟨rfl, rfl, rfl⟩

@[simp] theorem registered_store {x : α} {next : Fin n} :
    (q.store x next).Registered id p ↔ q.Registered id p := Iff.rfl

theorem registered_registerConsumer :
    (q.registerConsumer other).Registered id p ↔
      if id = other then q.writePosition = p else q.Registered id p := by
  unfold Registered registerConsumer
  split
  · subst other
    simp [AList.lookup_insert]
  · rename_i apart
    rw [AList.lookup_insert_ne apart]

theorem registered_unregisterConsumer :
    (q.unregisterConsumer other).Registered id p ↔ id ≠ other ∧ q.Registered id p := by
  unfold Registered unregisterConsumer
  by_cases same : id = other
  · subst other
    simp [AList.lookup_erase]
  · simp [AList.lookup_erase_ne same, same]

theorem registered_take [Inhabited α] (running : q.exit = false) :
    (q.take other).2.Registered id p ↔
      if id = other then Ring.succ (q.position other) = p else q.Registered id p := by
  simp only [Registered, take, running, Bool.false_eq_true, if_false]
  split
  · subst other
    simp [AList.lookup_insert]
  · rename_i apart
    rw [AList.lookup_insert_ne apart]

theorem take_exited [Inhabited α] (exited : q.exit = true) : q.take id = (default, q) := by
  simp only [take, exited, if_true]

/-- What a completed `consume` does: nothing once `exit_` is set, and else it takes
the item at the consumer's position, which is not the write position. -/
theorem consume_cases [Inhabited α] {item : α} {q' : CircularQueue Id α n}
    (taken : q.consume other = some (item, q')) :
    q.exit = true ∧ item = default ∧ q' = q.touch other ∨
    q.exit = false ∧ q.position other ≠ q.writePosition ∧ item = q.buffer[q.position other] ∧
      q'.exit = false ∧ q'.writePosition = q.writePosition ∧ q'.buffer = q.buffer ∧
      ∀ id p, q'.Registered id p ↔
        if id = other then Ring.succ (q.position other) = p else q.Registered id p := by
  obtain ⟨exit, write, buffer⟩ := touch_fields q other
  have position := (touch_registered q other).position
  unfold consume at taken
  split at taken
  · contradiction
  · rename_i goes
    have pair : (q.touch other).take other = (item, q') := Option.some.inj taken
    cases running : q.exit with
    | true =>
      rw [take_exited (exit.trans running)] at pair
      obtain ⟨rfl, rfl⟩ := Prod.mk.inj pair
      exact .inl ⟨rfl, rfl, rfl⟩
    | false =>
      have moving : (q.touch other).exit = false := exit.trans running
      have notDrained : q.position other ≠ q.writePosition := by
        simpa [consumeWaits, moving, position, write] using goes
      have registered id p : ((q.touch other).take other).2.Registered id p ↔
          if id = other then Ring.succ ((q.touch other).position other) = p
          else (q.touch other).Registered id p :=
        registered_take moving
      rw [pair, position] at registered
      simp only [take, moving, Bool.false_eq_true, if_false, position, buffer] at pair
      obtain ⟨rfl, rfl⟩ := Prod.mk.inj pair
      refine .inr ⟨rfl, notDrained, rfl, rfl, write, rfl, fun id p => ?_⟩
      rw [registered id p]
      split
      · rfl
      · exact registered_touch_ne ‹_›

theorem exit_consume [Inhabited α] {item : α} {q' : CircularQueue Id α n}
    (taken : q.consume other = some (item, q')) : q'.exit = q.exit := by
  rcases consume_cases taken with ⟨_, _, rfl⟩ | ⟨running, _, _, still, _⟩
  · exact (touch_fields _ _).1
  · exact still.trans running.symm

omit [DecidableEq Id] in
theorem produce_cases {item : α} {q' : CircularQueue Id α n} (stored : q.produce item = some q') :
    ¬ q.produceWaits q.nextPosition = true ∧ q' = q.store item q.nextPosition := by
  unfold produce at stored
  split at stored
  · contradiction
  · exact ⟨‹_›, (Option.some.inj stored).symm⟩

omit [DecidableEq Id] in
theorem exit_produce {item : α} {q' : CircularQueue Id α n}
    (stored : q.produce item = some q') : q'.exit = q.exit := by
  obtain ⟨_, rfl⟩ := produce_cases stored
  rfl

theorem mem_touch : other ∈ (q.touch id).consumerPositions ↔ other = id ∨ other ∈ q.consumerPositions := by
  unfold touch
  split
  · rename_i member
    constructor
    · exact .inr
    · rintro (rfl | before)
      · exact member
      · exact before
  · exact AList.mem_insert _

theorem mem_take [Inhabited α] (member : id ∈ q.consumerPositions) :
    other ∈ (q.take id).2.consumerPositions ↔ other ∈ q.consumerPositions := by
  unfold take
  split
  · rfl
  · refine (AList.mem_insert _).trans ?_
    constructor
    · rintro (rfl | before)
      · exact member
      · exact before
    · exact .inr

theorem mem_consume [Inhabited α] {item : α} {q' : CircularQueue Id α n}
    (member : id ∈ q.consumerPositions) (taken : q.consume id = some (item, q')) :
    other ∈ q'.consumerPositions ↔ other ∈ q.consumerPositions := by
  have touched : q.touch id = q := if_pos member
  unfold consume at taken
  rw [touched] at taken
  split at taken
  · contradiction
  · obtain rfl := congrArg Prod.snd (Option.some.inj taken)
    exact mem_take member

omit [DecidableEq Id] in
theorem notMem_of_noConsumer (empty : q.noConsumer = true) : id ∉ q.consumerPositions := by
  have entries : q.consumerPositions.entries = [] := List.isEmpty_iff.mp empty
  rw [AList.mem_keys, AList.keys, entries]
  exact List.not_mem_nil

omit [DecidableEq Id] in
theorem noConsumer_iff : q.noConsumer = true ↔ ∀ id, id ∉ q.consumerPositions := by
  constructor
  · exact fun empty id => notMem_of_noConsumer empty
  · intro none
    refine List.isEmpty_iff.mpr (List.eq_nil_iff_forall_not_mem.mpr fun consumer member => ?_)
    exact none consumer.1 (List.mem_map_of_mem member)

theorem produceWaits_iff {next : Fin n} :
    q.produceWaits next = true ↔ (∃ id, q.Registered id next) ∧ q.exit = false := by
  simp only [produceWaits, Bool.and_eq_true, Bool.not_eq_true', isPositionInUse_iff]

theorem consumeWaits_iff :
    q.consumeWaits id = true ↔ q.position id = q.writePosition ∧ q.exit = false := by
  simp only [consumeWaits, Bool.and_eq_true, Bool.not_eq_true', decide_eq_true_eq]

end CircularQueue
end TinyRtsp
