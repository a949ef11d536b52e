import Mathlib.Logic.Function.Basic
import TinyRtsp.CircularQueue.Basic
import TinyRtsp.Foundation.Transition

/-! Calls on the queue as single steps, and what they mean: one FIFO of
capacity `n - 1` for each registered consumer. The ring keeps one slot unused,
so the window from a consumer's position to the write position is that
consumer's backlog and its length decides both waits. -/
namespace TinyRtsp.CircularQueue
open Transition

inductive Operation (Id α : Type) where
  | registerConsumer (id : Id)
  | unregisterConsumer (id : Id)
  | produce (item : α)
  | consume (id : Id)
  | setExit
  | setRun

/-- A completed call with its result. `released` is a consume that found `exit_`
set and returned `T()`. -/
inductive Event (Id α : Type) where
  | registered (id : Id)
  | unregistered (id : Id)
  | produced (item : α)
  | consumed (id : Id) (item : α)
  | released (id : Id) (item : α)
  | exited
  | running

variable {Id α : Type} {n : Nat} [DecidableEq Id] [Inhabited α]

/-- The call as one critical section; `none` while it waits. -/
def exec (q : CircularQueue Id α n) : Operation Id α → Option (Event Id α × CircularQueue Id α n)
  | .registerConsumer id => some (.registered id, q.registerConsumer id)
  | .unregisterConsumer id => some (.unregistered id, q.unregisterConsumer id)
  | .produce item => (q.produce item).map fun q' => (.produced item, q')
  | .consume id => (q.consume id).map fun (item, q') =>
      (if q.exit then .released id item else .consumed id item, q')
  | .setExit => some (.exited, q.setExit)
  | .setRun => some (.running, q.setRun)

/-- Only registered consumers call `consume`. -/
def Caller (q : CircularQueue Id α n) : Operation Id α → Prop
  | .consume id => ∃ p, q.Registered id p
  | _ => True

/-- One completed call. A `produce` that `set_exit` let through would overwrite
unread slots, so it completes only while `exit_` is false. -/
def Step (q : CircularQueue Id α n) (event : Event Id α) (q' : CircularQueue Id α n) : Prop :=
  ∃ op, q.Caller op ∧ (∀ item, op = .produce item → q.exit = false) ∧
    q.exec op = some (event, q')

end CircularQueue

/-- The purpose of the queue: a FIFO for each registered consumer. -/
structure Fifos (Id α : Type) where
  backlog : Id → Option (List α)
  exit : Bool

namespace Fifos
open CircularQueue (Event Operation)
variable {Id α : Type} [DecidableEq Id] [Inhabited α]

def empty : Fifos Id α := ⟨fun _ => none, false⟩

inductive Step (capacity : Nat) : Fifos Id α → Event Id α → Fifos Id α → Prop where
  | register : Step capacity f (.registered key)
      { f with backlog := Function.update f.backlog key (some []) }
  | unregister : Step capacity f (.unregistered key)
      { f with backlog := Function.update f.backlog key none }
  | produce : f.exit = false →
      (∀ key items, f.backlog key = some items → items.length < capacity) →
      Step capacity f (.produced item)
        { f with backlog := fun key => (f.backlog key).map (· ++ [item]) }
  | consume : f.exit = false → f.backlog key = some (item :: rest) →
      Step capacity f (.consumed key item)
        { f with backlog := Function.update f.backlog key (some rest) }
  | release : f.exit = true → Step capacity f (.released key default) f
  | setExit : Step capacity f .exited { f with exit := true }
  | setRun : Step capacity f .running { f with exit := false }

def Blocked (capacity : Nat) (f : Fifos Id α) : Operation Id α → Prop
  | .produce _ => f.exit = false ∧ ∃ id items, f.backlog id = some items ∧ items.length = capacity
  | .consume id => f.exit = false ∧ f.backlog id = some []
  | _ => False

/-- What was produced for and received by one consumer since it registered. -/
structure Delivery (α : Type) where
  produced : List α
  received : List α

def Delivery.extend (id : Id) (delivery : Option (Delivery α)) : Event Id α → Option (Delivery α)
  | .registered other => if other = id then some ⟨[], []⟩ else delivery
  | .unregistered other => if other = id then none else delivery
  | .produced item => delivery.map fun d => { d with produced := d.produced ++ [item] }
  | .consumed other item =>
      if other = id then delivery.map fun d => { d with received := d.received ++ [item] } else delivery
  | _ => delivery

def sinceRegistration (id : Id) (trace : List (Event Id α)) : Option (Delivery α) :=
  trace.foldl (Delivery.extend id) none

/-- Nothing is lost, duplicated or reordered: what was produced for a consumer
is what it received followed by what still waits for it. -/
theorem delivery_of_run {capacity : Nat} {trace : List (Event Id α)} {f : Fifos Id α}
    (run : Transition.Run (Step capacity) empty trace f) (id : Id) :
    sinceRegistration id trace = none ∧ f.backlog id = none ∨
      ∃ received backlog, f.backlog id = some backlog ∧
        sinceRegistration id trace = some ⟨received ++ backlog, received⟩ := by
  refine run.history
    (P := fun trace (f : Fifos Id α) => sinceRegistration id trace = none ∧ f.backlog id = none ∨
      ∃ received backlog, f.backlog id = some backlog ∧
        sinceRegistration id trace = some ⟨received ++ backlog, received⟩)
    (Or.inl ⟨rfl, rfl⟩) ?_
  intro trace f event f' ih taken
  have extended : sinceRegistration id (trace ++ [event]) =
      Delivery.extend id (sinceRegistration id trace) event := by
    simp only [sinceRegistration, List.foldl_append, List.foldl_cons, List.foldl_nil]
  rw [extended]
  cases taken with
  | @register _ other =>
    by_cases same : other = id
    · subst other
      exact Or.inr ⟨[], [], by simp, by simp [Delivery.extend]⟩
    · simpa [Delivery.extend, same, Function.update_of_ne (Ne.symm same)] using ih
  | @unregister _ other =>
    by_cases same : other = id
    · subst other
      exact Or.inl ⟨by simp [Delivery.extend], by simp⟩
    · simpa [Delivery.extend, same, Function.update_of_ne (Ne.symm same)] using ih
  | @produce _ item =>
    obtain ⟨fresh, absent⟩ | ⟨received, backlog, waiting, since⟩ := ih
    · exact Or.inl ⟨by simp [Delivery.extend, fresh], by simp [absent]⟩
    · exact Or.inr ⟨received, backlog ++ [item], by simp [waiting], by simp [Delivery.extend, since]⟩
  | @consume item rest _ other _ head =>
    by_cases same : other = id
    · subst other
      obtain ⟨_, absent⟩ | ⟨received, backlog, waiting, since⟩ := ih
      · rw [absent] at head
        contradiction
      · obtain rfl : backlog = item :: rest := Option.some.inj (waiting.symm.trans head)
        exact Or.inr ⟨received ++ [item], rest, by simp, by simp [Delivery.extend, since]⟩
    · simpa [Delivery.extend, same, Function.update_of_ne (Ne.symm same)] using ih
  | release => exact ih
  | setExit => exact ih
  | setRun => exact ih

def produced (trace : List (Event Id α)) : List α :=
  trace.filterMap fun
    | .produced item => some item
    | _ => none

omit [Inhabited α] in
theorem produced_suffix {id : Id} {trace : List (Event Id α)} {d : Delivery α}
    (since : sinceRegistration id trace = some d) : d.produced <:+ produced trace := by
  induction trace using List.reverseRecOn generalizing d with
  | nil => contradiction
  | append_singleton trace event ih =>
    rw [sinceRegistration, List.foldl_append] at since
    rw [produced, List.filterMap_append]
    have longer {d' : Delivery α} (before : sinceRegistration id trace = some d') :
        d'.produced <:+ produced trace ++ [] := by
      rw [List.append_nil]
      exact ih before
    cases event with
    | registered other =>
      by_cases same : other = id
      · obtain rfl := Option.some.inj ((if_pos same).symm.trans since)
        exact List.nil_suffix
      · exact longer ((if_neg same).symm.trans since)
    | unregistered other =>
      by_cases same : other = id
      · cases (if_pos same).symm.trans since
      · exact longer ((if_neg same).symm.trans since)
    | produced item =>
      obtain ⟨before, earlier, rfl⟩ := Option.map_eq_some_iff.mp since
      obtain ⟨front, whole⟩ := ih earlier
      exact ⟨front, by rw [← List.append_assoc, whole]; rfl⟩
    | consumed other item =>
      by_cases same : other = id
      · obtain ⟨before, earlier, rfl⟩ := Option.map_eq_some_iff.mp ((if_pos same).symm.trans since)
        exact @longer before earlier
      · exact longer ((if_neg same).symm.trans since)
    | released other item => exact longer since
    | exited => exact longer since
    | running => exact longer since

end Fifos

namespace CircularQueue
variable {Id α : Type} {n : Nat} [DecidableEq Id]

/-- A queue represents the FIFOs whose contents are its consumers' windows. -/
structure Represents (q : CircularQueue Id α n) (f : Fifos Id α) : Prop where
  exit : q.exit = f.exit
  keys : ∀ id, (∃ p, q.Registered id p) ↔ ∃ items, f.backlog id = some items
  window : ∀ {id p items}, q.Registered id p → f.backlog id = some items →
    Ring.Window q.buffer p items q.writePosition
  fits : ∀ {id items}, f.backlog id = some items → items.length < n

namespace Represents
variable {q : CircularQueue Id α n} {f : Fifos Id α} {id : Id}

theorem make [Inhabited α] (positive : 0 < n) : Represents (.make n positive) (Fifos.empty : Fifos Id α) where
  exit := rfl
  keys _ := ⟨fun ⟨_, found⟩ => by simp [Registered, CircularQueue.make] at found, fun ⟨_, h⟩ => nomatch h⟩
  window _ h := nomatch h
  fits h := nomatch h

theorem registered (rel : Represents q f) {items : List α} (waiting : f.backlog id = some items) :
    q.Registered id (q.position id) := by
  obtain ⟨p, at_p⟩ := (rel.keys id).mpr ⟨items, waiting⟩
  rw [at_p.position]
  exact at_p

theorem empty_iff (rel : Represents q f) {items : List α} (waiting : f.backlog id = some items) :
    q.position id = q.writePosition ↔ items = [] :=
  (rel.window (rel.registered waiting) waiting).start_eq_end_iff (rel.fits waiting)

theorem full_iff (rel : Represents q f) :
    (∃ id, q.Registered id q.nextPosition) ↔
      ∃ id items, f.backlog id = some items ∧ items.length = n - 1 := by
  constructor
  · rintro ⟨id, pinned⟩
    obtain ⟨items, waiting⟩ := (rel.keys id).mp ⟨_, pinned⟩
    have full := ((rel.window pinned waiting).start_eq_succ_end_iff (rel.fits waiting)).mp rfl
    exact ⟨id, items, waiting, by omega⟩
  · rintro ⟨id, items, waiting, full⟩
    have here := rel.registered waiting
    have bound := rel.fits waiting
    have pinned := ((rel.window here waiting).start_eq_succ_end_iff bound).mpr (by omega)
    exact ⟨id, show q.Registered id (Ring.succ q.writePosition) from pinned ▸ here⟩

theorem setExit (rel : Represents q f) : Represents q.setExit { f with exit := true } :=
  ⟨rfl, rel.keys, rel.window, rel.fits⟩

theorem setRun (rel : Represents q f) : Represents q.setRun { f with exit := false } :=
  ⟨rfl, rel.keys, rel.window, rel.fits⟩

theorem registerConsumer (rel : Represents q f) (nonempty : 0 < n) :
    Represents (q.registerConsumer id)
      { f with backlog := Function.update f.backlog id (some []) } where
  exit := rel.exit
  keys other := by
    by_cases same : other = id
    · subst other
      simp [registered_registerConsumer]
    · simpa [registered_registerConsumer, same] using rel.keys other
  window {other p items} here waiting := by
    rw [registered_registerConsumer] at here
    by_cases same : other = id
    · subst other
      simp only [if_true] at here
      obtain rfl : [] = items := by simpa using waiting
      exact here.symm
    · exact rel.window (by simpa [same] using here) (by simpa [same] using waiting)
  fits {other items} waiting := by
    by_cases same : other = id
    · subst other
      obtain rfl : [] = items := by simpa using waiting
      exact nonempty
    · have waiting : f.backlog other = some items := by simpa [same] using waiting
      exact rel.fits waiting

theorem unregisterConsumer (rel : Represents q f) :
    Represents (q.unregisterConsumer id) { f with backlog := Function.update f.backlog id none } where
  exit := rel.exit
  keys other := by
    by_cases same : other = id
    · subst other
      simp [registered_unregisterConsumer]
    · simpa [registered_unregisterConsumer, same] using rel.keys other
  window {other p items} here waiting := by
    obtain ⟨apart, here⟩ := registered_unregisterConsumer.mp here
    exact rel.window here (by simpa [apart] using waiting)
  fits {other items} waiting := by
    by_cases same : other = id
    · subst other
      simp at waiting
    · have waiting : f.backlog other = some items := by simpa [same] using waiting
      exact rel.fits waiting

theorem store (rel : Represents q f) (item : α)
    (room : ∀ id items, f.backlog id = some items → items.length < n - 1) :
    Represents (q.store item q.nextPosition)
      { f with backlog := fun id => (f.backlog id).map (· ++ [item]) } where
  exit := rel.exit
  keys other := by simpa using rel.keys other
  window {other p items} here waiting := by
    obtain ⟨before, held, rfl⟩ := Option.map_eq_some_iff.mp waiting
    exact (rel.window here held).push (rel.fits held) item
  fits {other items} waiting := by
    obtain ⟨before, held, rfl⟩ := Option.map_eq_some_iff.mp waiting
    have := room other before held
    simp only [List.length_append, List.length_singleton]
    omega

theorem take [Inhabited α] (rel : Represents q f) (running : q.exit = false) {item : α}
    {rest : List α} (head : f.backlog id = some (item :: rest)) :
    (q.take id).1 = item ∧ Represents (q.take id).2
      { f with backlog := Function.update f.backlog id (some rest) } := by
  have here := rel.registered head
  have window := rel.window here head
  have bound := rel.fits head
  refine ⟨by simpa only [CircularQueue.take, running, Bool.false_eq_true, if_false] using window.1, ?_⟩
  have same_end : (q.take id).2.buffer = q.buffer ∧ (q.take id).2.writePosition = q.writePosition ∧
      (q.take id).2.exit = q.exit := by
    simp only [CircularQueue.take, running, Bool.false_eq_true, if_false, and_self]
  obtain ⟨sameBuffer, sameWrite, sameExit⟩ := same_end
  refine ⟨sameExit.trans rel.exit, ?_, ?_, ?_⟩
  · intro other
    rw [show (∃ p, (q.take id).2.Registered other p) ↔ _ from
      exists_congr fun p => registered_take running]
    by_cases same : other = id
    · subst other
      simp
    · simpa [same] using rel.keys other
  · intro other p items here' waiting
    rw [registered_take running] at here'
    rw [sameBuffer, sameWrite]
    by_cases same : other = id
    · subst other
      simp only [if_true] at here'
      obtain rfl : rest = items := by simpa using waiting
      exact here' ▸ window.2
    · exact rel.window (by simpa [same] using here') (by simpa [same] using waiting)
  · intro other items waiting
    by_cases same : other = id
    · subst other
      obtain rfl : rest = items := by simpa using waiting
      simp only [List.length_cons] at bound
      omega
    · have waiting : f.backlog other = some items := by simpa [same] using waiting
      exact rel.fits waiting

variable [Inhabited α]

theorem blocked_iff (rel : Represents q f) {op : Operation Id α} (caller : q.Caller op) :
    q.exec op = none ↔ f.Blocked (n - 1) op := by
  cases op with
  | registerConsumer | unregisterConsumer | setExit | setRun => simp [exec, Fifos.Blocked]
  | produce item =>
    simp only [exec, CircularQueue.produce, Option.map_eq_none_iff, ite_eq_left_iff, reduceCtorEq,
      imp_false, not_not, produceWaits_iff, Fifos.Blocked, rel.exit, rel.full_iff]
    exact and_comm
  | consume id =>
    obtain ⟨p, here⟩ := caller
    obtain ⟨items, waiting⟩ := (rel.keys id).mp ⟨p, here⟩
    simp only [exec, CircularQueue.consume, here.touch, Option.map_eq_none_iff, ite_eq_left_iff,
      reduceCtorEq, imp_false, not_not, consumeWaits_iff, Fifos.Blocked, rel.exit,
      rel.empty_iff waiting, waiting, Option.some.injEq]
    exact and_comm

/-- One call on the ring is one call on the FIFOs, with the same result. -/
theorem step (rel : Represents q f) {event : Event Id α} {q' : CircularQueue Id α n}
    (taken : Step q event q') : ∃ f', f.Step (n - 1) event f' ∧ Represents q' f' := by
  obtain ⟨op, caller, running, done⟩ := taken
  have nonempty : 0 < n := Nat.zero_lt_of_lt q.writePosition.isLt
  have free : ¬ f.Blocked (n - 1) op := fun blocked => by
    rw [(rel.blocked_iff caller).mpr blocked] at done
    contradiction
  cases op with
  | registerConsumer id =>
    cases done
    exact ⟨_, .register, rel.registerConsumer nonempty⟩
  | unregisterConsumer id =>
    cases done
    exact ⟨_, .unregister, rel.unregisterConsumer⟩
  | setExit =>
    cases done
    exact ⟨_, .setExit, rel.setExit⟩
  | setRun =>
    cases done
    exact ⟨_, .setRun, rel.setRun⟩
  | produce item =>
    have live := rel.exit ▸ running item rfl
    have room : ∀ id items, f.backlog id = some items → items.length < n - 1 := by
      intro id items waiting
      have short := rel.fits waiting
      have notFull : items.length ≠ n - 1 := fun full => free ⟨live, id, items, waiting, full⟩
      omega
    simp only [exec, CircularQueue.produce] at done
    split at done
    · contradiction
    · cases done
      exact ⟨_, .produce live room, rel.store item room⟩
  | consume id =>
    obtain ⟨p, here⟩ := caller
    obtain ⟨items, waiting⟩ := (rel.keys id).mp ⟨p, here⟩
    by_cases waits : q.consumeWaits id = true
    · simp [exec, CircularQueue.consume, here.touch, waits] at done
    · simp only [exec, CircularQueue.consume, here.touch, waits, Bool.false_eq_true, if_false,
        Option.map_some, Option.some.injEq, Prod.mk.injEq] at done
      obtain ⟨rfl, rfl⟩ := done
      cases exited : q.exit with
      | true =>
        rw [take_exited exited]
        exact ⟨f, .release (rel.exit ▸ exited), rel⟩
      | false =>
        have live := rel.exit ▸ exited
        obtain _ | ⟨item, rest⟩ := items
        · exact absurd ⟨live, waiting⟩ free
        · obtain ⟨same, rel'⟩ := rel.take exited waiting
          exact ⟨_, same ▸ .consume live waiting, rel'⟩

end Represents

theorem exec_released [Inhabited α] {q : CircularQueue Id α n} {id : Id} (exited : q.exit = true)
    (caller : q.Caller (.consume id : Operation Id α)) :
    q.exec (.consume id) = some (.released id default, q) := by
  obtain ⟨p, here⟩ := caller
  have ready : q.consumeWaits id = false := by simp [consumeWaits, exited]
  simp only [exec, CircularQueue.consume, here.touch, ready, Bool.false_eq_true, if_false,
    take_exited exited, exited, Option.map_some, if_true]

/-- Every run of calls on a ring of `n` slots is a run on FIFOs of capacity
`n - 1` with the same results, in whose final state the same calls wait, and in
which each consumer's items since its registration are those it received
followed by its backlog. -/
theorem refines_fifos [Inhabited α] (large : 2 ≤ n) {trace : List (Event Id α)}
    {q : CircularQueue Id α n}
    (run : Transition.Run Step (make n (by omega)) trace q) :
    ∃ f : Fifos Id α, Transition.Run (Fifos.Step (n - 1)) .empty trace f ∧ Represents q f ∧
      (∀ op, q.Caller op → (q.exec op = none ↔ f.Blocked (n - 1) op)) ∧
      (∀ id, q.exit = true → q.Caller (.consume id : Operation Id α) →
        q.exec (.consume id) = some (.released id default, q)) ∧
      ∀ id backlog, f.backlog id = some backlog →
        ∃ received, Fifos.sinceRegistration id trace = some ⟨received ++ backlog, received⟩ := by
  obtain ⟨f, abstract, rel⟩ :=
    run.simulation (R := Represents) (Represents.make _) fun rel taken => rel.step taken
  refine ⟨f, abstract, rel, fun op caller => rel.blocked_iff caller,
    fun id exited caller => exec_released exited caller, ?_⟩
  intro id backlog waiting
  obtain ⟨_, absent⟩ | ⟨received, backlog', waiting', since⟩ := Fifos.delivery_of_run abstract id
  · rw [waiting] at absent
    contradiction
  · obtain rfl : backlog = backlog' := Option.some.inj (waiting.symm.trans waiting')
    exact ⟨received, since⟩

/-- Three slots, one consumer: two items in, one out, one left. -/
theorem refines_fifos_three :
    ∃ q : CircularQueue Nat Nat 3, ∃ f : Fifos Nat Nat,
      Transition.Run (Fifos.Step 2) .empty
        [.registered 0, .produced 7, .produced 8, .consumed 0 7] f ∧ Represents q f := by
  have run : Transition.Run Step (make 3 (by omega) : CircularQueue Nat Nat 3)
      ([] ++ [.registered 0] ++ [.produced 7] ++ [.produced 8] ++ [.consumed 0 7]) _ :=
    .snoc (.snoc (.snoc (.snoc .start
      ⟨.registerConsumer 0, trivial, nofun, rfl⟩)
      ⟨.produce 7, trivial, fun _ _ => rfl, rfl⟩)
      ⟨.produce 8, trivial, fun _ _ => rfl, rfl⟩)
      ⟨.consume 0, ⟨0, rfl⟩, nofun, rfl⟩
  obtain ⟨f, abstract, rel, _⟩ := refines_fifos (by decide) run
  exact ⟨_, f, abstract, rel⟩

end CircularQueue
end TinyRtsp
