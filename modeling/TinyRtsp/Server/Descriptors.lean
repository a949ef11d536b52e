import Mathlib.Logic.Function.Basic
import TinyRtsp.Foundation.Transition

/-! Who owns a socket descriptor number. A finishing connection closes its number
twice, `close(client_fd)` in the pool task and `close(client_socket_)` in the
destructor of its handler, and `accept` may hand the number out in between.

The map `connections_` holds the handler only until `remove_connection`, so its
last reference is the task's and the destructor runs after the task's close. -/
namespace TinyRtsp.Descriptors

/-- How far a connection is: inside `process`, after it, after
`remove_connection`, after `close(client_fd)`, after the destructor's
`terminate_session`, after its `close(client_socket_)`. -/
inductive Phase where
  | serving
  | processed
  | removed
  | closed
  | terminated
  | destroyed
  deriving DecidableEq

def Phase.closes : Phase → Nat
  | .serving | .processed | .removed => 0
  | .closed | .terminated => 1
  | .destroyed => 2

theorem Phase.closes_before {before after : Phase} (more : after.closes = before.closes + 1) :
    before.closes = 0 ∨ before.closes = 1 := by
  cases before <;> cases after <;> simp_all [Phase.closes]

structure Client where
  fd : Nat
  phase : Phase
  deriving DecidableEq

/-- The connection each open descriptor number was accepted for, and the
connections there have been. -/
structure Server where
  owner : Nat → Option Nat
  client : Nat → Option Client

def start : Server := ⟨fun _ => none, fun _ => none⟩

inductive Label where
  | accept (c fd : Nat)
  | processEnds (c : Nat)
  | removeConnection (c : Nat)
  | closeClientFd (c : Nat)
  | terminateSession (c : Nat)
  | closeClientSocket (c : Nat)

def Server.advance (s : Server) (c : Nat) (before after : Phase) : Option Server :=
  match s.client c with
  | some client =>
    if client.phase = before then
      some { s with client := Function.update s.client c (some { client with phase := after }) }
    else none
  | none => none

/-- `close` on the number the connection was accepted with, whoever has it now. -/
def Server.close (s : Server) (c : Nat) : Server :=
  match s.client c with
  | some client => { s with owner := Function.update s.owner client.fd none }
  | none => s

/-- `accept` returns any number that is not open. -/
def next (s : Server) : Label → Option Server
  | .accept c fd =>
    if s.client c = none ∧ s.owner fd = none then
      some ⟨Function.update s.owner fd (some c), Function.update s.client c (some ⟨fd, .serving⟩)⟩
    else none
  | .processEnds c => s.advance c .serving .processed
  | .removeConnection c => s.advance c .processed .removed
  | .closeClientFd c => (s.close c).advance c .removed .closed
  | .terminateSession c => s.advance c .closed .terminated
  | .closeClientSocket c => (s.close c).advance c .terminated .destroyed

def Label.closes : Label → Option Nat
  | .closeClientFd c | .closeClientSocket c => some c
  | _ => none

def closeCalls (c : Nat) (trace : List Label) : Nat := trace.countP (·.closes = some c)

/-- The step does not close a descriptor that belongs to another connection. -/
def ClosesOwn (s : Server) (label : Label) : Prop :=
  ∀ c client d, label.closes = some c → s.client c = some client →
    s.owner client.fd = some d → d = c

/-- Each connection closes its descriptor at most once, and a finished one has. -/
def ClosedOnce (trace : List Label) (s : Server) : Prop :=
  ∀ c, closeCalls c trace ≤ 1 ∧
    ∀ fd, s.client c = some ⟨fd, .destroyed⟩ → closeCalls c trace = 1

/-- The number accepted is not one that a connection closed and will close again. -/
def Vacant (s : Server) : Label → Prop
  | .accept _ fd => ∀ c phase, s.client c = some ⟨fd, phase⟩ → phase.closes ≠ 1
  | _ => True

/-- The owner of a number is the connection that accepted it and did not close it. -/
def Owned (s : Server) : Prop :=
  ∀ c fd, s.owner fd = some c ↔ ∃ phase, s.client c = some ⟨fd, phase⟩ ∧ phase.closes = 0

/-- Between a connection's two closes its number is not open. -/
def Unreused (s : Server) : Prop :=
  ∀ c fd phase, s.client c = some ⟨fd, phase⟩ → phase.closes = 1 → s.owner fd = none

/-- Everything a step can do: accept a new connection on a free number, or move
one connection on, with or without a close. -/
inductive Effect (s : Server) : Label → Server → Prop where
  | accept {c fd : Nat} : s.client c = none → s.owner fd = none → Effect s (.accept c fd)
      ⟨Function.update s.owner fd (some c), Function.update s.client c (some ⟨fd, .serving⟩)⟩
  | advance {label : Label} {c fd : Nat} {before after : Phase} : label.closes = none →
      s.client c = some ⟨fd, before⟩ → after.closes = before.closes →
      Effect s label { s with client := Function.update s.client c (some ⟨fd, after⟩) }
  | close {label : Label} {c fd : Nat} {before after : Phase} : label.closes = some c →
      s.client c = some ⟨fd, before⟩ → after.closes = before.closes + 1 →
      (label = .closeClientSocket c ↔ before.closes = 1) →
      Effect s label
        ⟨Function.update s.owner fd none, Function.update s.client c (some ⟨fd, after⟩)⟩

section Steps
variable {s t : Server} {c fd : Nat} {before after : Phase} {label : Label}

theorem advance_eq (taken : s.advance c before after = some t) :
    ∃ fd, s.client c = some ⟨fd, before⟩ ∧
      t = { s with client := Function.update s.client c (some ⟨fd, after⟩) } := by
  unfold Server.advance at taken
  split at taken
  · rename_i client here
    split at taken
    · rename_i phase
      obtain ⟨fd, _⟩ := client
      obtain rfl : _ = before := phase
      exact ⟨fd, here, (Option.some.inj taken).symm⟩
    · contradiction
  · contradiction

theorem close_advance_eq (taken : (s.close c).advance c before after = some t) :
    ∃ fd, s.client c = some ⟨fd, before⟩ ∧
      t = ⟨Function.update s.owner fd none, Function.update s.client c (some ⟨fd, after⟩)⟩ := by
  obtain ⟨fd, here, rfl⟩ := advance_eq taken
  cases found : s.client c with
  | none => simp [Server.close, found] at here
  | some client =>
    obtain rfl : client = ⟨fd, before⟩ := by simpa [Server.close, found] using here
    exact ⟨fd, rfl, by simp [Server.close, found]⟩

theorem next_effect (taken : next s label = some t) : Effect s label t := by
  cases label with
  | accept c fd =>
    simp only [next, Option.ite_none_right_eq_some, Option.some.injEq] at taken
    obtain ⟨⟨fresh, free⟩, rfl⟩ := taken
    exact .accept fresh free
  | processEnds c | removeConnection c | terminateSession c =>
    obtain ⟨fd, here, rfl⟩ := advance_eq taken
    exact .advance rfl here rfl
  | closeClientFd c | closeClientSocket c =>
    obtain ⟨fd, here, rfl⟩ := close_advance_eq taken
    exact .close rfl here rfl (by simp [Phase.closes])

theorem Owned.next (owned : Owned s) (own : ClosesOwn s label) (taken : next s label = some t) :
    Owned t := by
  intro d number
  cases next_effect taken with
  | @accept c fd fresh free =>
    have unused : s.owner number ≠ some c := by
      intro has
      obtain ⟨phase, here, _⟩ := (owned c number).mp has
      rw [fresh] at here
      contradiction
    by_cases same : d = c
    · subst d
      by_cases here : number = fd
      · subst number
        simp [Phase.closes]
      · simp [here, unused, Ne.symm here]
    · by_cases here : number = fd
      · subst number
        have := owned d fd
        simp_all [Ne.symm same]
      · simpa [same, here] using owned d number
  | @advance _ c fd before after _ here still =>
    by_cases same : d = c
    · subst d
      have := owned c number
      simp_all
    · simpa [same] using owned d number
  | @close _ c fd before after closes here more =>
    have mine := own c _ d closes here
    by_cases same : d = c
    · subst d
      have := owned c number
      by_cases there : number = fd
      · simp_all
      · simp_all [Ne.symm there]
    · by_cases there : number = fd
      · subst number
        have := owned d fd
        simp_all
      · simpa [same, there] using owned d number

theorem Unreused.next (unreused : Unreused s) (vacant : Vacant s label)
    (taken : next s label = some t) : Unreused t := by
  intro d number phase there once
  cases next_effect taken with
  | @accept c fd fresh free =>
    by_cases same : d = c
    · subst d
      obtain ⟨rfl, rfl⟩ : fd = number ∧ .serving = phase := by simpa using there
      contradiction
    · have before : s.client d = some ⟨number, phase⟩ := by simpa [same] using there
      have apart : number ≠ fd := by
        rintro rfl
        exact vacant d phase before once
      simpa [apart] using unreused d number phase before once
  | @advance _ c fd before after _ here still =>
    by_cases same : d = c
    · subst d
      obtain ⟨rfl, rfl⟩ : fd = number ∧ after = phase := by simpa using there
      exact unreused c fd before here (still ▸ once)
    · exact unreused d number phase (by simpa [same] using there) once
  | @close _ c fd before after _ here more =>
    by_cases same : d = c
    · subst d
      obtain ⟨rfl, rfl⟩ : fd = number ∧ after = phase := by simpa using there
      simp
    · have old := unreused d number phase (by simpa [same] using there) once
      by_cases here : number = fd
      · simp [here]
      · simpa [here] using old

theorem closesOwn_of_ne (owned : Owned s) (taken : next s label = some t)
    (other : ∀ c, label ≠ .closeClientSocket c) : ClosesOwn s label := by
  intro c client d closes here has
  cases next_effect taken with
  | accept => contradiction
  | advance quiet => simp [quiet] at closes
  | @close _ c' fd before after closes' here' more twice =>
    obtain rfl : c' = c := Option.some.inj (closes'.symm.trans closes)
    obtain rfl : ⟨fd, before⟩ = client := Option.some.inj (here'.symm.trans here)
    have first : before.closes = 0 :=
      (Phase.closes_before more).resolve_right fun once => other c' (twice.mpr once)
    have mine := (owned c' fd).mpr ⟨before, here', first⟩
    exact Option.some.inj (has.symm.trans mine)

theorem closesOwn_of_unreused (owned : Owned s) (unreused : Unreused s)
    (taken : next s label = some t) : ClosesOwn s label := by
  by_cases second : ∃ c, label = .closeClientSocket c
  · obtain ⟨c, rfl⟩ := second
    intro c' client d closes here has
    obtain rfl : c = c' := Option.some.inj closes
    obtain ⟨fd, there, _⟩ := close_advance_eq taken
    obtain rfl : client = ⟨fd, .terminated⟩ := Option.some.inj (here.symm.trans there)
    rw [unreused c fd _ there rfl] at has
    contradiction
  · exact closesOwn_of_ne owned taken fun c same => second ⟨c, same⟩

def calls (s : Server) (c : Nat) : Nat := (s.client c).elim 0 (·.phase.closes)

theorem calls_next (taken : next s label = some t) (c : Nat) :
    calls t c = calls s c + (if label.closes = some c then 1 else 0) := by
  cases next_effect taken with
  | @accept d fd fresh free =>
    by_cases same : c = d
    · subst c
      simp [calls, fresh, Phase.closes, Label.closes]
    · simp [calls, same, Label.closes]
  | @advance _ d fd before after quiet here still =>
    by_cases same : c = d
    · subst c
      simp [calls, here, still, quiet]
    · simp [calls, same, quiet]
  | @close _ d fd before after closes here more =>
    by_cases same : c = d
    · subst c
      simp [calls, here, more, closes]
    · simp [calls, same, closes, Ne.symm same]

end Steps

section Runs
variable {s : Server} {trace : List Label}
open Transition

theorem start_owned : Owned start := fun c fd => by simp [start]

theorem start_unreused : Unreused start := fun c fd phase here => by simp [start] at here

theorem closeCalls_run (run : Run (Takes next) start trace s) (c : Nat) :
    closeCalls c trace = calls s c := by
  induction run with
  | start => rfl
  | snoc _ taken ih =>
    rw [calls_next taken, ← ih]
    simp [closeCalls, List.countP_append, List.countP_cons]

theorem closeClientSocket_mem_iff (run : Run (Takes next) start trace s) (c : Nat) :
    .closeClientSocket c ∈ trace ↔ 1 < calls s c := by
  induction run with
  | start => simp [calls, start]
  | @snoc _ before label _ run taken ih =>
    rw [calls_next taken, List.mem_append, ih, List.mem_singleton]
    cases next_effect taken with
    | accept => simp [Label.closes]
    | advance quiet =>
      have : .closeClientSocket c ≠ label := by
        rintro rfl
        contradiction
      simp [quiet, this]
    | @close _ d fd phase after closes here more twice =>
      by_cases same : c = d
      · subst c
        have now : calls before d = phase.closes := by
          rw [calls, here]
          rfl
        have := Phase.closes_before more
        rw [now, if_pos closes, eq_comm, twice]
        omega
      · have : .closeClientSocket c ≠ label := by
          rintro rfl
          exact same (Option.some.inj closes)
        simp [closes, Ne.symm same, this]

theorem closedOnce_iff (run : Run (Takes next) start trace s) :
    ClosedOnce trace s ↔ ∀ c, .closeClientSocket c ∉ trace := by
  constructor
  · intro once c member
    have := (once c).1
    rw [closeCalls_run run] at this
    have := (closeClientSocket_mem_iff run c).mp member
    omega
  · intro never c
    have few := mt (closeClientSocket_mem_iff run c).mpr (never c)
    rw [closeCalls_run run]
    refine ⟨by omega, fun fd done => ?_⟩
    simp [calls, done, Phase.closes] at few

theorem closesOwn_of_never (run : Run (Takes next) start trace s)
    (never : ∀ c, .closeClientSocket c ∉ trace) :
    Run (Guarded ClosesOwn (Takes next)) start trace s ∧ Owned s := by
  induction run with
  | start => exact ⟨.start, start_owned⟩
  | snoc run taken ih =>
    obtain ⟨own, owned⟩ := ih fun c member => never c (List.mem_append_left _ member)
    have closesOwn := closesOwn_of_ne owned taken fun c same => never c (by simp [same])
    exact ⟨.snoc own ⟨closesOwn, taken⟩, owned.next closesOwn taken⟩

theorem closesOwn_of_vacant (run : Run (Guarded Vacant (Takes next)) start trace s) :
    Run (Guarded ClosesOwn (Takes next)) start trace s ∧ Owned s ∧ Unreused s := by
  induction run with
  | start => exact ⟨.start, start_owned, start_unreused⟩
  | snoc run taken ih =>
    obtain ⟨own, owned, unreused⟩ := ih
    obtain ⟨vacant, taken⟩ := taken
    have closesOwn := closesOwn_of_unreused owned unreused taken
    exact ⟨.snoc own ⟨closesOwn, taken⟩, owned.next closesOwn taken,
      unreused.next vacant taken⟩

/-- Once a number is accepted inside its window, the destructor of the
connection that had it before can close the newcomer's descriptor. -/
theorem foreign_close_of_not_vacant {t : Server} {label : Label} (taken : next s label = some t)
    (reused : ¬ Vacant s label) : ∃ rest u c, Run (Takes next) t rest u ∧
      (next u (.closeClientSocket c)).isSome ∧ ¬ ClosesOwn u (.closeClientSocket c) := by
  cases label with
  | accept d fd =>
    simp only [Vacant, not_forall, not_not] at reused
    obtain ⟨c, phase, here, once⟩ := reused
    simp only [next, Option.ite_none_right_eq_some, Option.some.injEq] at taken
    obtain ⟨⟨fresh, _⟩, rfl⟩ := taken
    have apart : c ≠ d := by
      rintro rfl
      rw [here] at fresh
      contradiction
    cases phase with
    | serving | processed | removed | destroyed => contradiction
    | closed =>
      refine ⟨[] ++ [.terminateSession c], _, c, .snoc .start
        (by simp [Takes, next, Server.advance, apart, here]; rfl), ?_, ?_⟩
      · simp [next, Server.close, Server.advance]
      · intro own
        exact apart (own c ⟨fd, .terminated⟩ d rfl (by simp) (by simp)).symm
    | terminated =>
      refine ⟨[], _, c, .start, ?_, ?_⟩
      · simp [next, Server.close, Server.advance, apart, here]
      · intro own
        exact apart (own c ⟨fd, .terminated⟩ d rfl (by simp [apart, here]) (by simp)).symm
  | _ => exact absurd trivial reused

/-- Every descriptor is closed exactly once, and only by its own connection, in
exactly the runs in which no handler's destructor gets to its close. No step
closes another connection's descriptor while `accept` keeps out of the window
between the two closes of a number, and an `accept` inside it lets one happen. -/
theorem closed_once_iff (trace : List Label) :
    (∀ s, Run (Takes next) start trace s →
      (Run (Guarded ClosesOwn (Takes next)) start trace s ∧ ClosedOnce trace s ↔
        ∀ c, .closeClientSocket c ∉ trace)) ∧
    (∀ s, Run (Guarded Vacant (Takes next)) start trace s →
      Run (Guarded ClosesOwn (Takes next)) start trace s) ∧
    (∀ s, Run (Takes next) start trace s → ∀ label t, next s label = some t →
      ¬ Vacant s label → ∃ rest u c, Run (Takes next) t rest u ∧
        (next u (.closeClientSocket c)).isSome ∧ ¬ ClosesOwn u (.closeClientSocket c)) := by
  refine ⟨fun s run => ⟨fun ⟨_, once⟩ => (closedOnce_iff run).mp once, fun never => ?_⟩,
    fun s run => (closesOwn_of_vacant run).1, fun s _ label t taken reused => ?_⟩
  · exact ⟨(closesOwn_of_never run never).1, (closedOnce_iff run).mpr never⟩
  · exact foreign_close_of_not_vacant taken reused

/-- Two connections at a time, the second up to the end of its task. The number of
the first goes to a third one. -/
theorem closed_once_iff_two : ∃ s : Server,
    Run (Guarded ClosesOwn (Takes next)) start
      [.accept 0 7, .accept 1 8, .processEnds 1, .removeConnection 1, .processEnds 0,
        .removeConnection 0, .closeClientFd 1, .closeClientFd 0, .accept 2 7] s ∧
      ClosedOnce [.accept 0 7, .accept 1 8, .processEnds 1, .removeConnection 1, .processEnds 0,
        .removeConnection 0, .closeClientFd 1, .closeClientFd 0, .accept 2 7] s ∧
      s.owner 7 = some 2 ∧ s.owner 8 = none := by
  have run : Run (Takes next) start
      [.accept 0 7, .accept 1 8, .processEnds 1, .removeConnection 1, .processEnds 0,
        .removeConnection 0, .closeClientFd 1, .closeClientFd 0, .accept 2 7] _ := .of_foldlM rfl
  obtain ⟨own, once⟩ := ((closed_once_iff _).1 _ run).mpr (by simp)
  exact ⟨_, own, once, rfl, rfl⟩

/-- Connection 1 is accepted on number 7 after the task of connection 0 closed
it, and the destructor of connection 0 closes 7 again. -/
theorem closeClientSocket_closes_other : ∃ s t : Server,
    Run (Takes next) start [.accept 0 7, .processEnds 0, .removeConnection 0, .closeClientFd 0,
      .accept 1 7, .terminateSession 0] s ∧
    s.client 1 = some ⟨7, .serving⟩ ∧ s.owner 7 = some 1 ∧
    next s (.closeClientSocket 0) = some t ∧ t.owner 7 = none ∧
    ¬ ClosesOwn s (.closeClientSocket 0) ∧
    ¬ ClosedOnce [.accept 0 7, .processEnds 0, .removeConnection 0, .closeClientFd 0,
      .accept 1 7, .terminateSession 0, .closeClientSocket 0] t := by
  refine ⟨_, _, .of_foldlM rfl, rfl, rfl, rfl, rfl, ?_, ?_⟩
  · intro own
    exact absurd (own 0 ⟨7, .terminated⟩ 1 rfl rfl rfl) (by decide)
  · intro once
    exact absurd (once 0).1 (by decide)

end Runs
end TinyRtsp.Descriptors
