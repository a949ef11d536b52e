import TinyRtsp.Foundation.Handles
import TinyRtsp.Foundation.Text
import TinyRtsp.Server.Descriptors

/-! The descriptor table with the sockets of the track handlers in it. The
constructor of an `RtpRtcpHandler` makes seven system calls and throws at the first
that fails; its destructor, which closes both sockets, is the only thing that closes
any, and does not run for an object whose constructor has thrown. Connections come
and go meanwhile, and every call of every thread is a step of its own. -/
namespace TinyRtsp.Sockets

/-- A call of `socket`, or one on the socket opened last, and what is thrown when
it fails. -/
structure Call where
  opens : Bool
  error : String

def constructor : List Call :=
  [⟨true, "RtpRtcpHandler create server rtp socket failed"⟩,
   ⟨false, "Error setting rtp_socket_ options"⟩,
   ⟨false, "Bind rtp socket with server failed."⟩,
   ⟨true, "RtpRtcpHandler create server rtcp socket failed"⟩,
   ⟨false, "Error setting rtp_socket_ options"⟩,
   ⟨false, "Error setting rtcp_socket_ timeout options"⟩,
   ⟨false, "Bind rtcp socket with server failed."⟩]

/-- The calls that the constructor still has to make; the calls from the one that
failed on; the destructor. -/
inductive Phase where
  | constructing (calls : List Call)
  | thrown (failed : Call) (later : List Call)
  | destroying

/-- How the constructor ended, until the object is destroyed. -/
def Phase.constructs : Phase → Option (Except Exception Unit)
  | .constructing [] => some (.ok ())
  | .thrown failed _ => some (.error (.runtimeError failed.error))
  | .constructing (_ :: _) | .destroying => none

theorem Phase.constructs_ok {phase : Phase} :
    phase.constructs = some (.ok ()) ↔ phase = .constructing [] := by
  unfold constructs
  split <;> simp

/-- An `RtpRtcpHandler` with the sockets it has opened and not closed: `rtp_socket_`,
then `rtcp_socket_`. -/
structure Handler where
  phase : Phase
  sockets : List Nat

/-- Connections and handlers have numbers of one kind as their names. -/
structure Process extends Descriptors.Server where
  handler : Nat → Option Handler

def start : Process := ⟨Descriptors.start, fun _ => none⟩

inductive Label where
  | connection (label : Descriptors.Label)
  | construct (h : Nat)
  | call (h : Nat) (result : Int)
  | destroy (h : Nat)
  | close (h : Nat)

namespace Process

def set (s : Process) (h : Nat) (handler : Handler) : Process :=
  { s with handler := Function.update s.handler h (some handler) }

def Names (s : Process) : Descriptors.Label → Prop
  | .accept c _ => s.handler c = none
  | _ => True

instance (s : Process) (label : Descriptors.Label) : Decidable (s.Names label) := by
  unfold Names
  split <;> infer_instance

/-- The next call of the constructor returns. -/
def call (s : Process) (h : Nat) (result : Int) : Option Process :=
  match s.handler h with
  | some ⟨.constructing (call :: later), sockets⟩ =>
    if result < 0 then some (s.set h ⟨.thrown call later, sockets⟩)
    else if call.opens then
      -- `socket` returns any number that is not open
      if s.owner result.toNat = none then
        some { s.set h ⟨.constructing later, sockets ++ [result.toNat]⟩ with
          owner := Function.update s.owner result.toNat (some h) }
      else none
    else some (s.set h ⟨.constructing later, sockets⟩)
  | _ => none

/-- The next `close` of the destructor, on the number, whoever has it now. -/
def close (s : Process) (h : Nat) : Option Process :=
  match s.handler h with
  | some ⟨.destroying, fd :: rest⟩ => some { s.set h ⟨.destroying, rest⟩ with
      owner := Function.update s.owner fd none }
  | _ => none

end Process

def next (s : Process) : Label → Option Process
  | .connection label =>
    if s.Names label then
      (Descriptors.next s.toServer label).map fun server => { s with toServer := server }
    else none
  | .construct h =>
    if s.handler h = none ∧ s.client h = none then
      some (s.set h ⟨.constructing constructor, []⟩)
    else none
  | .call h result => s.call h result
  | .destroy h =>
    match s.handler h with
    | some ⟨.constructing [], sockets⟩ => some (s.set h ⟨.destroying, sockets⟩)
    | _ => none
  | .close h => s.close h

namespace Process

/-- A connection that has not closed its number has it, and a handler its sockets. -/
def Holds (s : Process) (id fd : Nat) : Prop :=
  (∃ phase, s.client id = some ⟨fd, phase⟩ ∧ phase.closes = 0) ∨
    ∃ handler, s.handler id = some handler ∧ fd ∈ handler.sockets

/-- Names are given once, and no handler has a number twice. -/
structure Sound (s : Process) : Prop where
  apart : ∀ {id client}, s.client id = some client → s.handler id = none
  nodup : ∀ {h handler}, s.handler h = some handler → handler.sockets.Nodup

/-- The second close of a connection finds its number closed. -/
def ClosesClosed (s : Process) : Label → Prop
  | .connection (.closeClientSocket c) => (s.client c).bind (fun client => s.owner client.fd) = none
  | _ => True

instance (s : Process) (label : Label) : Decidable (s.ClosesClosed label) := by
  unfold ClosesClosed
  split <;> infer_instance

end Process

/-- A handler has as many sockets as calls of `socket` have returned in its
constructor, also after it has thrown. -/
def Handler.Counted (handler : Handler) : Prop :=
  match handler.phase with
  | .constructing calls =>
    ∃ made, made ++ calls = constructor ∧ handler.sockets.length = made.countP (·.opens)
  | .thrown failed later =>
    ∃ made, made ++ failed :: later = constructor ∧ handler.sockets.length = made.countP (·.opens)
  | .destroying => True

/-- All connections have ended, and a handler that has sockets is one whose constructor
has thrown. -/
def Process.Quiet (s : Process) : Prop :=
  (∀ {c fd phase}, s.client c = some ⟨fd, phase⟩ → phase = .destroyed) ∧
    ∀ {h handler}, s.handler h = some handler →
      handler.sockets = [] ∨ ∃ failed later, handler.phase = .thrown failed later

inductive Effect (s : Process) : Label → Process → Prop where
  | connection {label : Descriptors.Label} {server : Descriptors.Server} : s.Names label →
      Descriptors.Effect s.toServer label server →
      Effect s (.connection label) { s with toServer := server }
  | construct {h : Nat} : s.handler h = none → s.client h = none →
      Effect s (.construct h) (s.set h ⟨.constructing constructor, []⟩)
  | opens {h fd : Nat} {result : Int} {error : String} {later : List Call} {sockets : List Nat} :
      s.handler h = some ⟨.constructing (⟨true, error⟩ :: later), sockets⟩ → s.owner fd = none →
      Effect s (.call h result) { s.set h ⟨.constructing later, sockets ++ [fd]⟩ with
        owner := Function.update s.owner fd (some h) }
  | returns {h : Nat} {result : Int} {error : String} {later : List Call} {sockets : List Nat} :
      s.handler h = some ⟨.constructing (⟨false, error⟩ :: later), sockets⟩ →
      Effect s (.call h result) (s.set h ⟨.constructing later, sockets⟩)
  | throws {h : Nat} {result : Int} {call : Call} {later : List Call} {sockets : List Nat} :
      s.handler h = some ⟨.constructing (call :: later), sockets⟩ →
      Effect s (.call h result) (s.set h ⟨.thrown call later, sockets⟩)
  | destroy {h : Nat} {sockets : List Nat} : s.handler h = some ⟨.constructing [], sockets⟩ →
      Effect s (.destroy h) (s.set h ⟨.destroying, sockets⟩)
  | close {h fd : Nat} {rest : List Nat} : s.handler h = some ⟨.destroying, fd :: rest⟩ →
      Effect s (.close h) { s.set h ⟨.destroying, rest⟩ with owner := Function.update s.owner fd none }

section Steps
variable {s t : Process} {label : Label} {h id fd : Nat} {handler : Handler}

theorem next_effect (taken : next s label = some t) : Effect s label t := by
  cases label with
  | connection label =>
    simp only [next, Option.ite_none_right_eq_some, Option.map_eq_some_iff] at taken
    obtain ⟨names, server, moved, rfl⟩ := taken
    exact .connection names (Descriptors.next_effect moved)
  | construct h =>
    simp only [next, Option.ite_none_right_eq_some, Option.some.injEq] at taken
    obtain ⟨⟨fresh, apart⟩, rfl⟩ := taken
    exact .construct fresh apart
  | call h result =>
    simp only [next, Process.call] at taken
    split at taken
    · rename_i call later sockets here
      obtain ⟨opens, error⟩ := call
      split at taken
      · obtain rfl := Option.some.inj taken
        exact .throws here
      · split at taken
        · rename_i socket
          obtain rfl : opens = true := socket
          obtain ⟨free, rfl⟩ := Option.ite_none_right_eq_some.mp taken |>.imp id Option.some.inj
          exact .opens here free
        · rename_i other
          obtain rfl : opens = false := eq_false_of_ne_true other
          obtain rfl := Option.some.inj taken
          exact .returns here
    · contradiction
  | destroy h =>
    simp only [next] at taken
    split at taken
    · rename_i sockets here
      obtain rfl := Option.some.inj taken
      exact .destroy here
    · contradiction
  | close h =>
    simp only [next, Process.close] at taken
    split at taken
    · rename_i fd rest here
      obtain rfl := Option.some.inj taken
      exact .close here
    · contradiction

@[simp] theorem client_set : (s.set h handler).client = s.client := rfl

theorem handler_set : (s.set h handler).handler id = if id = h then some handler else s.handler id :=
  Function.update_apply ..

theorem holds_set {before : Handler} (sound : s.Sound) (here : s.handler h = some before) :
    (s.set h handler).Holds id fd ↔ if id = h then fd ∈ handler.sockets else s.Holds id fd := by
  unfold Process.Holds
  rw [client_set, handler_set]
  split
  · subst id
    have none : ¬ ∃ phase, s.client h = some ⟨fd, phase⟩ ∧ phase.closes = 0 := by
      rintro ⟨phase, client, _⟩
      rw [sound.apart client] at here
      contradiction
    simp [none]
  · rfl

theorem holds_handler (sound : s.Sound) (here : s.handler h = some handler) :
    s.Holds h fd ↔ fd ∈ handler.sockets := by
  have same : s.set h handler = s := by
    unfold Process.set
    rw [← here, Function.update_eq_self]
  have after := @holds_set s h h fd handler handler sound here
  rwa [same, if_pos rfl] at after

theorem Process.Sound.set (sound : s.Sound) (apart : s.client h = none) (nodup : handler.sockets.Nodup) :
    (s.set h handler).Sound where
  apart {id client} known := by
    rw [handler_set]
    split
    · subst id
      rw [client_set, apart] at known
      contradiction
    · exact sound.apart known
  nodup {other x} found := by
    rw [handler_set] at found
    split at found
    · obtain rfl := Option.some.inj found
      exact nodup
    · exact sound.nodup found

theorem Process.Sound.unaccepted (sound : s.Sound) (here : s.handler h = some handler) :
    s.client h = none := by
  cases known : s.client h with
  | none => rfl
  | some client =>
    rw [sound.apart known] at here
    contradiction

theorem Process.Sound.keep {before : Handler} (sound : s.Sound) (here : s.handler h = some before)
    (same : handler.sockets = before.sockets) : (s.set h handler).Sound :=
  sound.set (sound.unaccepted here) (same ▸ sound.nodup here)

theorem accounted_set {before : Handler} (sound : s.Sound) (accounted : Accounted s.owner s.Holds)
    (here : s.handler h = some before) (same : handler.sockets = before.sockets) :
    Accounted (s.set h handler).owner (s.set h handler).Holds := by
  refine accounted.congr fun id fd => ?_
  rw [holds_set sound here]
  split
  · subst id
    rw [holds_handler sound here, same]
  · rfl

/-- A connection's step keeps the account, but for a second close that finds its
number in use. -/
theorem accounted_connection {label : Descriptors.Label} {server : Descriptors.Server}
    (sound : s.Sound) (accounted : Accounted s.owner s.Holds) (names : s.Names label)
    (effect : Descriptors.Effect s.toServer label server) :
    Accounted server.owner { s with toServer := server }.Holds ↔ s.ClosesClosed (.connection label) := by
  cases effect with
  | @accept c fd fresh free =>
    refine iff_of_true (accounted.give free fun id number => ?_) trivial
    unfold Process.Holds
    by_cases same : id = c
    · subst id
      have unknown : s.handler c = none := names
      simp [fresh, unknown, Descriptors.Phase.closes, eq_comm]
    · simp [same]
  | @advance _ c fd before after quiet here still =>
    refine iff_of_true (accounted.congr fun id number => ?_) ?_
    · unfold Process.Holds
      by_cases same : id = c
      · subst id
        simp [here, still]
      · simp [same]
    · cases label with
      | closeClientSocket => contradiction
      | _ => trivial
  | @close _ c fd before after closes here more twice =>
    have unknown : s.handler c = none := sound.apart here
    rcases Descriptors.Phase.closes_before more with first | second
    · have own : s.Holds c fd := .inl ⟨before, here, first⟩
      refine iff_of_true (accounted.take own fun id number => ?_) ?_
      · unfold Process.Holds
        by_cases same : id = c
        · subst id
          simp [here, unknown, more, first, eq_comm]
        · simp [same]
      · cases label with
        | closeClientSocket d =>
          obtain rfl : d = c := Option.some.inj closes
          have := twice.mp rfl
          omega
        | _ => trivial
    · obtain rfl := twice.mpr second
      have closed : s.ClosesClosed (.connection (.closeClientSocket c)) ↔ s.owner fd = none := by
        simp [Process.ClosesClosed, here]
      rw [closed, ← accounted.lost_iff]
      refine ⟨fun after => after.congr fun id number => ?_, fun after => after.congr fun id number => ?_⟩
      all_goals
        unfold Process.Holds
        by_cases same : id = c
        · subst id
          simp [here, unknown, more, second]
        · simp [same]

theorem sound_connection {label : Descriptors.Label} {server : Descriptors.Server} (sound : s.Sound)
    (names : s.Names label) (effect : Descriptors.Effect s.toServer label server) :
    ({ s with toServer := server } : Process).Sound := by
  refine ⟨fun {id client} known => ?_, sound.nodup⟩
  show s.handler id = none
  cases effect with
  | @accept c fd fresh free =>
    by_cases same : id = c
    · subst id
      exact names
    · exact sound.apart ((Function.update_of_ne same ..).symm.trans known)
  | @advance _ c fd before after quiet here still =>
    by_cases same : id = c
    · subst id
      exact sound.apart here
    · exact sound.apart ((Function.update_of_ne same ..).symm.trans known)
  | @close _ c fd before after closes here more twice =>
    by_cases same : id = c
    · subst id
      exact sound.apart here
    · exact sound.apart ((Function.update_of_ne same ..).symm.trans known)

/-- From an accounted table a step leads to an accounted one exactly when no second
close finds its number in use. -/
theorem accounted_next (sound : s.Sound) (accounted : Accounted s.owner s.Holds)
    (taken : next s label = some t) :
    (Accounted t.owner t.Holds ↔ s.ClosesClosed label) ∧ (s.ClosesClosed label → t.Sound) := by
  cases next_effect taken with
  | connection names effect =>
    exact ⟨accounted_connection sound accounted names effect, fun _ => sound_connection sound names effect⟩
  | @construct h fresh apart =>
    refine ⟨iff_of_true (accounted.congr fun id fd => ?_) trivial,
      fun _ => sound.set apart List.nodup_nil⟩
    unfold Process.Holds
    rw [client_set, handler_set]
    split
    · subst id
      simp [fresh]
    · rfl
  | @opens h fd result error later sockets here free =>
    have unknown : fd ∉ sockets :=
      fun member => accounted.unheld free ((holds_handler sound here).mpr member)
    have nodup : (sockets ++ [fd]).Nodup :=
      List.perm_append_comm.nodup_iff.mp (List.nodup_cons.mpr ⟨unknown, sound.nodup here⟩)
    have after : (s.set h ⟨.constructing later, sockets ++ [fd]⟩).Sound :=
      sound.set (sound.unaccepted here) nodup
    refine ⟨iff_of_true (accounted.give free fun id number => ?_) trivial,
      fun _ => ⟨after.apart, after.nodup⟩⟩
    refine (holds_set sound here).trans ?_
    split
    · subst id
      simp [holds_handler sound here]
    · simp [*]
  | returns here | throws here | destroy here =>
    exact ⟨iff_of_true (accounted_set sound accounted here rfl) trivial,
      fun _ => sound.keep here rfl⟩
  | @close h fd rest here =>
    have own : s.Holds h fd := (holds_handler sound here).mpr List.mem_cons_self
    have nodup := List.nodup_cons.mp (sound.nodup here)
    have after : (s.set h ⟨.destroying, rest⟩).Sound := sound.set (sound.unaccepted here) nodup.2
    refine ⟨iff_of_true (accounted.take own fun id number => ?_) trivial,
      fun _ => ⟨after.apart, after.nodup⟩⟩
    refine (holds_set sound here).trans ?_
    split
    · subst id
      rw [holds_handler sound here]
      constructor
      · intro member
        refine ⟨List.mem_cons_of_mem _ member, ?_⟩
        rintro ⟨-, rfl⟩
        exact nodup.1 member
      · rintro ⟨member, apart⟩
        exact (List.mem_cons.mp member).resolve_left fun same => apart ⟨rfl, same⟩
    · simp [*]

theorem counted_set (counted : ∀ {h handler}, s.handler h = some handler → handler.Counted)
    {other : Nat} {x : Handler} (found : (s.set h handler).handler other = some x)
    (here : handler.Counted) : x.Counted := by
  rw [handler_set] at found
  split at found
  · obtain rfl := Option.some.inj found
    exact here
  · exact counted found

/-- Each call that has returned has opened its socket, if it is one that opens any. -/
theorem counted_next (counted : ∀ {h handler}, s.handler h = some handler → handler.Counted)
    (taken : next s label = some t) {other : Nat} {x : Handler} (found : t.handler other = some x) :
    x.Counted := by
  cases next_effect taken with
  | connection => exact counted found
  | construct => exact counted_set counted found ⟨[], rfl, rfl⟩
  | @opens h fd result error later sockets here free =>
    obtain ⟨made, all, many⟩ := counted here
    refine counted_set counted found ⟨made ++ [⟨true, error⟩], by simpa using all, ?_⟩
    simp [List.countP_append, show sockets.length = _ from many]
  | @returns h result error later sockets here =>
    obtain ⟨made, all, many⟩ := counted here
    refine counted_set counted found ⟨made ++ [⟨false, error⟩], by simpa using all, ?_⟩
    simp [List.countP_append, show sockets.length = _ from many]
  | throws here =>
    have counts := counted here
    exact counted_set counted found counts
  | destroy here => exact counted_set counted found trivial
  | close here => exact counted_set counted found trivial

theorem start_accounted : Accounted start.owner start.Holds := by
  intro id fd
  simp [start, Descriptors.start, Process.Holds]

theorem start_sound : start.Sound := ⟨by simp [start, Descriptors.start], by simp [start]⟩

end Steps

section Runs
variable {s : Process} {trace : List Label}
open Transition

/-- The table is accounted for in every state exactly if no second close finds its
number in use. Then whatever is still open when every connection and every handler
that was constructed is gone was opened by constructors that threw: as many sockets
each as its calls of `socket` had returned. -/
theorem sockets_accounted_iff (trace : List Label) :
    (∀ s, Run (Guarded Process.ClosesClosed (Takes next)) start trace s →
      Accounted s.owner s.Holds ∧
      (∀ h handler, s.handler h = some handler → handler.Counted) ∧
      (s.Quiet → ∀ fd, (s.owner fd).isSome ↔ ∃ h failed later sockets,
        s.handler h = some ⟨.thrown failed later, sockets⟩ ∧ fd ∈ sockets)) ∧
    ∀ s, Run (fun s label t => next s label = some t ∧ Accounted t.owner t.Holds) start trace s →
      Run (Guarded Process.ClosesClosed (Takes next)) start trace s := by
  obtain ⟨forward, back⟩ := Run.guarded_iff (I := Process.Sound)
    (P := fun s : Process => Accounted s.owner s.Holds) start_sound start_accounted accounted_next trace
  refine ⟨fun s run => ?_, back⟩
  have accounted := forward s run
  refine ⟨accounted, fun h handler => ?_, fun quiet fd => ?_⟩
  · refine run.invariant (P := fun s => ∀ {h handler}, s.handler h = some handler → handler.Counted)
      (by simp [start]) ?_
    exact fun counted taken => counted_next counted taken.2
  · rw [Option.isSome_iff_exists]
    constructor
    · rintro ⟨id, owner⟩
      rcases (accounted id fd).mp owner with ⟨phase, client, unclosed⟩ | ⟨handler, found, member⟩
      · obtain rfl := quiet.1 client
        contradiction
      · rcases quiet.2 found with closed | ⟨failed, later, thrown⟩
        · rw [closed] at member
          contradiction
        · obtain ⟨phase, sockets⟩ := handler
          obtain rfl : phase = _ := thrown
          exact ⟨id, failed, later, sockets, found, member⟩
    · rintro ⟨h, failed, later, sockets, found, member⟩
      exact ⟨h, (accounted h fd).mpr (.inr ⟨_, found, member⟩)⟩

/-- The RTCP port is in use: both sockets stay open. -/
example : ([.construct 0, .call 0 5, .call 0 0, .call 0 0, .call 0 6, .call 0 0, .call 0 0,
    .call 0 (-1)].foldlM next start).map (fun s => (s.owner 5, s.owner 6)) =
      some (some 0, some 0) := by decide +kernel

end Runs
end TinyRtsp.Sockets
