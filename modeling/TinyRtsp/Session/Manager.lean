import Mathlib.Logic.Function.Basic
import TinyRtsp.Media.MediaTrack
import TinyRtsp.Session.Threads

/-! `SessionManager` under the handlers of any number of connections. Each of its
calls is one step, and so is the call on the session that follows; the steps of
different handlers interleave. -/
namespace TinyRtsp.SessionManager
open Transition

/-- A request that looks its session up and calls it. -/
inductive Method (Track Rtp : Type) where
  | setup (trackName : TrackName) (mediaTrack : Track) (rtpRtcpHandler : Except Exception Rtp)
  | play (visited : List TrackName) (failing : Option (TrackName × Exception))
  | pause

def Method.call {Track Rtp : Type} : Method Track Rtp → Session.Call Track Rtp
  | .setup trackName mediaTrack rtpRtcpHandler => .addMediaTrack trackName mediaTrack rtpRtcpHandler
  | .play visited failing => .start visited failing
  | .pause => .pause

def Method.creates {Track Rtp : Type} : Method Track Rtp → Bool
  | .setup .. => true
  | _ => false

inductive Request (Track Rtp : Type) where
  | session (sessionId : SessionId) (method : Method Track Rtp)
  | teardown (sessionId : SessionId)
  | disconnect (sessionId : SessionId)

/-- The next call of a handler. The `pointer` is what `create_session` or
`get_session` has returned, `none` when it is null. -/
inductive Task (Track Rtp : Type) where
  | idle
  | sessionExists (sessionId : SessionId) (method : Method Track Rtp)
  | createSession (sessionId : SessionId) (method : Method Track Rtp)
  | getSession (sessionId : SessionId) (method : Method Track Rtp)
  | call (sessionId : SessionId) (method : Method Track Rtp) (pointer : Option Nat)
  | teardownExists (sessionId : SessionId)
  | terminateSession (sessionId : SessionId)

/-- The map of ids to `Session` objects, the objects, and the handlers, with the
SETUP requests that have been answered 200 OK. -/
structure State (H Track Rtp : Type) where
  sessions : SessionId → Option Nat
  objects : Nat → Session Track Rtp
  count : Nat
  task : H → Task Track Rtp
  answered : List (SessionId × TrackName)

inductive Label (H Track Rtp : Type) where
  | request (h : H) (request : Request Track Rtp)
  | step (h : H)

namespace State
variable {H Track Rtp : Type}

def start : State H Track Rtp where
  sessions _ := none
  objects _ := .new
  count := 0
  task _ := .idle
  answered := []

def answers (sessionId : SessionId) : Method Track Rtp → List (SessionId × TrackName)
  | .setup trackName .. => [(sessionId, trackName)]
  | _ => []

variable [DecidableEq H]

def next (s : State H Track Rtp) (h : H) (task : Task Track Rtp) : State H Track Rtp :=
  { s with task := Function.update s.task h task }

/-- A step of a handler; `none` when there is none, or when it ends the process. -/
def advance (s : State H Track Rtp) (h : H) : Option (State H Track Rtp) :=
  match s.task h with
  | .idle => none
  | .sessionExists sessionId method =>
    some (s.next h (if (s.sessions sessionId).isSome then .getSession sessionId method
      else if method.creates then .createSession sessionId method else .idle))
  | .createSession sessionId method =>
    some ({ s with
      objects := Function.update s.objects s.count .new
      count := s.count + 1
      sessions := Function.update s.sessions sessionId (some s.count) }.next h
        (.call sessionId method (some s.count)))
  | .getSession sessionId method => some (s.next h (.call sessionId method (s.sessions sessionId)))
  | .call _ _ none => none
  | .call sessionId method (some pointer) =>
    match (s.objects pointer).take method.call with
    | .returned session =>
      some ({ s with
        objects := Function.update s.objects pointer session
        answered := s.answered ++ answers sessionId method }.next h .idle)
    | .thrown _ session =>
      some ({ s with objects := Function.update s.objects pointer session }.next h .idle)
    | .terminated => none
  | .teardownExists sessionId =>
    some (s.next h (if (s.sessions sessionId).isSome then .terminateSession sessionId else .idle))
  | .terminateSession sessionId =>
    some ({ s with
      objects := match s.sessions sessionId with
        | some pointer => Function.update s.objects pointer (s.objects pointer).stop
        | none => s.objects
      sessions := Function.update s.sessions sessionId none }.next h .idle)

def act (s : State H Track Rtp) : Label H Track Rtp → Option (State H Track Rtp)
  | .request h request =>
    match s.task h with
    | .idle => some (s.next h (match request with
      | .session sessionId method => .sessionExists sessionId method
      | .teardown sessionId => .teardownExists sessionId
      | .disconnect sessionId => .terminateSession sessionId))
    | _ => none
  | .step h => s.advance h

variable {s s' : State H Track Rtp} {label : Label H Track Rtp} {h other : H}
  {sessionId : SessionId} {method : Method Track Rtp}

theorem task_next (s : State H Track Rtp) (h other : H) (task : Task Track Rtp) :
    (s.next h task).task other = if other = h then task else s.task other :=
  Function.update_apply ..

section Pointers

/-- No handler is about to call a session through a null pointer. -/
def NeverNull (s : State H Track Rtp) : Prop :=
  ∀ h sessionId method, s.task h ≠ .call sessionId method none

/-- A session is terminated only while no handler has found it to exist and has yet
to get it. -/
def Unawaited (s : State H Track Rtp) : Label H Track Rtp → Prop
  | .step h => ∀ sessionId, s.task h = .terminateSession sessionId →
      ∀ other method, s.task other ≠ .getSession sessionId method
  | _ => True

def Found (s : State H Track Rtp) : Prop :=
  ∀ h sessionId method, s.task h = .getSession sessionId method → (s.sessions sessionId).isSome

theorem found_next {task : Task Track Rtp} (found : s.Found) (null : s.NeverNull)
    (pointer : ∀ sessionId method, task ≠ .call sessionId method none)
    (exists_ : ∀ sessionId method, task = .getSession sessionId method → (s.sessions sessionId).isSome) :
    (s.next h task).Found ∧ (s.next h task).NeverNull := by
  constructor
  · intro other sessionId method gets
    rw [task_next] at gets
    split at gets
    · exact exists_ sessionId method gets
    · exact found other sessionId method gets
  · intro other sessionId method calls
    rw [task_next] at calls
    split at calls
    · exact pointer sessionId method calls
    · exact null other sessionId method calls

theorem found_act (found : s.Found) (null : s.NeverNull) (unawaited : s.Unawaited label)
    (taken : s.act label = some s') : s'.Found ∧ s'.NeverNull := by
  cases label with
  | request h request =>
    simp only [act] at taken
    split at taken
    · obtain rfl := Option.some.inj taken
      apply found_next found null
      · cases request <;> rintro _ _ ⟨⟩
      · cases request <;> rintro _ _ ⟨⟩
    · contradiction
  | step h =>
    simp only [act, advance] at taken
    split at taken
    · contradiction
    · obtain rfl := Option.some.inj taken
      apply found_next found null
      · split
        · rintro _ _ ⟨⟩
        · split <;> rintro _ _ ⟨⟩
      · intro sessionId method gets
        split at gets
        · obtain ⟨rfl, _⟩ := Task.getSession.inj gets
          assumption
        · split at gets
          · contradiction
          · contradiction
    · rename_i sessionId method _
      obtain rfl := Option.some.inj taken
      refine found_next (fun other id method gets => ?_) null (by rintro _ _ ⟨⟩) (by rintro _ _ ⟨⟩)
      dsimp only
      rw [Function.update_apply]
      split
      · rfl
      · exact found other id method gets
    · rename_i sessionId method gets
      obtain rfl := Option.some.inj taken
      refine found_next found null (fun id other calls => ?_) (by rintro _ _ ⟨⟩)
      obtain ⟨rfl, _, missing⟩ := Task.call.inj calls
      have here := found h sessionId method gets
      rw [missing] at here
      contradiction
    · contradiction
    · split at taken
      · obtain rfl := Option.some.inj taken
        exact found_next found null (by rintro _ _ ⟨⟩) (by rintro _ _ ⟨⟩)
      · obtain rfl := Option.some.inj taken
        exact found_next found null (by rintro _ _ ⟨⟩) (by rintro _ _ ⟨⟩)
      · contradiction
    · obtain rfl := Option.some.inj taken
      apply found_next found null
      · split <;> rintro _ _ ⟨⟩
      · split <;> rintro _ _ ⟨⟩
    · rename_i sessionId terminates
      obtain rfl := Option.some.inj taken
      refine found_next (fun other id method gets => ?_) null (by rintro _ _ ⟨⟩) (by rintro _ _ ⟨⟩)
      have apart : id ≠ sessionId := by
        rintro rfl
        exact unawaited id terminates other method gets
      dsimp only
      rw [Function.update_of_ne apart]
      exact found other id method gets

/-- A handler that has found the session to exist gets a null pointer when another
has terminated it. -/
theorem null_of_awaited (terminates : s.task h = .terminateSession sessionId)
    (awaits : s.task other = .getSession sessionId method) (taken : s.act (.step h) = some s') :
    ∃ s'', s'.act (.step other) = some s'' ∧ s''.task other = .call sessionId method none := by
  have apart : other ≠ h := by
    rintro rfl
    rw [awaits] at terminates
    contradiction
  simp only [act, advance, terminates] at taken
  obtain rfl := Option.some.inj taken
  simp only [act, advance, task_next, if_neg apart, awaits]
  refine ⟨_, rfl, ?_⟩
  rw [task_next, if_pos rfl]
  exact congrArg (Task.call sessionId method) (Function.update_self ..)

/-- In a run in which no session is terminated between another handler's test and its
`get_session`, no handler calls a session through a null pointer; after a step that
terminates one so, that handler can be the next to go on and gets a null pointer. -/
theorem never_null (trace : List (Label H Track Rtp)) :
    (∀ s : State H Track Rtp, Run (Guarded Unawaited (Takes act)) start trace s → s.NeverNull) ∧
    ∀ (s : State H Track Rtp) label s', Run (Takes act) start trace s → s.act label = some s' →
      ¬ s.Unawaited label → ∃ other s'', s'.act (.step other) = some s'' ∧ ¬ s''.NeverNull := by
  constructor
  · intro s run
    refine (run.invariant (P := fun s => s.Found ∧ s.NeverNull) ⟨nofun, nofun⟩ ?_).2
    rintro s label s' ⟨found, null⟩ ⟨unawaited, taken⟩
    exact found_act found null unawaited taken
  · intro s label s' _ taken awaited
    cases label with
    | request h request => exact absurd trivial awaited
    | step h =>
      simp only [Unawaited, not_forall, not_not] at awaited
      obtain ⟨sessionId, terminates, other, method, awaits⟩ := awaited
      obtain ⟨s'', gets, calls⟩ := null_of_awaited terminates awaits taken
      exact ⟨other, s'', gets, fun null => null other sessionId method calls⟩

/-- One handler sets a session up and tears it down between the test of another
handler's PLAY and its `get_session`. -/
theorem play_gets_null : ¬ ∀ (trace : List (Label Bool Unit Unit)) (s : State Bool Unit Unit),
    Run (Takes act) start trace s → s.NeverNull := by
  intro claim
  let x : SessionId := "x".toList
  obtain ⟨trace, outcome⟩ : ∃ trace : List (Label Bool Unit Unit),
      (trace.foldlM act (start : State Bool Unit Unit)).map (·.task false) =
        some (.call x (.play ["v".toList] none) none) :=
    ⟨[.request true (.session x (.setup "v".toList () (.ok ()))), .step true, .step true, .step true,
      .request false (.session x (.play ["v".toList] none)), .step false,
      .request true (.teardown x), .step true, .step true, .step false], rfl⟩
  obtain ⟨s, done, calls⟩ := Option.map_eq_some_iff.mp outcome
  exact claim trace s (.of_foldlM done) false x _ calls

end Pointers

section Answers

/-- The session under the id of every SETUP that has been answered has a handler for
its track. -/
def Kept (s : State H Track Rtp) : Prop :=
  ∀ sessionId trackName, (sessionId, trackName) ∈ s.answered →
    ∃ pointer, s.sessions sessionId = some pointer ∧
      ((s.objects pointer).handler trackName).isSome

/-- A session is created only under an id that is not in the map. -/
def Fresh (s : State H Track Rtp) : Label H Track Rtp → Prop
  | .step h => ∀ sessionId method, s.task h = .createSession sessionId method →
      s.sessions sessionId = none
  | _ => True

instance (s : State H Track Rtp) : ∀ label, Decidable (s.Fresh label)
  | .request .. => .isTrue trivial
  | .step h =>
    match task : s.task h with
    | .createSession sessionId _ =>
      decidable_of_iff (s.sessions sessionId = none) (by
        constructor
        · intro absent id method creates
          obtain ⟨rfl, _⟩ := Task.createSession.inj (task.symm.trans creates)
          exact absent
        · intro fresh
          exact fresh sessionId _ task)
    | .idle | .sessionExists .. | .getSession .. | .call .. | .teardownExists _ | .terminateSession _ =>
      .isTrue (by
        intro id method creates
        cases task.symm.trans creates)

def Leaves : Label H Track Rtp → Prop
  | .request _ (.teardown _) | .request _ (.disconnect _) => True
  | _ => False

/-- What holds while no session is replaced or terminated. -/
structure Stable (s : State H Track Rtp) : Prop where
  allocated : ∀ sessionId pointer, s.sessions sessionId = some pointer → pointer < s.count
  current : ∀ h sessionId method pointer, s.task h = .call sessionId method (some pointer) →
    s.sessions sessionId = some pointer
  stays : ∀ h sessionId, s.task h ≠ .teardownExists sessionId ∧ s.task h ≠ .terminateSession sessionId
  kept : s.Kept

theorem stable_next {task : Task Track Rtp} (stable : s.Stable)
    (current : ∀ sessionId method pointer, task = .call sessionId method (some pointer) →
      s.sessions sessionId = some pointer)
    (stays : ∀ sessionId, task ≠ .teardownExists sessionId ∧ task ≠ .terminateSession sessionId) :
    (s.next h task).Stable := by
  refine ⟨stable.allocated, fun other id method pointer calls => ?_, fun other id => ?_, stable.kept⟩
  · rw [task_next] at calls
    split at calls
    · exact current id method pointer calls
    · exact stable.current other id method pointer calls
  · rw [task_next]
    split
    · exact stays id
    · exact stable.stays other id

omit [DecidableEq H] in
theorem handler_of_call {session after : Session Track Rtp} {trackName : TrackName}
    (left : (session.take method.call).session = some after)
    (has : (session.handler trackName).isSome) : (after.handler trackName).isSome := by
  cases method with
  | setup name mediaTrack rtpRtcpHandler =>
    simp only [Method.call, Session.take, Session.addMediaTrack] at left
    split at left
    · obtain rfl := Option.some.inj left
      exact has
    · split at left
      · contradiction
      · obtain rfl := Option.some.inj left
        rw [Session.handler_set]
        split
        · rfl
        · exact has
  | play visited failing =>
    simp only [Method.call, Session.take, Outcome.session_map] at left
    obtain ⟨⟨⟨⟩, t⟩, ended, rfl⟩ := Option.map_eq_some_iff.mp left
    obtain ⟨_, fixed⟩ := Session.start_keeps (P := fun _ => True) (fun _ _ => trivial) trivial ended
    have same := congrArg Option.isSome (fixed trackName)
    rw [Option.isSome_map, Option.isSome_map] at same
    exact same.trans has
  | pause =>
    obtain rfl := Option.some.inj left
    rw [Session.handler_pause, Option.isSome_map]
    exact has

omit [DecidableEq H] in
theorem handler_of_answer {session after : Session Track Rtp} {id : SessionId} {trackName : TrackName}
    (returned : session.take method.call = .returned after)
    (answered : (id, trackName) ∈ answers sessionId method) :
    id = sessionId ∧ (after.handler trackName).isSome := by
  cases method with
  | setup name mediaTrack rtpRtcpHandler =>
    obtain ⟨rfl, rfl⟩ := Prod.mk.inj (List.mem_singleton.mp answered)
    refine ⟨rfl, ?_⟩
    simp only [Method.call, Session.take, Session.addMediaTrack] at returned
    split at returned
    · contradiction
    · split at returned
      · contradiction
      · obtain rfl := Outcome.returned.inj returned
        rw [Session.handler_set, if_pos rfl]
        rfl
  | play | pause => contradiction

omit [DecidableEq H] in
theorem stable_call (stable : s.Stable) {pointer : Nat} {after : Session Track Rtp}
    {answered : List (SessionId × TrackName)} (here : s.sessions sessionId = some pointer)
    (left : ((s.objects pointer).take method.call).session = some after)
    (added : ∀ id trackName, (id, trackName) ∈ answered → (id, trackName) ∈ s.answered ∨
      id = sessionId ∧ (after.handler trackName).isSome) :
    Stable { s with objects := Function.update s.objects pointer after, answered } := by
  refine ⟨stable.allocated, stable.current, stable.stays, fun id trackName member => ?_⟩
  rcases added id trackName member with before | ⟨rfl, has⟩
  · obtain ⟨p, found, has⟩ := stable.kept id trackName before
    refine ⟨p, found, ?_⟩
    dsimp only
    rw [Function.update_apply]
    split
    · subst p
      exact handler_of_call left has
    · exact has
  · refine ⟨pointer, here, ?_⟩
    dsimp only
    rw [Function.update_self]
    exact has

omit [DecidableEq H] in
theorem stable_create (stable : s.Stable) (absent : s.sessions sessionId = none) :
    Stable { s with
      objects := Function.update s.objects s.count .new
      count := s.count + 1
      sessions := Function.update s.sessions sessionId (some s.count) } := by
  have apart {id pointer} (found : s.sessions id = some pointer) : id ≠ sessionId := by
    rintro rfl
    rw [absent] at found
    contradiction
  refine ⟨fun id pointer found => ?_, fun h id method pointer calls => ?_, stable.stays,
    fun id trackName member => ?_⟩
  · dsimp only at found ⊢
    rw [Function.update_apply] at found
    split at found
    · obtain rfl := Option.some.inj found
      exact Nat.lt_succ_self _
    · exact Nat.lt_succ_of_lt (stable.allocated id pointer found)
  · have found := stable.current h id method pointer calls
    exact (Function.update_of_ne (apart found) _ _).trans found
  · obtain ⟨pointer, found, has⟩ := stable.kept id trackName member
    have older : pointer ≠ s.count := Nat.ne_of_lt (stable.allocated id pointer found)
    refine ⟨pointer, (Function.update_of_ne (apart found) _ _).trans found, ?_⟩
    dsimp only
    rw [Function.update_of_ne older]
    exact has

theorem stable_act (stable : s.Stable) (fresh : s.Fresh label) (stays : ¬ Leaves label)
    (taken : s.act label = some s') : s'.Stable := by
  cases label with
  | request h request =>
    simp only [act] at taken
    split at taken
    · obtain rfl := Option.some.inj taken
      cases request with
      | session sessionId method => exact stable_next stable (by rintro _ _ _ ⟨⟩) fun _ => ⟨by rintro ⟨⟩, by rintro ⟨⟩⟩
      | teardown | disconnect => exact absurd trivial stays
    · contradiction
  | step h =>
    simp only [act, advance] at taken
    split at taken
    · contradiction
    · obtain rfl := Option.some.inj taken
      apply stable_next stable
      · intro id method pointer calls
        split at calls
        · contradiction
        · split at calls
          · contradiction
          · contradiction
      · intro id
        split
        · exact ⟨by rintro ⟨⟩, by rintro ⟨⟩⟩
        · split
          · exact ⟨by rintro ⟨⟩, by rintro ⟨⟩⟩
          · exact ⟨by rintro ⟨⟩, by rintro ⟨⟩⟩
    · rename_i sessionId method creates
      obtain rfl := Option.some.inj taken
      have created := stable_create stable (fresh sessionId method creates)
      refine stable_next created (fun id method pointer calls => ?_) fun _ => ⟨by rintro ⟨⟩, by rintro ⟨⟩⟩
      obtain ⟨rfl, _, same⟩ := Task.call.inj calls
      exact (Function.update_self ..).trans same
    · rename_i sessionId method _
      obtain rfl := Option.some.inj taken
      refine stable_next stable (fun id method pointer calls => ?_) fun _ => ⟨by rintro ⟨⟩, by rintro ⟨⟩⟩
      obtain ⟨rfl, _, same⟩ := Task.call.inj calls
      exact same
    · contradiction
    · rename_i sessionId method pointer calls
      have here := stable.current h sessionId method pointer calls
      split at taken
      · rename_i session returned
        obtain rfl := Option.some.inj taken
        refine stable_next (stable_call stable here (congrArg Outcome.session returned)
          fun id trackName member => ?_) (by rintro _ _ _ ⟨⟩) fun _ => ⟨by rintro ⟨⟩, by rintro ⟨⟩⟩
        rcases List.mem_append.mp member with before | new
        · exact .inl before
        · exact .inr (handler_of_answer returned new)
      · rename_i e session threw
        obtain rfl := Option.some.inj taken
        exact stable_next (stable_call stable here (congrArg Outcome.session threw) fun _ _ => .inl)
          (by rintro _ _ _ ⟨⟩) fun _ => ⟨by rintro ⟨⟩, by rintro ⟨⟩⟩
      · contradiction
    · rename_i sessionId exists_
      exact absurd exists_ (stable.stays h sessionId).1
    · rename_i sessionId terminates
      exact absurd terminates (stable.stays h sessionId).2

end Answers

end State
end TinyRtsp.SessionManager
