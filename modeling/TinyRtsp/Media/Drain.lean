import TinyRtsp.CircularQueue.Refinement
import TinyRtsp.Media.MediaTrack

/-! The producer loop of a track up to the end of its file, with consumers of its
queue in between: what they have received when a null frame reaches them. -/
namespace TinyRtsp
open Transition CircularQueue

/-- Where `run_producer` is, with the frames that the file still has for
`read_next_frame`. -/
inductive Producer where
  | reading (file : List (List UInt8))
  | producing (frame : List UInt8) (file : List (List UInt8))
  | ending
  | ended

/-- The queue of a track and the thread that fills it. -/
structure Production (mediaType : MediaType) where
  frameQueue : CircularQueue SessionId Frame mediaType.queueCapacity
  producer : Producer

namespace Production
variable {mediaType : MediaType}

inductive Label where
  | readNextFrame
  | produce (frame : List UInt8)
  | setExit
  | registerConsumer (sessionId : SessionId)
  | unregisterConsumer (sessionId : SessionId)
  | consume (sessionId : SessionId) (frame : Frame)

def start (file : List (List UInt8)) : Production mediaType where
  frameQueue := .make _ mediaType.queueCapacity_pos
  producer := .reading file

/-- Only registered consumers call `consume`. -/
def act (s : Production mediaType) : Label → Option (Production mediaType)
  | .readNextFrame =>
    match s.producer with
    | .reading [] => some { s with producer := .ending }
    | .reading (frame :: file) => some { s with producer := .producing frame file }
    | _ => none
  | .produce frame =>
    match s.producer with
    | .producing next file =>
      if next = frame then
        (s.frameQueue.produce (some frame)).map fun frameQueue => ⟨frameQueue, .reading file⟩
      else none
    | _ => none
  | .setExit =>
    match s.producer with
    | .ending => some ⟨s.frameQueue.setExit, .ended⟩
    | _ => none
  | .registerConsumer sessionId =>
    some { s with frameQueue := s.frameQueue.registerConsumer sessionId }
  | .unregisterConsumer sessionId =>
    some { s with frameQueue := s.frameQueue.unregisterConsumer sessionId }
  | .consume sessionId frame =>
    if sessionId ∈ s.frameQueue.consumerPositions then
      (s.frameQueue.consume sessionId).bind fun (item, frameQueue) =>
        if item = frame then some { s with frameQueue } else none
    else none

def Label.event : Label → Option (Event SessionId Frame)
  | .readNextFrame => none
  | .produce frame => some (.produced (some frame))
  | .setExit => some .exited
  | .registerConsumer sessionId => some (.registered sessionId)
  | .unregisterConsumer sessionId => some (.unregistered sessionId)
  | .consume sessionId none => some (.released sessionId none)
  | .consume sessionId (some frame) => some (.consumed sessionId (some frame))

def delivery (sessionId : SessionId) (trace : List Label) : Option (Fifos.Delivery Frame) :=
  Fifos.sinceRegistration sessionId (trace.filterMap Label.event)

/-- The session has received every frame produced since it registered. -/
def Drained (sessionId : SessionId) (trace : List Label) : Prop :=
  ∃ frames, delivery sessionId trace = some ⟨frames, frames⟩

/-- Nothing waits for the session: the first test of `consume`. -/
def CaughtUp (s : Production mediaType) (sessionId : SessionId) : Prop :=
  s.frameQueue.position sessionId = s.frameQueue.writePosition

variable {file : List (List UInt8)} {trace : List Label} {label : Label} {s s' : Production mediaType}
  {sessionId : SessionId}

theorem registered_iff_mem {q : CircularQueue SessionId Frame mediaType.queueCapacity} :
    sessionId ∈ q.consumerPositions ↔ ∃ p, q.Registered sessionId p :=
  AList.lookup_isSome.symm.trans Option.isSome_iff_exists

theorem act_readNextFrame (taken : s.act .readNextFrame = some s') :
    ∃ producer, s.producer ≠ .ended ∧ producer ≠ .ended ∧ s' = { s with producer } := by
  simp only [act] at taken
  split at taken
  · rename_i busy
    refine ⟨.ending, ?_, Producer.noConfusion, (Option.some.inj taken).symm⟩
    rw [busy]
    exact Producer.noConfusion
  · rename_i frame file busy
    refine ⟨.producing frame file, ?_, Producer.noConfusion, (Option.some.inj taken).symm⟩
    rw [busy]
    exact Producer.noConfusion
  · contradiction

theorem act_produce {frame : List UInt8} (taken : s.act (.produce frame) = some s') :
    ∃ file frameQueue, s.producer = .producing frame file ∧
      s.frameQueue.produce (some frame) = some frameQueue ∧ s' = ⟨frameQueue, .reading file⟩ := by
  simp only [act] at taken
  split at taken
  · rename_i next file busy
    split at taken
    · subst next
      obtain ⟨frameQueue, produced, same⟩ := Option.map_eq_some_iff.mp taken
      exact ⟨file, frameQueue, busy, produced, same.symm⟩
    · contradiction
  · contradiction

theorem act_setExit (taken : s.act .setExit = some s') : s' = ⟨s.frameQueue.setExit, .ended⟩ := by
  simp only [act] at taken
  split at taken
  · exact (Option.some.inj taken).symm
  · contradiction

theorem act_consume {frame : Frame} (taken : s.act (.consume sessionId frame) = some s') :
    ∃ p frameQueue, s.frameQueue.Registered sessionId p ∧
      s.frameQueue.consume sessionId = some (frame, frameQueue) ∧ s' = { s with frameQueue } := by
  simp only [act] at taken
  split at taken
  · rename_i member
    obtain ⟨p, here⟩ := registered_iff_mem.mp member
    obtain ⟨⟨item, frameQueue⟩, consumed, taken⟩ := Option.bind_eq_some_iff.mp taken
    dsimp only at taken
    split at taken
    · subst item
      exact ⟨p, frameQueue, here, consumed, (Option.some.inj taken).symm⟩
    · contradiction
  · contradiction

theorem delivery_snoc (sessionId : SessionId) (trace : List Label) (label : Label) :
    delivery sessionId (trace ++ [label]) =
      label.event.elim (delivery sessionId trace) (Fifos.Delivery.extend sessionId (delivery sessionId trace)) := by
  unfold delivery Fifos.sinceRegistration
  rw [List.filterMap_append, List.foldl_append]
  cases event : label.event with
  | none => simp [event]
  | some e => simp [event]

theorem produced_frames {d : Fifos.Delivery Frame} (since : delivery sessionId trace = some d) :
    none ∉ d.produced := by
  induction trace using List.reverseRecOn generalizing d with
  | nil => contradiction
  | append_singleton trace label ih =>
    rw [delivery_snoc] at since
    cases label with
    | readNextFrame | setExit => exact ih since
    | produce frame =>
      obtain ⟨before, earlier, rfl⟩ := Option.map_eq_some_iff.mp since
      simpa using ih earlier
    | registerConsumer other =>
      simp only [Label.event, Option.elim_some, Fifos.Delivery.extend] at since
      split at since
      · obtain rfl := Option.some.inj since
        exact List.not_mem_nil
      · exact ih since
    | unregisterConsumer other =>
      simp only [Label.event, Option.elim_some, Fifos.Delivery.extend] at since
      split at since
      · contradiction
      · exact ih since
    | consume other frame =>
      cases frame with
      | none => exact ih since
      | some frame =>
        simp only [Label.event, Option.elim_some, Fifos.Delivery.extend] at since
        split at since
        · obtain ⟨before, earlier, rfl⟩ := Option.map_eq_some_iff.mp since
          exact ih (d := before) earlier
        · exact ih since

theorem backlog_of_run {q : CircularQueue SessionId Frame mediaType.queueCapacity}
    (run : Run Step (make _ mediaType.queueCapacity_pos) (trace.filterMap Label.event) q)
    {p} (here : q.Registered sessionId p) : ∃ f received backlog, Represents q f ∧
      f.backlog sessionId = some backlog ∧
      delivery sessionId trace = some ⟨received ++ backlog, received⟩ := by
  obtain ⟨f, abstract, rel⟩ :=
    run.simulation (R := Represents) (Represents.make _) fun rel taken => rel.step taken
  obtain ⟨backlog, waiting⟩ := (rel.keys sessionId).mp ⟨p, here⟩
  obtain ⟨_, absent⟩ | ⟨received, backlog', waiting', since⟩ := Fifos.delivery_of_run abstract sessionId
  · rw [waiting] at absent
    contradiction
  · obtain rfl : backlog = backlog' := Option.some.inj (waiting.symm.trans waiting')
    exact ⟨f, received, backlog, rel, waiting, since⟩

theorem drained_iff_caughtUp
    (run : Run Step (make _ mediaType.queueCapacity_pos) (trace.filterMap Label.event) s.frameQueue)
    {p} (here : s.frameQueue.Registered sessionId p) : Drained sessionId trace ↔ s.CaughtUp sessionId := by
  obtain ⟨f, received, backlog, rel, waiting, since⟩ := backlog_of_run run here
  refine Iff.trans ?_ (rel.empty_iff waiting).symm
  rw [Drained, since]
  constructor
  · rintro ⟨frames, same⟩
    obtain ⟨all, rfl⟩ := Fifos.Delivery.mk.inj (Option.some.inj same)
    simpa using all
  · rintro rfl
    exact ⟨received, by rw [List.append_nil]⟩

theorem frame_of_consume {q q' : CircularQueue SessionId Frame mediaType.queueCapacity} {frame : Frame}
    (run : Run Step (make _ mediaType.queueCapacity_pos) (trace.filterMap Label.event) q)
    {p} (here : q.Registered sessionId p) (running : q.exit = false)
    (taken : q.consume sessionId = some (frame, q')) : frame ≠ none := by
  obtain ⟨f, received, backlog, rel, waiting, since⟩ := backlog_of_run run here
  have frames := produced_frames since
  unfold consume at taken
  rw [here.touch] at taken
  split at taken
  · contradiction
  · rename_i goes
    have pair := Option.some.inj taken
    cases backlog with
    | nil =>
      have empty := (rel.empty_iff waiting).mpr rfl
      exact absurd (consumeWaits_iff.mpr ⟨empty, running⟩) goes
    | cons item rest =>
      obtain ⟨same, _⟩ := rel.take running waiting
      rw [pair] at same
      obtain rfl : frame = item := same
      rintro rfl
      exact frames (List.mem_append_right _ List.mem_cons_self)

theorem queue_run (run : Run (Takes act) (start file : Production mediaType) trace s) :
    Run Step (make _ mediaType.queueCapacity_pos) (trace.filterMap Label.event) s.frameQueue ∧
      (s.frameQueue.exit = true ↔ s.producer = .ended) := by
  refine run.history (P := fun trace (s : Production mediaType) =>
    Run Step (make _ mediaType.queueCapacity_pos) (trace.filterMap Label.event) s.frameQueue ∧
      (s.frameQueue.exit = true ↔ s.producer = .ended)) ⟨.start, by rintro ⟨⟩, by rintro ⟨⟩⟩ ?_
  rintro trace s label s' ⟨queue, exits⟩ taken
  have extends_ {event} (same : label.event = some event) (step : s.frameQueue.Step event s'.frameQueue) :
      Run Step (make _ mediaType.queueCapacity_pos) ((trace ++ [label]).filterMap Label.event)
        s'.frameQueue := by
    rw [List.filterMap_append, List.filterMap_cons_some same]
    exact .snoc queue step
  have notEnded (busy : s.producer ≠ .ended) : s.frameQueue.exit = false := by
    cases exited : s.frameQueue.exit with
    | false => rfl
    | true => exact absurd (exits.mp exited) busy
  cases label with
  | readNextFrame =>
    have silent : (trace ++ [Label.readNextFrame]).filterMap Label.event =
        trace.filterMap Label.event := by
      simp [Label.event]
    rw [silent]
    obtain ⟨producer, busy, reads, rfl⟩ := act_readNextFrame taken
    exact ⟨queue, by simp [notEnded busy, reads]⟩
  | produce frame =>
    obtain ⟨file, frameQueue, busy, produced, rfl⟩ := act_produce taken
    have running := notEnded (by rw [busy]; exact Producer.noConfusion)
    refine ⟨extends_ rfl ⟨.produce (some frame), trivial, fun _ _ => running, ?_⟩, ?_⟩
    · rw [exec, produced]
      rfl
    · simp [exit_produce produced, running]
  | setExit =>
    obtain rfl := act_setExit taken
    exact ⟨extends_ rfl ⟨.setExit, trivial, by rintro _ ⟨⟩, rfl⟩, iff_of_true rfl rfl⟩
  | registerConsumer other =>
    obtain rfl := Option.some.inj taken
    exact ⟨extends_ rfl ⟨.registerConsumer other, trivial, by rintro _ ⟨⟩, rfl⟩, exits⟩
  | unregisterConsumer other =>
    obtain rfl := Option.some.inj taken
    exact ⟨extends_ rfl ⟨.unregisterConsumer other, trivial, by rintro _ ⟨⟩, rfl⟩, exits⟩
  | consume other frame =>
    obtain ⟨p, frameQueue, here, consumed, rfl⟩ := act_consume taken
    have result : s.frameQueue.exec (.consume other) = some (if s.frameQueue.exit then
        .released other frame else .consumed other frame, frameQueue) := by
      rw [exec, consumed]
      rfl
    rcases consume_cases consumed with ⟨exited, rfl, rfl⟩ | ⟨running, _, _, still, _⟩
    · rw [if_pos exited] at result
      refine ⟨extends_ rfl ⟨.consume other, ⟨p, here⟩, by rintro _ ⟨⟩, result⟩, ?_⟩
      simpa [(touch_fields s.frameQueue other).1] using exits
    · rw [if_neg (by simp [running])] at result
      have frames := frame_of_consume queue here running consumed
      cases frame with
      | none => contradiction
      | some frame =>
        refine ⟨extends_ rfl ⟨.consume other, ⟨p, here⟩, by rintro _ ⟨⟩, result⟩, ?_⟩
        simpa [still, running] using exits

/-- Once the producer has ended only a registration moves a session's position. -/
theorem act_ended (sessionId : SessionId) (ended : s.producer = .ended) (exited : s.frameQueue.exit = true)
    (taken : s.act label = some s') : label ≠ .setExit ∧
      (label ≠ .registerConsumer sessionId → ∀ p, s'.frameQueue.Registered sessionId p →
        s.frameQueue.Registered sessionId p ∧ (s'.CaughtUp sessionId ↔ s.CaughtUp sessionId)) := by
  have kept {p} (same : s'.frameQueue.writePosition = s.frameQueue.writePosition)
      (here : s'.frameQueue.Registered sessionId p) (before : s.frameQueue.Registered sessionId p) :
      s.frameQueue.Registered sessionId p ∧ (s'.CaughtUp sessionId ↔ s.CaughtUp sessionId) := by
    refine ⟨before, ?_⟩
    rw [CaughtUp, CaughtUp, here.position, before.position, same]
  cases label with
  | readNextFrame | produce | setExit =>
    simp [act, ended] at taken
  | registerConsumer other =>
    obtain rfl := Option.some.inj taken
    refine ⟨nofun, fun differs p here => ?_⟩
    have apart : sessionId ≠ other := fun same => differs (by rw [same])
    have before := registered_registerConsumer.mp here
    rw [if_neg apart] at before
    exact kept rfl here before
  | unregisterConsumer other =>
    obtain rfl := Option.some.inj taken
    exact ⟨nofun, fun _ p here => kept rfl here (registered_unregisterConsumer.mp here).2⟩
  | consume other frame =>
    refine ⟨nofun, fun _ p here => ?_⟩
    obtain ⟨q, frameQueue, registered, consumed, rfl⟩ := act_consume taken
    rcases consume_cases consumed with ⟨_, _, rfl⟩ | ⟨running, _⟩
    · rw [registered.touch] at here
      exact kept (by rw [registered.touch]) (by rw [registered.touch]; exact here) here
    · rw [exited] at running
      contradiction

/-- A trace that ends with a step other than `set_exit` has its `set_exit` before. -/
theorem setExit_before {before after : List Label} (differs : label ≠ .setExit)
    (whole : trace ++ [label] = before ++ .setExit :: after) :
    ∃ rest, after = rest ++ [label] ∧ trace = before ++ .setExit :: rest := by
  rcases List.eq_nil_or_concat after with rfl | ⟨rest, last, rfl⟩
  · obtain ⟨_, same⟩ := List.append_inj' whole rfl
    exact absurd (List.cons.inj same).1 differs
  · rw [List.concat_eq_append, ← List.cons_append, ← List.append_assoc] at whole
    obtain ⟨earlier, same⟩ := List.append_inj' whole rfl
    obtain rfl := (List.cons.inj same).1
    exact ⟨rest, List.concat_eq_append, earlier⟩

theorem ended_act (taken : s.act label = some s') :
    s'.producer = .ended ↔ s.producer = .ended ∨ label = .setExit := by
  cases label with
  | readNextFrame =>
    obtain ⟨producer, busy, reads, rfl⟩ := act_readNextFrame taken
    simp [busy, reads]
  | produce frame =>
    obtain ⟨file, frameQueue, busy, _, rfl⟩ := act_produce taken
    simp [busy]
  | setExit =>
    obtain rfl := act_setExit taken
    exact iff_of_true rfl (.inr rfl)
  | registerConsumer other | unregisterConsumer other =>
    obtain rfl := Option.some.inj taken
    simp
  | consume other frame =>
    obtain ⟨_, frameQueue, _, _, rfl⟩ := act_consume taken
    simp

theorem ended_iff (run : Run (Takes act) (start file : Production mediaType) trace s) :
    s.producer = .ended ↔ .setExit ∈ trace := by
  induction run with
  | start => simp [start]
  | snoc _ taken ih => rw [ended_act taken, ih, List.mem_append, List.mem_singleton, eq_comm]

/-- Behind `set_exit` a session has caught up exactly when it had at `set_exit` or
has registered since. -/
theorem caughtUp_iff (run : Run (Takes act) (start file : Production mediaType) trace s)
    (exited : s.frameQueue.exit = true) {p} (here : s.frameQueue.Registered sessionId p) :
    s.CaughtUp sessionId ↔ ∀ before after s₀, trace = before ++ .setExit :: after →
      Run (Takes act) (start file : Production mediaType) before s₀ →
      .registerConsumer sessionId ∉ after → s₀.CaughtUp sessionId := by
  induction run generalizing p with
  | start => contradiction
  | @snoc trace s label s' run taken ih =>
    obtain ⟨_, exits⟩ := queue_run run
    cases before : s.frameQueue.exit with
    | false =>
      have running : s.producer ≠ .ended := fun ended => by simp [exits.mpr ended] at before
      have ended := (queue_run (.snoc run taken)).2.mp exited
      obtain rfl := ((ended_act taken).mp ended).resolve_left running
      have unset : .setExit ∉ trace := fun member => running ((ended_iff run).mpr member)
      have kept : s'.CaughtUp sessionId ↔ s.CaughtUp sessionId := by
        obtain rfl := act_setExit taken
        rfl
      rw [kept]
      constructor
      · intro caughtUp earlier after s₀ whole run₀ _
        rcases List.eq_nil_or_concat after with rfl | ⟨rest, last, rfl⟩
        · obtain ⟨rfl, _⟩ := List.append_inj' whole rfl
          exact run.functional run₀ ▸ caughtUp
        · rw [List.concat_eq_append, ← List.cons_append, ← List.append_assoc] at whole
          obtain ⟨rfl, _⟩ := List.append_inj' whole rfl
          exact absurd (List.mem_append_right _ List.mem_cons_self) unset
      · intro all
        exact all trace [] s rfl run List.not_mem_nil
    | true =>
      obtain ⟨differs, others⟩ := act_ended sessionId (exits.mp before) before taken
      by_cases registers : label = .registerConsumer sessionId
      · subst label
        obtain rfl := Option.some.inj taken
        refine iff_of_true ?_ fun earlier after s₀ whole _ free => ?_
        · have moved := registered_registerConsumer.mp here
          rw [if_pos rfl] at moved
          rw [CaughtUp, here.position]
          exact moved.symm
        · obtain ⟨rest, rfl, _⟩ := setExit_before differs whole
          exact absurd (List.mem_append_right _ (List.mem_singleton_self _)) free
      · obtain ⟨registered, kept⟩ := others registers p here
        rw [kept, ih before registered]
        constructor
        · intro all earlier after s₀ whole run₀ free
          obtain ⟨rest, rfl, same⟩ := setExit_before differs whole
          exact all earlier rest s₀ same run₀ fun member => free (List.mem_append_left _ member)
        · intro all earlier rest s₀ same run₀ free
          refine all earlier (rest ++ [label]) s₀ ?_ run₀ ?_
          · rw [same, List.append_assoc, List.cons_append]
          · rw [List.mem_append, List.mem_singleton, not_or]
            exact ⟨free, fun same => registers same.symm⟩

/-- When a session gets its null frame it has received every frame produced since
it registered, if and only if it had caught up when the producer called `set_exit`
or has registered since. -/
theorem drained_iff
    (run : Run (Takes act) (start file : Production mediaType) (trace ++ [.consume sessionId none]) s) :
    Drained sessionId trace ↔ ∀ before after s₀, trace = before ++ .setExit :: after →
      Run (Takes act) (start file : Production mediaType) before s₀ →
      .registerConsumer sessionId ∉ after → s₀.CaughtUp sessionId := by
  obtain ⟨s, earlier, taken⟩ := run.last
  obtain ⟨queue, _⟩ := queue_run earlier
  obtain ⟨p, frameQueue, here, consumed, _⟩ := act_consume taken
  have exited : s.frameQueue.exit = true := by
    by_contra running
    exact frame_of_consume queue here (by simpa using running) consumed rfl
  exact (drained_iff_caughtUp queue here).trans (caughtUp_iff earlier exited here)

/-- A session consumes the only frame of a file before the producer ends. -/
theorem drained_iff_one : ∃ (trace : List Label) (s : Production .h264),
    Run (Takes act) (start [[1]]) (trace ++ [.consume "x".toList none]) s ∧
      Drained "x".toList trace ∧
      ∀ before after s₀, trace = before ++ .setExit :: after →
        Run (Takes act) (start [[1]]) before s₀ → .registerConsumer "x".toList ∉ after →
        (s₀ : Production .h264).CaughtUp "x".toList := by
  let trace : List Label := [.registerConsumer "x".toList, .readNextFrame, .produce [1],
    .consume "x".toList (some [1]), .readNextFrame, .setExit]
  obtain ⟨s, done⟩ : ∃ s : Production .h264,
      (trace ++ [Label.consume "x".toList none]).foldlM act (start [[1]]) = some s :=
    Option.isSome_iff_exists.mp (by decide +kernel)
  have drained : Drained "x".toList trace := ⟨[some [1]], rfl⟩
  exact ⟨trace, s, .of_foldlM done, drained, (drained_iff (.of_foldlM done)).mp drained⟩

/-- The producer ends before a session has consumed the only frame. -/
theorem tail_dropped :
    ¬ ∀ (file : List (List UInt8)) (trace : List Label) (sessionId : SessionId) (s : Production .h264),
      Run (Takes act) (start file) (trace ++ [.consume sessionId none]) s → Drained sessionId trace := by
  intro claim
  let trace : List Label := [.registerConsumer "x".toList, .readNextFrame, .produce [1],
    .readNextFrame, .setExit]
  obtain ⟨s, done⟩ : ∃ s : Production .h264,
      (trace ++ [Label.consume "x".toList none]).foldlM act (start [[1]]) = some s :=
    Option.isSome_iff_exists.mp (by decide +kernel)
  obtain ⟨frames, all⟩ := claim [[1]] trace "x".toList s (.of_foldlM done)
  have received : delivery "x".toList trace = some ⟨[some [1]], []⟩ := rfl
  rw [received] at all
  obtain ⟨some, none⟩ := Fifos.Delivery.mk.inj (Option.some.inj all)
  exact absurd (some.trans none.symm) (by decide)

end Production
end TinyRtsp
