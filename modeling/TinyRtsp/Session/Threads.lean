import TinyRtsp.Foundation.Transition
import TinyRtsp.Session.Session

/-! Runs of the calls on one session. Which calls are safe depends on the calls
before them: a track that was started keeps its joinable thread, whether it has
ended or not, until `stop` joins it. -/
namespace TinyRtsp.Session
variable {Track Rtp : Type}

/-- The calls on a session, and a sender thread leaving its loop. A `start`
visits tracks and may throw at the next one. -/
inductive Call (Track Rtp : Type) where
  | addMediaTrack (name : TrackName) (mediaTrack : Track)
      (rtpRtcpHandler : Except Exception Rtp)
  | start (visited : List TrackName) (failing : Option (TrackName × Exception))
  | pause
  | stop
  | senderEnds (name : TrackName)

def startTrack (failing : Option (TrackName × Exception)) (name : TrackName) (_ : Track) (_ : Unit) :
    Outcome Unit :=
  match failing with
  | some (last, e) => if last = name then .thrown e () else .returned ()
  | none => .returned ()

def take (s : Session Track Rtp) : Call Track Rtp → Outcome (Session Track Rtp)
  | .addMediaTrack name mediaTrack rtp => s.addMediaTrack name mediaTrack rtp
  | .start visited failing =>
    (start (startTrack failing) (visited ++ (failing.map Prod.fst).toList) () s).map Prod.snd
  | .pause => .returned s.pause
  | .stop => .returned s.stop
  | .senderEnds name => .returned (s.senderEnds name)

/-- `start` visits every handler once, unless it throws at an inactive one. -/
def Possible (s : Session Track Rtp) : Call Track Rtp → Prop
  | .start visited none => visited.Perm s.sessionHandlers.keys
  | .start visited (some (name, _)) => (visited ++ [name]).Subperm s.sessionHandlers.keys ∧
      ∃ h, s.handler name = some h ∧ h.isActive = false
  | _ => True

/-- The process with its session, or without when `std::terminate` has ended it. -/
def Step (p : Option (Session Track Rtp)) (call : Call Track Rtp) (q : Option (Session Track Rtp)) :
    Prop :=
  ∃ s, p = some s ∧ Possible s call ∧ q = (s.take call).session

/-- What the calls so far have made of a track. -/
inductive Usage where
  | absent
  | ready
  | playing
  | paused
  | failed
  deriving DecidableEq

namespace Usage

def started : Usage → Usage
  | .ready | .paused => .playing
  | usage => usage

/-- A `start` that throws has already set the flag. -/
def startThrew : Usage → Usage
  | .ready => .failed
  | .paused => .playing
  | usage => usage

def pausing : Usage → Usage
  | .playing => .paused
  | .failed => .ready
  | usage => usage

def stopped : Usage → Usage
  | .absent => .absent
  | _ => .ready

def next (name : TrackName) (usage : Usage) : Call Track Rtp → Usage
  | .addMediaTrack added _ (.ok _) => if added = name then .ready else usage
  | .addMediaTrack _ _ (.error _) => usage
  | .start visited failing =>
    if name ∈ visited then usage.started
    else if failing.map Prod.fst = some name then usage.startThrew
    else usage
  | .pause => usage.pausing
  | .stop => usage.stopped
  | .senderEnds _ => usage

end Usage

def usage (name : TrackName) (trace : List (Call Track Rtp)) : Usage :=
  trace.foldl (Usage.next name) .absent

/-- No `start` reaches a track that was started and then paused, and no
`add_media_track` replaces one that was started, with no `stop` in between. -/
def Allowed (before : List (Call Track Rtp)) : Call Track Rtp → Prop
  | .start visited _ => ∀ name ∈ visited, usage name before ≠ .paused
  | .addMediaTrack name _ (.ok _) =>
    usage name before ≠ .playing ∧ usage name before ≠ .paused
  | _ => True

def Disciplined (trace : List (Call Track Rtp)) : Prop :=
  ∀ before call, before ++ [call] <+: trace → Allowed before call

def shown : Option (SessionHandler Track Rtp) → Usage
  | none => .absent
  | some ⟨false, none, _, _⟩ => .ready
  | some ⟨false, some _, _, _⟩ => .paused
  | some ⟨true, none, _, _⟩ => .failed
  | some ⟨true, some _, _, _⟩ => .playing

theorem joinable_iff (h : Option (SessionHandler Track Rtp)) :
    h.any (·.senderThread.isSome) = true ↔ shown h = .playing ∨ shown h = .paused := by
  rcases h with _ | ⟨_ | _, _ | _, _, _⟩ <;> simp [shown]

section Calls
variable {s t : Session Track Rtp} {name : TrackName}
  {starting : TrackName → Track → Unit → Outcome Unit}

theorem start_append (first rest : List TrackName) :
    start starting (first ++ rest) () s = match start starting first () s with
      | .returned (_, t) => start starting rest () t
      | outcome => outcome := by
  induction first generalizing s with
  | nil => rfl
  | cons name first ih =>
    simp only [List.cons_append, start]
    cases s.handler name with
    | none => exact ih
    | some h =>
      dsimp only
      split
      · exact ih
      · cases starting name h.mediaTrack () with
        | thrown | terminated => rfl
        | returned =>
          dsimp only
          split
          · rfl
          · exact ih

def activate (s : Session Track Rtp) (name : TrackName) : Session Track Rtp :=
  match s.handler name with
  | some h => s.set name { h with isActive := true, senderThread := some .running }
  | none => s

theorem start_cons (startable : ∀ track, starting name track () = .returned ())
    (rest : List TrackName) :
    start starting (name :: rest) () s = match shown (s.handler name) with
      | .paused => .terminated
      | .ready => start starting rest () (s.activate name)
      | _ => start starting rest () s := by
  rw [start, activate]
  rcases s.handler name with _ | ⟨_ | _, _ | _, _, _⟩ <;> simp [shown, startable]

theorem handler_activate_ne {other : TrackName} (apart : other ≠ name) :
    (s.activate name).handler other = s.handler other := by
  unfold activate
  split
  · rw [handler_set, if_neg apart]
  · rfl

theorem shown_activate (ready : shown (s.handler name) = .ready) :
    shown ((s.activate name).handler name) = .playing := by
  unfold activate
  cases here : s.handler name with
  | none => simp [here, shown] at ready
  | some h =>
    dsimp only
    rw [handler_set, if_pos rfl]
    rfl

/-- Starting a paused track ends the process, and otherwise every visited track
plays. -/
theorem start_visited (starting : TrackName → Track → Unit → Outcome Unit)
    (order : List TrackName)
    (startable : ∀ name ∈ order, ∀ track, starting name track () = .returned ())
    (s : Session Track Rtp) :
    ((∃ name ∈ order, shown (s.handler name) = .paused) ∧
        start starting order () s = .terminated) ∨
      ((∀ name ∈ order, shown (s.handler name) ≠ .paused) ∧
        ∃ t, start starting order () s = .returned ((), t) ∧ ∀ name,
          (name ∈ order → shown (t.handler name) = (shown (s.handler name)).started) ∧
          (name ∉ order → t.handler name = s.handler name)) := by
  induction order generalizing s with
  | nil => exact Or.inr ⟨nofun, s, rfl, fun _ => ⟨nofun, fun _ => rfl⟩⟩
  | cons name rest ih =>
    have ih := ih fun other member => startable other (List.mem_cons_of_mem _ member)
    rw [start_cons (startable name List.mem_cons_self)]
    cases here : shown (s.handler name) with
    | paused => exact Or.inl ⟨⟨name, List.mem_cons_self, here⟩, rfl⟩
    | ready =>
      have now := shown_activate here
      have same : ∀ other, other ≠ name →
          (s.activate name).handler other = s.handler other := fun _ => handler_activate_ne
      rcases ih (s.activate name) with ⟨⟨other, member, paused⟩, dies⟩ | ⟨quiet, t, starts, after⟩
      · have apart : other ≠ name := by
          rintro rfl
          rw [now] at paused
          contradiction
        rw [same other apart] at paused
        exact Or.inl ⟨⟨other, List.mem_cons_of_mem _ member, paused⟩, dies⟩
      · refine Or.inr ⟨?_, t, starts, fun other => ⟨fun member => ?_, fun missing => ?_⟩⟩
        · intro other member paused
          by_cases apart : other = name
          · rw [apart, here] at paused
            contradiction
          · exact quiet other (List.mem_of_ne_of_mem apart member) (same other apart ▸ paused)
        · by_cases apart : other = name
          · subst other
            by_cases again : name ∈ rest
            · rw [(after name).1 again, now, here]
              rfl
            · rw [(after name).2 again, now, here]
              rfl
          · rw [(after other).1 (List.mem_of_ne_of_mem apart member), same other apart]
        · rw [List.mem_cons, not_or] at missing
          rw [(after other).2 missing.2, same other missing.1]
    | absent | playing | failed =>
      rcases ih s with ⟨⟨other, member, paused⟩, dies⟩ | ⟨quiet, t, starts, after⟩
      · exact Or.inl ⟨⟨other, List.mem_cons_of_mem _ member, paused⟩, dies⟩
      · refine Or.inr ⟨?_, t, starts, fun other => ⟨fun member => ?_, fun missing => ?_⟩⟩
        · intro other member paused
          by_cases apart : other = name
          · rw [apart, here] at paused
            contradiction
          · exact quiet other (List.mem_of_ne_of_mem apart member) paused
        · by_cases again : other ∈ rest
          · exact (after other).1 again
          · obtain rfl : other = name := (List.mem_cons.mp member).resolve_right again
            rw [(after other).2 again, here]
            rfl
        · rw [List.mem_cons, not_or] at missing
          exact (after other).2 missing.2

theorem Possible.apart {visited : List TrackName} {failing : Option (TrackName × Exception)}
    (possible : Possible s (.start visited failing)) :
    ∀ name ∈ visited, failing.map Prod.fst ≠ some name := by
  intro name member
  cases failing with
  | none => nofun
  | some failed =>
    obtain ⟨last, e⟩ := failed
    obtain ⟨⟨visits, same, inside⟩, _⟩ := possible
    have distinct := same.nodup_iff.mp (s.sessionHandlers.keys_nodup.sublist inside)
    rw [List.nodup_append] at distinct
    simpa using (distinct.2.2 name member last (by simp)).symm

theorem Possible.startable {visited : List TrackName} {failing : Option (TrackName × Exception)}
    (possible : Possible s (.start visited failing)) :
    ∀ name ∈ visited, ∀ track : Track, startTrack failing name track () = .returned () := by
  intro name member track
  cases failing with
  | none => rfl
  | some failed =>
    obtain ⟨last, e⟩ := failed
    exact if_neg fun same => possible.apart name member (by rw [← same]; rfl)

theorem start_taken {visited : List TrackName} {failing : Option (TrackName × Exception)}
    (possible : Possible s (.start visited failing)) :
    ((∃ name ∈ visited, shown (s.handler name) = .paused) ∧
        (s.take (.start visited failing)).session = none) ∨
      ((∀ name ∈ visited, shown (s.handler name) ≠ .paused) ∧
        ∃ t, (s.take (.start visited failing)).session = some t ∧ ∀ name,
          shown (t.handler name) =
            Usage.next name (shown (s.handler name)) (.start visited failing : Call Track Rtp)) := by
  have visits := start_visited (startTrack failing) visited possible.startable s
  rw [take, start_append]
  rcases visits with ⟨paused, dies⟩ | ⟨quiet, t, starts, after⟩
  · exact Or.inl ⟨paused, by rw [dies]; rfl⟩
  · refine Or.inr ⟨quiet, ?_⟩
    rw [starts]
    cases failing with
    | none =>
      refine ⟨t, rfl, fun name => ?_⟩
      simp only [Usage.next, Option.map_none, reduceCtorEq, if_false]
      split
      · exact (after name).1 ‹_›
      · rw [(after name).2 ‹_›]
    | some failed =>
      obtain ⟨last, e⟩ := failed
      have missing : last ∉ visited := fun member => possible.apart last member rfl
      obtain ⟨_, h, here, inactive⟩ := possible
      have there : t.handler last = some h := by rw [(after last).2 missing, here]
      refine ⟨t.set last { h with isActive := true }, ?_, fun name => ?_⟩
      · simp [start, startTrack, there, inactive, Outcome.session, Outcome.map]
      · rw [handler_set]
        by_cases same : name = last
        · subst name
          rw [if_pos rfl, Usage.next, if_neg missing, Option.map_some, if_pos rfl, here]
          obtain ⟨_, _ | _, _, _⟩ := h <;> obtain rfl := inactive <;> rfl
        · rw [if_neg same, Usage.next, Option.map_some,
            if_neg (show ¬ some last = some name by simpa using Ne.symm same)]
          split
          · exact (after name).1 ‹_›
          · rw [(after name).2 ‹_›]

theorem none_failing {visited : List TrackName} {failing : Option (TrackName × Exception)}
    (possible : Possible s (.start visited failing))
    (returned : s.take (.start visited failing) = .returned t) : failing = none := by
  cases failing with
  | none => rfl
  | some failed =>
    obtain ⟨last, e⟩ := failed
    have missing : last ∉ visited := fun member => possible.apart last member rfl
    rw [take, start_append] at returned
    rcases start_visited (startTrack (some (last, e))) visited possible.startable s with
      ⟨_, dies⟩ | ⟨_, u, starts, after⟩
    · rw [dies] at returned
      contradiction
    · obtain ⟨_, h, here, inactive⟩ := possible
      have there : u.handler last = some h := by rw [(after last).2 missing, here]
      rw [starts] at returned
      simp [start, startTrack, there, inactive, Outcome.map] at returned

/-- A step on a session whose tracks show their usage: it ends the process when
the call is not allowed, and otherwise they show their next usage. -/
theorem step_spec {trace : List (Call Track Rtp)} {call : Call Track Rtp}
    {q : Option (Session Track Rtp)} (shows : ∀ name, usage name trace = shown (s.handler name))
    (taken : Step (some s) call q) :
    (¬ Allowed trace call ∧ q = none) ∨
      (Allowed trace call ∧ ∃ t, q = some t ∧
        ∀ name, usage name (trace ++ [call]) = shown (t.handler name)) := by
  have grows : ∀ name, usage name (trace ++ [call]) = Usage.next name (shown (s.handler name)) call := by
    intro name
    rw [← shows]
    simp [usage]
  obtain ⟨_, same, possible, rfl⟩ := taken
  obtain rfl := Option.some.inj same
  simp only [grows]
  cases call with
  | addMediaTrack added mediaTrack rtp =>
    cases rtp with
    | error => exact Or.inr ⟨trivial, s, rfl, fun _ => rfl⟩
    | ok rtp =>
      simp only [Allowed, shows, take, addMediaTrack]
      cases joinable : (s.handler added).any (·.senderThread.isSome) with
      | true =>
        refine Or.inl ⟨?_, rfl⟩
        rintro ⟨still, quiet⟩
        exact ((joinable_iff _).mp joinable).elim still quiet
      | false =>
        have free := mt (joinable_iff (s.handler added)).mpr (by simp [joinable])
        refine Or.inr ⟨not_or.mp free, _, rfl, fun name => ?_⟩
        rw [handler_set, Usage.next]
        by_cases same : name = added
        · rw [if_pos same, if_pos same.symm]
          rfl
        · rw [if_neg same, if_neg (Ne.symm same)]
  | start visited failing =>
    simp only [Allowed, shows]
    rcases start_taken possible with ⟨⟨name, member, paused⟩, dies⟩ | ⟨quiet, t, starts, after⟩
    · exact Or.inl ⟨fun allowed => allowed name member paused, dies⟩
    · exact Or.inr ⟨quiet, t, starts, fun name => (after name).symm⟩
  | pause =>
    refine Or.inr ⟨trivial, _, rfl, fun name => ?_⟩
    rw [handler_pause]
    rcases s.handler name with _ | ⟨_ | _, _ | _, _, _⟩ <;> rfl
  | stop =>
    refine Or.inr ⟨trivial, _, rfl, fun name => ?_⟩
    rw [handler_stop]
    rcases s.handler name with _ | ⟨_ | _, _ | _, _, _⟩ <;> rfl
  | senderEnds ended =>
    refine Or.inr ⟨trivial, _, rfl, fun name => ?_⟩
    rw [Usage.next, senderEnds]
    cases here : s.handler ended with
    | none => rfl
    | some h =>
      simp only [handler_set]
      by_cases same : name = ended
      · subst name
        rw [if_pos rfl, here]
        obtain ⟨_ | _, _ | _, _, _⟩ := h <;> rfl
      · rw [if_neg same]

end Calls

section Runs
open Transition

theorem disciplined_snoc {trace : List (Call Track Rtp)} {call : Call Track Rtp} :
    Disciplined (trace ++ [call]) ↔ Disciplined trace ∧ Allowed trace call := by
  constructor
  · intro every
    refine ⟨fun before next shorter => every before next ?_, every trace call (List.prefix_refl _)⟩
    exact shorter.trans (List.prefix_append _ _)
  · rintro ⟨every, last⟩ before next shorter
    rcases List.prefix_concat_iff.mp shorter with whole | shorter
    · obtain ⟨rfl, same⟩ := List.append_inj' whole rfl
      obtain rfl : next = call := by simpa using same
      exact last
    · exact every before next shorter

/-- No joinable sender thread is destroyed in exactly the runs in which no call
starts a paused track or replaces a started one before `stop` has joined it. -/
theorem alive_iff_disciplined {trace : List (Call Track Rtp)} {p : Option (Session Track Rtp)}
    (run : Run Step (some new) trace p) : p ≠ none ↔ Disciplined trace := by
  have shows : (p = none ∧ ¬ Disciplined trace) ∨ ∃ s, p = some s ∧ Disciplined trace ∧
      ∀ name, usage name trace = shown (s.handler name) := by
    induction run with
    | start => exact Or.inr ⟨new, rfl, fun _ _ nothing => by simp at nothing, fun _ => rfl⟩
    | snoc _ taken ih =>
      rcases ih with ⟨rfl, _⟩ | ⟨s, rfl, disciplined, shows⟩
      · obtain ⟨_, alive, _⟩ := taken
        contradiction
      · rw [disciplined_snoc]
        rcases step_spec shows taken with ⟨bad, dead⟩ | ⟨allowed, t, alive, shows'⟩
        · exact Or.inl ⟨dead, fun both => bad both.2⟩
        · exact Or.inr ⟨t, alive, ⟨disciplined, allowed⟩, shows'⟩
  rcases shows with ⟨rfl, bad⟩ | ⟨s, rfl, disciplined, _⟩
  · simp [bad]
  · simp [disciplined]

theorem run_take {init : Option (Session Track Rtp)} {trace : List (Call Track Rtp)}
    {s : Session Track Rtp} {call : Call Track Rtp} (run : Run Step init trace (some s))
    (possible : Possible s call) : Run Step init (trace ++ [call]) (s.take call).session :=
  .snoc run ⟨s, rfl, possible, rfl⟩

def single (isActive : Bool) (senderThread : Option SenderThread) : Session Unit Unit :=
  new.set ['v'] ⟨isActive, senderThread, (), ()⟩

theorem run_played : Run Step (some new)
    [.addMediaTrack ['v'] () (.ok ()), .start [['v']] none] (some (single true (some .running))) := by
  have added : Run Step (some new) ([] ++ [.addMediaTrack ['v'] () (.ok ())])
      (some (single false none)) := run_take .start trivial
  exact run_take added (List.Perm.refl [['v']])

/-- A viewer who tears down before playing again. -/
theorem alive_iff_disciplined_teardown : Disciplined
    [.addMediaTrack ['v'] () (.ok ()), .start [['v']] none, .senderEnds ['v'], .pause, .stop,
      (.start [['v']] none : Call Unit Unit)] := by
  have ended : Run Step (some new) (_ ++ [.senderEnds ['v']]) (some (single true (some .ended))) :=
    run_take run_played trivial
  have paused : Run Step (some new) (_ ++ [.pause]) (some (single false (some .ended))) :=
    run_take ended trivial
  have stopped : Run Step (some new) (_ ++ [.stop]) (some (single false none)) :=
    run_take paused trivial
  have again : Run Step (some new) (_ ++ [.start [['v']] none]) (some (single true (some .running))) :=
    run_take stopped (List.Perm.refl [['v']])
  exact (alive_iff_disciplined again).mp nofun

/-- PLAY, PAUSE, PLAY ends the server, and so does a second SETUP of a track
that plays. -/
theorem play_after_pause_terminates :
    Run Step (some new : Option (Session Unit Unit))
      [.addMediaTrack ['v'] () (.ok ()), .start [['v']] none, .pause, .start [['v']] none] none ∧
    Run Step (some new : Option (Session Unit Unit))
      [.addMediaTrack ['v'] () (.ok ()), .start [['v']] none, .addMediaTrack ['v'] () (.ok ())]
      none := by
  constructor
  · have paused : Run Step (some new) (_ ++ [.pause]) (some (single false (some .running))) :=
      run_take run_played trivial
    exact run_take paused (List.Perm.refl [['v']])
  · exact run_take run_played trivial

end Runs
end TinyRtsp.Session
