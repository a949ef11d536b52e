import TinyRtsp.Server.Ports
import TinyRtsp.Server.Sockets

/-! The sessions of a running server together with the sockets of their track
handlers. A SETUP ends as the constructor of its handler does, and a handler that no
session has any more is destroyed, as a step of its own at any later time. Which
connection a request comes from does not matter to the descriptors. -/
namespace TinyRtsp

def Server.Handles (server : Server) (sessionId : SessionId) (name : TrackName) : Prop :=
  ((server.sessions.lookup sessionId).bind (·.handler name)).isSome

/-- The server, its descriptors, and which session's track each `RtpRtcpHandler` is of. -/
structure Hosted (C : Type) where
  site : Site C
  process : Sockets.Process
  usedBy : Nat → Option (SessionId × TrackName)

namespace Hosted
variable {C : Type}

/-- A step of the server, with the handler that a SETUP has made; a call on the
descriptors. -/
inductive Label (C : Type) where
  | event (event : Event C) (h : Nat)
  | process (label : Sockets.Label)

def start (mediaSources : MediaSources) (availablePorts : List Int) : Hosted C :=
  ⟨.start mediaSources availablePorts, Sockets.start, fun _ => none⟩

def give (usedBy : Nat → Option (SessionId × TrackName)) (h : Nat) (track : SessionId × TrackName) :
    Nat → Option (SessionId × TrackName) :=
  Function.update (fun other => (usedBy other).filter (· ≠ track)) h (some track)

/-- The handlers of the sessions after a step of the server. A SETUP may get any
handler that has been constructed and is of no session. -/
def assign (s : Hosted C) (event : Event C) (h : Nat) : Option (Nat → Option (SessionId × TrackName)) :=
  match s.site.demand event with
  | .nothing => some s.usedBy
  | .terminate sessionId => some fun other => (s.usedBy other).filter (·.1 ≠ sessionId)
  | .setup request url =>
    if (s.site.server.mediaSources.track ⟨url.app, url.track⟩).isSome then
      if s.usedBy h = none ∧
          (s.process.handler h).bind (·.phase.constructs) = some (Site.env event).constructs then
        if (Site.env event).constructs = .ok () then
          some (give s.usedBy h (ConnectionHandler.setupId (Site.env event) request, url.track))
        else some s.usedBy
      else none
    else some s.usedBy

def Lets (s : Hosted C) : Sockets.Label → Prop
  | .destroy h => s.usedBy h = none
  | _ => True

instance (s : Hosted C) (label : Sockets.Label) : Decidable (s.Lets label) := by
  unfold Lets
  split <;> infer_instance

def act [DecidableEq C] (s : Hosted C) : Label C → Option (Hosted C)
  | .event event h => do
    let site ← s.site.act event
    let usedBy ← s.assign event h
    return { s with site, usedBy }
  | .process label =>
    if s.Lets label then (Sockets.next s.process label).map fun process => { s with process } else none

/-- No second close of a connection finds its number in use. -/
def ClosesClosed (s : Hosted C) : Label C → Prop
  | .event .. => True
  | .process label => s.process.ClosesClosed label

instance (s : Hosted C) (label : Label C) : Decidable (s.ClosesClosed label) := by
  unfold ClosesClosed
  split <;> infer_instance

/-- A handler that has sockets is of a session, or its constructor has thrown. -/
def Settled (s : Hosted C) : Prop :=
  ∀ {h handler}, s.process.handler h = some handler →
    (s.usedBy h).isSome ∨ handler.sockets = [] ∨ ∃ failed later, handler.phase = .thrown failed later

/-- What every step keeps: the descriptors are accounted for, the handlers are those
of the sessions, and what a session has was constructed. -/
structure Keeps (s : Hosted C) : Prop where
  sound : s.process.Sound
  accounted : Accounted s.process.owner s.process.Holds
  counted : ∀ {h handler}, s.process.handler h = some handler → handler.Counted
  tracks : ∀ sessionId name,
    s.site.server.Handles sessionId name ↔ ∃ h, s.usedBy h = some (sessionId, name)
  once : ∀ {h i track}, s.usedBy h = some track → s.usedBy i = some track → h = i
  constructed : ∀ {h track}, s.usedBy h = some track →
    ∃ sockets, s.process.handler h = some ⟨.constructing [], sockets⟩

section Steps
variable {s t : Hosted C} {event : Event C} {h : Nat}

theorem handles_iff {server : Server} {sessionId : SessionId} {name : TrackName} :
    server.Handles sessionId name ↔ ∃ port, server.accounts.lease.held sessionId name = some port := by
  rw [Server.held_lease, ← Option.isSome_iff_exists, Option.isSome_map]
  exact Iff.rfl

theorem give_iff {usedBy : Nat → Option (SessionId × TrackName)} {track other : SessionId × TrackName}
    (unused : usedBy h = none) :
    (∃ i, give usedBy h track i = some other) ↔ other = track ∨ ∃ i, usedBy i = some other := by
  unfold give
  constructor
  · rintro ⟨i, used⟩
    by_cases same : i = h
    · subst i
      rw [Function.update_self] at used
      exact .inl (Option.some.inj used).symm
    · rw [Function.update_of_ne same] at used
      exact .inr ⟨i, (Option.filter_eq_some_iff.mp used).1⟩
  · intro either
    by_cases same : other = track
    · subst other
      exact ⟨h, Function.update_self ..⟩
    · obtain ⟨i, used⟩ := either.resolve_left same
      have apart : i ≠ h := by
        rintro rfl
        rw [unused] at used
        contradiction
      refine ⟨i, ?_⟩
      rw [Function.update_of_ne apart, used]
      simp [same]

theorem give_once {usedBy : Nat → Option (SessionId × TrackName)} {track other : SessionId × TrackName}
    (once : ∀ {h i track}, usedBy h = some track → usedBy i = some track → h = i) {i j : Nat}
    (first : give usedBy h track i = some other) (second : give usedBy h track j = some other) : i = j := by
  -- the new handler's track is none that another handler keeps
  have keeps {k : Nat} (apart : k ≠ h) (kept : give usedBy h track k = some other) :
      usedBy k = some other ∧ other ≠ track := by
    rw [give, Function.update_of_ne apart, Option.filter_eq_some_iff] at kept
    exact ⟨kept.1, of_decide_eq_true kept.2⟩
  have new {k : Nat} (same : k = h) (kept : give usedBy h track k = some other) : other = track := by
    rw [same, give, Function.update_self] at kept
    exact (Option.some.inj kept).symm
  by_cases one : i = h
  · by_cases two : j = h
    · rw [one, two]
    · exact absurd (new one first) (keeps two second).2
  · by_cases two : j = h
    · exact absurd (new two second) (keeps one first).2
    · exact once (keeps one first).1 (keeps two second).1

theorem once_event {usedBy : Nat → Option (SessionId × TrackName)}
    (once : ∀ {h i track}, s.usedBy h = some track → s.usedBy i = some track → h = i)
    (assigned : s.assign event h = some usedBy) {i j : Nat} {track : SessionId × TrackName}
    (first : usedBy i = some track) (second : usedBy j = some track) : i = j := by
  unfold assign at assigned
  split at assigned
  · obtain rfl := Option.some.inj assigned
    exact once first second
  · obtain rfl := Option.some.inj assigned
    exact once (Option.filter_eq_some_iff.mp first).1 (Option.filter_eq_some_iff.mp second).1
  · split at assigned
    · obtain ⟨-, assigned⟩ := Option.ite_none_right_eq_some.mp assigned
      split at assigned
      · obtain rfl := Option.some.inj assigned
        exact give_once once first second
      · obtain rfl := Option.some.inj assigned
        exact once first second
    · obtain rfl := Option.some.inj assigned
      exact once first second

variable [DecidableEq C]

theorem tracks_event {site : Site C} {usedBy : Nat → Option (SessionId × TrackName)}
    (tracks : ∀ sessionId name,
      s.site.server.Handles sessionId name ↔ ∃ h, s.usedBy h = some (sessionId, name))
    (taken : s.site.act event = some site) (assigned : s.assign event h = some usedBy)
    (sessionId : SessionId) (name : TrackName) :
    site.server.Handles sessionId name ↔ ∃ h, usedBy h = some (sessionId, name) := by
  have before := tracks sessionId name
  rw [handles_iff] at before ⊢
  rw [Site.act_accounts taken]
  unfold assign at assigned
  cases asked : s.site.demand event with
  | nothing =>
    rw [asked] at assigned
    obtain rfl := Option.some.inj assigned
    exact before
  | terminate ended =>
    rw [asked] at assigned
    obtain rfl := Option.some.inj assigned
    simp only [ConnectionHandler.Demand.accounts, Accounts.lease_terminate, Lease.held_drop,
      exists_and_left, before, Option.filter_eq_some_iff]
    simp [and_comm]
  | setup request url =>
    rw [asked] at assigned
    simp only [ConnectionHandler.Demand.accounts, Accounts.lease_setup]
    have spent (port : Int) : s.site.server.accounts.lease.spend.held sessionId name = some port ↔
        s.site.server.accounts.lease.held sessionId name = some port := Iff.rfl
    dsimp only at assigned
    split at assigned
    · rename_i found
      obtain ⟨⟨unused, -⟩, assigned⟩ := Option.ite_none_right_eq_some.mp assigned
      split at assigned
      · rename_i constructed
        obtain rfl := Option.some.inj assigned
        rw [if_pos ⟨found, constructed⟩, give_iff unused, ← before]
        simp only [Lease.held_grant, spent, Prod.mk.injEq]
        by_cases same : sessionId = ConnectionHandler.setupId (Site.env event) request ∧ name = url.track
        · simp [same]
        · simp [same]
      · rename_i thrown
        obtain rfl := Option.some.inj assigned
        rw [if_neg fun both => thrown both.2]
        exact before
    · rename_i missing
      obtain rfl := Option.some.inj assigned
      rw [if_neg fun both => missing both.1]
      exact before

omit [DecidableEq C] in
theorem constructed_event {usedBy : Nat → Option (SessionId × TrackName)}
    (constructed : ∀ {h track}, s.usedBy h = some track →
      ∃ sockets, s.process.handler h = some ⟨.constructing [], sockets⟩)
    (assigned : s.assign event h = some usedBy) {other : Nat} {track : SessionId × TrackName}
    (used : usedBy other = some track) :
    ∃ sockets, s.process.handler other = some ⟨.constructing [], sockets⟩ := by
  unfold assign at assigned
  split at assigned
  · obtain rfl := Option.some.inj assigned
    exact constructed used
  · obtain rfl := Option.some.inj assigned
    exact constructed (Option.filter_eq_some_iff.mp used).1
  · split at assigned
    · obtain ⟨⟨-, ended⟩, assigned⟩ := Option.ite_none_right_eq_some.mp assigned
      split at assigned
      · rename_i succeeds
        obtain rfl := Option.some.inj assigned
        by_cases same : other = h
        · subst other
          rw [succeeds, Option.bind_eq_some_iff] at ended
          obtain ⟨⟨phase, sockets⟩, found, returned⟩ := ended
          obtain rfl := Sockets.Phase.constructs_ok.mp returned
          exact ⟨sockets, found⟩
        · rw [give, Function.update_of_ne same] at used
          exact constructed (Option.filter_eq_some_iff.mp used).1
      · obtain rfl := Option.some.inj assigned
        exact constructed used
    · obtain rfl := Option.some.inj assigned
      exact constructed used

omit [DecidableEq C] in
theorem constructed_process {label : Sockets.Label} {process : Sockets.Process} {other : Nat}
    {track : SessionId × TrackName} {sockets : List Nat} (lets : s.Lets label)
    (taken : Sockets.next s.process label = some process) (used : s.usedBy other = some track)
    (found : s.process.handler other = some ⟨.constructing [], sockets⟩) :
    process.handler other = some ⟨.constructing [], sockets⟩ := by
  have kept {h : Nat} {handler : Sockets.Handler} (apart : other ≠ h) :
      (s.process.set h handler).handler other = some ⟨.constructing [], sockets⟩ := by
    rw [Sockets.handler_set, if_neg apart, found]
  cases Sockets.next_effect taken with
  | connection => exact found
  | construct fresh =>
    refine kept ?_
    rintro rfl
    simp [found] at fresh
  | opens here | returns here | throws here | close here =>
    refine kept ?_
    rintro rfl
    simp [found] at here
  | destroy here =>
    refine kept ?_
    rintro rfl
    have unused : s.usedBy other = none := lets
    simp [used] at unused

theorem Keeps.act {label : Label C} (keeps : s.Keeps) (closed : s.ClosesClosed label)
    (taken : s.act label = some t) : t.Keeps := by
  cases label with
  | event event h =>
    simp only [Hosted.act, Option.bind_eq_bind, Option.bind_eq_some_iff, Option.pure_def,
      Option.some.injEq] at taken
    obtain ⟨site, moved, usedBy, assigned, rfl⟩ := taken
    exact ⟨keeps.sound, keeps.accounted, keeps.counted, tracks_event keeps.tracks moved assigned,
      once_event keeps.once assigned, constructed_event keeps.constructed assigned⟩
  | process label =>
    simp only [Hosted.act, Option.ite_none_right_eq_some, Option.map_eq_some_iff] at taken
    obtain ⟨lets, process, moved, rfl⟩ := taken
    obtain ⟨accounted, sound⟩ := Sockets.accounted_next keeps.sound keeps.accounted moved
    refine ⟨sound closed, accounted.mpr closed, Sockets.counted_next keeps.counted moved,
      keeps.tracks, keeps.once, fun used => ?_⟩
    obtain ⟨sockets, found⟩ := keeps.constructed used
    exact ⟨sockets, constructed_process lets moved used found⟩

omit [DecidableEq C] in
theorem start_keeps (mediaSources : MediaSources) (availablePorts : List Int) :
    (start mediaSources availablePorts : Hosted C).Keeps where
  sound := Sockets.start_sound
  accounted := Sockets.start_accounted
  counted := by simp [start, Sockets.start]
  tracks := by
    intro sessionId name
    simp [start, Site.start, Server.Handles]
  once := by simp [start]
  constructed := by simp [start]

theorem two_sockets {sockets : List Nat}
    (counted : (⟨.constructing [], sockets⟩ : Sockets.Handler).Counted) :
    ∃ rtpSocket rtcpSocket, sockets = [rtpSocket, rtcpSocket] := by
  obtain ⟨made, all, many⟩ := counted
  obtain rfl : made = Sockets.constructor := by simpa using all
  exact List.length_eq_two.mp many

end Steps

open Transition

/-- However complete requests, disconnects and calls on the descriptors follow each other,
as long as no second close of a connection finds its number in use: a session has a handler for
a track exactly if one `RtpRtcpHandler` is of that track, whose two sockets are open,
distinct and its own; and once nothing remains to be destroyed, the open numbers are
those of the connections, these two for each track of a session, and what
constructors that threw have left. -/
theorem sessions_own_sockets [DecidableEq C] (mediaSources : MediaSources) (availablePorts : List Int)
    (trace : List (Label C)) (s : Hosted C)
    (run : Run (Guarded ClosesClosed (Takes act)) (start mediaSources availablePorts) trace s) :
    (∀ sessionId name,
      s.site.server.Handles sessionId name ↔ ∃ h, s.usedBy h = some (sessionId, name)) ∧
    (∀ h track, s.usedBy h = some track → (∀ i, s.usedBy i = some track → i = h) ∧
      ∃ rtpSocket rtcpSocket, s.process.handler h = some ⟨.constructing [], [rtpSocket, rtcpSocket]⟩ ∧
        rtpSocket ≠ rtcpSocket ∧
        s.process.owner rtpSocket = some h ∧ s.process.owner rtcpSocket = some h) ∧
    (s.Settled → ∀ fd, (s.process.owner fd).isSome ↔
      (∃ c phase, s.process.client c = some ⟨fd, phase⟩ ∧ phase.closes = 0) ∨
      ∃ h handler, s.process.handler h = some handler ∧ fd ∈ handler.sockets ∧
        ((s.usedBy h).isSome ∨ ∃ failed later, handler.phase = .thrown failed later)) := by
  have keeps := run.invariant (start_keeps mediaSources availablePorts)
    fun keeps taken => Keeps.act keeps taken.1 taken.2
  refine ⟨keeps.tracks, fun h track used => ?_, fun settled fd => ?_⟩
  · refine ⟨fun i other => keeps.once other used, ?_⟩
    obtain ⟨sockets, found⟩ := keeps.constructed used
    obtain ⟨rtpSocket, rtcpSocket, rfl⟩ := two_sockets (keeps.counted found)
    have nodup := keeps.sound.nodup found
    have owned {fd : Nat} (member : fd ∈ [rtpSocket, rtcpSocket]) : s.process.owner fd = some h :=
      (keeps.accounted h fd).mpr (.inr ⟨_, found, member⟩)
    exact ⟨rtpSocket, rtcpSocket, found, by simpa using nodup, owned (by simp), owned (by simp)⟩
  · rw [Option.isSome_iff_exists]
    constructor
    · rintro ⟨id, owner⟩
      rcases (keeps.accounted id fd).mp owner with client | ⟨handler, found, member⟩
      · exact .inl ⟨id, client⟩
      · rcases settled found with used | closed | thrown
        · exact .inr ⟨id, handler, found, member, .inl used⟩
        · rw [closed] at member
          contradiction
        · exact .inr ⟨id, handler, found, member, .inr thrown⟩
    · rintro (⟨c, client⟩ | ⟨h, handler, found, member, -⟩)
      · exact ⟨c, (keeps.accounted c fd).mpr (.inl client)⟩
      · exact ⟨h, (keeps.accounted h fd).mpr (.inr ⟨handler, found, member⟩)⟩

/-- A handler is constructed and given to the session of a client that sets up one
stream. -/
theorem sessions_own_sockets_one : ∃ s : Hosted Unit, ∃ sessionId rtpSocket rtcpSocket,
    s.site.server.Handles sessionId "v".toList ∧
      s.process.owner rtpSocket = some 0 ∧ s.process.owner rtcpSocket = some 0 := by
  have outcome : (([.process (.construct 0), .process (.call 0 5), .process (.call 0 0),
      .process (.call 0 0), .process (.call 0 6), .process (.call 0 0), .process (.call 0 0),
      .process (.call 0 0), .event (.connect () "10.0.0.1".toList) 0,
      .event (.turn () (Site.setupTurn "a" "")) 0] : List (Label Unit)).foldlM (checked ClosesClosed act)
        (start Site.twoStreams [7000])).map (fun s => s.usedBy 0) =
      some (some ("0000000000000000".toList, "v".toList)) := by decide +kernel
  obtain ⟨s, done, used⟩ := Option.map_eq_some_iff.mp outcome
  obtain ⟨tracks, own, -⟩ := sessions_own_sockets Site.twoStreams [7000] _ s (.of_checked done)
  obtain ⟨-, rtpSocket, rtcpSocket, -, -, first, second⟩ := own 0 _ used
  exact ⟨s, _, rtpSocket, rtcpSocket, (tracks _ _).mpr ⟨0, used⟩, first, second⟩

end Hosted
end TinyRtsp
