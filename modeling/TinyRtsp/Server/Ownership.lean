import TinyRtsp.Server.Accounts

/-! Which connection's SETUP created a session, and whether the session can be
there when that connection has gone. -/
namespace TinyRtsp

theorem Server.sessionExists_accounts (server : Server) (sessionId : SessionId) :
    server.sessionExists sessionId = (server.accounts.held sessionId).isSome := by
  rw [held_accounts, Option.isSome_map]
  rfl

theorem Site.isSome_clients {C : Type} [DecidableEq C] {s s' : Site C} {event : Event C}
    (taken : s.act event = some s') (d : C) : (s'.clients d).isSome = true ↔
      (∀ c, event = .disconnect c → d ≠ c) ∧
        ((s.clients d).isSome = true ∨ ∃ ip, event = .connect d ip) := by
  cases event with
  | connect c clientIp =>
    obtain ⟨_, rfl⟩ := act_connect taken
    by_cases same : d = c
    · subst d
      simp
    · simp [same, Ne.symm same]
  | turn c t =>
    obtain ⟨connection, w, goes, known, rfl, _⟩ := act_turn taken
    by_cases same : d = c
    · subst d
      simp [known]
    · simp [same]
  | disconnect c =>
    obtain ⟨connection, _, rfl⟩ := act_disconnect taken
    by_cases same : d = c
    · subst d
      simp
    · simp [same]
  | thread step =>
    obtain ⟨server, _, rfl⟩ := Option.map_eq_some_iff.mp taken
    simp

theorem Site.sessionExists_disconnect {C : Type} [DecidableEq C] {s s' : Site C} {c : C}
    (taken : s.act (.disconnect c) = some s') : ∃ client, s.clients c = some client ∧
      ∀ sessionId, s'.server.sessionExists sessionId = true ↔
        s.server.sessionExists sessionId = true ∧
          ¬(client.connection.sessionId = sessionId ∧ sessionId ≠ []) := by
  have accounts := act_accounts taken
  obtain ⟨connection, known, _⟩ := act_disconnect taken
  refine ⟨_, known, fun sessionId => ?_⟩
  simp only [Server.sessionExists_accounts, accounts, demand, known]
  by_cases remembered : connection.sessionId = []
  · rw [if_neg (not_not_intro remembered)]
    refine (and_iff_left ?_).symm
    rintro ⟨same, named⟩
    exact named (same ▸ remembered)
  · rw [if_pos remembered]
    show (Function.update s.server.accounts.held connection.sessionId none sessionId).isSome = true ↔ _
    by_cases same : sessionId = connection.sessionId
    · subst sessionId
      simp [remembered]
    · rw [Function.update_of_ne same]
      exact (and_iff_left fun both => same both.1.symm).symm

def Site.remembers {C : Type} [DecidableEq C] (c : C) (before : SessionId) : Event C → SessionId
  | .turn d t => if c = d then (ConnectionHandler.demand t).remembers t.env before else before
  | _ => before

theorem Site.sessionId_clients {C : Type} [DecidableEq C] {s s' : Site C} {event : Event C} {c : C}
    {before : Client} (taken : s.act event = some s') (known : s.clients c = some before)
    (still : event ≠ .disconnect c) : ∃ after, s'.clients c = some after ∧
      after.connection.sessionId = remembers c before.connection.sessionId event := by
  cases event with
  | connect d clientIp =>
    obtain ⟨unknown, rfl⟩ := act_connect taken
    have other : c ≠ d := fun same => by
      subst d
      rw [known] at unknown
      contradiction
    exact ⟨before, (Function.update_of_ne other _ _).trans known, rfl⟩
  | turn d t =>
    obtain ⟨connection, w, goes, found, rfl, leaves⟩ := act_turn taken
    have settled := leaves (ConnectionHandler.turn_settles t ⟨s.server, connection⟩) rfl
    by_cases same : c = d
    · subst d
      obtain rfl := Option.some.inj (known.symm.trans found)
      exact ⟨_, Function.update_self .., settled.sessionId.trans (if_pos rfl).symm⟩
    · exact ⟨before, (Function.update_of_ne same _ _).trans known, (if_neg same).symm⟩
  | disconnect d =>
    obtain ⟨connection, _, rfl⟩ := act_disconnect taken
    have other : c ≠ d := fun same => still (by rw [same])
    exact ⟨before, (Function.update_of_ne other _ _).trans known, rfl⟩
  | thread step =>
    obtain ⟨server, _, rfl⟩ := Option.map_eq_some_iff.mp taken
    exact ⟨before, known, rfl⟩

theorem Site.demand_of_created {C : Type} [DecidableEq C] {s s' : Site C} {event : Event C}
    {sessionId : SessionId} (taken : s.act event = some s')
    (absent : s.server.sessionExists sessionId ≠ true)
    (present : s'.server.sessionExists sessionId = true) :
    ∃ request url, s.demand event = .setup request url ∧
      sessionId = ConnectionHandler.setupId (env event) request := by
  rw [Server.sessionExists_accounts] at absent present
  rw [act_accounts taken] at present
  cases asked : s.demand event with
  | nothing =>
    rw [asked] at present
    exact absurd present absent
  | terminate other =>
    rw [asked] at present
    simp only [ConnectionHandler.Demand.accounts, Accounts.terminate, Function.update_apply] at present
    split at present
    · contradiction
    · exact absurd present absent
  | setup request url =>
    rw [asked] at present
    simp only [ConnectionHandler.Demand.accounts, Accounts.setup] at present
    refine ⟨request, url, rfl, ?_⟩
    by_contra other
    split at present
    · rw [Function.update_of_ne other] at present
      exact absurd present absent
    · exact absurd present absent

/-- A site with the client whose SETUP created each session it holds. -/
structure Owned (C : Type) where
  site : Site C
  creator : SessionId → Option C

namespace Owned
variable {C : Type}

def requester : Event C → Option C
  | .turn c _ => some c
  | _ => none

def start (mediaSources : MediaSources) (availablePorts : List Int) : Owned C where
  site := .start mediaSources availablePorts
  creator _ := none

/-- No session is left of a client that has gone. -/
def NoneOutlives (o : Owned C) : Prop :=
  ∀ sessionId c, o.creator sessionId = some c → (o.site.clients c).isSome

/-- A connection that ends has created no session that is still there, except under
the id it remembers. -/
def Remembers (o : Owned C) : Event C → Prop
  | .disconnect c => ∀ sessionId, o.creator sessionId = some c → ∃ client,
      o.site.clients c = some client ∧ client.connection.sessionId = sessionId ∧ sessionId ≠ []
  | _ => True

variable [DecidableEq C]

/-- A step of the site: a session that was not there before is the requester's. -/
def act (o : Owned C) (event : Event C) : Option (Owned C) :=
  (o.site.act event).map fun site => {
    site
    creator := fun sessionId =>
      if site.server.sessionExists sessionId then
        if o.site.server.sessionExists sessionId then o.creator sessionId else requester event
      else none }

variable {o o' : Owned C} {event : Event C} {sessionId : SessionId} {c : C}

def Recorded (o : Owned C) : Prop :=
  ∀ sessionId c, o.creator sessionId = some c → o.site.server.sessionExists sessionId = true

theorem recorded_act (taken : o.act event = some o') : o'.Recorded := by
  obtain ⟨site, _, rfl⟩ := Option.map_eq_some_iff.mp taken
  intro sessionId c created
  dsimp only at created
  split at created
  · assumption
  · contradiction

theorem creator_act (taken : o.act event = some o') (created : o'.creator sessionId = some c) :
    o.creator sessionId = some c ∨
      requester event = some c ∧ o.site.server.sessionExists sessionId ≠ true := by
  obtain ⟨site, _, rfl⟩ := Option.map_eq_some_iff.mp taken
  dsimp only at created
  split at created
  · split at created
    · exact .inl created
    · rename_i absent
      exact .inr ⟨created, absent⟩
  · contradiction

theorem creator_stays (recorded : o.Recorded) (taken : o.act event = some o')
    (created : o.creator sessionId = some c)
    (exists_ : o'.site.server.sessionExists sessionId = true) : o'.creator sessionId = some c := by
  obtain ⟨site, _, rfl⟩ := Option.map_eq_some_iff.mp taken
  dsimp only at exists_ ⊢
  rw [if_pos exists_, if_pos (recorded sessionId c created)]
  exact created

theorem isSome_requester {s s' : Site C} (taken : s.act event = some s')
    (asked : requester event = some c) : (s.clients c).isSome = true := by
  cases event with
  | turn d t =>
    obtain rfl : d = c := Option.some.inj asked
    obtain ⟨connection, w, goes, known, _⟩ := Site.act_turn taken
    rw [known]
    rfl
  | connect | disconnect | thread => contradiction

/-- A step lets a session outlive its client exactly when a connection ends that
does not remember all it has created. -/
theorem noneOutlives_act (recorded : o.Recorded) (safe : o.NoneOutlives)
    (taken : o.act event = some o') : o'.NoneOutlives ↔ o.Remembers event := by
  obtain ⟨site, moved, done⟩ := Option.map_eq_some_iff.mp taken
  have moved : o.site.act event = some o'.site := by rw [← done]; exact moved
  have stays {sessionId d} (still : ∀ c, event = .disconnect c → d ≠ c)
      (created : o'.creator sessionId = some d) : (o'.site.clients d).isSome = true := by
    refine (Site.isSome_clients moved d).mpr ⟨still, .inl ?_⟩
    rcases creator_act taken created with before | ⟨asked, _⟩
    · exact safe sessionId d before
    · exact isSome_requester moved asked
  cases event with
  | connect | turn | thread =>
    exact iff_of_true (fun sessionId d created => stays nofun created) trivial
  | disconnect c =>
    obtain ⟨client, known, exist⟩ := Site.sessionExists_disconnect moved
    constructor
    · intro after sessionId created
      by_contra forgotten
      have stillThere : o'.site.server.sessionExists sessionId = true :=
        (exist sessionId).mpr ⟨recorded sessionId c created,
          fun remembered => forgotten ⟨client, known, remembered⟩⟩
      have connected := after sessionId c (creator_stays recorded taken created stillThere)
      exact ((Site.isSome_clients moved c).mp connected).1 c rfl rfl
    · intro remembers sessionId d created
      by_cases same : d = c
      · subst d
        have before : o.creator sessionId = some c :=
          (creator_act taken created).resolve_right fun asked => nomatch asked.1
        obtain ⟨_, found, remembered⟩ := remembers sessionId before
        obtain rfl := Option.some.inj (known.symm.trans found)
        have stillThere := recorded_act taken sessionId c created
        exact absurd remembered ((exist sessionId).mp stillThere).2
      · exact stays (fun _ event => by obtain rfl := Event.disconnect.inj event; exact same) created

omit [DecidableEq C] in
theorem start_noneOutlives (mediaSources : MediaSources) (availablePorts : List Int) :
    (start mediaSources availablePorts : Owned C).Recorded ∧
      (start mediaSources availablePorts : Owned C).NoneOutlives :=
  ⟨nofun, nofun⟩

/-- In a run in which every connection that ends remembers what it has created no
session outlives its connection, and these are the only such runs. -/
theorem none_outlives_iff (mediaSources : MediaSources) (availablePorts : List Int)
    (trace : List (Event C)) :
    (∀ o, Transition.Run (Transition.Guarded Remembers (Transition.Takes act))
        (start mediaSources availablePorts) trace o → o.NoneOutlives) ∧
    ∀ o, Transition.Run (fun o event o' => act o event = some o' ∧ o'.NoneOutlives)
        (start mediaSources availablePorts) trace o →
      Transition.Run (Transition.Guarded Remembers (Transition.Takes act))
        (start mediaSources availablePorts) trace o := by
  have initial := start_noneOutlives (C := C) mediaSources availablePorts
  refine Transition.Run.guarded_iff initial.1 initial.2 (fun recorded safe taken => ?_) trace
  exact ⟨noneOutlives_act recorded safe taken, fun _ => recorded_act taken⟩

/-- Every session is the one that its creator's connection remembers. -/
def Kept (o : Owned C) : Prop := ∀ sessionId c, o.creator sessionId = some c → ∃ client,
  o.site.clients c = some client ∧ client.connection.sessionId = sessionId ∧ sessionId ≠ []

/-- A client asks for a new session only when it has none, and names in a SETUP only
a session that is there or the one its connection remembers. -/
def Disciplined (o : Owned C) : Event C → Prop
  | .turn c t =>
    match ConnectionHandler.demand t with
    | .setup request _ =>
      if ConnectionHandler.sessionHeader request = [] then ∀ sessionId, o.creator sessionId ≠ some c
      else o.site.server.sessionExists (ConnectionHandler.sessionHeader request) = true ∨
        ∃ client, o.site.clients c = some client ∧
          client.connection.sessionId = ConnectionHandler.sessionHeader request
    | _ => True
  | _ => True

omit [DecidableEq C] in
theorem remembers_of_kept (kept : o.Kept) (event : Event C) : o.Remembers event := by
  cases event with
  | disconnect c => exact fun sessionId created => kept sessionId c created
  | connect | turn | thread => trivial

theorem kept_before (kept : o.Kept) (disciplined : o.Disciplined event)
    (taken : o.act event = some o') (created : o'.creator sessionId = some c)
    (before : o.creator sessionId = some c) : ∃ client, o'.site.clients c = some client ∧
      client.connection.sessionId = sessionId ∧ sessionId ≠ [] := by
  obtain ⟨site, moved, done⟩ := Option.map_eq_some_iff.mp taken
  have moved : o.site.act event = some o'.site := by rw [← done]; exact moved
  obtain ⟨client, known, remembered, named⟩ := kept sessionId c before
  have still : event ≠ .disconnect c := by
    rintro rfl
    obtain ⟨gone, found, exist⟩ := Site.sessionExists_disconnect moved
    obtain rfl := Option.some.inj (known.symm.trans found)
    exact ((exist sessionId).mp (recorded_act taken sessionId c created)).2 ⟨remembered, named⟩
  obtain ⟨after, there, remembers⟩ := Site.sessionId_clients moved known still
  refine ⟨after, there, ?_, named⟩
  rw [remembers, remembered]
  cases event with
  | connect | disconnect | thread => rfl
  | turn d t =>
    by_cases same : c = d
    · subst d
      refine (if_pos rfl).trans ?_
      unfold Disciplined at disciplined
      cases asked : ConnectionHandler.demand t with
      | nothing | terminate => rfl
      | setup request url =>
        simp only [asked] at disciplined
        simp only [ConnectionHandler.Demand.remembers]
        split
        · rename_i unnamed
          rw [if_pos unnamed] at disciplined
          exact absurd before (disciplined sessionId)
        · rfl
    · exact if_neg same

theorem generateUniqueSessionId_ne_nil (env : Env) :
    ConnectionHandler.generateUniqueSessionId env ≠ [] := by
  intro empty
  have length := congrArg List.length empty
  simp only [ConnectionHandler.generateUniqueSessionId, ConnectionHandler.padded, List.length_append,
    List.length_leftpad, List.length_nil] at length
  omega

theorem kept_created (disciplined : o.Disciplined event) (taken : o.act event = some o')
    (created : o'.creator sessionId = some c) (asked : requester event = some c)
    (absent : o.site.server.sessionExists sessionId ≠ true) :
    ∃ client, o'.site.clients c = some client ∧
      client.connection.sessionId = sessionId ∧ sessionId ≠ [] := by
  obtain ⟨site, moved, done⟩ := Option.map_eq_some_iff.mp taken
  have moved : o.site.act event = some o'.site := by rw [← done]; exact moved
  obtain ⟨request, url, setup, same⟩ :=
    Site.demand_of_created moved absent (recorded_act taken sessionId c created)
  obtain ⟨client, known⟩ := Option.isSome_iff_exists.mp (isSome_requester moved asked)
  cases event with
  | connect | disconnect | thread => contradiction
  | turn d t =>
    obtain rfl : d = c := Option.some.inj asked
    have setup : ConnectionHandler.demand t = .setup request url := setup
    obtain ⟨after, there, remembers⟩ := Site.sessionId_clients moved known nofun
    refine ⟨after, there, ?_⟩
    have remembers := remembers.trans (if_pos rfl)
    unfold Disciplined at disciplined
    simp only [setup] at disciplined remembers
    simp only [ConnectionHandler.setupId, Site.env] at same
    simp only [ConnectionHandler.Demand.remembers] at remembers
    by_cases unnamed : ConnectionHandler.sessionHeader request = []
    · rw [if_pos unnamed] at same remembers
      subst sessionId
      exact ⟨remembers, generateUniqueSessionId_ne_nil t.env⟩
    · rw [if_neg unnamed] at same disciplined remembers
      subst sessionId
      obtain ⟨client', found, header⟩ := disciplined.resolve_left absent
      obtain rfl := Option.some.inj (known.symm.trans found)
      exact ⟨remembers.trans header, unnamed⟩

theorem remembers_of_disciplined {mediaSources : MediaSources} {availablePorts : List Int}
    {trace : List (Event C)}
    (run : Transition.Run (Transition.Guarded Disciplined (Transition.Takes act))
      (start mediaSources availablePorts) trace o) :
    Transition.Run (Transition.Guarded Remembers (Transition.Takes act))
      (start mediaSources availablePorts) trace o := by
  refine (run.history (P := fun trace o =>
    Transition.Run (Transition.Guarded Remembers (Transition.Takes act))
      (start mediaSources availablePorts) trace o ∧ o.Kept) ⟨.start, nofun⟩ ?_).1
  rintro trace o event o' ⟨run, kept⟩ ⟨disciplined, taken⟩
  refine ⟨.snoc run ⟨remembers_of_kept kept event, taken⟩, fun sessionId c created => ?_⟩
  rcases creator_act taken created with before | ⟨asked, absent⟩
  · exact kept_before kept disciplined taken created before
  · exact kept_created disciplined taken created asked absent

def closed : ConnectionHandler.Turn where
  received := none
  env := ⟨0, 0, .ok (), fun _ => true⟩
  send := .whole

/-- One client sets up a stream and closes the connection: its session ends with it. -/
theorem none_outlives_iff_one :
    ∃ o : Owned Unit, o.NoneOutlives ∧ o.site.server.sessions.keys = [] := by
  have outcome : ((((start Site.twoStreams [7000] : Owned Unit).act
      (.connect () "10.0.0.1".toList)).bind (·.act (.turn () (Site.setupTurn "a" "")))).bind
        fun o => (o.act (.turn () closed)).bind (·.act (.disconnect ()))).map
          (·.site.server.sessions.keys) = some [] := by decide +kernel
  obtain ⟨o, taken, keys⟩ := Option.map_eq_some_iff.mp outcome
  obtain ⟨set, setup, taken⟩ := Option.bind_eq_some_iff.mp taken
  obtain ⟨connected, first, second⟩ := Option.bind_eq_some_iff.mp setup
  obtain ⟨left, third, fourth⟩ := Option.bind_eq_some_iff.mp taken
  have unnamed : ((ConnectionHandler.demand (Site.setupTurn "a" "")).asked.elim [] fun asked =>
      ConnectionHandler.sessionHeader asked.1) = [] := by decide +kernel
  have asks : connected.Disciplined (.turn () (Site.setupTurn "a" "")) := by
    unfold Disciplined
    dsimp only
    split
    · rename_i request url asked
      rw [asked] at unnamed
      have unnamed : ConnectionHandler.sessionHeader request = [] := unnamed
      rw [if_pos unnamed]
      intro sessionId created
      rcases creator_act first created with before | ⟨asked, _⟩
      · contradiction
      · contradiction
    · trivial
  have run : Transition.Run (Transition.Guarded Disciplined (Transition.Takes act))
      (start Site.twoStreams [7000]) ([] ++ [.connect () "10.0.0.1".toList] ++
        [.turn () (Site.setupTurn "a" "")] ++ [.turn () closed] ++ [.disconnect ()]) o :=
    .snoc (.snoc (.snoc (.snoc .start ⟨trivial, first⟩) ⟨asks, second⟩) ⟨trivial, third⟩)
      ⟨trivial, fourth⟩
  exact ⟨o, (none_outlives_iff _ _ _).1 o (remembers_of_disciplined run), keys⟩

/-- One client names the session of its SETUP itself, and closes the connection. -/
theorem named_session_outlives :
    ¬ ∀ (trace : List (Event Unit)) (o : Owned Unit),
      Transition.Run (Transition.Takes act) (start Site.twoStreams [7000]) trace o →
        o.NoneOutlives := by
  intro claim
  obtain ⟨trace, outcome⟩ : ∃ trace : List (Event Unit),
      (trace.foldlM act (start Site.twoStreams [7000])).map (fun o =>
        (o.creator "mine".toList, (o.site.clients ()).isSome)) = some (some (), false) :=
    ⟨[.connect () "10.0.0.1".toList, .turn () (Site.setupTurn "a" "Session: mine\r\n"),
      .turn () closed, .disconnect ()], by decide +kernel⟩
  obtain ⟨o, done, same⟩ := Option.map_eq_some_iff.mp outcome
  obtain ⟨created, gone⟩ := Prod.mk.inj same
  have connected := claim trace o (.of_foldlM done) _ () created
  rw [gone] at connected
  contradiction

end Owned
end TinyRtsp
