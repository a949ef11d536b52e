import TinyRtsp.Foundation.Lease
import TinyRtsp.Server.Accounts

/-! Whether the port pairs that left the pool are those in use, over any sequence
of requests and disconnects. Nothing in the server gives a pair back. -/
namespace TinyRtsp

def portPool (startPort endPort : Int) : List Int :=
  if startPort ≤ endPort then startPort :: portPool (startPort + 2) endPort else []
  termination_by (endPort + 1 - startPort).toNat

theorem le_of_mem_portPool {startPort endPort port : Int} (member : port ∈ portPool startPort endPort) :
    startPort ≤ port := by
  fun_induction portPool startPort endPort with
  | case1 startPort inside ih =>
    rcases List.mem_cons.mp member with rfl | later
    · exact Int.le_refl _
    · have := ih later
      omega
  | case2 => contradiction

theorem portPool_nodup (startPort endPort : Int) : (portPool startPort endPort).Nodup := by
  fun_induction portPool startPort endPort with
  | case1 startPort inside ih =>
    refine List.nodup_cons.mpr ⟨fun member => ?_, ih⟩
    have := le_of_mem_portPool member
    omega
  | case2 => exact List.nodup_nil

/-- Who has which port pair, by its first port. -/
def Accounts.lease (accounts : Accounts) : Lease Int SessionId TrackName where
  free := accounts.available
  held sessionId name := (accounts.held sessionId).bind (· name)

namespace Accounts
variable {accounts : Accounts} {sessionId : SessionId} {name : TrackName}

theorem lease_terminate (accounts : Accounts) (sessionId : SessionId) :
    (accounts.terminate sessionId).lease = accounts.lease.drop sessionId := by
  have held : (accounts.terminate sessionId).lease.held = (accounts.lease.drop sessionId).held := by
    funext viewer other
    simp only [lease, terminate, Lease.drop, Function.update_apply]
    split
    · rfl
    · rfl
  exact congrArg (Lease.mk accounts.available) held

theorem lease_setup (accounts : Accounts) (sessionId : SessionId) (name : TrackName) (found : Bool)
    (constructs : Except Exception Unit) :
    (accounts.setup sessionId name found constructs).lease =
      if found ∧ constructs = .ok () then
        accounts.lease.spend.grant sessionId name (accounts.lease.free.headD (-1))
      else accounts.lease.spend := by
  have lost (held : (accounts.setup sessionId name found constructs).lease.held = accounts.lease.held) :
      (accounts.setup sessionId name found constructs).lease = accounts.lease.spend :=
    congrArg (Lease.mk accounts.available.tail) held
  cases found with
  | false =>
    rw [if_neg nofun]
    exact lost rfl
  | true =>
    cases constructs with
    | error e =>
      rw [if_neg nofun]
      refine lost (funext fun viewer => funext fun other => ?_)
      simp only [lease, setup, if_true, withPort, Function.update_apply]
      split
      · subst viewer
        cases accounts.held sessionId with
        | none => rfl
        | some ports => rfl
      · rfl
    | ok =>
      rw [if_pos ⟨rfl, rfl⟩]
      refine congrArg (Lease.mk accounts.available.tail) (funext fun viewer => funext fun other => ?_)
      simp only [lease, setup, if_true, withPort, Lease.spend, Function.update_apply]
      by_cases same : viewer = sessionId
      · subst viewer
        rw [if_pos rfl, Option.bind_some, Function.update_apply]
        by_cases named : other = name
        · rw [if_pos named, if_pos ⟨rfl, named⟩]
        · rw [if_neg named, if_neg fun both => named both.2]
          cases accounts.held sessionId with
          | none => rfl
          | some ports => rfl
      · rw [if_neg same, if_neg fun both => same both.1]

end Accounts

/-- The pairs of the initial pool that are not available are exactly those of the
handlers of the sessions. -/
def Server.PortsConserved (initial : List Int) (server : Server) : Prop :=
  ∀ port, (port ∈ initial ∧ port ∉ server.availablePorts) ↔
    ∃ sessionId s name h, server.sessions.lookup sessionId = some s ∧ s.handler name = some h ∧
      h.rtpRtcpHandler.serverRtpPort = port

namespace Server
variable {server : Server} {initial : List Int} {sessionId : SessionId} {name : TrackName}

theorem held_lease : server.accounts.lease.held sessionId name =
    ((server.sessions.lookup sessionId).bind (·.handler name)).map
      (·.rtpRtcpHandler.serverRtpPort) := by
  show (server.accounts.held sessionId).bind (· name) = _
  rw [held_accounts]
  cases server.sessions.lookup sessionId with
  | none => rfl
  | some s => rfl

theorem portsConserved_iff : server.PortsConserved initial ↔ server.accounts.lease.Conserved initial := by
  have holds (port : Int) : (∃ sessionId name, server.accounts.lease.held sessionId name = some port) ↔
      ∃ sessionId s name h, server.sessions.lookup sessionId = some s ∧ s.handler name = some h ∧
        h.rtpRtcpHandler.serverRtpPort = port := by
    simp only [held_lease, Option.map_eq_some_iff, Option.bind_eq_some_iff]
    constructor
    · rintro ⟨sessionId, name, h, ⟨s, found, handler⟩, same⟩
      exact ⟨sessionId, s, name, h, found, handler, same⟩
    · rintro ⟨sessionId, s, name, h, found, handler, same⟩
      exact ⟨sessionId, name, h, ⟨s, found, handler⟩, same⟩
  exact forall_congr' fun port => iff_congr Iff.rfl (holds port).symm

end Server

namespace Site
variable {C : Type}

def Vacant (s : Site C) (sessionId : SessionId) (name : TrackName) : Prop :=
  (s.server.sessions.lookup sessionId).bind (·.handler name) = none

/-- A SETUP that succeeds finds a pair in the pool and no handler of the track's
name, one that fails finds the pool empty, and a session that ends has no handler. -/
def KeepsPorts (s : Site C) (event : Event C) : Prop :=
  match s.demand event with
  | .nothing => True
  | .setup request url =>
    if (s.server.mediaSources.track ⟨url.app, url.track⟩).isSome ∧ (env event).constructs = .ok () then
      s.server.availablePorts ≠ [] ∧
        s.Vacant (ConnectionHandler.setupId (env event) request) url.track
    else s.server.availablePorts = []
  | .terminate sessionId => ∀ name, s.Vacant sessionId name

theorem vacant_iff {s : Site C} {sessionId : SessionId} {name : TrackName} :
    s.Vacant sessionId name ↔ s.server.accounts.lease.held sessionId name = none := by
  rw [Server.held_lease, Option.map_eq_none_iff]
  exact Iff.rfl

variable [DecidableEq C] {s s' : Site C} {event : Event C} {initial : List Int}

theorem conserved_act (outside : -1 ∉ initial) (sound : s.server.accounts.lease.Sound initial)
    (conserved : s.server.accounts.lease.Conserved initial) (taken : s.act event = some s') :
    (s'.server.accounts.lease.Conserved initial ↔ s.KeepsPorts event) ∧
      (s.KeepsPorts event → s'.server.accounts.lease.Sound initial) := by
  rw [act_accounts taken]
  unfold KeepsPorts
  cases asked : s.demand event with
  | nothing => exact ⟨iff_of_true conserved trivial, fun _ => sound⟩
  | terminate sessionId =>
    simp only [ConnectionHandler.Demand.accounts, Accounts.lease_terminate, vacant_iff]
    exact ⟨Lease.conserved_drop_iff sound conserved, fun _ => sound.drop⟩
  | setup request url =>
    simp only [ConnectionHandler.Demand.accounts, Accounts.lease_setup, vacant_iff]
    split
    · refine ⟨Lease.conserved_grant_iff sound conserved outside, fun keeps => ?_⟩
      exact sound.grant conserved keeps.1
    · exact ⟨Lease.conserved_spend_iff sound conserved, fun _ => sound.spend⟩

omit [DecidableEq C] in
theorem start_conserved (mediaSources : MediaSources) (nodup : initial.Nodup) :
    (start mediaSources initial : Site C).server.accounts.lease.Sound initial ∧
      (start mediaSources initial : Site C).server.accounts.lease.Conserved initial := by
  constructor
  · exact ⟨nodup, fun _ member => member, nofun⟩
  · intro port
    refine iff_of_false (fun out => out.2 out.1) ?_
    rintro ⟨_, _, held⟩
    contradiction

/-- In a run whose steps all meet the condition the ports are conserved in every
state, and these are the only such runs. -/
theorem ports_conserved_iff (mediaSources : MediaSources) {startPort : Int} (positive : 0 ≤ startPort)
    (endPort : Int) (trace : List (Event C)) :
    (∀ s, Transition.Run (Transition.Guarded KeepsPorts (Transition.Takes act))
        (start mediaSources (portPool startPort endPort)) trace s →
      s.server.PortsConserved (portPool startPort endPort)) ∧
    ∀ s : Site C,
      Transition.Run (fun s event s' => act s event = some s' ∧
          s'.server.PortsConserved (portPool startPort endPort))
        (start mediaSources (portPool startPort endPort)) trace s →
      Transition.Run (Transition.Guarded KeepsPorts (Transition.Takes act))
        (start mediaSources (portPool startPort endPort)) trace s := by
  have outside : -1 ∉ portPool startPort endPort := by
    intro member
    have := le_of_mem_portPool member
    omega
  have initial := start_conserved (C := C) mediaSources (portPool_nodup startPort endPort)
  simp only [Server.portsConserved_iff]
  refine Transition.Run.guarded_iff
    (I := fun s : Site C => s.server.accounts.lease.Sound (portPool startPort endPort))
    (P := fun s : Site C => s.server.accounts.lease.Conserved (portPool startPort endPort))
    initial.1 initial.2 (fun sound conserved taken => ?_) trace
  exact conserved_act outside sound conserved taken

/-- One client sets up one stream. -/
theorem ports_conserved_iff_one :
    ∃ s : Site Unit, s.server.PortsConserved (portPool 7000 7002) ∧
      s.server.availablePorts = [7002] := by
  have outcome : (((start twoStreams (portPool 7000 7002) : Site Unit).act
      (.connect () "10.0.0.1".toList)).bind (·.act (.turn () (setupTurn "a" "")))).map
        (·.server.availablePorts) = some [7002] := by decide +kernel
  obtain ⟨s, taken, ports⟩ := Option.map_eq_some_iff.mp outcome
  obtain ⟨connected, first, second⟩ := Option.bind_eq_some_iff.mp taken
  obtain rfl := Option.some.inj first
  have found : ((ConnectionHandler.demand (setupTurn "a" "")).asked.bind fun asked =>
      twoStreams.track ⟨asked.2.app, asked.2.track⟩).isSome = true := by decide +kernel
  have run : Transition.Run (Transition.Guarded KeepsPorts (Transition.Takes act))
      (start twoStreams (portPool 7000 7002))
      ([] ++ [.connect () "10.0.0.1".toList] ++ [.turn () (setupTurn "a" "")]) s := by
    refine .snoc (.snoc .start ⟨trivial, first⟩) ⟨?_, second⟩
    unfold KeepsPorts
    split
    · trivial
    · rename_i request url asked
      have asked : ConnectionHandler.demand (setupTurn "a" "") = .setup request url := asked
      rw [asked] at found
      rw [if_pos ⟨found, rfl⟩]
      exact ⟨by decide +kernel, rfl⟩
    · rename_i sessionId asked
      have asked : ConnectionHandler.demand (setupTurn "a" "") = .terminate sessionId := asked
      rw [asked] at found
      contradiction
  exact ⟨s, (ports_conserved_iff twoStreams (by decide) 7002 _).1 s run, ports⟩

def teardownTurn (sessionId : String) : ConnectionHandler.Turn where
  received := some ("TEARDOWN rtsp://host:554/a RTSP/1.0\r\nSession: ".toList ++ sessionId.toList ++
    "\r\n\r\n".toList)
  env := ⟨0, 0, .ok (), fun _ => true⟩
  send := .whole

/-- One client sets up the stream and tears its session down: the pool stays empty. -/
theorem setup_teardown_leaks :
    ¬ ∀ (trace : List (Event Unit)) (s : Site Unit),
      Transition.Run (Transition.Takes act) (start twoStreams (portPool 7000 7000)) trace s →
        s.server.PortsConserved (portPool 7000 7000) := by
  intro claim
  obtain ⟨trace, outcome⟩ : ∃ trace : List (Event Unit),
      (trace.foldlM act (start twoStreams (portPool 7000 7000))).map (fun s =>
        (s.server.availablePorts, s.server.sessions.keys)) = some ([], []) :=
    ⟨[.connect () "10.0.0.1".toList, .turn () (setupTurn "a" ""),
      .turn () (teardownTurn "0000000000000000")], by decide +kernel⟩
  obtain ⟨s, done, same⟩ := Option.map_eq_some_iff.mp outcome
  obtain ⟨ports, keys⟩ := Prod.mk.inj same
  have out : 7000 ∈ portPool 7000 7000 ∧ 7000 ∉ s.server.availablePorts := by
    rw [ports]
    decide +kernel
  obtain ⟨sessionId, session, _, _, found, _⟩ := (claim trace s (.of_foldlM done) 7000).mp out
  have member : sessionId ∈ s.server.sessions.keys :=
    AList.mem_keys.mp (AList.lookup_isSome.mp (Option.isSome_iff_exists.mpr ⟨session, found⟩))
  rw [keys] at member
  contradiction

end Site
end TinyRtsp
