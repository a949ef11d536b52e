import TinyRtsp.Server.Ports

/-! `PortPool` on its own, with anybody who takes its pairs and gives them back. The
pool checks nothing, so that a pair is never in two hands rests on the pool and its
holders together. -/
namespace TinyRtsp

def intMax : Int := 2 ^ 31 - 1

structure PortPool where
  availablePorts : List Int

namespace PortPool

/-- `for (int i = start_port; i <= end_port; i += 2)`, from `i` on; there is no result
if `i` overflows. -/
def pushPorts (i endPort : Int) : Option (List Int) :=
  if i ≤ endPort then
    if i + 2 ≤ intMax then (pushPorts (i + 2) endPort).map (i :: ·) else none
  else some []
  termination_by (endPort + 1 - i).toNat

def make (startPort endPort : Int) : Option PortPool := (pushPorts startPort endPort).map mk

def allocatePortPair (pool : PortPool) : Int × PortPool :=
  match pool.availablePorts with
  | [] => (-1, pool)
  | portPair :: rest => (portPair, ⟨rest⟩)

def releasePortPair (pool : PortPool) (portPair : Int) : PortPool :=
  ⟨pool.availablePorts ++ [portPair]⟩

def ports (portPair : Int) : List Int := [portPair, portPair + 1]

theorem pushPorts_eq {i endPort : Int} (fits : endPort + 2 ≤ intMax) :
    pushPorts i endPort = some (portPool i endPort) := by
  fun_induction portPool i endPort with
  | case1 i inside ih =>
    rw [pushPorts, if_pos inside, if_pos (by omega), ih]
    rfl
  | case2 i outside =>
    rw [pushPorts, if_neg outside]

theorem make_eq {startPort endPort : Int} (fits : endPort + 2 ≤ intMax) :
    make startPort endPort = some ⟨portPool startPort endPort⟩ := by
  rw [make, pushPorts_eq fits]
  rfl

theorem server_allocatePortPair (server : Server) :
    server.allocatePortPair = ((mk server.availablePorts).allocatePortPair.1,
      { server with availablePorts := (mk server.availablePorts).allocatePortPair.2.availablePorts }) := by
  obtain ⟨mediaSources, sessions, _ | ⟨portPair, rest⟩⟩ := server
  · rfl
  · rfl

theorem allocatePortPair_empty {pool : PortPool} (empty : pool.availablePorts = []) :
    pool.allocatePortPair = (-1, pool) := by
  simp only [allocatePortPair, empty]

theorem allocatePortPair_filled {pool : PortPool} {portPair : Int} {rest : List Int}
    (filled : pool.availablePorts = portPair :: rest) : pool.allocatePortPair = (portPair, ⟨rest⟩) := by
  simp only [allocatePortPair, filled]

end PortPool

theorem dvd_of_mem_portPool {startPort endPort port : Int} (member : port ∈ portPool startPort endPort) :
    2 ∣ port - startPort := by
  fun_induction portPool startPort endPort with
  | case1 startPort inside ih =>
    rcases List.mem_cons.mp member with rfl | later
    · omega
    · have := ih later
      omega
  | case2 => contradiction

theorem ports_apart {startPort endPort first second port : Int}
    (one : first ∈ portPool startPort endPort) (two : second ∈ portPool startPort endPort)
    (differ : first ≠ second) (here : port ∈ PortPool.ports first) : port ∉ PortPool.ports second := by
  have even := dvd_of_mem_portPool one
  have also := dvd_of_mem_portPool two
  simp only [PortPool.ports, List.mem_cons, List.not_mem_nil, or_false] at here ⊢
  omega

/-- A pool and who holds which of its pairs. -/
structure Holding (H : Type) where
  pool : PortPool
  held : List (H × Int)

inductive PoolCall (H : Type) where
  | allocate (holder : H)
  | release (holder : H) (portPair : Int)

namespace Holding
variable {H : Type}

def start (pool : PortPool) : Holding H := ⟨pool, []⟩

variable [DecidableEq H]

/-- A holder that gets -1 holds nothing more, and one releases only what it holds. -/
def act (s : Holding H) : PoolCall H → Option (Holding H)
  | .allocate holder =>
    let (portPair, pool) := s.pool.allocatePortPair
    some ⟨pool, if portPair = -1 then s.held else (holder, portPair) :: s.held⟩
  | .release holder portPair =>
    if (holder, portPair) ∈ s.held then
      some ⟨s.pool.releasePortPair portPair, s.held.erase (holder, portPair)⟩
    else none

/-- All pairs, wherever they are. -/
def pairs (s : Holding H) : List Int := s.pool.availablePorts ++ s.held.map Prod.snd

/-- The pairs are those created, each in one place; -1 comes when they are all held;
and no port is in two hands. -/
structure Exclusive (created : List Int) (s : Holding H) : Prop where
  accounted : s.pairs.Perm created
  once : s.pairs.Nodup
  exhausted : s.pool.allocatePortPair.1 = -1 ↔ ∀ portPair ∈ created, portPair ∈ s.held.map Prod.snd
  apart : s.held.Pairwise fun one two => ∀ port ∈ PortPool.ports one.2, port ∉ PortPool.ports two.2

section Steps
variable {created : List Int} {s t : Holding H} {call : PoolCall H}

theorem act_accounted (outside : -1 ∉ created) (accounted : s.pairs.Perm created)
    (taken : s.act call = some t) : t.pairs.Perm created := by
  refine List.Perm.trans ?_ accounted
  cases call with
  | allocate holder =>
    simp only [act] at taken
    cases pool : s.pool.availablePorts with
    | nil =>
      rw [PortPool.allocatePortPair_empty pool] at taken
      obtain rfl := Option.some.inj taken
      exact .refl _
    | cons portPair rest =>
      have member : portPair ∈ s.pairs := by
        rw [pairs, pool]
        exact List.mem_append_left _ List.mem_cons_self
      have valid : portPair ≠ -1 := by
        rintro rfl
        exact outside (accounted.mem_iff.mp member)
      rw [PortPool.allocatePortPair_filled pool, if_neg valid] at taken
      obtain rfl := Option.some.inj taken
      rw [pairs, pairs, pool]
      exact List.perm_middle
  | release holder portPair =>
    simp only [act] at taken
    split at taken
    · rename_i here
      obtain rfl := Option.some.inj taken
      have back : (s.held.map Prod.snd).Perm (portPair :: (s.held.erase (holder, portPair)).map Prod.snd) :=
        (List.perm_cons_erase here).map Prod.snd
      rw [pairs, pairs, PortPool.releasePortPair, List.append_assoc]
      exact (back.append_left _).symm
    · contradiction

omit [DecidableEq H] in
theorem exclusive_of_accounted {startPort endPort : Int} (low : 0 ≤ startPort)
    (accounted : s.pairs.Perm (portPool startPort endPort)) :
    s.Exclusive (portPool startPort endPort) := by
  have once : s.pairs.Nodup := accounted.nodup_iff.mpr (portPool_nodup startPort endPort)
  refine ⟨accounted, once, ?_, ?_⟩
  · cases pool : s.pool.availablePorts with
    | nil =>
      refine iff_of_true (by rw [PortPool.allocatePortPair_empty pool]) fun portPair member => ?_
      rw [← accounted.mem_iff, pairs, pool] at member
      exact member
    | cons first rest =>
      have here : first ∈ s.pool.availablePorts := by
        rw [pool]
        exact List.mem_cons_self
      have created : first ∈ portPool startPort endPort :=
        accounted.mem_iff.mp (List.mem_append_left _ here)
      refine iff_of_false ?_ fun all => ?_
      · have := le_of_mem_portPool created
        rw [PortPool.allocatePortPair_filled pool]
        dsimp only
        omega
      · exact List.disjoint_of_nodup_append once here (all first created)
  · have differ : s.held.Pairwise fun one two => one.2 ≠ two.2 :=
      List.pairwise_map.mp (List.Nodup.of_append_right once)
    refine differ.imp_of_mem fun {one two} here there apart port inside => ?_
    have created (holder : H × Int) (member : holder ∈ s.held) :
        holder.2 ∈ portPool startPort endPort :=
      accounted.mem_iff.mp (List.mem_append_right _ (List.mem_map_of_mem member))
    exact ports_apart (created one here) (created two there) apart inside

end Steps

/-- Over every sequence of calls the pairs of a pool are exclusive. -/
theorem pairs_exclusive {startPort endPort : Int} (low : 0 ≤ startPort) (fits : endPort + 2 ≤ intMax) :
    ∃ pool, PortPool.make startPort endPort = some pool ∧
      ∀ (trace : List (PoolCall H)) (s : Holding H),
        Transition.Run (Transition.Takes act) (start pool) trace s →
          s.Exclusive (portPool startPort endPort) := by
  refine ⟨_, PortPool.make_eq fits, fun trace s run => exclusive_of_accounted low ?_⟩
  have outside : -1 ∉ portPool startPort endPort := by
    intro member
    have := le_of_mem_portPool member
    omega
  refine run.invariant (P := fun s => s.pairs.Perm (portPool startPort endPort)) ?_ ?_
  · rw [pairs, start, List.map_nil, List.append_nil]
  · exact fun accounted taken => act_accounted outside accounted taken

/-- Two holders and two pairs; one of them is released and taken again. -/
theorem pairs_exclusive_two : ∃ s : Holding Bool, s.held = [(true, 7000), (false, 7002)] ∧
    s.pool.allocatePortPair.1 = -1 := by
  obtain ⟨pool, made, exclusive⟩ := @pairs_exclusive Bool _ 7000 7003 (by decide) (by decide)
  obtain rfl := Option.some.inj ((PortPool.make_eq (by decide)).symm.trans made)
  let trace : List (PoolCall Bool) :=
    [.allocate true, .allocate false, .release true 7000, .allocate true]
  have outcome : (trace.foldlM act (start ⟨portPool 7000 7003⟩)).map held =
      some [(true, 7000), (false, 7002)] := by decide +kernel
  obtain ⟨s, done, held⟩ := Option.map_eq_some_iff.mp outcome
  refine ⟨s, held, (exclusive trace s (.of_foldlM done)).exhausted.mpr ?_⟩
  rw [held]
  decide +kernel

end Holding
end TinyRtsp
