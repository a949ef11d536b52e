import TinyRtsp.Rtp.Rtcp

/-! The loop of `receive_rtcp_packet` while `is_running_` stays true. Its test for a
BYE reads a report that `parse_rtcp_packet` fills from receiver reports only, and that
nothing fills when no packet came. -/
namespace TinyRtsp.RtpRtcpHandler

/-- One iteration: what `recvfrom` returned and left in the buffer, and what lay in the
memory of `rr`, which is declared without a value. -/
structure Reception where
  receivedSize : Int
  buffer : RtcpBuffer
  rr : RtcpReceiverReport

namespace Reception

/-- Whether the iteration breaks the loop, with the blocks it leaves. -/
def receive (r : Reception) (blocks : ReportBlocks) : Bool × ReportBlocks :=
  if 0 < r.receivedSize then
    let parsed := parseRtcpPacket r.buffer r.receivedSize r.rr blocks
    (parsed.accepted && parsed.rr.packetType == 203, parsed.blocks)
  else (r.rr.packetType == 203, blocks)

def IsBye (r : Reception) : Prop :=
  RtcpHeader.size ≤ r.receivedSize ∧
    (headerOf r.buffer).version = 2 ∧ (headerOf r.buffer).packetType = 203

instance (r : Reception) : Decidable r.IsBye := inferInstanceAs (Decidable (_ ∧ _ ∧ _))

/-- No datagram, and 203 in the memory of the report's packet type. -/
def Misread (r : Reception) : Prop := r.receivedSize ≤ 0 ∧ r.rr.packetType = 203

/-- An accepted packet is a receiver report, so only an iteration without a packet can
break. -/
theorem receive_breaks_iff (r : Reception) (blocks : ReportBlocks) :
    (r.receive blocks).1 = true ↔ r.Misread := by
  unfold receive Misread
  split
  · rename_i received
    refine iff_of_false ?_ (by omega)
    cases accepted : (parseRtcpPacket r.buffer r.receivedSize r.rr blocks).accepted with
    | false => simp [accepted]
    | true =>
      have accepts := parse_accepted_iff.mp accepted
      have kind : (storedReport r.buffer r.rr blocks).rr.packetType = 201 := accepts.kind.2
      simp [parse_accepts accepts, kind]
  · rename_i nothing
    simp [Int.not_lt.mp nothing]

theorem IsBye.notMisread {r : Reception} (bye : r.IsBye) : ¬ r.Misread := by
  have size : (RtcpHeader.size : Int) ≤ r.receivedSize := bye.1
  rintro ⟨nothing, _⟩
  simp only [RtcpHeader.size] at size
  omega

end Reception

/-- The iteration in which the loop is left, with the blocks stored until then. -/
def receiveRtcpPacket : List Reception → ReportBlocks → Option Nat × ReportBlocks
  | [], blocks => (none, blocks)
  | r :: rest, blocks =>
    let (leaves, blocks) := r.receive blocks
    if leaves then (some 0, blocks)
    else
      let (left, blocks) := receiveRtcpPacket rest blocks
      (left.map (· + 1), blocks)

/-- The loop is left at the first BYE, and by nothing else. -/
def LeavesAtBye (receptions : List Reception) (blocks : ReportBlocks) : Prop :=
  (receiveRtcpPacket receptions blocks).1 = receptions.findIdx? fun r => decide r.IsBye

section Loop
variable {receptions : List Reception} {blocks : ReportBlocks}

theorem receiveRtcpPacket_left (receptions : List Reception) (blocks : ReportBlocks) :
    (∃ i r, (receiveRtcpPacket receptions blocks).1 = some i ∧ receptions[i]? = some r ∧ r.Misread) ∨
      (receiveRtcpPacket receptions blocks).1 = none ∧ ∀ r ∈ receptions, ¬ r.Misread := by
  induction receptions generalizing blocks with
  | nil => exact .inr ⟨rfl, List.forall_mem_nil _⟩
  | cons r rest ih =>
    rw [receiveRtcpPacket]
    dsimp only
    split
    · rename_i leaves
      exact .inl ⟨0, r, rfl, rfl, (r.receive_breaks_iff blocks).mp leaves⟩
    · rename_i stays
      have reads : ¬ r.Misread := fun misread => stays ((r.receive_breaks_iff blocks).mpr misread)
      rcases ih (r.receive blocks).2 with ⟨i, other, left, here, misread⟩ | ⟨left, others⟩
      · exact .inl ⟨i + 1, other, by rw [left]; rfl, here, misread⟩
      · exact .inr ⟨by rw [left]; rfl, List.forall_mem_cons.mpr ⟨reads, others⟩⟩

/-- The loop is left at the first BYE and by nothing else exactly over the sequences
that have no BYE and no misread report. -/
theorem leaves_at_bye_iff (receptions : List Reception) (blocks : ReportBlocks) :
    LeavesAtBye receptions blocks ↔ ∀ r ∈ receptions, ¬ r.IsBye ∧ ¬ r.Misread := by
  unfold LeavesAtBye
  rcases receiveRtcpPacket_left receptions blocks with ⟨i, r, left, here, misread⟩ | ⟨left, reads⟩
  · have member : r ∈ receptions := List.mem_of_getElem? here
    refine iff_of_false (fun same => ?_) fun all => (all r member).2 misread
    -- the iteration that breaks is no BYE
    obtain ⟨inside, bye, _⟩ := List.findIdx?_eq_some_iff_getElem.mp (same.symm.trans left)
    obtain rfl : receptions[i] = r := Option.some.inj ((List.getElem?_eq_getElem inside).symm.trans here)
    exact (of_decide_eq_true bye).notMisread misread
  · rw [left, eq_comm, List.findIdx?_eq_none_iff]
    constructor
    · intro none r member
      exact ⟨of_decide_eq_false (none r member), reads r member⟩
    · intro all r member
      exact decide_eq_false (all r member).1

/-- A BYE for one source does not end the loop. -/
theorem bye_does_not_leave :
    ¬ ∀ (receptions : List Reception) (blocks : ReportBlocks), LeavesAtBye receptions blocks := by
  intro claim
  let buffer : RtcpBuffer := fun i => ([0x81, 203, 0, 1, 0, 0, 0, 7] : List UInt8).getD i.val 0
  let bye : Reception := ⟨8, buffer, ⟨⟨0, 0, 0, 0, 0⟩, 0⟩⟩
  have stays : (receiveRtcpPacket [bye] ∅).1 = none := by decide +kernel
  have first : [bye].findIdx? (fun r => decide r.IsBye) = some 0 := by decide +kernel
  have left := claim [bye] ∅
  rw [LeavesAtBye, stays, first] at left
  contradiction

/-- A timeout before any report ends the loop when 203 happens to lie in the memory. -/
example : (receiveRtcpPacket [⟨-1, fun _ => 0, ⟨⟨0, 0, 0, 203, 0⟩, 0⟩⟩] ∅).1 = some 0 := by
  decide +kernel

end Loop
end TinyRtsp.RtpRtcpHandler
