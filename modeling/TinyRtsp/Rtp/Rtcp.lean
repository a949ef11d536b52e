import TinyRtsp.Foundation.Memory
import TinyRtsp.Foundation.Table
import TinyRtsp.Rtp.Stream

/-! The RTCP half of `RtpRtcpHandler`: what `parse_rtcp_packet` takes out of a
receive buffer, and the sender report that returns the blocks kept from it. -/
namespace TinyRtsp

/-- `RTCPHeader`, its length as `ntohs` gives it. -/
structure RtcpHeader where
  reportCount : BitVec 5
  padding : BitVec 1
  version : BitVec 2
  packetType : UInt8
  length : UInt16
  deriving DecidableEq

namespace RtcpHeader

abbrev size : Nat := 4

def bytes (header : RtcpHeader) : List UInt8 :=
  [.ofBitVec (header.version ++ header.padding ++ header.reportCount), header.packetType] ++
    networkShort header.length

def ofMemory (memory : Memory UInt8 size) : RtcpHeader where
  reportCount := (memory 0).toBitVec.extractLsb' 0 5
  padding := (memory 0).toBitVec.extractLsb' 5 1
  version := (memory 0).toBitVec.extractLsb' 6 2
  packetType := memory 1
  length := hostShort (memory 2) (memory 3)

theorem ofMemory_bytes (header : RtcpHeader) (memory : Memory UInt8 size)
    (same : ∀ i : Fin size, memory i = header.bytes.getD i.val 0) : ofMemory memory = header := by
  have flags : ∀ (version : BitVec 2) (padding : BitVec 1) (count : BitVec 5),
      (UInt8.ofBitVec (version ++ padding ++ count)).toBitVec.extractLsb' 0 5 = count ∧
        (UInt8.ofBitVec (version ++ padding ++ count)).toBitVec.extractLsb' 5 1 = padding ∧
        (UInt8.ofBitVec (version ++ padding ++ count)).toBitVec.extractLsb' 6 2 = version := by
    decide +kernel
  obtain rfl : memory = fun i => header.bytes.getD i.val 0 := funext same
  obtain ⟨reportCount, padding, version, packetType, length⟩ := header
  obtain ⟨count, pad, kind⟩ := flags version padding reportCount
  show RtcpHeader.mk _ _ _ packetType _ = RtcpHeader.mk reportCount padding version packetType length
  rw [RtcpHeader.mk.injEq]
  exact ⟨count, pad, kind, rfl, hostShort_networkShort length⟩

end RtcpHeader

structure RtcpReceiverReport extends RtcpHeader where
  ssrc : UInt32
  deriving DecidableEq

structure RtcpSenderReport extends RtcpHeader where
  ssrc : UInt32
  ntpTimestampMsw : UInt32
  ntpTimestampLsw : UInt32
  rtpTimestamp : UInt32
  senderPacketCount : UInt32
  senderOctetCount : UInt32

namespace RtcpSenderReport

abbrev size : Nat := 28

def bytes (report : RtcpSenderReport) : List UInt8 :=
  report.toRtcpHeader.bytes ++ networkLong report.ssrc ++ networkLong report.ntpTimestampMsw ++
    networkLong report.ntpTimestampLsw ++ networkLong report.rtpTimestamp ++
    networkLong report.senderPacketCount ++ networkLong report.senderOctetCount

theorem bytes_length (report : RtcpSenderReport) : report.bytes.length = size := rfl

def memory (report : RtcpSenderReport) : Memory UInt8 size :=
  fun i => report.bytes.get ⟨i.val, i.isLt⟩

end RtcpSenderReport

/-- `RTCPReportBlock` as it lies in memory: it is copied whole, and only its SSRC
is read. -/
structure RtcpReportBlock where
  bytes : Memory UInt8 24

namespace RtcpReportBlock

abbrev size : Nat := 24

/-- The first four bytes, in the order of the machine. -/
def ssrc (block : RtcpReportBlock) : UInt32 :=
  hostLong (block.bytes 3) (block.bytes 2) (block.bytes 1) (block.bytes 0)

end RtcpReportBlock

namespace RtpRtcpHandler

abbrev rtcpBufferSize : Nat := 4096

abbrev RtcpBuffer := Memory UInt8 rtcpBufferSize

abbrev ReportBlocks := Table UInt32 RtcpReportBlock

def ReportBlocks.size (blocks : ReportBlocks) : Nat := blocks.entries.length

/-- `rtcp_report_blocks_[rb.ssrc_] = rb` -/
def ReportBlocks.store (blocks : ReportBlocks) (rb : RtcpReportBlock) : ReportBlocks :=
  blocks.insert rb.ssrc rb

def headerOf (buffer : RtcpBuffer) : RtcpHeader :=
  .ofMemory (buffer.read 0 RtcpHeader.size (by decide))

theorem reportCount_le (buffer : RtcpBuffer) : (headerOf buffer).reportCount.toNat ≤ 32 :=
  Nat.le_of_lt (headerOf buffer).reportCount.isLt

/-- The `memcpy` of the `i`-th block; a count of five bits keeps it inside the buffer. -/
def reportBlock (buffer : RtcpBuffer) (i : Fin 32) : RtcpReportBlock where
  bytes := buffer.read (RtcpHeader.size + 4 + RtcpReportBlock.size * i.val) RtcpReportBlock.size (by
    have := i.isLt
    simp only [RtcpHeader.size, RtcpReportBlock.size, rtcpBufferSize]
    omega)

def reportBlocks (buffer : RtcpBuffer) (count : Nat) (few : count ≤ 32) : List RtcpReportBlock :=
  (List.finRange count).map fun i => reportBlock buffer (i.castLE few)

/-- What a call of `parse_rtcp_packet` returns and leaves behind. -/
structure Parsed where
  accepted : Bool
  rr : RtcpReceiverReport
  blocks : ReportBlocks

/-- `parse_rtcp_packet`; it does not set the report count of `rr`. -/
def parseRtcpPacket (buffer : RtcpBuffer) (receivedBytes : Int) (rr : RtcpReceiverReport)
    (blocks : ReportBlocks) : Parsed :=
  if receivedBytes < RtcpHeader.size then ⟨false, rr, blocks⟩
  else
    let header := headerOf buffer
    if header.version ≠ 2 ∨ header.packetType ≠ 201 then ⟨false, rr, blocks⟩
    else
      let rr := { rr with version := header.version, packetType := header.packetType }
      if receivedBytes < RtcpHeader.size + header.length.toNat * 4 then ⟨false, rr, blocks⟩
      else
        let ssrc := buffer.read RtcpHeader.size 4 (by decide)
        { accepted := true
          rr := { rr with
            padding := header.padding
            length := header.length
            ssrc := hostLong (ssrc 0) (ssrc 1) (ssrc 2) (ssrc 3) }
          blocks := (reportBlocks buffer header.reportCount.toNat
            (reportCount_le buffer)).foldl ReportBlocks.store blocks }

/-- The three checks: the size of a header, version and type, and the length that
the header gives. -/
structure Accepts (buffer : RtcpBuffer) (receivedBytes : Int) : Prop where
  header : RtcpHeader.size ≤ receivedBytes
  kind : (headerOf buffer).version = 2 ∧ (headerOf buffer).packetType = 201
  complete : RtcpHeader.size + (headerOf buffer).length.toNat * 4 ≤ receivedBytes

section Parse
variable {buffer other : RtcpBuffer} {receivedBytes : Int} {rr : RtcpReceiverReport}
  {blocks : ReportBlocks} {count : Nat}

def storedReport (buffer : RtcpBuffer) (rr : RtcpReceiverReport) (blocks : ReportBlocks) : Parsed :=
  let header := headerOf buffer
  let ssrc := buffer.read RtcpHeader.size 4 (by decide)
  { accepted := true
    rr := { rr with
      version := header.version, packetType := header.packetType, padding := header.padding
      length := header.length, ssrc := hostLong (ssrc 0) (ssrc 1) (ssrc 2) (ssrc 3) }
    blocks := (reportBlocks buffer header.reportCount.toNat
      (reportCount_le buffer)).foldl ReportBlocks.store blocks }

theorem parse_accepts (accepts : Accepts buffer receivedBytes) :
    parseRtcpPacket buffer receivedBytes rr blocks = storedReport buffer rr blocks := by
  have kind : ¬ ((headerOf buffer).version ≠ 2 ∨ (headerOf buffer).packetType ≠ 201) := by
    rintro (other | other)
    · exact other accepts.kind.1
    · exact other accepts.kind.2
  simp only [parseRtcpPacket]
  rw [if_neg (Int.not_lt.mpr accepts.header), if_neg kind, if_neg (Int.not_lt.mpr accepts.complete)]
  rfl

theorem parse_rejects (rejects : ¬ Accepts buffer receivedBytes) :
    (parseRtcpPacket buffer receivedBytes rr blocks).accepted = false ∧
      (parseRtcpPacket buffer receivedBytes rr blocks).blocks = blocks := by
  simp only [parseRtcpPacket]
  split
  · exact ⟨rfl, rfl⟩
  · rename_i header
    split
    · exact ⟨rfl, rfl⟩
    · rename_i kind
      obtain ⟨version, packetType⟩ := not_or.mp kind
      split
      · exact ⟨rfl, rfl⟩
      · rename_i complete
        exact absurd ⟨Int.not_lt.mp header, ⟨not_not.mp version, not_not.mp packetType⟩,
          Int.not_lt.mp complete⟩ rejects

theorem parse_accepted_iff :
    (parseRtcpPacket buffer receivedBytes rr blocks).accepted = true ↔ Accepts buffer receivedBytes := by
  constructor
  · intro accepted
    by_contra rejects
    rw [(parse_rejects rejects).1] at accepted
    contradiction
  · intro accepts
    rw [parse_accepts accepts]
    rfl

theorem reportBlocks_succ (few : count + 1 ≤ 32) :
    reportBlocks buffer (count + 1) few =
      reportBlocks buffer count (by omega) ++ [reportBlock buffer ⟨count, few⟩] := by
  rw [reportBlocks, List.finRange_succ_last, List.map_append, List.map_map]
  rfl

theorem headerOf_agree (agree : Memory.Agree receivedBytes.toNat buffer other)
    (header : RtcpHeader.size ≤ receivedBytes) : headerOf buffer = headerOf other := by
  have inside : 0 + RtcpHeader.size ≤ receivedBytes.toNat := by omega
  exact congrArg RtcpHeader.ofMemory (agree.read inside)

theorem accepts_agree (agree : Memory.Agree receivedBytes.toNat buffer other)
    (accepts : Accepts buffer receivedBytes) : Accepts other receivedBytes := by
  have same := headerOf_agree agree accepts.header
  exact ⟨accepts.header, same ▸ accepts.kind, same ▸ accepts.complete⟩

theorem reportBlocks_agree {few : count ≤ 32} (agree : Memory.Agree receivedBytes.toNat buffer other)
    (inside : 8 + 24 * count ≤ receivedBytes) :
    reportBlocks buffer count few = reportBlocks other count few := by
  apply List.map_congr_left
  intro i _
  have ends : RtcpHeader.size + 4 + RtcpReportBlock.size * i.val + RtcpReportBlock.size ≤
      receivedBytes.toNat := by
    have := i.isLt
    simp only [RtcpHeader.size, RtcpReportBlock.size]
    omega
  exact congrArg RtcpReportBlock.mk (agree.read ends)

theorem lookup_store_last (earlier : List RtcpReportBlock) (last : RtcpReportBlock) :
    ((earlier ++ [last]).foldl ReportBlocks.store blocks).lookup last.ssrc = some last := by
  rw [List.foldl_append]
  exact AList.lookup_insert _

/-- Two calls return the same and, if that is true, leave the same report and
the same table. -/
structure SameReport (left right : Parsed) : Prop where
  accepted : left.accepted = right.accepted
  rr : left.accepted = true → left.rr = right.rr
  blocks : left.accepted = true → ∀ ssrc, left.blocks.lookup ssrc = right.blocks.lookup ssrc

theorem parse_agree (agree : Memory.Agree receivedBytes.toNat buffer other)
    (inside : Accepts buffer receivedBytes → 8 + 24 * (headerOf buffer).reportCount.toNat ≤ receivedBytes) :
    SameReport (parseRtcpPacket buffer receivedBytes rr blocks)
      (parseRtcpPacket other receivedBytes rr blocks) := by
  by_cases accepts : Accepts buffer receivedBytes
  · have header := headerOf_agree agree accepts.header
    have ends := inside accepts
    have ssrc : buffer.read RtcpHeader.size 4 (by decide) = other.read RtcpHeader.size 4 (by decide) := by
      apply agree.read
      simp only [RtcpHeader.size]
      omega
    have same : storedReport buffer rr blocks = storedReport other rr blocks := by
      simp only [storedReport, ← header, ssrc, reportBlocks_agree agree ends]
    rw [parse_accepts accepts, parse_accepts (accepts_agree agree accepts), same]
    exact ⟨rfl, fun _ => rfl, fun _ _ => rfl⟩
  · have rejects : ¬ Accepts other receivedBytes := fun accepted =>
      accepts (accepts_agree agree.symm accepted)
    have left : (parseRtcpPacket buffer receivedBytes rr blocks).accepted = false :=
      (parse_rejects accepts).1
    have right : (parseRtcpPacket other receivedBytes rr blocks).accepted = false :=
      (parse_rejects rejects).1
    refine ⟨left.trans right.symm, ?_, ?_⟩
    · intro accepted
      exact absurd (left.symm.trans accepted) Bool.false_ne_true
    · intro accepted
      exact absurd (left.symm.trans accepted) Bool.false_ne_true

def flipped (buffer : RtcpBuffer) (position : Fin rtcpBufferSize) : RtcpBuffer :=
  Function.update buffer position (buffer position + 1)

theorem flipped_agree {position : Fin rtcpBufferSize} (beyond : receivedBytes ≤ position.val) :
    Memory.Agree receivedBytes.toNat buffer (flipped buffer position) :=
  Memory.agree_update (by omega)

theorem flipped_ne (position : Fin rtcpBufferSize) : flipped buffer position position ≠ buffer position := by
  have successor : ∀ byte : UInt8, byte + 1 ≠ byte := by decide +kernel
  rw [flipped, Function.update_self]
  exact successor _

theorem hostLong_low {a b c d e : UInt8} (same : hostLong a b c d = hostLong a b c e) : d = e := by
  have numbers := congrArg UInt32.toNat same
  have := a.toNat_lt
  have := b.toNat_lt
  have := c.toNat_lt
  have := d.toNat_lt
  have := e.toNat_lt
  apply UInt8.toNat.inj
  simp only [hostLong, UInt32.toNat_ofNat'] at numbers
  omega

theorem storedReport_ssrc :
    (storedReport (flipped buffer 7) rr blocks).rr ≠ (storedReport buffer rr blocks).rr := by
  intro same
  have ssrc : hostLong (flipped buffer 7 4) (flipped buffer 7 5) (flipped buffer 7 6)
        (flipped buffer 7 7) = hostLong (buffer 4) (buffer 5) (buffer 6) (buffer 7) :=
    congrArg RtcpReceiverReport.ssrc same
  have apart {i : Fin rtcpBufferSize} (other : i ≠ 7) : flipped buffer 7 i = buffer i :=
    Function.update_of_ne other _ _
  rw [apart (by decide : (4 : Fin rtcpBufferSize) ≠ 7), apart (by decide : (5 : Fin rtcpBufferSize) ≠ 7),
    apart (by decide : (6 : Fin rtcpBufferSize) ≠ 7)] at ssrc
  exact flipped_ne 7 (hostLong_low ssrc)

theorem storedReport_last {i : Fin 32} (last : (headerOf buffer).reportCount.toNat = i.val + 1) :
    (storedReport buffer rr blocks).blocks.lookup (reportBlock buffer i).ssrc =
      some (reportBlock buffer i) := by
  have stored : (storedReport buffer rr blocks).blocks =
      (reportBlocks buffer (i.val + 1) i.isLt).foldl ReportBlocks.store blocks := by
    simp only [storedReport, last]
  rw [stored, reportBlocks_succ]
  exact lookup_store_last _ _

theorem storedReport_block {i : Fin 32} {position : Fin rtcpBufferSize}
    (last : (headerOf buffer).reportCount.toNat = i.val + 1) (ends : position.val = 31 + 24 * i.val)
    (header : headerOf (flipped buffer position) = headerOf buffer) :
    (storedReport (flipped buffer position) rr blocks).blocks.lookup (reportBlock buffer i).ssrc ≠
      (storedReport buffer rr blocks).blocks.lookup (reportBlock buffer i).ssrc := by
  have front (j : Fin RtcpReportBlock.size) (early : j.val < 23) :
      (reportBlock (flipped buffer position) i).bytes j = (reportBlock buffer i).bytes j := by
    apply Function.update_of_ne
    intro here
    have := congrArg Fin.val here
    simp only [RtcpHeader.size, RtcpReportBlock.size] at this
    omega
  have ssrc : (reportBlock (flipped buffer position) i).ssrc = (reportBlock buffer i).ssrc := by
    simp only [RtcpReportBlock.ssrc, front 0 (by decide), front 1 (by decide), front 2 (by decide),
      front 3 (by decide)]
  intro same
  rw [storedReport_last last, ← ssrc, storedReport_last (header ▸ last), Option.some.injEq] at same
  have byte := congrFun (congrArg RtcpReportBlock.bytes same) 23
  have here : (⟨RtcpHeader.size + 4 + RtcpReportBlock.size * i.val + 23, by
      have := i.isLt
      simp only [RtcpHeader.size, RtcpReportBlock.size, rtcpBufferSize]
      omega⟩ : Fin rtcpBufferSize) = position := by
    apply Fin.ext
    simp only [RtcpHeader.size, RtcpReportBlock.size]
    omega
  simp only [reportBlock, Memory.read] at byte
  exact flipped_ne position (here ▸ byte)

/-- A packet that is accepted without all its blocks has a byte that was not
received and shows in the report or in the table. -/
theorem parse_reads_beyond (accepts : Accepts buffer receivedBytes)
    (short : receivedBytes < 8 + 24 * (headerOf buffer).reportCount.toNat) :
    ∃ other, Memory.Agree receivedBytes.toNat buffer other ∧
      ¬ SameReport (parseRtcpPacket buffer receivedBytes rr blocks)
        (parseRtcpPacket other receivedBytes rr blocks) := by
  have few : (headerOf buffer).reportCount.toNat < 32 := (headerOf buffer).reportCount.isLt
  have differs (position : Fin rtcpBufferSize) (beyond : receivedBytes ≤ position.val)
      (shows : headerOf (flipped buffer position) = headerOf buffer →
        ¬ SameReport (storedReport buffer rr blocks) (storedReport (flipped buffer position) rr blocks)) :
      ∃ other, Memory.Agree receivedBytes.toNat buffer other ∧
        ¬ SameReport (parseRtcpPacket buffer receivedBytes rr blocks)
          (parseRtcpPacket other receivedBytes rr blocks) := by
    have agree : Memory.Agree receivedBytes.toNat buffer (flipped buffer position) := flipped_agree beyond
    refine ⟨_, agree, ?_⟩
    rw [parse_accepts accepts, parse_accepts (accepts_agree agree accepts)]
    exact shows (headerOf_agree agree accepts.header).symm
  cases number : (headerOf buffer).reportCount.toNat with
  | zero =>
    apply differs 7
    · rw [number] at short
      show receivedBytes ≤ (7 : Int)
      omega
    · intro _ same
      exact storedReport_ssrc (same.rr rfl).symm
  | succ count =>
    rw [number] at few short
    let i : Fin 32 := ⟨count, by omega⟩
    apply differs ⟨31 + 24 * count, by simp only [rtcpBufferSize]; omega⟩
    · show receivedBytes ≤ ((31 + 24 * count : Nat) : Int)
      omega
    · intro header same
      exact storedReport_block (i := i) number rfl header (same.blocks rfl _).symm

end Parse

/-- What a call makes of the bytes it received depends on these alone exactly when
an accepted packet has received its SSRC and all the blocks that it counts. -/
theorem parse_reads_received_iff (buffer : RtcpBuffer) (receivedBytes : Int) (rr : RtcpReceiverReport)
    (blocks : ReportBlocks) :
    (∀ other, Memory.Agree receivedBytes.toNat buffer other →
      SameReport (parseRtcpPacket buffer receivedBytes rr blocks)
        (parseRtcpPacket other receivedBytes rr blocks)) ↔
      (Accepts buffer receivedBytes →
        8 + 24 * (headerOf buffer).reportCount.toNat ≤ receivedBytes) := by
  constructor
  · intro same accepts
    by_contra short
    obtain ⟨other, agree, differs⟩ := parse_reads_beyond accepts (Int.not_le.mp short)
    exact differs (same other agree)
  · exact fun inside other agree => parse_agree agree inside

/-- Eight bytes that announce a block take the block from what lies behind them. -/
theorem parse_reads_stale_block :
    ¬ ∀ (receivedBytes : Int) (buffer other : RtcpBuffer) (rr : RtcpReceiverReport)
      (blocks : ReportBlocks), Memory.Agree receivedBytes.toNat buffer other →
        SameReport (parseRtcpPacket buffer receivedBytes rr blocks)
          (parseRtcpPacket other receivedBytes rr blocks) := by
  intro claim
  let received : RtcpBuffer := fun i => ([0x81, 201, 0, 1] : List UInt8).getD i.val 0
  let rr : RtcpReceiverReport := ⟨⟨0, 0, 0, 0, 0⟩, 0⟩
  have same := claim 8 received (flipped received 31) rr ∅ (flipped_agree (by decide))
  have left : ((parseRtcpPacket received 8 rr ∅).blocks.lookup 0).map (·.bytes 23) = some 0 := by
    decide +kernel
  have right : ((parseRtcpPacket (flipped received 31) 8 rr ∅).blocks.lookup 0).map (·.bytes 23) =
      some 1 := by decide +kernel
  rw [same.blocks (by decide +kernel) 0, right] at left
  exact absurd left (by decide)

end RtpRtcpHandler
end TinyRtsp
