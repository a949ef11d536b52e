import Mathlib.Tactic.FinCases
import TinyRtsp.Foundation.Transition
import TinyRtsp.Rtp.Rtcp

/-! Sender reports while receiver reports come in. The receive thread stores the
blocks of a packet one by one under the lock; the send thread copies the table
under the lock and reads its size again after it has released the lock. -/
namespace TinyRtsp.RtpRtcpHandler

structure Timeval where
  tvSec : UInt64
  tvUsec : UInt64

/-- `NTP_epoch`: the offset between the Unix epoch and January 1, 1900. -/
def ntpEpoch : UInt64 := 2208988800

def ntpTime (tv : Timeval) : UInt64 :=
  ((tv.tvSec + ntpEpoch) <<< 32) + tv.tvUsec * ((1 : UInt64) <<< 32) / 1000000

/-- What the send thread reads before it takes the lock: the clock and the
members that sending media changes. -/
structure Readings where
  tv : Timeval
  timestamp : UInt32
  totalRtpPacketSent : UInt32
  totalPayloadSize : UInt32

/-- The members as they are between two calls of `send_rtp_packet`. -/
def Stream.readings (stream : Stream) (tv : Timeval) : Readings where
  tv := tv
  timestamp := stream.handler.timestamp
  totalRtpPacketSent := stream.handler.totalRtpPacketSent
  totalPayloadSize := stream.totalPayloadSize

/-- The address that `send_rtcp_packet` gives to `sendto`: the member that sending
media sets, and not the one it makes of `rtcp_port_`. -/
def Stream.rtcpAddress (stream : Stream) : SocketAddress := stream.handler.clientAddress

/-- The report for a table of `size` blocks. -/
def senderReport (ssrc : UInt32) (readings : Readings) (size : Nat) : RtcpSenderReport where
  reportCount := .ofNat 5 size
  padding := 0
  version := 2
  packetType := 200
  length := .ofNat (6 + 6 * size)
  ssrc := ssrc
  ntpTimestampMsw := (ntpTime readings.tv >>> 32).toUInt32
  ntpTimestampLsw := (ntpTime readings.tv).toUInt32
  rtpTimestamp := readings.timestamp
  senderPacketCount := readings.totalRtpPacketSent
  senderOctetCount := readings.totalPayloadSize

def copyBlocks (buffer : RtcpBuffer) (i : Nat) : List RtcpReportBlock → RtcpBuffer
  | [] => buffer
  | v :: rest =>
    copyBlocks (buffer.write (RtcpSenderReport.size + i * RtcpReportBlock.size) v.bytes) (i + 1) rest

/-- What the locked section leaves in the buffer. -/
def copyReport (buffer : RtcpBuffer) (sr : RtcpSenderReport) (blocks : ReportBlocks) : RtcpBuffer :=
  copyBlocks (buffer.write 0 sr.memory) 0 (blocks.entries.map (·.2))

def ReportBlocks.packetSize (blocks : ReportBlocks) : Nat :=
  RtcpSenderReport.size + blocks.size * RtcpReportBlock.size

/-- The arguments of one `sendto`: the first `size` bytes of the buffer. How many
blocks had been copied is not among them. -/
structure RtcpDatagram where
  address : SocketAddress
  buffer : RtcpBuffer
  size : Nat
  copied : Nat

/-- Where the send thread is: before the lock, or behind it with the number of
blocks it copied, or out of its buffer. -/
inductive SenderPhase where
  | idle
  | assembled (copied : Nat)
  | overrun
  deriving DecidableEq

/-- `incoming` holds the blocks that the receive thread has yet to store while it
has the lock. -/
structure Reporting where
  ssrc : UInt32
  blocks : ReportBlocks
  incoming : Option (List RtcpReportBlock)
  buffer : RtcpBuffer
  phase : SenderPhase
  sent : List RtcpDatagram

inductive ReportStep where
  | receive (buffer : RtcpBuffer) (receivedBytes : Int)
  | store
  | unlock
  | assemble (readings : Readings)
  | send (address : SocketAddress)

instance (buffer : RtcpBuffer) (receivedBytes : Int) : Decidable (Accepts buffer receivedBytes) :=
  decidable_of_iff (RtcpHeader.size ≤ receivedBytes ∧
      ((headerOf buffer).version = 2 ∧ (headerOf buffer).packetType = 201) ∧
      RtcpHeader.size + (headerOf buffer).length.toNat * 4 ≤ receivedBytes)
    ⟨fun ⟨header, kind, complete⟩ => ⟨header, kind, complete⟩,
      fun accepts => ⟨accepts.header, accepts.kind, accepts.complete⟩⟩

namespace Reporting

def start (ssrc : UInt32) (buffer : RtcpBuffer) : Reporting where
  ssrc := ssrc
  blocks := ∅
  incoming := none
  buffer := buffer
  phase := .idle
  sent := []

/-- The lock is held by the receive thread from `receive` to `unlock`, and by the
send thread during `assemble`. -/
def act (s : Reporting) : ReportStep → Option Reporting
  | .receive buffer receivedBytes =>
    match s.incoming with
    | some _ => none
    | none =>
      if Accepts buffer receivedBytes then
        let header := headerOf buffer
        some { s with incoming := some (reportBlocks buffer header.reportCount.toNat
          (reportCount_le buffer)) }
      else some s
  | .store =>
    match s.incoming with
    | some (rb :: rest) => some { s with blocks := s.blocks.store rb, incoming := some rest }
    | _ => none
  | .unlock =>
    match s.incoming with
    | some [] => some { s with incoming := none }
    | _ => none
  | .assemble readings =>
    match s.phase, s.incoming with
    | .idle, none =>
      if s.blocks.packetSize ≤ rtcpBufferSize then
        some { s with
          buffer := copyReport s.buffer (senderReport s.ssrc readings s.blocks.size) s.blocks
          phase := .assembled s.blocks.size }
      else some { s with phase := .overrun }
    | _, _ => none
  | .send address =>
    match s.phase with
    | .assembled copied =>
      some { s with
        phase := .idle
        sent := s.sent ++ [⟨address, s.buffer, s.blocks.packetSize, copied⟩] }
    | _ => none

/-- The receive thread on its own leaves the table as `parse_rtcp_packet` does. -/
theorem receive_stores (s : Reporting) (free : s.incoming = none) {buffer : RtcpBuffer}
    {receivedBytes : Int} (rr : RtcpReceiverReport) (accepts : Accepts buffer receivedBytes) :
    (.receive buffer receivedBytes ::
        (List.replicate (headerOf buffer).reportCount.toNat .store ++ [.unlock])).foldlM act s =
      some { s with blocks := (parseRtcpPacket buffer receivedBytes rr s.blocks).blocks } := by
  have stores (blocks : List RtcpReportBlock) (s : Reporting) (held : s.incoming = some blocks) :
      (List.replicate blocks.length ReportStep.store ++ [ReportStep.unlock]).foldlM act s =
        some { s with incoming := none, blocks := blocks.foldl ReportBlocks.store s.blocks } := by
    induction blocks generalizing s with
    | nil =>
      simp only [List.length_nil, List.replicate_zero, List.nil_append, List.foldlM_cons, act, held]
      rfl
    | cons rb rest ih =>
      simp only [List.length_cons, List.replicate_succ, List.cons_append, List.foldlM_cons, act, held]
      exact ih _ rfl
  have few := reportCount_le buffer
  have length : (reportBlocks buffer _ few).length = (headerOf buffer).reportCount.toNat := by
    rw [reportBlocks, List.length_map, List.length_finRange]
  have stored := stores (reportBlocks buffer _ few)
    { s with incoming := some (reportBlocks buffer _ few) } rfl
  rw [length] at stored
  rw [List.foldlM_cons]
  simp only [act, free, if_pos accepts]
  rw [parse_accepts accepts, storedReport]
  exact stored

end Reporting

section Buffer
theorem read_copyBlocks {offset length : Nat} {inside : offset + length ≤ rtcpBufferSize}
    (ends : offset + length ≤ RtcpSenderReport.size) (buffer : RtcpBuffer) (i : Nat)
    (blocks : List RtcpReportBlock) :
    (copyBlocks buffer i blocks).read offset length inside = buffer.read offset length inside := by
  induction blocks generalizing buffer i with
  | nil => rfl
  | cons v rest ih =>
    rw [copyBlocks, ih]
    apply Memory.read_write_other
    left
    omega

theorem headerOf_copyBlocks (buffer : RtcpBuffer) (i : Nat) (blocks : List RtcpReportBlock) :
    headerOf (copyBlocks buffer i blocks) = headerOf buffer :=
  congrArg RtcpHeader.ofMemory (read_copyBlocks (by decide) buffer i blocks)

theorem headerOf_report (buffer : RtcpBuffer) (sr : RtcpSenderReport) :
    headerOf (buffer.write 0 sr.memory) = sr.toRtcpHeader := by
  rw [headerOf, Memory.read_write (Nat.le_refl 0) (by decide)]
  refine RtcpHeader.ofMemory_bytes _ _ fun i => ?_
  fin_cases i <;> rfl

theorem headerOf_copyReport (buffer : RtcpBuffer) (sr : RtcpSenderReport) (blocks : ReportBlocks) :
    headerOf (copyReport buffer sr blocks) = sr.toRtcpHeader := by
  rw [copyReport, headerOf_copyBlocks, headerOf_report]

end Buffer

/-- The datagram describes itself: its count is that of the blocks copied into it,
its length field and its size follow from the count, and it lies in the buffer. -/
structure RtcpDatagram.Consistent (d : RtcpDatagram) : Prop where
  count : (headerOf d.buffer).reportCount.toNat = d.copied
  length : 4 * ((headerOf d.buffer).length.toNat + 1) = d.size
  size : d.size = 28 + 24 * (headerOf d.buffer).reportCount.toNat
  inside : d.size ≤ rtcpBufferSize

namespace Reporting

/-- Every datagram sent so far is consistent, and no block was copied past the end
of the buffer. -/
def Lawful (s : Reporting) : Prop :=
  (∀ d ∈ s.sent, d.Consistent) ∧ s.phase ≠ .overrun

/-- A report is assembled only if the table fits the buffer, and sent only if at
most 31 blocks were copied and the table has not grown since. -/
def Steady (s : Reporting) : ReportStep → Prop
  | .assemble _ => s.blocks.packetSize ≤ rtcpBufferSize
  | .send _ => ∀ copied, s.phase = .assembled copied → copied ≤ 31 ∧ s.blocks.size = copied
  | _ => True

/-- A report that waits for its `sendto` carries the header for the blocks copied. -/
def Headed (s : Reporting) : Prop :=
  ∀ copied, s.phase = .assembled copied → (headerOf s.buffer).reportCount = .ofNat 5 copied ∧
    (headerOf s.buffer).length = .ofNat (6 + 6 * copied)

variable {s t : Reporting} {step : ReportStep}

theorem consistent_iff {address : SocketAddress} {copied : Nat} (headed : s.Headed)
    (ready : s.phase = .assembled copied) :
    RtcpDatagram.Consistent ⟨address, s.buffer, s.blocks.packetSize, copied⟩ ↔
      copied ≤ 31 ∧ s.blocks.size = copied := by
  obtain ⟨count, length⟩ := headed copied ready
  have counts : (headerOf s.buffer).reportCount.toNat = copied % 32 := by
    rw [count, BitVec.toNat_ofNat]
  have lengths : (headerOf s.buffer).length.toNat = (6 + 6 * copied) % 65536 := by
    rw [length, UInt16.toNat_ofNat']
  have size : s.blocks.packetSize = 28 + s.blocks.size * 24 := rfl
  constructor
  · rintro ⟨count, _, whole, _⟩
    have count : (headerOf s.buffer).reportCount.toNat = copied := count
    have few : copied < 32 := by
      rw [← count, counts]
      exact Nat.mod_lt _ (by decide)
    have same : 28 + s.blocks.size * 24 = 28 + 24 * copied := by
      rw [← size, ← count]
      exact whole
    exact ⟨Nat.le_of_lt_succ few, by omega⟩
  · rintro ⟨few, same⟩
    constructor
    · simp only [counts]
      omega
    · simp only [lengths, size]
      omega
    · simp only [counts, size]
      omega
    · simp only [size, rtcpBufferSize]
      omega

/-- A step keeps the law exactly when it is steady. -/
theorem lawful_act (headed : s.Headed) (lawful : s.Lawful) (taken : s.act step = some t) :
    (t.Lawful ↔ s.Steady step) ∧ (s.Steady step → t.Headed) := by
  cases step with
  | receive buffer receivedBytes =>
    simp only [act] at taken
    split at taken
    · contradiction
    · split at taken
      · obtain rfl := Option.some.inj taken
        exact ⟨iff_of_true lawful trivial, fun _ => headed⟩
      · obtain rfl := Option.some.inj taken
        exact ⟨iff_of_true lawful trivial, fun _ => headed⟩
  | store =>
    simp only [act] at taken
    split at taken
    · obtain rfl := Option.some.inj taken
      exact ⟨iff_of_true lawful trivial, fun _ => headed⟩
    · contradiction
  | unlock =>
    simp only [act] at taken
    split at taken
    · obtain rfl := Option.some.inj taken
      exact ⟨iff_of_true lawful trivial, fun _ => headed⟩
    · contradiction
  | assemble readings =>
    simp only [act] at taken
    split at taken
    · split at taken
      · rename_i fits
        obtain rfl := Option.some.inj taken
        refine ⟨iff_of_true ⟨lawful.1, fun same => SenderPhase.noConfusion same⟩ fits,
          fun _ copied ready => ?_⟩
        obtain rfl := SenderPhase.assembled.inj ready
        rw [headerOf_copyReport]
        exact ⟨rfl, rfl⟩
      · rename_i exceeds
        obtain rfl := Option.some.inj taken
        exact ⟨iff_of_false (fun kept => kept.2 rfl) exceeds, fun fits => absurd fits exceeds⟩
    · contradiction
  | send address =>
    simp only [act] at taken
    split at taken
    · rename_i copied ready
      obtain rfl := Option.some.inj taken
      have fine : RtcpDatagram.Consistent ⟨address, s.buffer, s.blocks.packetSize, copied⟩ ↔ _ :=
        consistent_iff headed ready
      have steady : s.Steady (.send address) ↔ copied ≤ 31 ∧ s.blocks.size = copied := by
        constructor
        · exact fun all => all copied ready
        · intro one other again
          obtain rfl := SenderPhase.assembled.inj (ready.symm.trans again)
          exact one
      refine ⟨?_, fun _ copied waiting => SenderPhase.noConfusion waiting⟩
      rw [steady, ← fine]
      constructor
      · intro kept
        exact kept.1 _ (List.mem_append_right _ (List.mem_singleton_self _))
      · intro consistent
        refine ⟨fun d member => ?_, fun same => SenderPhase.noConfusion same⟩
        rcases List.mem_append.mp member with earlier | last
        · exact lawful.1 d earlier
        · exact List.mem_singleton.mp last ▸ consistent
    · contradiction

/-- In a run whose steps are all steady every sender report is consistent, and
these are the only such runs. -/
theorem reports_consistent_iff (ssrc : UInt32) (buffer : RtcpBuffer) (trace : List ReportStep) :
    (∀ s, Transition.Run (Transition.Guarded Steady (Transition.Takes act)) (start ssrc buffer) trace s →
      s.Lawful) ∧
    ∀ s, Transition.Run (fun s step t => act s step = some t ∧ t.Lawful) (start ssrc buffer) trace s →
      Transition.Run (Transition.Guarded Steady (Transition.Takes act)) (start ssrc buffer) trace s := by
  have headed : (start ssrc buffer).Headed := nofun
  have lawful : (start ssrc buffer).Lawful := ⟨nofun, nofun⟩
  exact Transition.Run.guarded_iff headed lawful lawful_act trace

/-- A receiver report of 392 bytes on 16 sources, the first of them `ssrc`. -/
def sixteenBlocks (ssrc : UInt8) : RtcpBuffer := fun i =>
  if i.val < 4 then ([0x90, 201, 0, 97] : List UInt8).getD i.val 0
  else if 8 ≤ i.val ∧ i.val % 24 = 8 then ssrc + .ofNat (i.val / 24) else 0

/-- Two receiver reports on 32 sources: the count of the sender report is 0. -/
theorem thirtytwo_blocks_inconsistent :
    ¬ ∀ (ssrc : UInt32) (buffer : RtcpBuffer) (trace : List ReportStep) (s : Reporting),
      Transition.Run (Transition.Takes act) (start ssrc buffer) trace s → s.Lawful := by
  intro claim
  let takes (ssrc : UInt8) : List ReportStep :=
    .receive (sixteenBlocks ssrc) 392 :: (List.replicate 16 .store ++ [.unlock])
  let reports : List ReportStep := [.assemble ⟨⟨0, 0⟩, 0, 0, 0⟩, .send ⟨5000, ⟨10, 0, 0, 7⟩⟩]
  have outcome : ((takes 1 ++ takes 17 ++ reports).foldlM act (start 1 fun _ => 0)).map (fun s =>
      s.sent.map fun d => ((headerOf d.buffer).reportCount.toNat, d.copied)) = some [(0, 32)] := by
    decide +kernel
  obtain ⟨s, done, pairs⟩ := Option.map_eq_some_iff.mp outcome
  obtain ⟨d, sent, pair⟩ := List.map_eq_singleton_iff.mp pairs
  obtain ⟨count, copied⟩ := Prod.mk.inj pair
  have consistent := (claim _ _ _ s (.of_foldlM done)).1 d (by rw [sent]; exact List.mem_singleton_self d)
  exact absurd (count.symm.trans (consistent.count.trans copied)) (by decide)

end Reporting
end TinyRtsp.RtpRtcpHandler
