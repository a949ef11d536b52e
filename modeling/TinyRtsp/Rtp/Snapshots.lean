import TinyRtsp.Rtp.SenderReports

/-! What the sender reports of a run contain, as a client reads them off the datagrams.
The receive thread stores all blocks of a packet within one hold of the lock and the send
thread copies the table within one, so whatever the threads do in between, a report
carries the latest block of every source over whole packets: those accepted before it was
put together. -/
namespace TinyRtsp
open Transition

namespace RtcpReportBlock

def octets (block : RtcpReportBlock) : List UInt8 := List.ofFn block.bytes

theorem length_octets (block : RtcpReportBlock) : block.octets.length = size := List.length_ofFn

theorem length_flatMap_octets (blocks : List RtcpReportBlock) :
    (blocks.flatMap octets).length = blocks.length * size := by
  induction blocks with
  | nil => rfl
  | cons block blocks ih =>
    rw [List.flatMap_cons, List.length_append, ih, length_octets, List.length_cons, Nat.succ_mul, Nat.add_comm]

def ofOctets (octets : List UInt8) : RtcpReportBlock where
  bytes := fun i => octets.getD i.val 0

theorem ofOctets_append (block : RtcpReportBlock) (rest : List UInt8) :
    ofOctets (block.octets ++ rest) = block := by
  unfold ofOctets
  congr 1
  funext i
  have inside : i.val < block.octets.length := i.isLt.trans_eq block.length_octets.symm
  rw [List.getD_eq_getElem?_getD, List.getElem?_append_left inside, List.getElem?_eq_getElem inside]
  exact List.getElem_ofFn inside

def readMany : Nat → List UInt8 → List RtcpReportBlock
  | 0, _ => []
  | count + 1, bytes => ofOctets bytes :: readMany count (bytes.drop size)

theorem readMany_flatMap (blocks : List RtcpReportBlock) (rest : List UInt8) :
    readMany blocks.length (blocks.flatMap octets ++ rest) = blocks := by
  induction blocks with
  | nil => rfl
  | cons block blocks ih =>
    rw [List.length_cons, readMany, List.flatMap_cons, List.append_assoc, ofOctets_append,
      ← block.length_octets, List.drop_left, ih]

end RtcpReportBlock

/-- The fields of a report at the front of the bytes. -/
def RtcpSenderReport.ofBytes (bytes : List UInt8) : RtcpSenderReport where
  toRtcpHeader := .ofMemory fun i => bytes.getD i.val 0
  ssrc := long 4
  ntpTimestampMsw := long 8
  ntpTimestampLsw := long 12
  rtpTimestamp := long 16
  senderPacketCount := long 20
  senderOctetCount := long 24
where
  long (i : Nat) : UInt32 :=
    hostLong (bytes.getD i 0) (bytes.getD (i + 1) 0) (bytes.getD (i + 2) 0) (bytes.getD (i + 3) 0)

theorem RtcpSenderReport.ofBytes_append (report : RtcpSenderReport) (rest : List UInt8) :
    ofBytes (report.bytes ++ rest) = report := by
  have header : RtcpHeader.ofMemory (fun i => (report.bytes ++ rest).getD i.val 0) = report.toRtcpHeader := by
    refine RtcpHeader.ofMemory_bytes _ _ fun i => ?_
    fin_cases i <;> rfl
  obtain ⟨⟨reportCount, padding, version, packetType, length⟩, ssrc, msw, lsw, timestamp, packets,
    octets⟩ := report
  rw [ofBytes, header]
  show RtcpSenderReport.mk _ _ _ _ _ _ _ = _
  rw [RtcpSenderReport.mk.injEq]
  exact ⟨rfl, hostLong_networkLong ssrc, hostLong_networkLong msw, hostLong_networkLong lsw,
    hostLong_networkLong timestamp, hostLong_networkLong packets, hostLong_networkLong octets⟩

namespace RtpRtcpHandler
namespace RtcpDatagram

def bytes (d : RtcpDatagram) : List UInt8 := (List.ofFn d.buffer).take d.size

def report (d : RtcpDatagram) : RtcpSenderReport := .ofBytes d.bytes

/-- The bytes that the length field of the report announces. -/
def announced (d : RtcpDatagram) : Nat := 4 * (d.report.length.toNat + 1)

/-- The blocks behind the report, as many as it announces. -/
def blocks (d : RtcpDatagram) : List RtcpReportBlock :=
  RtcpReportBlock.readMany ((d.announced - RtcpSenderReport.size) / RtcpReportBlock.size)
    (d.bytes.drop RtcpSenderReport.size)

end RtcpDatagram

/-- What a step adds to the blocks of the accepted packets, and to the reports put
together, each with the blocks accepted before it. -/
def observe (seen : List RtcpReportBlock × List (Readings × List RtcpReportBlock)) :
    ReportStep → List RtcpReportBlock × List (Readings × List RtcpReportBlock)
  | .receive buffer receivedBytes =>
    if Accepts buffer receivedBytes then
      (seen.1 ++ reportBlocks buffer (headerOf buffer).reportCount.toNat (reportCount_le buffer), seen.2)
    else seen
  | .assemble readings => (seen.1, seen.2 ++ [(readings, seen.1)])
  | _ => seen

def observed (trace : List ReportStep) : List RtcpReportBlock × List (Readings × List RtcpReportBlock) :=
  trace.foldl observe ([], [])

/-- The latest block of each source, once and in any order. -/
structure Latest (accepted blocks : List RtcpReportBlock) : Prop where
  apart : (blocks.map RtcpReportBlock.ssrc).Nodup
  latest : ∀ block, block ∈ blocks ↔
    accepted.reverse.find? (fun other => other.ssrc = block.ssrc) = some block

/-- A sender report over the latest blocks lies at the front of a buffer. -/
def Snapshot (ssrc : UInt32) (readings : Readings) (accepted : List RtcpReportBlock) (buffer : RtcpBuffer)
    (copied : Nat) : Prop :=
  ∃ blocks : List RtcpReportBlock, blocks.length = copied ∧ Latest accepted blocks ∧
    buffer.Holds 0 ((senderReport ssrc readings copied).bytes ++ blocks.flatMap RtcpReportBlock.octets)

section Table
variable {blocks : ReportBlocks} {accepted : List RtcpReportBlock}

def Keyed (blocks : ReportBlocks) : Prop := ∀ entry ∈ blocks.entries, entry.2.ssrc = entry.1

theorem keyed_foldl (accepted : List RtcpReportBlock) (keyed : Keyed blocks) :
    Keyed (accepted.foldl ReportBlocks.store blocks) := by
  induction accepted generalizing blocks with
  | nil => exact keyed
  | cons block rest ih =>
    refine ih fun entry member => ?_
    rw [ReportBlocks.store, AList.entries_insert] at member
    rcases List.mem_cons.mp member with rfl | other
    · rfl
    · exact keyed entry ((List.kerase_sublist _ _).subset other)

theorem mem_values_iff (keyed : Keyed blocks) (block : RtcpReportBlock) :
    block ∈ blocks.entries.map (·.2) ↔ blocks.lookup block.ssrc = some block := by
  rw [List.mem_map, AList.lookup, ← Option.mem_def, List.mem_dlookup_iff blocks.nodupKeys]
  constructor
  · rintro ⟨⟨key, value⟩, member, rfl⟩
    have same := keyed ⟨key, value⟩ member
    dsimp only at same ⊢
    rwa [same]
  · intro member
    exact ⟨_, member, rfl⟩

theorem values_latest (accepted : List RtcpReportBlock) :
    Latest accepted ((accepted.foldl ReportBlocks.store (∅ : ReportBlocks)).entries.map (·.2)) := by
  let blocks := accepted.foldl ReportBlocks.store (∅ : ReportBlocks)
  have keyed : Keyed blocks := keyed_foldl accepted (by rintro entry ⟨⟩)
  constructor
  · have keys : (blocks.entries.map (·.2)).map RtcpReportBlock.ssrc = blocks.keys := by
      rw [List.map_map]
      exact List.map_congr_left keyed
    rw [keys]
    exact blocks.nodupKeys
  · intro block
    rw [mem_values_iff keyed]
    have latest := Table.lookup_foldl_insert RtcpReportBlock.ssrc accepted ∅ block.ssrc
    rw [AList.lookup_empty, Option.or_none] at latest
    rw [← latest]
    rfl

end Table

section Buffer
variable {buffer : RtcpBuffer} {front : List UInt8}

theorem holds_copyBlocks (blocks : List RtcpReportBlock) (i : Nat) (holds : buffer.Holds 0 front)
    (length : front.length = RtcpSenderReport.size + i * RtcpReportBlock.size)
    (fits : RtcpSenderReport.size + (i + blocks.length) * RtcpReportBlock.size ≤ rtcpBufferSize) :
    (copyBlocks buffer i blocks).Holds 0 (front ++ blocks.flatMap RtcpReportBlock.octets) := by
  induction blocks generalizing buffer i front with
  | nil =>
    rw [List.flatMap_nil, List.append_nil]
    exact holds
  | cons v rest ih =>
    have octets := v.length_octets
    simp only [RtcpSenderReport.size, RtcpReportBlock.size, List.length_cons, rtcpBufferSize] at length fits octets
    have written : (buffer.write (RtcpSenderReport.size + i * RtcpReportBlock.size) v.bytes).Holds
        (0 + front.length) v.octets := by
      rw [Nat.zero_add, length]
      exact Memory.holds_write (by simp only [RtcpSenderReport.size, RtcpReportBlock.size, rtcpBufferSize]; omega)
    have both := Memory.holds_append.mpr ⟨holds.write (by rw [Nat.zero_add, length]), written⟩
    rw [copyBlocks, List.flatMap_cons, ← List.append_assoc]
    refine ih (i + 1) both ?_ ?_
    · simp only [List.length_append, RtcpSenderReport.size, RtcpReportBlock.size]
      omega
    · simp only [RtcpSenderReport.size, RtcpReportBlock.size, rtcpBufferSize]
      omega

theorem snapshot_copyReport (ssrc : UInt32) (readings : Readings) (accepted : List RtcpReportBlock)
    (buffer : RtcpBuffer)
    (fits : (accepted.foldl ReportBlocks.store (∅ : ReportBlocks)).packetSize ≤ rtcpBufferSize) :
    let blocks := accepted.foldl ReportBlocks.store ∅
    Snapshot ssrc readings accepted (copyReport buffer (senderReport ssrc readings blocks.size) blocks)
      blocks.size := by
  intro blocks
  have report : (buffer.write 0 (senderReport ssrc readings blocks.size).memory).Holds 0
      (senderReport ssrc readings blocks.size).bytes := by
    have holds : (buffer.write 0 (senderReport ssrc readings blocks.size).memory).Holds 0
        (List.ofFn (senderReport ssrc readings blocks.size).memory) := Memory.holds_write (by decide)
    have bytes : List.ofFn (senderReport ssrc readings blocks.size).memory =
        (senderReport ssrc readings blocks.size).bytes := by
      apply List.ext_getElem
      · rw [List.length_ofFn, RtcpSenderReport.bytes_length]
      · intro i _ _
        rw [List.getElem_ofFn]
        rfl
    rwa [bytes] at holds
  refine ⟨blocks.entries.map (·.2), List.length_map .., values_latest accepted, ?_⟩
  refine holds_copyBlocks _ 0 report rfl ?_
  rw [Nat.zero_add, List.length_map]
  exact fits

end Buffer
namespace Reporting
variable {ssrc : UInt32} {s t : Reporting} {step : ReportStep}
  {seen : List RtcpReportBlock × List (Readings × List RtcpReportBlock)}

theorem size_store (blocks : ReportBlocks) (rb : RtcpReportBlock) : blocks.size ≤ (blocks.store rb).size := by
  have erased : blocks.entries.length ≤ (blocks.entries.kerase rb.ssrc).length + 1 := by
    by_cases member : rb.ssrc ∈ blocks.entries.keys
    · obtain ⟨value, front, back, _, whole, erased⟩ := List.exists_of_kerase member
      rw [erased, whole, List.length_append, List.length_append, List.length_cons, Nat.add_assoc]
    · rw [List.kerase_of_notMem_keys member]
      exact Nat.le_succ _
  rw [ReportBlocks.size, ReportBlocks.size, ReportBlocks.store, AList.entries_insert, List.length_cons]
  exact erased

/-- What is read off a datagram: a report of the readings whose length field goes with
the blocks behind it, all of which have arrived, and these are the latest of each source. -/
structure Carries (ssrc : UInt32) (d : RtcpDatagram) (report : Readings × List RtcpReportBlock) : Prop where
  fields : d.report = senderReport ssrc report.1 d.blocks.length
  complete : d.announced = RtcpSenderReport.size + d.blocks.length * RtcpReportBlock.size ∧
    d.announced ≤ d.bytes.length
  blocks : Latest report.2 d.blocks

theorem carries_snapshot {readings : Readings} {accepted : List RtcpReportBlock} {d : RtcpDatagram} {copied : Nat}
    (snapshot : Snapshot ssrc readings accepted d.buffer copied)
    (sent : RtcpSenderReport.size + copied * RtcpReportBlock.size ≤ d.size) :
    Carries ssrc d (readings, accepted) := by
  obtain ⟨blocks, rfl, latest, holds⟩ := snapshot
  let report := senderReport ssrc readings blocks.length
  have length : (report.bytes ++ blocks.flatMap RtcpReportBlock.octets).length =
      RtcpSenderReport.size + blocks.length * RtcpReportBlock.size := by
    rw [List.length_append, RtcpReportBlock.length_flatMap_octets, RtcpSenderReport.bytes_length]
  have inside := holds.1
  rw [Nat.zero_add, length] at inside
  obtain ⟨rest, bytes⟩ : ∃ rest, d.bytes = report.bytes ++ (blocks.flatMap RtcpReportBlock.octets ++ rest) := by
    obtain ⟨rest, whole⟩ := holds.prefix_ofFn
    refine ⟨rest.take (d.size - (report.bytes ++ blocks.flatMap RtcpReportBlock.octets).length), ?_⟩
    rw [RtcpDatagram.bytes, ← whole, List.take_append, ← List.append_assoc,
      List.take_of_length_le (by rw [length]; exact sent)]
  have fields : d.report = report := by rw [RtcpDatagram.report, bytes, RtcpSenderReport.ofBytes_append]
  have few : blocks.length ≤ 169 := by
    simp only [RtcpSenderReport.size, RtcpReportBlock.size, rtcpBufferSize] at inside
    omega
  have announced : d.announced = RtcpSenderReport.size + blocks.length * RtcpReportBlock.size := by
    have field : report.length.toNat = 6 + 6 * blocks.length := by
      show (UInt16.ofNat (6 + 6 * blocks.length)).toNat = _
      rw [UInt16.toNat_ofNat', Nat.mod_eq_of_lt (by omega)]
    rw [RtcpDatagram.announced, fields, field]
    simp only [RtcpSenderReport.size, RtcpReportBlock.size]
    omega
  have read : d.blocks = blocks := by
    have count : (d.announced - RtcpSenderReport.size) / RtcpReportBlock.size = blocks.length := by
      rw [announced, Nat.add_sub_cancel_left, Nat.mul_div_cancel _ (by decide)]
    have front : report.bytes.length = RtcpSenderReport.size := rfl
    rw [RtcpDatagram.blocks, count, bytes, ← front, List.drop_left, RtcpReportBlock.readMany_flatMap]
  refine ⟨?_, ?_, ?_⟩
  · rw [fields, read]
  · refine ⟨by rw [announced, read], ?_⟩
    rw [announced, bytes, ← List.append_assoc, List.length_append, length]
    exact Nat.le_add_right _ _
  · rw [read]
    exact latest

def Waits (ssrc : UInt32) (s : Reporting) (waiting : List (Readings × List RtcpReportBlock)) : Prop :=
  match s.phase with
  | .idle => waiting = []
  | .assembled copied => ∃ report, waiting = [report] ∧
      Snapshot ssrc report.1 report.2 s.buffer copied ∧ copied ≤ s.blocks.size
  | .overrun => waiting.length = 1

/-- The state after what has been seen: the table is that of the blocks stored so far,
and the reports put together are those sent and the one that waits. -/
structure Follows (ssrc : UInt32) (seen : List RtcpReportBlock × List (Readings × List RtcpReportBlock))
    (s : Reporting) : Prop where
  source : s.ssrc = ssrc
  stored : ∃ applied, seen.1 = applied ++ s.incoming.getD [] ∧ s.blocks = applied.foldl ReportBlocks.store ∅
  reports : ∃ done waiting, seen.2 = done ++ waiting ∧ List.Forall₂ (Carries ssrc) s.sent done ∧
    s.Waits ssrc waiting

theorem follows_act (follows : Follows ssrc seen s) (taken : s.act step = some t) :
    Follows ssrc (observe seen step) t := by
  obtain ⟨same, ⟨applied, accepted, table⟩, done, waiting, reports, sent, waits⟩ := follows
  cases step with
  | receive buffer receivedBytes =>
    simp only [act] at taken
    split at taken
    · contradiction
    · rename_i free
      rw [free, Option.getD_none, List.append_nil] at accepted
      split at taken
      · rename_i accepts
        obtain rfl := Option.some.inj taken
        rw [observe, if_pos accepts]
        exact ⟨same, ⟨applied, by rw [accepted]; rfl, table⟩, done, waiting, reports, sent, waits⟩
      · rename_i rejects
        obtain rfl := Option.some.inj taken
        rw [observe, if_neg rejects]
        exact ⟨same, ⟨applied, by rw [accepted, free, Option.getD_none, List.append_nil], table⟩, done, waiting,
          reports, sent, waits⟩
  | store =>
    simp only [act] at taken
    split at taken
    · rename_i rb rest held
      obtain rfl := Option.some.inj taken
      refine ⟨same, ⟨applied ++ [rb], ?_, ?_⟩, done, waiting, reports, sent, ?_⟩
      · show seen.1 = applied ++ [rb] ++ rest
        rw [accepted, held, List.append_assoc]
        rfl
      · rw [List.foldl_append, table]
        rfl
      · unfold Waits at waits ⊢
        dsimp only
        split at waits
        · exact waits
        · obtain ⟨report, one, snapshot, few⟩ := waits
          exact ⟨report, one, snapshot, few.trans (size_store s.blocks rb)⟩
        · exact waits
    · contradiction
  | unlock =>
    simp only [act] at taken
    split at taken
    · rename_i held
      obtain rfl := Option.some.inj taken
      rw [held] at accepted
      exact ⟨same, ⟨applied, accepted, table⟩, done, waiting, reports, sent, waits⟩
    · contradiction
  | assemble readings =>
    simp only [act] at taken
    split at taken
    · rename_i idle free
      rw [Waits, idle] at waits
      obtain rfl : waiting = [] := waits
      rw [List.append_nil] at reports
      rw [free, Option.getD_none, List.append_nil] at accepted
      split at taken
      · rename_i fits
        obtain rfl := Option.some.inj taken
        rw [table] at fits
        refine ⟨same, ⟨applied, by rw [observe, accepted, free, Option.getD_none, List.append_nil], table⟩, done,
          [(readings, seen.1)], by rw [observe, reports], sent, _, rfl, ?_, Nat.le_refl _⟩
        rw [same, accepted, table]
        exact snapshot_copyReport ssrc readings applied s.buffer fits
      · obtain rfl := Option.some.inj taken
        exact ⟨same, ⟨applied, by rw [observe, accepted, free, Option.getD_none, List.append_nil], table⟩, done,
          [(readings, seen.1)], by rw [observe, reports], sent, rfl⟩
    · contradiction
  | send address =>
    simp only [act] at taken
    split at taken
    · rename_i copied ready
      obtain rfl := Option.some.inj taken
      rw [Waits, ready] at waits
      obtain ⟨report, rfl, snapshot, few⟩ := waits
      refine ⟨same, ⟨applied, accepted, table⟩, done ++ [report], [], ?_, ?_, rfl⟩
      · rw [List.append_nil]
        exact reports
      · refine List.rel_append sent (.cons (carries_snapshot snapshot ?_) .nil)
        exact Nat.add_le_add_left (Nat.mul_le_mul_right _ few) _
    · contradiction

/-- Whatever order the threads take and whatever the sender reads, the datagrams are the
reports in the order in which they were put together, at most the last one missing, and
each of them reads back as its readings and the latest blocks of what was accepted
before it. -/
theorem reports_snapshot (ssrc : UInt32) (buffer : RtcpBuffer) {trace : List ReportStep} {s : Reporting}
    (run : Run (Takes act) (start ssrc buffer) trace s) : ∃ done waiting,
      (observed trace).2 = done ++ waiting ∧ waiting.length ≤ 1 ∧
      List.Forall₂ (Carries ssrc) s.sent done := by
  have follows : Follows ssrc (observed trace) s := by
    refine run.history (P := fun trace s => Follows ssrc (observed trace) s)
      ⟨rfl, ⟨[], rfl, rfl⟩, [], [], rfl, .nil, rfl⟩ ?_
    intro trace s step t follows taken
    rw [observed, List.foldl_append]
    exact follows_act follows taken
  obtain ⟨_, _, done, waiting, reports, sent, waits⟩ := follows
  refine ⟨done, waiting, reports, ?_, sent⟩
  unfold Waits at waits
  split at waits
  · rw [waits]
    exact Nat.zero_le 1
  · obtain ⟨report, rfl, _⟩ := waits
    exact Nat.le_refl 1
  · exact Nat.le_of_eq waits

/-- Sixteen blocks come in between the first report and the second. -/
theorem reports_snapshot_two : ∃ (trace : List ReportStep) (s : Reporting), s.sent.length = 2 ∧
    ∃ done waiting, (observed trace).2 = done ++ waiting ∧ waiting.length ≤ 1 ∧
      List.Forall₂ (Carries 1) s.sent done := by
  let reports : List ReportStep := [.assemble ⟨⟨0, 0⟩, 0, 0, 0⟩, .send ⟨5000, ⟨10, 0, 0, 7⟩⟩]
  let trace : List ReportStep := reports ++
    (.receive (sixteenBlocks 1) 392 :: (List.replicate 16 .store ++ [.unlock])) ++ reports
  have outcome : (trace.foldlM act (start 1 fun _ => 0)).map (fun s => s.sent.length) = some 2 := by
    decide +kernel
  obtain ⟨s, done, length⟩ := Option.map_eq_some_iff.mp outcome
  exact ⟨trace, s, length, reports_snapshot 1 _ (.of_foldlM done)⟩

end Reporting
end RtpRtcpHandler
end TinyRtsp
