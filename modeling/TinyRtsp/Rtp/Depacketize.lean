import Mathlib.Data.FinEnum
import TinyRtsp.Rtp.RtpRtcpHandler

/-! A receiver of the H.264 payload format: single NAL unit packets are taken
as they are, and FU-A fragments with consecutive sequence numbers are put back
together. What `send_h264` emits for a NAL unit comes out as that unit. -/
namespace TinyRtsp
open RtpRtcpHandler

/-- A unit being put together has its next sequence number and its bytes so far. -/
structure Receiver where
  pending : Option (UInt16 × List UInt8)
  nals : List (List UInt8)

namespace Receiver

/-- The bytes a fragment continues: the rebuilt NAL header at a start, the
pending unit when the fragment is the next one. -/
def before (r : Receiver) (sequenceNumber : UInt16) (indicator fuHeader : UInt8) :
    Option (List UInt8) :=
  if fuHeader &&& 0x80 ≠ 0 then some [(indicator &&& 0xE0) ||| (fuHeader &&& 0x1F)]
  else match r.pending with
    | some (next, bytes) => if next = sequenceNumber then some bytes else none
    | none => none

def fragment (r : Receiver) (sequenceNumber : UInt16) (indicator fuHeader : UInt8)
    (data : List UInt8) : Receiver :=
  match r.before sequenceNumber indicator fuHeader with
  | none => { r with pending := none }
  | some bytes =>
    if fuHeader &&& 0x40 ≠ 0 then ⟨none, r.nals ++ [bytes ++ data]⟩
    else ⟨some (sequenceNumber + 1, bytes ++ data), r.nals⟩

def receive (r : Receiver) (packet : List UInt8) : Receiver :=
  match RtpHeader.parse packet with
  | some (header, indicator :: rest) =>
    if 1 ≤ indicator &&& 0x1F ∧ indicator &&& 0x1F ≤ 23 then
      ⟨none, r.nals ++ [indicator :: rest]⟩
    else if indicator &&& 0x1F = 28 then
      match rest with
      | [] => r
      | fuHeader :: data => r.fragment header.sequenceNumber indicator fuHeader data
    else r
  | _ => r

end Receiver

def depacketize (packets : List (List UInt8)) : List (List UInt8) :=
  (packets.foldl Receiver.receive ⟨none, []⟩).nals

/-- A fragmented unit on the wire: S on exactly the first packet, E and the RTP
marker on exactly the last, and never both flags in one. -/
def Fragmented (packets : List (List UInt8)) : Prop :=
  2 ≤ packets.length ∧ ∀ i packet, packets[i]? = some packet → ∃ header indicator fuHeader data,
    RtpHeader.parse packet = some (header, indicator :: fuHeader :: data) ∧
      indicator &&& 0x1F = 28 ∧ data ≠ [] ∧
      (fuHeader &&& 0x80 ≠ 0 ↔ i = 0) ∧
      (fuHeader &&& 0x40 ≠ 0 ↔ i + 1 = packets.length) ∧
      (header.marker = 1 ↔ i + 1 = packets.length) ∧
      ¬ (fuHeader &&& 0x80 ≠ 0 ∧ fuHeader &&& 0x40 ≠ 0)

/-- A unit on the wire as it is, in one packet. -/
def Single (nal : List UInt8) (packets : List (List UInt8)) : Prop :=
  ∃ packet header, packets = [packet] ∧ RtpHeader.parse packet = some (header, nal) ∧
    header.marker = 1

def IsFragment (packet : List UInt8) : Prop :=
  ∃ header indicator rest, RtpHeader.parse packet = some (header, indicator :: rest) ∧
    indicator &&& 0x1F = 28

section Wire

/-- The packets of a frame with their headers, sequence numbers counting up. -/
def wire (sequenceNumber : Nat) (timestamp ssrc : UInt32) :
    List (Bool × List UInt8) → List (List UInt8)
  | [] => []
  | (marker, body) :: rest =>
    ((RtpHeader.mediaHeader .h264 marker (.ofNat sequenceNumber) timestamp ssrc).bytes ++ body) ::
      wire (sequenceNumber + 1) timestamp ssrc rest

variable {link : Link} {address : Ipv4} {sequenceNumber : Nat} {timestamp ssrc : UInt32}
  {packets : List (Bool × List UInt8)} {pieces : List (List UInt8)} {nalHeader : UInt8}

theorem deliver_sent (packets : List (Bool × List UInt8)) (link : Link) :
    (packets.foldl (Link.deliver address) link).sent.map Datagram.bytes =
      link.sent.map Datagram.bytes ++
        wire link.handler.rtpSequenceNumber link.handler.timestamp link.handler.ssrc packets := by
  induction packets generalizing link with
  | nil => simp [wire]
  | cons packet rest ih =>
    rw [List.foldl_cons, ih]
    simp [Link.deliver, wire, Handler.header]

@[simp] theorem wire_length (sequenceNumber : Nat) :
    (wire sequenceNumber timestamp ssrc packets).length = packets.length := by
  induction packets generalizing sequenceNumber with
  | nil => rfl
  | cons packet rest ih => simp [wire, ih]

theorem wire_getElem? (sequenceNumber i : Nat) :
    (wire sequenceNumber timestamp ssrc packets)[i]? = packets[i]?.map fun packet =>
      (RtpHeader.mediaHeader .h264 packet.1 (.ofNat (sequenceNumber + i)) timestamp ssrc).bytes ++
        packet.2 := by
  induction packets generalizing sequenceNumber i with
  | nil => rfl
  | cons packet rest ih =>
    cases i with
    | zero => rfl
    | succ i => simp only [wire, List.getElem?_cons_succ, ih, Nat.add_assoc, Nat.add_comm 1 i]

@[simp] theorem fuPackets_length (first : Bool) :
    (fuPackets nalHeader first pieces).length = pieces.length := by
  induction pieces generalizing first with
  | nil => rfl
  | cons piece rest ih => simp [fuPackets, ih]

theorem fuPackets_getElem? (first : Bool) (i : Nat) :
    (fuPackets nalHeader first pieces)[i]? = pieces[i]?.map fun piece =>
      (i + 1 == pieces.length, [fuIndicator nalHeader,
        fuHeader (first && i == 0) (i + 1 == pieces.length) nalHeader] ++ piece) := by
  induction pieces generalizing first i with
  | nil => rfl
  | cons piece rest ih =>
    cases i with
    | zero =>
      have last : rest.isEmpty = (0 + 1 == (piece :: rest).length) := by
        cases rest <;> simp
      simp [fuPackets, last]
    | succ i => simp [fuPackets, ih]

theorem receive_single (typed : 1 ≤ nalHeader &&& 0x1F ∧ nalHeader &&& 0x1F ≤ 23)
    (r : Receiver) (marker : Bool) (data : List UInt8) (s : UInt16) :
    r.receive ((RtpHeader.mediaHeader .h264 marker s timestamp ssrc).bytes ++ nalHeader :: data) =
      ⟨none, r.nals ++ [nalHeader :: data]⟩ := by
  simp only [Receiver.receive, RtpHeader.parse_bytes, if_pos typed]

theorem fuIndicator_kind : ∀ nalHeader : UInt8, fuIndicator nalHeader &&& 0x1F = 28 := by
  decide +kernel

theorem fuHeader_flags : ∀ nalHeader : UInt8, ∀ first last : Bool,
    (fuHeader first last nalHeader &&& 0x80 ≠ 0 ↔ first = true) ∧
      (fuHeader first last nalHeader &&& 0x40 ≠ 0 ↔ last = true) := by
  decide +kernel

theorem fu_nalHeader : ∀ nalHeader : UInt8, nalHeader &&& 0x80 = 0 → ∀ first last : Bool,
    (fuIndicator nalHeader &&& 0xE0) ||| (fuHeader first last nalHeader &&& 0x1F) = nalHeader := by
  decide +kernel

theorem receive_fragment (forbidden : nalHeader &&& 0x80 = 0) (r : Receiver) (first last : Bool)
    (marker : Bool) (piece soFar : List UInt8) (s : UInt16)
    (continues : first = true ∧ soFar = [nalHeader] ∨ first = false ∧ r.pending = some (s, soFar)) :
    r.receive ((RtpHeader.mediaHeader .h264 marker s timestamp ssrc).bytes ++
        ([fuIndicator nalHeader, fuHeader first last nalHeader] ++ piece)) =
      if last then ⟨none, r.nals ++ [soFar ++ piece]⟩
      else ⟨some (s + 1, soFar ++ piece), r.nals⟩ := by
  obtain ⟨starts, ends⟩ := fuHeader_flags nalHeader first last
  have before : r.before s (fuIndicator nalHeader) (fuHeader first last nalHeader) = some soFar := by
    rcases continues with ⟨rfl, rfl⟩ | ⟨rfl, pending⟩
    · rw [Receiver.before, if_pos (starts.mpr rfl), fu_nalHeader nalHeader forbidden]
    · rw [Receiver.before, if_neg (by simp [starts]), pending]
      simp
  simp only [List.cons_append, List.nil_append, Receiver.receive, RtpHeader.parse_bytes,
    fuIndicator_kind, Receiver.fragment, RtpHeader.mediaHeader_sequenceNumber, before]
  rw [if_neg (by decide), if_pos trivial]
  cases last <;> simp [ends]

/-- The fragments of a unit, received in order, give the unit back: what is
pending after each of them is the unit up to there. -/
theorem receive_fuPackets (forbidden : nalHeader &&& 0x80 = 0) (pieces : List (List UInt8))
    (nonempty : pieces ≠ []) (r : Receiver) (first : Bool) (soFar : List UInt8)
    (sequenceNumber : Nat)
    (continues : first = true ∧ soFar = [nalHeader] ∨
      first = false ∧ r.pending = some (.ofNat sequenceNumber, soFar)) :
    ((wire sequenceNumber timestamp ssrc (fuPackets nalHeader first pieces)).foldl
      Receiver.receive r) = ⟨none, r.nals ++ [soFar ++ pieces.flatten]⟩ := by
  induction pieces generalizing r first soFar sequenceNumber with
  | nil => contradiction
  | cons piece rest ih =>
    simp only [fuPackets, wire, List.foldl_cons, receive_fragment forbidden r first _ _ piece soFar _
      continues]
    cases rest with
    | nil => simp [fuPackets, wire]
    | cons next others =>
      rw [ih (by simp) _ false (soFar ++ piece) (sequenceNumber + 1) (.inr ⟨rfl, ?_⟩)]
      · simp
      · simp

end Wire

section Frames
variable {nalHeader : UInt8} {data : List UInt8} {timestamp ssrc : UInt32}

theorem pieces_nonempty (long : maxPayloadSize < data.length + 1) :
    2 ≤ (chunks (maxPayloadSize - 2) data).length := by
  apply two_le_chunks_length (by decide)
  have : maxPayloadSize = maxPayloadSize - 2 + 2 := by decide
  omega

theorem wire_nalPackets_length (sequenceNumber : Nat) :
    ∀ packet ∈ wire sequenceNumber timestamp ssrc (nalPackets nalHeader data),
      packet.length ≤ maxRtpPacketSize := by
  intro packet member
  obtain ⟨i, here⟩ := List.getElem?_of_mem member
  rw [wire_getElem?] at here
  obtain ⟨⟨marker, body⟩, sent, rfl⟩ := Option.map_eq_some_iff.mp here
  have limit : RtpHeader.size + maxPayloadSize = maxRtpPacketSize := by decide
  suffices body.length ≤ maxPayloadSize by
    simp only [List.length_append, RtpHeader.bytes_length]
    omega
  unfold nalPackets at sent
  split at sent
  · rw [fuPackets_getElem?] at sent
    obtain ⟨piece, cut, packed⟩ := Option.map_eq_some_iff.mp sent
    obtain ⟨rfl, rfl⟩ := Prod.mk.inj packed
    obtain ⟨_, small⟩ := mem_chunks (List.mem_of_getElem? cut)
    have : 2 + (maxPayloadSize - 2) = maxPayloadSize := by decide
    simp only [List.length_append, List.length_cons, List.length_nil]
    omega
  · have := List.mem_of_getElem? sent
    obtain ⟨rfl, rfl⟩ : marker = true ∧ body = nalHeader :: data := by simpa using this
    simp only [List.length_cons]
    omega

theorem depacketize_wire (forbidden : nalHeader &&& 0x80 = 0)
    (typed : 1 ≤ nalHeader &&& 0x1F ∧ nalHeader &&& 0x1F ≤ 23) (sequenceNumber : Nat) :
    depacketize (wire sequenceNumber timestamp ssrc (nalPackets nalHeader data)) =
      [nalHeader :: data] := by
  rw [depacketize]
  unfold nalPackets
  split
  · have pieces := pieces_nonempty ‹_›
    rw [receive_fuPackets forbidden _ (List.ne_nil_of_length_pos (by omega)) _ true [nalHeader] _
      (.inl ⟨rfl, rfl⟩), chunks_flatten (by decide)]
    rfl
  · simp only [wire, List.foldl_cons, List.foldl_nil, receive_single typed]
    rfl

theorem fragmented_wire (long : maxPayloadSize < data.length + 1) (sequenceNumber : Nat) :
    Fragmented (wire sequenceNumber timestamp ssrc (nalPackets nalHeader data)) := by
  have two := pieces_nonempty long
  have packets : nalPackets nalHeader data =
      fuPackets nalHeader true (chunks (maxPayloadSize - 2) data) := if_pos long
  refine ⟨by simpa [packets] using two, ?_⟩
  intro i packet here
  rw [wire_getElem?, packets, fuPackets_getElem?, Option.map_map] at here
  obtain ⟨piece, cut, rfl⟩ := Option.map_eq_some_iff.mp here
  obtain ⟨starts, ends⟩ := fuHeader_flags nalHeader (true && i == 0)
    (i + 1 == (chunks (maxPayloadSize - 2) data).length)
  refine ⟨_, _, _, piece, RtpHeader.parse_bytes .., fuIndicator_kind nalHeader,
    (mem_chunks (List.mem_of_getElem? cut)).1, ?_, ?_, ?_, ?_⟩
  · simpa using starts
  · simpa [packets] using ends
  · exact (RtpHeader.mediaHeader_marker ..).trans (by simp [packets])
  · rintro ⟨first, last⟩
    have first := starts.mp first
    have last := ends.mp last
    simp only [Bool.true_and, beq_iff_eq] at first last
    omega

theorem single_wire (short : data.length + 1 ≤ maxPayloadSize) (sequenceNumber : Nat) :
    Single (nalHeader :: data) (wire sequenceNumber timestamp ssrc (nalPackets nalHeader data)) := by
  have packets : nalPackets nalHeader data = [(true, nalHeader :: data)] :=
    if_neg (Nat.not_lt.mpr short)
  rw [packets]
  exact ⟨_, _, rfl, RtpHeader.parse_bytes .., (RtpHeader.mediaHeader_marker ..).mpr rfl⟩

theorem Single.not_isFragment {packets : List (List UInt8)} (single : Single (nalHeader :: data) packets)
    (typed : nalHeader &&& 0x1F ≤ 23) : ∀ packet ∈ packets, ¬ IsFragment packet := by
  obtain ⟨packet, header, rfl, read, _⟩ := single
  rintro other member ⟨_, indicator, rest, parsed, kind⟩
  obtain rfl := List.mem_singleton.mp member
  obtain ⟨_, here⟩ := Prod.mk.inj (Option.some.inj (read.symm.trans parsed))
  obtain ⟨rfl, _⟩ := List.cons.inj here
  rw [kind] at typed
  exact absurd typed (by decide)

end Frames

/-- From one handler state a unit goes out in the same packets behind either
start code, a receiver gets the unit back from them, and none is too large. A unit
that fits is one packet, a longer one is fragmented, and so is the unit of every
FU-A packet. -/
theorem sendH264_roundtrip (h : Handler) (client : Ipv4) (accepted : h.ip = client.inetNtoa)
    (nalHeader : UInt8) (data : List UInt8) (forbidden : nalHeader &&& 0x80 = 0)
    (typed : 1 ≤ nalHeader &&& 0x1F ∧ nalHeader &&& 0x1F ≤ 23) :
    ∃ after : Link,
      (sendH264 ([0, 0, 1] ++ nalHeader :: data)).run ⟨h, []⟩ = .ok () after ∧
      (sendH264 ([0, 0, 0, 1] ++ nalHeader :: data)).run ⟨h, []⟩ = .ok () after ∧
      depacketize (after.sent.map Datagram.bytes) = [nalHeader :: data] ∧
      (∀ datagram ∈ after.sent, datagram.bytes.length ≤ maxRtpPacketSize) ∧
      (maxPayloadSize < (nalHeader :: data).length →
        Fragmented (after.sent.map Datagram.bytes)) ∧
      ((nalHeader :: data).length ≤ maxPayloadSize →
        Single (nalHeader :: data) (after.sent.map Datagram.bytes)) ∧
      ((∃ datagram ∈ after.sent, IsFragment datagram.bytes) →
        Fragmented (after.sent.map Datagram.bytes)) := by
  have address : Ipv4.inetPton h.ip = some client := by rw [accepted, Ipv4.inetPton_inetNtoa]
  have sent : (((nalPackets nalHeader data).foldl (Link.deliver client) ⟨h, []⟩).sent.map
      Datagram.bytes) = _ := deliver_sent _ _
  refine ⟨_, sendH264_run (.inl rfl) address, sendH264_run (.inr rfl) address, ?_, ?_, ?_, ?_, ?_⟩
  · rw [sent]
    exact depacketize_wire forbidden typed _
  · intro datagram member
    have member := List.mem_map_of_mem (f := Datagram.bytes) member
    rw [sent] at member
    exact wire_nalPackets_length _ _ member
  · intro long
    rw [sent]
    exact fragmented_wire long _
  · intro short
    rw [sent]
    exact single_wire short _
  · rintro ⟨datagram, member, fragment⟩
    rcases Nat.lt_or_ge maxPayloadSize (nalHeader :: data).length with long | short
    · rw [sent]
      exact fragmented_wire long _
    · have member := List.mem_map_of_mem (f := Datagram.bytes) member
      rw [sent] at member
      exact absurd fragment ((single_wire short _).not_isFragment typed.2 _ member)

/-- A picture of 2001 bytes goes out in two fragments at least. -/
theorem sendH264_roundtrip_picture :
    ∃ after : Link,
      (sendH264 ([0, 0, 1] ++ 0x65 :: List.replicate 2000 0x88)).run
        ⟨⟨"10.0.0.7".toList, 5000, ⟨0, ⟨0, 0, 0, 0⟩⟩, 1, 65535, 7200, 3600, 0⟩, []⟩ = .ok () after ∧
      (sendH264 ([0, 0, 0, 1] ++ 0x65 :: List.replicate 2000 0x88)).run
        ⟨⟨"10.0.0.7".toList, 5000, ⟨0, ⟨0, 0, 0, 0⟩⟩, 1, 65535, 7200, 3600, 0⟩, []⟩ = .ok () after ∧
      depacketize (after.sent.map Datagram.bytes) = [0x65 :: List.replicate 2000 0x88] ∧
      (∀ datagram ∈ after.sent, datagram.bytes.length ≤ maxRtpPacketSize) ∧
      Fragmented (after.sent.map Datagram.bytes) := by
  obtain ⟨after, short, long, back, small, fragmented, _⟩ :=
    sendH264_roundtrip ⟨"10.0.0.7".toList, 5000, ⟨0, ⟨0, 0, 0, 0⟩⟩, 1, 65535, 7200, 3600, 0⟩
      ⟨10, 0, 0, 7⟩ (by decide) 0x65 (List.replicate 2000 0x88) (by decide) (by decide)
  refine ⟨after, short, long, back, small, fragmented ?_⟩
  rw [List.length_cons, List.length_replicate]
  decide

end TinyRtsp
