import TinyRtsp.Foundation.Reassembly
import TinyRtsp.Media.H264Track
import TinyRtsp.Rtp.Stream

/-! What a receiver gets when packets of an H.264 stream are lost on the way. A unit
goes out as the fragments of a message, single or FU-A, under sequence numbers that
count on from unit to unit, so a lost packet costs the unit it belongs to and no other. -/
namespace TinyRtsp
open RtpRtcpHandler Reassembly
open H264MediaTrack (NalUnit)

/-- A unit that the payload format carries as it is: the forbidden bit is 0 and the
type is one of the single units'. -/
def H264MediaTrack.NalUnit.Carried (unit : NalUnit) : Prop :=
  ∃ nalHeader data, unit.nal = nalHeader :: data ∧ nalHeader &&& 0x80 = 0 ∧
    1 ≤ nalHeader &&& 0x1F ∧ nalHeader &&& 0x1F ≤ 23

/-- The frame as `run_producer` enqueues it. -/
def H264MediaTrack.NalUnit.call (unit : NalUnit) : Call := ⟨unit.bytes, .h264⟩

def Receiver.assembler (r : Receiver) : Assembler UInt16 UInt8 := ⟨r.pending, r.nals⟩

namespace Losses

def following (sequenceNumber : UInt16) : UInt16 := sequenceNumber + 1

theorem numbering : Numbering (UInt16.ofNat) following (2 ^ 16) where
  next k := by simp [following]
  apart k lost positive few same := by
    have same := congrArg UInt16.toNat same
    simp only [UInt16.toNat_ofNat'] at same
    omega

def pieces (nalHeader : UInt8) (data : List UInt8) : List (List UInt8) :=
  if maxPayloadSize < data.length + 1 then
    match chunks (maxPayloadSize - 2) data with
    | [] => []
    | piece :: rest => (nalHeader :: piece) :: rest
  else [nalHeader :: data]

theorem pieces_flatten (nalHeader : UInt8) (data : List UInt8) :
    (pieces nalHeader data).flatten = nalHeader :: data ∧ pieces nalHeader data ≠ [] := by
  unfold pieces
  split
  · have several := pieces_nonempty ‹_›
    have whole : (chunks (maxPayloadSize - 2) data).flatten = data := chunks_flatten (by decide)
    split
    · rename_i none
      rw [none] at several
      contradiction
    · rename_i piece rest cut
      rw [cut] at whole
      refine ⟨?_, List.cons_ne_nil _ _⟩
      rw [← whole]
      rfl
  · exact ⟨by simp, List.cons_ne_nil _ _⟩

/-- A packet does to a receiver what a fragment does, under any number. -/
def Carries (packet : Bool × List UInt8) (fragment : Fragment UInt8) : Prop :=
  ∀ (r : Receiver) (s : UInt16) (timestamp ssrc : UInt32),
    (r.receive ((RtpHeader.mediaHeader .h264 packet.1 s timestamp ssrc).bytes ++ packet.2)).assembler =
      r.assembler.receive following s fragment

/-- The same for the bytes of a packet and a numbered fragment. -/
def Delivers (packet : List UInt8) (arrival : UInt16 × Fragment UInt8) : Prop :=
  ∀ r : Receiver, (r.receive packet).assembler = r.assembler.receive following arrival.1 arrival.2

section Packets
variable {nalHeader : UInt8} {data : List UInt8}

theorem carries_fragment (forbidden : nalHeader &&& 0x80 = 0) (first last marker : Bool) (piece : List UInt8) :
    Carries (marker, [fuIndicator nalHeader, fuHeader first last nalHeader] ++ piece)
      ⟨first, last, if first then nalHeader :: piece else piece⟩ := by
  intro r s timestamp ssrc
  obtain ⟨starts, ends⟩ := fuHeader_flags nalHeader first last
  have received : r.receive ((RtpHeader.mediaHeader .h264 marker s timestamp ssrc).bytes ++
      ([fuIndicator nalHeader, fuHeader first last nalHeader] ++ piece)) =
        r.fragment s (fuIndicator nalHeader) (fuHeader first last nalHeader) piece := by
    simp only [List.cons_append, List.nil_append, Receiver.receive, RtpHeader.parse_bytes,
      fuIndicator_kind, RtpHeader.mediaHeader_sequenceNumber]
    rw [if_neg (by decide), if_pos trivial]
  rw [received, Receiver.fragment, Assembler.receive, Receiver.before, Assembler.before,
    fu_nalHeader nalHeader forbidden]
  cases first with
  | true =>
    rw [if_pos (starts.mpr rfl), if_pos rfl]
    cases last with
    | true => simp [ends, Receiver.assembler]
    | false => simp [ends, Receiver.assembler, following]
  | false =>
    rw [if_neg (fun set => Bool.false_ne_true (starts.mp set)), if_neg Bool.false_ne_true]
    obtain ⟨pending, nals⟩ := r
    dsimp only [Receiver.assembler]
    rcases pending with _ | ⟨next, bytes⟩
    · rfl
    · by_cases same : next = s
      · cases last with
        | true => simp [ends, same]
        | false => simp [ends, same, following]
      · simp [same]

theorem carries_fuPackets (forbidden : nalHeader &&& 0x80 = 0) (rest : List (List UInt8)) :
    List.Forall₂ Carries (fuPackets nalHeader false rest) (cut false rest) := by
  induction rest with
  | nil => exact .nil
  | cons piece rest ih => exact .cons (carries_fragment forbidden false _ _ piece) ih

theorem carries_nalPackets (forbidden : nalHeader &&& 0x80 = 0)
    (typed : 1 ≤ nalHeader &&& 0x1F ∧ nalHeader &&& 0x1F ≤ 23) :
    List.Forall₂ Carries (nalPackets nalHeader data) (cut true (pieces nalHeader data)) := by
  unfold nalPackets pieces
  split
  · have several := pieces_nonempty ‹_›
    split
    · rename_i none
      rw [none] at several
      contradiction
    · rename_i piece rest chunked
      rw [chunked]
      exact .cons (carries_fragment forbidden true _ _ piece) (carries_fuPackets forbidden rest)
  · refine .cons (fun r s timestamp ssrc => ?_) .nil
    rw [receive_single typed]
    simp [Receiver.assembler, Assembler.receive, Assembler.before]

theorem delivers_wire {packets : List (Bool × List UInt8)} {fragments : List (Fragment UInt8)}
    (carries : List.Forall₂ Carries packets fragments) (sequenceNumber : Nat) (timestamp ssrc : UInt32) :
    List.Forall₂ Delivers (wire sequenceNumber timestamp ssrc packets)
      (numbered UInt16.ofNat sequenceNumber fragments) := by
  induction carries generalizing sequenceNumber with
  | nil => exact .nil
  | cons carried _ ih => exact .cons (fun r => carried r _ timestamp ssrc) (ih (sequenceNumber + 1))

theorem receive_assembles {packets : List (List UInt8)} {arrivals : List (UInt16 × Fragment UInt8)}
    (delivers : List.Forall₂ Delivers packets arrivals) (r : Receiver) :
    (packets.foldl Receiver.receive r).assembler = assemble following r.assembler arrivals := by
  induction delivers generalizing r with
  | nil => rfl
  | cons delivered _ ih => rw [List.foldl_cons, ih, delivered]; rfl

end Packets

section Sends
variable {stream : Stream} {address : Ipv4} {unit : NalUnit} {units : List NalUnit}

def unitPieces (unit : NalUnit) : List (List UInt8) :=
  match unit.nal with
  | [] => []
  | nalHeader :: data => pieces nalHeader data

theorem sendH264_unit {link : Link} (carried : unit.Carried)
    (client : Ipv4.inetPton link.handler.ip = some address) :
    ∃ group after, (sendH264 unit.bytes).run link = .ok () after ∧
      after.sent = link.sent ++ group ∧ after.handler.ip = link.handler.ip ∧
      after.handler.rtpSequenceNumber = link.handler.rtpSequenceNumber + group.length ∧
      group.length = (unitPieces unit).length ∧
      List.Forall₂ Delivers (group.map Datagram.bytes)
        (numbered UInt16.ofNat link.handler.rtpSequenceNumber (cut true (unitPieces unit))) := by
  obtain ⟨nalHeader, data, nal, forbidden, typed⟩ := carried
  obtain ⟨code, annexB, bytes⟩ : ∃ code, (code = [0, 0, 1] ∨ code = [0, 0, 0, 1]) ∧
      unit.bytes = code ++ nalHeader :: data := by
    unfold NalUnit.bytes
    rw [nal]
    split
    · exact ⟨_, .inr rfl, rfl⟩
    · exact ⟨_, .inl rfl, rfl⟩
  obtain ⟨clientAddress, handler⟩ := @deliver_handler address (nalPackets nalHeader data) link
  obtain ⟨group, sent, wired⟩ := @deliver_appends address (nalPackets nalHeader data) link
  have delivers := delivers_wire (@carries_nalPackets nalHeader data forbidden typed)
    link.handler.rtpSequenceNumber link.handler.timestamp link.handler.ssrc
  have fragments : unitPieces unit = pieces nalHeader data := by rw [unitPieces, nal]
  have length : group.length = (nalPackets nalHeader data).length := by
    rw [← List.length_map, wired, wire_length]
  rw [bytes, fragments]
  refine ⟨group, _, sendH264_run annexB client, sent, ?_, ?_, ?_, ?_⟩
  · dsimp only
    split <;> simp [Handler.advance, Handler.count, handler]
  · dsimp only
    split <;> simp [Handler.advance, Handler.count, handler, length]
  · have same := delivers.length_eq
    rwa [numbered_length, cut_length, wire_length, ← length] at same
  · rwa [wired]

/-- The packets of a stream of units deliver their fragments under consecutive numbers. -/
theorem sendAll_units (carried : ∀ unit ∈ units, unit.Carried)
    (client : Ipv4.inetPton stream.handler.ip = some address) :
    ∃ groups after, (sendAll (units.map NalUnit.call)).run stream = .ok groups after ∧
      after.sent = stream.sent ++ groups.flatten ∧
      List.Forall₂ (fun unit group => group.length = (unitPieces unit).length) units groups ∧
      List.Forall₂ Delivers (groups.flatten.map Datagram.bytes)
        (numbered UInt16.ofNat stream.handler.rtpSequenceNumber
          ((units.map unitPieces).flatMap (cut true))) := by
  induction units generalizing stream with
  | nil => exact ⟨[], stream, rfl, by simp, .nil, .nil⟩
  | cons unit rest ih =>
    obtain ⟨here, carried⟩ := List.forall_mem_cons.mp carried
    obtain ⟨group, link, sends, sent, ip, counts, length, delivers⟩ := sendH264_unit here client
    let middle : Stream := ⟨link, stream.totalPayloadSize + .ofNat unit.bytes.length⟩
    have first : (sendRtpPacket unit.bytes .h264).run stream = .ok () middle := by
      simp only [sendRtpPacket, EStateM.run_bind, onLink_ok sends]
      rfl
    obtain ⟨groups, after, later, appended, lengths, others⟩ := @ih middle carried (ip ▸ client)
    refine ⟨group :: groups, after, ?_, ?_, .cons length lengths, ?_⟩
    · have new : middle.sent.drop stream.sent.length = group := by rw [sent, List.drop_left]
      rw [List.map_cons, sendAll]
      simp only [NalUnit.call, EStateM.run_bind, EStateM.run_get, first, new]
      rw [later]
      rfl
    · rw [appended, sent, List.flatten_cons, List.append_assoc]
    · rw [List.flatten_cons, List.map_append, List.map_cons, List.flatMap_cons, numbered_append, cut_length,
        ← length, ← counts]
      exact List.rel_append delivers others

theorem kept_fragments {groups : List (List Datagram)} {kept : List (List Bool)}
    (lengths : List.Forall₂ (fun unit group => group.length = (unitPieces unit).length) units groups)
    (same : List.Forall₂ (fun group parts => parts.length = group.length) groups kept) :
    List.Forall₂ (fun pieces parts => parts.length = pieces.length) (units.map unitPieces) kept := by
  induction lengths generalizing kept with
  | nil =>
    cases same
    exact .nil
  | cons length _ ih =>
    cases same with
    | cons here others => exact .cons (here.trans length) (ih others)

theorem depacketize_survivors {groups : List (List Datagram)} {sequenceNumber : Nat} {kept : List (List Bool)}
    (carried : ∀ unit ∈ units, unit.Carried)
    (lengths : List.Forall₂ (fun unit group => group.length = (unitPieces unit).length) units groups)
    (delivers : List.Forall₂ Delivers (groups.flatten.map Datagram.bytes)
      (numbered UInt16.ofNat sequenceNumber ((units.map unitPieces).flatMap (cut true))))
    (same : List.Forall₂ (fun group parts => parts.length = group.length) groups kept)
    (bounded : Bounded (2 ^ 16) 0 kept.flatten) :
    depacketize ((survivors groups.flatten kept.flatten).map Datagram.bytes) =
      (intact units kept).map NalUnit.nal := by
  have nals : ∀ unit ∈ units, (unitPieces unit).flatten = unit.nal ∧ unitPieces unit ≠ [] := by
    intro unit member
    obtain ⟨nalHeader, data, nal, _⟩ := carried unit member
    rw [unitPieces, nal]
    exact pieces_flatten nalHeader data
  have received := receive_assembles (survivors_related delivers kept.flatten) ⟨none, []⟩
  have assembled := assemble_survivors (a := (⟨none, []⟩ : Receiver).assembler) numbering (by decide)
    (units.map unitPieces) (List.forall_mem_map.mpr fun unit member => (nals unit member).2) kept
    (kept_fragments lengths same) (.idle sequenceNumber 0 []) bounded
  rw [← received, intact_map, List.map_map] at assembled
  rw [depacketize, ← survivors_map]
  refine assembled.trans ?_
  exact List.map_congr_left fun unit member => (nals unit (mem_of_mem_intact member)).1

theorem depacketize_units {groups : List (List Datagram)} {sequenceNumber : Nat}
    (carried : ∀ unit ∈ units, unit.Carried)
    (lengths : List.Forall₂ (fun unit group => group.length = (unitPieces unit).length) units groups)
    (delivers : List.Forall₂ Delivers (groups.flatten.map Datagram.bytes)
      (numbered UInt16.ofNat sequenceNumber ((units.map unitPieces).flatMap (cut true)))) :
    depacketize (groups.flatten.map Datagram.bytes) = units.map NalUnit.nal := by
  have whole := @depacketize_survivors units groups sequenceNumber
    (groups.map fun group => List.replicate group.length true) carried lengths delivers
    (List.forall₂_map_right_iff.mpr (List.forall₂_same.mpr fun group _ => List.length_replicate))
    (by rw [flatten_replicate]; exact bounded_replicate _ _)
  rwa [flatten_replicate, survivors_replicate, intact_replicate units lengths.length_eq] at whole

end Sends
end Losses
open Losses

/-- Whatever packets of a stream are lost, as long as no 2^16 in a row are, a receiver
gets in order exactly the units of which every packet has arrived. -/
theorem losses_contained (units : List NalUnit) (carried : ∀ unit ∈ units, unit.Carried) (stream : Stream)
    (client : Ipv4) (accepted : stream.handler.ip = client.inetNtoa) :
    ∃ groups after, (sendAll (units.map NalUnit.call)).run stream = .ok groups after ∧
      after.sent = stream.sent ++ groups.flatten ∧
      ∀ kept : List (List Bool), List.Forall₂ (fun group parts => parts.length = group.length) groups kept →
        Bounded (2 ^ 16) 0 kept.flatten →
        depacketize ((survivors groups.flatten kept.flatten).map Datagram.bytes) =
          (intact units kept).map NalUnit.nal := by
  have address : Ipv4.inetPton stream.handler.ip = some client := by rw [accepted, Ipv4.inetPton_inetNtoa]
  obtain ⟨groups, after, ran, sent, lengths, delivers⟩ := sendAll_units carried address
  exact ⟨groups, after, ran, sent, fun kept same bounded =>
    depacketize_survivors carried lengths delivers same bounded⟩

/-- A parameter set and a picture, of which the first may be lost. -/
theorem losses_contained_two :
    ∃ groups after, (sendAll ([⟨true, [0x67, 0x42]⟩, ⟨false, [0x65, 0x88]⟩].map NalUnit.call)).run
        ⟨⟨.new "10.0.0.7".toList 5000 3600 1 ⟨0, ⟨0, 0, 0, 0⟩⟩, []⟩, 0⟩ = .ok groups after ∧
      after.sent = [] ++ groups.flatten ∧
      ∀ kept : List (List Bool), List.Forall₂ (fun group parts => parts.length = group.length) groups kept →
        Bounded (2 ^ 16) 0 kept.flatten →
        depacketize ((survivors groups.flatten kept.flatten).map Datagram.bytes) =
          (intact [⟨true, [0x67, 0x42]⟩, ⟨false, [0x65, 0x88]⟩] kept).map NalUnit.nal := by
  refine losses_contained _ ?_ _ ⟨10, 0, 0, 7⟩ (by decide)
  rw [List.forall_mem_cons, List.forall_mem_singleton]
  exact ⟨⟨0x67, [0x42], rfl, by decide⟩, ⟨0x65, [0x88], rfl, by decide⟩⟩

end TinyRtsp
