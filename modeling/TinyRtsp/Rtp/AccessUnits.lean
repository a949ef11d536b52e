import TinyRtsp.Media.AacTrack
import TinyRtsp.Rtp.Stream

/-! A receiver of the AAC-hbr payload format, whose AU headers have 13 bits of size
and 3 bits of index. An ADTS file read frame by frame and sent with `send_aac` comes
out as its raw data blocks. -/
namespace TinyRtsp
open RtpRtcpHandler AacMediaTrack

structure AccessUnit where
  size : BitVec 13
  index : BitVec 3
  data : List UInt8
  deriving DecidableEq

namespace AccessUnit

/-- `sizelength=13; indexlength=3` -/
def readHeaders : List UInt8 → Option (List (BitVec 13 × BitVec 3))
  | [] => some []
  | [_] => none
  | high :: low :: rest => do
    let auHeader := high.toBitVec ++ low.toBitVec
    return (auHeader.extractLsb' 3 13, auHeader.extractLsb' 0 3) :: (← readHeaders rest)

/-- The units behind their headers; nothing may be left over. -/
def readUnits : List (BitVec 13 × BitVec 3) → List UInt8 → Option (List AccessUnit)
  | [], data => if data = [] then some [] else none
  | (size, index) :: rest, data =>
    if data.length < size.toNat then none
    else do return ⟨size, index, data.take size.toNat⟩ :: (← readUnits rest (data.drop size.toNat))

/-- The access units of a packet. AU-headers-length counts bits. -/
def receive (packet : List UInt8) : Option (List AccessUnit) :=
  match RtpHeader.parse packet with
  | some (_, high :: low :: payload) =>
    let auHeadersLength := (hostShort high low).toNat
    if auHeadersLength % 16 ≠ 0 ∨ payload.length < auHeadersLength / 8 then none
    else do
      let auHeaders ← readHeaders (payload.take (auHeadersLength / 8))
      readUnits auHeaders (payload.drop (auHeadersLength / 8))
  | _ => none

theorem auHeader_bits {size : Nat} (small : size < 2 ^ 13) :
    let auHeader := (UInt8.ofNat ((size &&& 0x1FE0) >>> 5)).toBitVec ++
      (UInt8.ofNat ((size &&& 0x1F) <<< 3)).toBitVec
    auHeader.extractLsb' 3 13 = .ofNat 13 size ∧ auHeader.extractLsb' 0 3 = 0 := by
  have high : (UInt8.ofNat ((size &&& 0x1FE0) >>> 5)).toBitVec.toNat = size / 32 := by
    have masked : (size &&& 0x1FE0) >>> 5 = size >>> 5 % 2 ^ 8 := by
      rw [Nat.shiftRight_and_distrib]
      exact Nat.and_two_pow_sub_one_eq_mod (size >>> 5) 8
    rw [UInt8.toNat_toBitVec, UInt8.toNat_ofNat', masked, Nat.shiftRight_eq_div_pow]
    omega
  have low : (UInt8.ofNat ((size &&& 0x1F) <<< 3)).toBitVec.toNat = size % 32 * 8 := by
    have masked : size &&& 0x1F = size % 2 ^ 5 := Nat.and_two_pow_sub_one_eq_mod size 5
    rw [UInt8.toNat_toBitVec, UInt8.toNat_ofNat', masked, Nat.shiftLeft_eq]
    omega
  have joined : ((UInt8.ofNat ((size &&& 0x1FE0) >>> 5)).toBitVec ++
      (UInt8.ofNat ((size &&& 0x1F) <<< 3)).toBitVec).toNat = size * 8 := by
    rw [BitVec.toNat_append, high, low, ← Nat.shiftLeft_add_eq_or_of_lt (by omega), Nat.shiftLeft_eq]
    omega
  constructor
  · apply BitVec.eq_of_toNat_eq
    rw [BitVec.extractLsb'_toNat, joined, BitVec.toNat_ofNat, Nat.shiftRight_eq_div_pow]
    omega
  · apply BitVec.eq_of_toNat_eq
    rw [BitVec.extractLsb'_toNat, joined, Nat.shiftRight_zero]
    exact Nat.mul_mod_left size 8

theorem receive_aacPacket {link : Link} {address : Ipv4} {payload : List UInt8}
    (fits : payload.length ≤ 1018) :
    receive (link.aacPacket address payload).bytes = some [⟨.ofNat 13 payload.length, 0, payload⟩] := by
  obtain ⟨size, index⟩ := auHeader_bits (show payload.length < 2 ^ 13 by omega)
  have length : (BitVec.ofNat 13 payload.length).toNat = payload.length := by
    rw [BitVec.toNat_ofNat, Nat.mod_eq_of_lt (by omega)]
  have sixteen : (hostShort 0x00 0x10).toNat = 16 := rfl
  have whole : ¬ (16 % 16 ≠ 0 ∨ (UInt8.ofNat ((payload.length &&& 0x1FE0) >>> 5) ::
      UInt8.ofNat ((payload.length &&& 0x1F) <<< 3) :: payload).length < 16 / 8) := by
    simp only [List.length_cons]
    omega
  have units : readUnits [(BitVec.ofNat 13 payload.length, 0)] payload =
      some [⟨.ofNat 13 payload.length, 0, payload⟩] := by
    rw [readUnits, length, if_neg (Nat.lt_irrefl _), List.drop_length, List.take_length]
    rfl
  simp only [receive, Link.aacPacket, Handler.header, RtpHeader.parse_bytes, auHeaders, List.cons_append,
    List.nil_append, sixteen]
  rw [if_neg whole]
  show (readHeaders [UInt8.ofNat ((payload.length &&& 0x1FE0) >>> 5),
    UInt8.ofNat ((payload.length &&& 0x1F) <<< 3)] >>= fun headers => readUnits headers payload) = _
  simp only [readHeaders, size, index]
  exact units

end AccessUnit

/-- The frames of an ADTS file are read as their raw data blocks, and each block goes
out in one packet that a receiver reads back. -/
theorem adts_end_to_end (frames : List AdtsFrame) (more : Nat) (link : Link) (client : Ipv4)
    (accepted : link.handler.ip = client.inetNtoa) :
    calls (frames.length + more) (openTrack (frames.flatMap AdtsFrame.bytes)) =
        frames.map (fun frame => ((frame.rawData.length : Int), frame.rawData)) ++
          List.replicate more (-1, []) ∧
      runProducer (openTrack (frames.flatMap AdtsFrame.bytes)) = frames.map AdtsFrame.rawData ∧
      ∀ frame ∈ frames, ∃ packet unit after, (sendAac frame.rawData).run link = .ok () after ∧
        after.sent = link.sent ++ [packet] ∧ AccessUnit.receive packet.bytes = some [unit] ∧
        unit.size.toNat = frame.rawData.length ∧ unit.data = frame.rawData := by
  have here : (openTrack (frames.flatMap AdtsFrame.bytes)).aacFile.StandsBefore
      (frames.flatMap AdtsFrame.bytes) := .openFile _
  refine ⟨calls_frames frames more here, runProducer_frames frames here, fun frame _ => ?_⟩
  have known : Ipv4.inetPton link.handler.ip = some client := by rw [accepted, Ipv4.inetPton_inetNtoa]
  have fits := frame.short
  refine ⟨_, _, _, sendAac_run known fits, rfl, AccessUnit.receive_aacPacket fits, ?_, rfl⟩
  rw [BitVec.toNat_ofNat, Nat.mod_eq_of_lt (by omega)]

/-- Two frames whose other header fields differ. -/
theorem adts_end_to_end_two :
    ∃ frames : List AdtsFrame, frames.map AdtsFrame.rawData = [[0x21, 0x10, 0x05], [0x21]] ∧
      calls (2 + 1) (openTrack (frames.flatMap AdtsFrame.bytes)) =
        [(3, [0x21, 0x10, 0x05]), (1, [0x21]), (-1, [])] := by
  let frames : List AdtsFrame := [
    ⟨0, 1, 4, 0, 2, 0, 0, 0, 0, 0x7FF, 0, [0x21, 0x10, 0x05], by decide, by decide⟩,
    ⟨1, 0, 3, 1, 7, 1, 1, 1, 1, 0, 3, [0x21], by decide, by decide⟩]
  let link : Link := ⟨⟨"10.0.0.7".toList, 5000, ⟨0, ⟨0, 0, 0, 0⟩⟩, 1, 65535, 7200, 1025, 0⟩, []⟩
  exact ⟨frames, rfl, (adts_end_to_end frames 1 link ⟨10, 0, 0, 7⟩ (by decide)).1⟩

end TinyRtsp
