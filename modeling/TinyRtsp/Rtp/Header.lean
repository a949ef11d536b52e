import Mathlib.Data.List.Basic

/-! The fixed RTP header as it lies in a packet. `RTPHeader` packs its first
two bytes from bit fields, lowest bits first, and the numbers behind them go
through `htons` and `htonl`. -/
namespace TinyRtsp

def maxRtpPacketSize : Nat := 1024

inductive MediaType where
  | h264
  | aac
  deriving DecidableEq, Repr

def MediaType.value : MediaType → BitVec 8
  | .h264 => 96
  | .aac => 97

structure RtpHeader where
  csrcCount : BitVec 4
  padding : BitVec 1
  extension : BitVec 1
  version : BitVec 2
  payloadType : BitVec 7
  marker : BitVec 1
  sequenceNumber : UInt16
  timestamp : UInt32
  ssrc : UInt32
  deriving DecidableEq

/-- `htons` into memory. -/
def networkShort (value : UInt16) : List UInt8 := [(value >>> 8).toUInt8, value.toUInt8]

/-- `htonl` into memory. -/
def networkLong (value : UInt32) : List UInt8 :=
  [(value >>> 24).toUInt8, (value >>> 16).toUInt8, (value >>> 8).toUInt8, value.toUInt8]

namespace RtpHeader

def size : Nat := 12

def bytes (header : RtpHeader) : List UInt8 :=
  [.ofBitVec (header.version ++ header.extension ++ header.padding ++ header.csrcCount),
    .ofBitVec (header.marker ++ header.payloadType)] ++
  networkShort header.sequenceNumber ++ networkLong header.timestamp ++ networkLong header.ssrc

@[simp] theorem bytes_length (header : RtpHeader) : header.bytes.length = size := rfl

def mediaHeader (payloadType : MediaType) (marker : Bool) (sequenceNumber : UInt16)
    (timestamp ssrc : UInt32) : RtpHeader where
  csrcCount := 0
  padding := 0
  extension := 0
  version := 2
  payloadType := payloadType.value.truncate 7
  marker := BitVec.ofBool marker
  sequenceNumber := sequenceNumber
  timestamp := timestamp
  ssrc := ssrc

@[simp] theorem mediaHeader_sequenceNumber (payloadType : MediaType) (marker : Bool)
    (s : UInt16) (timestamp ssrc : UInt32) :
    (mediaHeader payloadType marker s timestamp ssrc).sequenceNumber = s := rfl

@[simp] theorem mediaHeader_marker (payloadType : MediaType) (marker : Bool)
    (s : UInt16) (timestamp ssrc : UInt32) :
    (mediaHeader payloadType marker s timestamp ssrc).marker = 1 ↔ marker = true := by
  cases marker <;> simp [mediaHeader]

end RtpHeader

/-- `ntohs` -/
def hostShort (high low : UInt8) : UInt16 := .ofNat (high.toNat * 256 + low.toNat)

/-- `ntohl` -/
def hostLong (a b c d : UInt8) : UInt32 :=
  .ofNat (((a.toNat * 256 + b.toNat) * 256 + c.toNat) * 256 + d.toNat)

theorem hostShort_networkShort (value : UInt16) :
    hostShort (value >>> 8).toUInt8 value.toUInt8 = value := by
  have := value.toNat_lt
  apply UInt16.toNat.inj
  simp [hostShort, Nat.shiftRight_eq_div_pow]
  omega

theorem hostLong_networkLong (value : UInt32) :
    hostLong (value >>> 24).toUInt8 (value >>> 16).toUInt8 (value >>> 8).toUInt8 value.toUInt8 =
      value := by
  have := value.toNat_lt
  apply UInt32.toNat.inj
  simp [hostLong, Nat.shiftRight_eq_div_pow]
  omega

namespace RtpHeader

/-- A receiver's reading of a packet: the header and the payload behind it. A
packet with padding, an extension or contributing sources is not read. -/
def parse : List UInt8 → Option (RtpHeader × List UInt8)
  | 0x80 :: flags :: s₁ :: s₀ :: t₃ :: t₂ :: t₁ :: t₀ :: c₃ :: c₂ :: c₁ :: c₀ :: payload => some
    ({ csrcCount := 0, padding := 0, extension := 0, version := 2
       payloadType := flags.toBitVec.extractLsb' 0 7
       marker := flags.toBitVec.extractLsb' 7 1
       sequenceNumber := hostShort s₁ s₀
       timestamp := hostLong t₃ t₂ t₁ t₀
       ssrc := hostLong c₃ c₂ c₁ c₀ }, payload)
  | _ => none

theorem parse_bytes (payloadType : MediaType) (marker : Bool) (sequenceNumber : UInt16)
    (timestamp ssrc : UInt32) (payload : List UInt8) :
    parse ((mediaHeader payloadType marker sequenceNumber timestamp ssrc).bytes ++ payload) =
      some (mediaHeader payloadType marker sequenceNumber timestamp ssrc, payload) := by
  have flags : ∀ (kind : BitVec 7) (bit : BitVec 1),
      (UInt8.ofBitVec (bit ++ kind)).toBitVec.extractLsb' 0 7 = kind ∧
        (UInt8.ofBitVec (bit ++ kind)).toBitVec.extractLsb' 7 1 = bit := by
    decide +kernel
  obtain ⟨kind, bit⟩ := flags (payloadType.value.truncate 7) (.ofBool marker)
  simp only [bytes, mediaHeader, networkShort, networkLong, List.cons_append, List.nil_append]
  rw [show UInt8.ofBitVec ((2 : BitVec 2) ++ (0 : BitVec 1) ++ (0 : BitVec 1) ++ (0 : BitVec 4)) =
    0x80 from rfl]
  simp only [parse, kind, bit, hostShort_networkShort, hostLong_networkLong]

end RtpHeader
end TinyRtsp
