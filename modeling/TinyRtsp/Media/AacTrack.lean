import TinyRtsp.Media.H264Track

/-! How `AACMediaTrack` cuts its file into frames. Each call reads an ADTS header,
takes the length of the frame from three of its bytes and reads what the header
says is behind it. -/
namespace TinyRtsp.AacMediaTrack
open H264MediaTrack (overlay)

def adtsHeaderSize : Nat := 7

/-- The file members of `AACMediaTrack`. -/
structure Reader where
  aacFile : InputFile
  frameBuf : List UInt8

def openTrack (content : List UInt8) : Reader := ⟨.openFile content, []⟩

/-- `frame_size`: 13 bits of the header, less the header itself. -/
def frameSize (h₃ h₄ h₅ : UInt8) : Int :=
  (((h₃.toNat &&& 0x03) <<< 11 ||| (h₄.toNat &&& 0xFF) <<< 3 |||
    (h₅.toNat &&& 0xE0) >>> 5 : Nat) : Int) - 7

/-- The size of the next frame, which then stands at the front of `frame_buf_`,
or -1. -/
def readNextFrame (r : Reader) : Int × Reader :=
  let file := (r.aacFile.read adtsHeaderSize).2
  match (r.aacFile.read adtsHeaderSize).1 with
  | [h₀, h₁, _, h₃, h₄, h₅, _] =>
    if h₀ ≠ 0xFF ∨ h₁ &&& 0xF0 ≠ 0xF0 then (-1, ⟨file, r.frameBuf⟩)
    else
      let frameSize := frameSize h₃ h₄ h₅
      let frame := (file.readSigned frameSize).1
      let frameBuf := overlay frame r.frameBuf
      (if (frame.length : Int) ≠ frameSize then -1 else frameSize,
        ⟨(file.readSigned frameSize).2, frameBuf⟩)
  -- Fewer bytes than a header has.
  | _ => (-1, ⟨file, r.frameBuf⟩)

section Reads
variable {r : Reader} {h₀ h₁ h₂ h₃ h₄ h₅ h₆ : UInt8}

theorem readNextFrame_eof (ended : r.aacFile.eof = true) : readNextFrame r = (-1, r) := by
  rw [readNextFrame, InputFile.read, if_pos ended]

/-- A call that returns a size has read a header and the frame that the header
announces. -/
theorem readNextFrame_returned (returned : 0 ≤ (readNextFrame r).1) :
    ∃ h₃ h₄ h₅, readNextFrame r = (frameSize h₃ h₄ h₅,
        ⟨((r.aacFile.read adtsHeaderSize).2.readSigned (frameSize h₃ h₄ h₅)).2,
          overlay ((r.aacFile.read adtsHeaderSize).2.readSigned (frameSize h₃ h₄ h₅)).1 r.frameBuf⟩) ∧
      (((r.aacFile.read adtsHeaderSize).2.readSigned (frameSize h₃ h₄ h₅)).1.length : Int) =
        frameSize h₃ h₄ h₅ := by
  unfold readNextFrame at returned ⊢
  dsimp only at returned ⊢
  split at returned
  · rename_i h₀ h₁ h₂ h₃ h₄ h₅ h₆ _
    split at returned
    · contradiction
    · rename_i sync
      dsimp only at returned
      split at returned
      · contradiction
      · rename_i whole
        exact ⟨h₃, h₄, h₅, by rw [if_neg sync, if_neg whole], Decidable.not_not.mp whole⟩
  · contradiction

def returnedFrame (r : Reader) : List UInt8 :=
  (readNextFrame r).2.frameBuf.take (readNextFrame r).1.toNat

theorem returnedFrame_length (returned : 0 ≤ (readNextFrame r).1) :
    ((returnedFrame r).length : Int) = (readNextFrame r).1 := by
  obtain ⟨h₃, h₄, h₅, result, whole⟩ := readNextFrame_returned returned
  have size : (frameSize h₃ h₄ h₅).toNat =
      ((r.aacFile.read adtsHeaderSize).2.readSigned (frameSize h₃ h₄ h₅)).1.length := by omega
  rw [returnedFrame, result, overlay, size, List.take_left]
  exact whole

theorem budget_readNextFrame (positive : 0 < (readNextFrame r).1) :
    (readNextFrame r).2.aacFile.budget < r.aacFile.budget := by
  obtain ⟨h₃, h₄, h₅, result, _⟩ := readNextFrame_returned (Int.le_of_lt positive)
  cases ended : r.aacFile.eof with
  | true =>
    rw [readNextFrame_eof ended] at positive
    contradiction
  | false =>
    rw [result]
    exact Nat.lt_of_le_of_lt (InputFile.budget_readSigned _) (InputFile.budget_read ended (by decide))

end Reads

/-- The frames `run_producer` enqueues while `is_active_` stays true: those read
before the first size that is not positive. -/
def runProducer (r : Reader) : List (List UInt8) :=
  if 0 < (readNextFrame r).1 then returnedFrame r :: runProducer (readNextFrame r).2 else []
  termination_by r.aacFile.budget
  decreasing_by exact budget_readNextFrame ‹_›

/-- The first seven bytes of an ADTS frame; the sync word and layer 0 are fixed. -/
structure AdtsHeader where
  id : BitVec 1
  protectionAbsent : BitVec 1
  profile : BitVec 2
  samplingFrequencyIndex : BitVec 4
  privateBit : BitVec 1
  channelConfiguration : BitVec 3
  originalCopy : BitVec 1
  home : BitVec 1
  copyrightIdentificationBit : BitVec 1
  copyrightIdentificationStart : BitVec 1
  frameLength : BitVec 13
  bufferFullness : BitVec 11
  numberOfRawDataBlocks : BitVec 2

namespace AdtsHeader

def bytes (header : AdtsHeader) : List UInt8 := [
  0xFF,
  .ofBitVec (0xF#4 ++ header.id ++ 0#2 ++ header.protectionAbsent),
  .ofBitVec (header.profile ++ header.samplingFrequencyIndex ++ header.privateBit ++
    header.channelConfiguration.extractLsb' 2 1),
  .ofBitVec (header.channelConfiguration.extractLsb' 0 2 ++ header.originalCopy ++ header.home ++
    header.copyrightIdentificationBit ++ header.copyrightIdentificationStart ++
    header.frameLength.extractLsb' 11 2),
  .ofBitVec (header.frameLength.extractLsb' 3 8),
  .ofBitVec (header.frameLength.extractLsb' 0 3 ++ header.bufferFullness.extractLsb' 6 5),
  .ofBitVec (header.bufferFullness.extractLsb' 0 6 ++ header.numberOfRawDataBlocks)]

theorem sync : ∀ id protectionAbsent : BitVec 1,
    UInt8.ofBitVec (0xF#4 ++ id ++ 0#2 ++ protectionAbsent) &&& 0xF0 = 0xF0 := by
  decide +kernel

theorem frameSize_bits (flags : BitVec 6) (length : BitVec 13) (fullness : BitVec 5) :
    frameSize (.ofBitVec (flags ++ length.extractLsb' 11 2)) (.ofBitVec (length.extractLsb' 3 8))
      (.ofBitVec (length.extractLsb' 0 3 ++ fullness)) = (length.toNat : Int) - adtsHeaderSize := by
  have high : ∀ (flags : BitVec 6) (bits : BitVec 2), (flags ++ bits).toNat &&& 0x03 = bits.toNat := by
    decide +kernel
  have middle : ∀ bits : BitVec 8, bits.toNat &&& 0xFF = bits.toNat := by decide +kernel
  have low : ∀ (bits : BitVec 3) (fullness : BitVec 5),
      ((bits ++ fullness).toNat &&& 0xE0) >>> 5 = bits.toNat := by
    decide +kernel
  have upper : length.extractLsb' 11 2 ++ length.extractLsb' 3 8 = length.extractLsb' 3 10 :=
    BitVec.extractLsb'_append_extractLsb'_eq_extractLsb' rfl
  have joined : length.extractLsb' 3 10 ++ length.extractLsb' 0 3 = length :=
    (BitVec.extractLsb'_append_extractLsb'_eq_extractLsb' rfl).trans BitVec.extractLsb'_eq_self
  have number : (length.extractLsb' 11 2).toNat <<< 11 ||| (length.extractLsb' 3 8).toNat <<< 3 |||
      (length.extractLsb' 0 3).toNat = length.toNat := by
    rw [← congrArg BitVec.toNat joined, ← upper, BitVec.toNat_append, BitVec.toNat_append,
      Nat.shiftLeft_or_distrib, ← Nat.shiftLeft_add]
  unfold frameSize
  simp only [UInt8.toNat_ofBitVec, high, middle, low, number]
  rfl

end AdtsHeader

/-- A frame of an ADTS stream without CRC: any header fields, and raw data that one
RTP packet holds. -/
structure AdtsFrame where
  id : BitVec 1
  profile : BitVec 2
  samplingFrequencyIndex : BitVec 4
  privateBit : BitVec 1
  channelConfiguration : BitVec 3
  originalCopy : BitVec 1
  home : BitVec 1
  copyrightIdentificationBit : BitVec 1
  copyrightIdentificationStart : BitVec 1
  bufferFullness : BitVec 11
  numberOfRawDataBlocks : BitVec 2
  rawData : List UInt8
  nonempty : 1 ≤ rawData.length
  short : rawData.length ≤ 1018

namespace AdtsFrame
variable (frame : AdtsFrame)

def frameLength : BitVec 13 := .ofNat 13 (adtsHeaderSize + frame.rawData.length)

/-- The sync word, layer 0 and `protection_absent` are fixed. -/
def header : List UInt8 := [
  0xFF,
  .ofBitVec (0xF#4 ++ frame.id ++ 0#2 ++ 1#1),
  .ofBitVec (frame.profile ++ frame.samplingFrequencyIndex ++ frame.privateBit ++
    frame.channelConfiguration.extractLsb' 2 1),
  .ofBitVec (frame.channelConfiguration.extractLsb' 0 2 ++ frame.originalCopy ++ frame.home ++
    frame.copyrightIdentificationBit ++ frame.copyrightIdentificationStart ++
    frame.frameLength.extractLsb' 11 2),
  .ofBitVec (frame.frameLength.extractLsb' 3 8),
  .ofBitVec (frame.frameLength.extractLsb' 0 3 ++ frame.bufferFullness.extractLsb' 6 5),
  .ofBitVec (frame.bufferFullness.extractLsb' 0 6 ++ frame.numberOfRawDataBlocks)]

def bytes : List UInt8 := frame.header ++ frame.rawData

def fields : AdtsHeader where
  id := frame.id
  protectionAbsent := 1
  profile := frame.profile
  samplingFrequencyIndex := frame.samplingFrequencyIndex
  privateBit := frame.privateBit
  channelConfiguration := frame.channelConfiguration
  originalCopy := frame.originalCopy
  home := frame.home
  copyrightIdentificationBit := frame.copyrightIdentificationBit
  copyrightIdentificationStart := frame.copyrightIdentificationStart
  frameLength := frame.frameLength
  bufferFullness := frame.bufferFullness
  numberOfRawDataBlocks := frame.numberOfRawDataBlocks

theorem frameLength_toNat : frame.frameLength.toNat = adtsHeaderSize + frame.rawData.length := by
  have := frame.short
  rw [frameLength, BitVec.toNat_ofNat, Nat.mod_eq_of_lt]
  simp only [adtsHeaderSize]
  omega

end AdtsFrame

section Frames
variable {r : Reader} {rest : List UInt8}

theorem readNextFrame_header (header : AdtsHeader) {body : List UInt8}
    (length : header.frameLength.toNat = adtsHeaderSize + body.length)
    (here : r.aacFile.StandsBefore (header.bytes ++ body ++ rest)) :
    (readNextFrame r).1 = body.length ∧ returnedFrame r = body ∧
      (readNextFrame r).2.aacFile.StandsBefore rest := by
  rw [List.append_assoc] at here
  obtain ⟨bytes, behind⟩ : (r.aacFile.read adtsHeaderSize).1 = header.bytes ∧
      (r.aacFile.read adtsHeaderSize).2.StandsBefore (body ++ rest) := here.read_front
  obtain ⟨whole, left⟩ := behind.read_front
  have size : frameSize (.ofBitVec (header.channelConfiguration.extractLsb' 0 2 ++ header.originalCopy ++
        header.home ++ header.copyrightIdentificationBit ++ header.copyrightIdentificationStart ++
        header.frameLength.extractLsb' 11 2))
      (.ofBitVec (header.frameLength.extractLsb' 3 8))
      (.ofBitVec (header.frameLength.extractLsb' 0 3 ++ header.bufferFullness.extractLsb' 6 5)) =
        body.length := by
    rw [AdtsHeader.frameSize_bits, length]
    omega
  have signed : (r.aacFile.read adtsHeaderSize).2.readSigned body.length =
      (r.aacFile.read adtsHeaderSize).2.read body.length := by
    rw [InputFile.readSigned, if_neg (by omega), Int.toNat_natCast]
  have result : readNextFrame r = ((body.length : Int),
      ⟨((r.aacFile.read adtsHeaderSize).2.read body.length).2, overlay body r.frameBuf⟩) := by
    unfold readNextFrame
    simp only [bytes, AdtsHeader.bytes, AdtsHeader.sync, size, signed, whole, ne_eq, not_true, or_self,
      if_false]
  rw [returnedFrame, result]
  refine ⟨rfl, ?_, left⟩
  rw [overlay, Int.toNat_natCast, List.take_left]

theorem readNextFrame_frame (frame : AdtsFrame) (here : r.aacFile.StandsBefore (frame.bytes ++ rest)) :
    (readNextFrame r).1 = frame.rawData.length ∧ returnedFrame r = frame.rawData ∧
      (readNextFrame r).2.aacFile.StandsBefore rest :=
  readNextFrame_header frame.fields frame.frameLength_toNat here

theorem readNextFrame_end (here : r.aacFile.StandsBefore []) :
    (readNextFrame r).1 = -1 ∧ (readNextFrame r).2.aacFile.eof = true := by
  have nothing : (r.aacFile.read adtsHeaderSize).1 = [] := here.read adtsHeaderSize
  have ended : (r.aacFile.read adtsHeaderSize).2.eof = true := here.read_short (by decide)
  unfold readNextFrame
  simp only [nothing]
  exact ⟨trivial, ended⟩

def calls : Nat → Reader → List (Int × List UInt8)
  | 0, _ => []
  | more + 1, r => ((readNextFrame r).1, returnedFrame r) :: calls more (readNextFrame r).2

theorem calls_eof (more : Nat) (ended : r.aacFile.eof = true) :
    calls more r = List.replicate more (-1, []) := by
  induction more with
  | zero => rfl
  | succ more ih =>
    have result := readNextFrame_eof ended
    rw [calls, returnedFrame, result, ih]
    rfl

theorem calls_end (more : Nat) (here : r.aacFile.StandsBefore []) :
    calls more r = List.replicate more (-1, []) := by
  cases more with
  | zero => rfl
  | succ more =>
    obtain ⟨failed, ended⟩ := readNextFrame_end here
    rw [calls, calls_eof more ended, returnedFrame, failed]
    rfl

theorem calls_frames (frames : List AdtsFrame) (more : Nat)
    (here : r.aacFile.StandsBefore (frames.flatMap AdtsFrame.bytes)) :
    calls (frames.length + more) r =
      frames.map (fun frame => ((frame.rawData.length : Int), frame.rawData)) ++
        List.replicate more (-1, []) := by
  induction frames generalizing r with
  | nil =>
    rw [List.length_nil, Nat.zero_add]
    exact calls_end more here
  | cons frame rest ih =>
    obtain ⟨size, rawData, left⟩ := readNextFrame_frame frame here
    rw [List.length_cons, Nat.succ_add, calls, size, rawData, ih left]
    rfl

theorem runProducer_frames (frames : List AdtsFrame)
    (here : r.aacFile.StandsBefore (frames.flatMap AdtsFrame.bytes)) :
    runProducer r = frames.map AdtsFrame.rawData := by
  induction frames generalizing r with
  | nil =>
    rw [runProducer, if_neg (by rw [(readNextFrame_end here).1]; decide)]
    rfl
  | cons frame rest ih =>
    obtain ⟨size, rawData, left⟩ := readNextFrame_frame frame here
    have positive : 0 < (readNextFrame r).1 := by
      have := frame.nonempty
      rw [size]
      omega
    rw [runProducer, if_pos positive, rawData, ih left]
    rfl

end Frames
end TinyRtsp.AacMediaTrack
