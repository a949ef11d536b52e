import TinyRtsp.Media.AacTrack

/-! ADTS streams whose frames may carry a CRC. The frame length counts the CRC, and
`read_next_frame` takes seven bytes off it for either form of header. -/
namespace TinyRtsp.AacMediaTrack

structure CheckedFrame where
  header : AdtsHeader
  crc : List UInt8
  rawData : List UInt8
  crc_length : crc.length = if header.protectionAbsent = 1 then 0 else 2
  frameLength : header.frameLength.toNat = adtsHeaderSize + crc.length + rawData.length
  nonempty : rawData ≠ []

namespace CheckedFrame

def bytes (frame : CheckedFrame) : List UInt8 := frame.header.bytes ++ (frame.crc ++ frame.rawData)

theorem crc_eq_nil_iff (frame : CheckedFrame) : frame.crc = [] ↔ frame.header.protectionAbsent = 1 := by
  rw [← List.length_eq_zero_iff, frame.crc_length]
  split
  · exact iff_of_true rfl ‹_›
  · exact iff_of_false (by decide) ‹_›

end CheckedFrame

section Frames
variable {r : Reader} {rest : List UInt8}

theorem readNextFrame_checked (frame : CheckedFrame)
    (here : r.aacFile.StandsBefore (frame.bytes ++ rest)) :
    0 < (readNextFrame r).1 ∧ returnedFrame r = frame.crc ++ frame.rawData ∧
      (readNextFrame r).2.aacFile.StandsBefore rest := by
  have length : frame.header.frameLength.toNat = adtsHeaderSize + (frame.crc ++ frame.rawData).length := by
    rw [frame.frameLength, List.length_append, Nat.add_assoc]
  obtain ⟨size, returned, left⟩ := readNextFrame_header frame.header length here
  refine ⟨?_, returned, left⟩
  have data := List.length_pos_iff.mpr frame.nonempty
  rw [size, List.length_append]
  omega

theorem runProducer_checked (frames : List CheckedFrame)
    (here : r.aacFile.StandsBefore (frames.flatMap CheckedFrame.bytes)) :
    runProducer r = frames.map fun frame => frame.crc ++ frame.rawData := by
  induction frames generalizing r with
  | nil =>
    rw [runProducer, if_neg (by rw [(readNextFrame_end here).1]; decide)]
    rfl
  | cons frame rest ih =>
    obtain ⟨positive, returned, left⟩ := readNextFrame_checked frame here
    rw [runProducer, if_pos positive, returned, ih left]
    rfl

end Frames

/-- The frames of a stream are read as its raw data blocks exactly when none of them
has a CRC. -/
theorem frames_without_crc_iff (frames : List CheckedFrame) :
    runProducer (openTrack (frames.flatMap CheckedFrame.bytes)) = frames.map CheckedFrame.rawData ↔
      ∀ frame ∈ frames, frame.header.protectionAbsent = 1 := by
  rw [runProducer_checked frames (.openFile _), List.map_inj_left]
  refine forall₂_congr fun frame _ => ?_
  rw [List.append_left_eq_self, frame.crc_eq_nil_iff]

/-- One frame with a CRC, whose two bytes are returned before the raw data. -/
theorem crc_is_returned :
    ¬ ∀ frames : List CheckedFrame, runProducer (openTrack (frames.flatMap CheckedFrame.bytes)) =
      frames.map CheckedFrame.rawData := by
  intro claim
  let header : AdtsHeader := ⟨0, 0, 1, 4, 0, 2, 0, 0, 0, 0, 10, 0x7FF, 0⟩
  let frame : CheckedFrame := ⟨header, [0xAB, 0xCD], [0x21], by decide, by decide, by decide⟩
  have returned := claim [frame]
  rw [runProducer_checked [frame] (.openFile _)] at returned
  exact absurd returned (by decide)

end TinyRtsp.AacMediaTrack
