import TinyRtsp.Media.AacTrack

/-! What `AACMediaTrack` makes of a file that need not be an ADTS stream. It tests the
sync word and takes the length field as it is; the producer enqueues the frames of the
longest well-formed front of the file and stops for good at the first byte behind it. -/
namespace TinyRtsp.AacMediaTrack
open H264MediaTrack (overlay)

/-- A frame as `read_next_frame` accepts it. Layer, CRC flag and the other fields may
be anything; a frame of no bytes ends the producer. -/
structure SyncedFrame where
  header₁ : UInt8
  header₂ : UInt8
  header₃ : UInt8
  header₄ : UInt8
  header₅ : UInt8
  header₆ : UInt8
  body : List UInt8
  sync : header₁ &&& 0xF0 = 0xF0
  length : frameSize header₃ header₄ header₅ = body.length
  nonempty : body ≠ []

namespace SyncedFrame

def header (frame : SyncedFrame) : List UInt8 :=
  [0xFF, frame.header₁, frame.header₂, frame.header₃, frame.header₄, frame.header₅, frame.header₆]

def bytes (frame : SyncedFrame) : List UInt8 := frame.header ++ frame.body

end SyncedFrame

section Calls
variable {r : Reader} {content rest : List UInt8}

theorem readNextFrame_synced (frame : SyncedFrame) (here : r.aacFile.StandsBefore (frame.bytes ++ rest)) :
    0 < (readNextFrame r).1 ∧ returnedFrame r = frame.body ∧
      (readNextFrame r).2.aacFile.StandsBefore rest := by
  rw [SyncedFrame.bytes, List.append_assoc] at here
  obtain ⟨bytes, behind⟩ : (r.aacFile.read adtsHeaderSize).1 = frame.header ∧
      (r.aacFile.read adtsHeaderSize).2.StandsBefore (frame.body ++ rest) := here.read_front
  obtain ⟨whole, left⟩ := behind.read_front
  have signed : (r.aacFile.read adtsHeaderSize).2.readSigned frame.body.length =
      (r.aacFile.read adtsHeaderSize).2.read frame.body.length := by
    rw [InputFile.readSigned, if_neg (by omega), Int.toNat_natCast]
  have result : readNextFrame r = ((frame.body.length : Int),
      ⟨((r.aacFile.read adtsHeaderSize).2.read frame.body.length).2, overlay frame.body r.frameBuf⟩) := by
    unfold readNextFrame
    simp only [bytes, SyncedFrame.header, frame.sync, frame.length, signed, whole, ne_eq, not_true, or_self,
      if_false]
  have positive := List.length_pos_iff.mpr frame.nonempty
  rw [returnedFrame, result]
  refine ⟨by dsimp only; omega, ?_, left⟩
  rw [overlay, Int.toNat_natCast, List.take_left]

theorem readNextFrame_accepts (here : r.aacFile.StandsBefore content) (positive : 0 < (readNextFrame r).1) :
    ∃ frame : SyncedFrame, frame.bytes <+: content := by
  unfold readNextFrame at positive
  dsimp only at positive
  split at positive
  · rename_i h₀ h₁ h₂ h₃ h₄ h₅ h₆ header
    split at positive
    · contradiction
    · rename_i synced
      obtain ⟨first, sync⟩ := not_or.mp synced
      obtain rfl := Decidable.not_not.mp first
      split at positive
      · contradiction
      · rename_i whole
        have whole := Decidable.not_not.mp whole
        rw [here.read] at header
        -- The header is whole, so the stream stands behind it.
        have long : adtsHeaderSize ≤ content.length := by
          have size := congrArg List.length header
          rw [List.length_take] at size
          simp only [List.length_cons, List.length_nil] at size
          simp only [adtsHeaderSize] at size ⊢
          omega
        have behind := here.read_full long
        have body : ((r.aacFile.read adtsHeaderSize).2.readSigned (frameSize h₃ h₄ h₅)).1 =
            (content.drop adtsHeaderSize).take (frameSize h₃ h₄ h₅).toNat := by
          rw [InputFile.readSigned, if_neg (by omega), behind.read]
        rw [body] at whole
        refine ⟨⟨h₁, h₂, h₃, h₄, h₅, h₆, _, Decidable.not_not.mp sync, whole.symm, ?_⟩, ?_⟩
        · intro none
          rw [none] at whole
          simp only [List.length_nil] at whole
          omega
        · rw [SyncedFrame.bytes, SyncedFrame.header, ← header]
          refine ⟨(content.drop adtsHeaderSize).drop (frameSize h₃ h₄ h₅).toNat, ?_⟩
          rw [List.append_assoc, List.take_append_drop, List.take_append_drop]
  · contradiction

/-- The producer's frames are the bodies of a well-formed front, and what follows does
not begin with a frame. -/
theorem runProducer_front (here : r.aacFile.StandsBefore content) :
    ∃ (frames : List SyncedFrame) (rest : List UInt8), content = frames.flatMap SyncedFrame.bytes ++ rest ∧
      runProducer r = frames.map SyncedFrame.body ∧ ∀ frame : SyncedFrame, ¬ frame.bytes <+: rest := by
  induction r using runProducer.induct generalizing content with
  | case1 r positive ih =>
    obtain ⟨frame, rest, rfl⟩ := readNextFrame_accepts here positive
    obtain ⟨_, body, left⟩ := readNextFrame_synced frame here
    obtain ⟨frames, behind, rfl, later, stops⟩ := ih left
    refine ⟨frame :: frames, behind, ?_, ?_, stops⟩
    · rw [List.flatMap_cons, List.append_assoc]
    · rw [runProducer, if_pos positive, body, later]
      rfl
  | case2 r stops =>
    refine ⟨[], content, rfl, ?_, fun frame starts => stops ?_⟩
    · rw [runProducer, if_neg stops]
      rfl
    · obtain ⟨rest, rfl⟩ := starts
      exact (readNextFrame_synced frame here).1

theorem runProducer_synced (frames : List SyncedFrame)
    (here : r.aacFile.StandsBefore (frames.flatMap SyncedFrame.bytes ++ rest)) :
    frames.map SyncedFrame.body <+: runProducer r := by
  induction frames generalizing r with
  | nil => exact List.nil_prefix
  | cons frame others ih =>
    rw [List.flatMap_cons, List.append_assoc] at here
    obtain ⟨positive, body, left⟩ := readNextFrame_synced frame here
    rw [runProducer, if_pos positive, body, List.map_cons, List.cons_prefix_cons]
    exact ⟨rfl, ih left⟩

end Calls

/-- For every file the producer enqueues exactly the bodies of the longest front that is
a sequence of synced frames: such a front exists with nothing acceptable behind it, and
no other well-formed front has more. -/
theorem accepts_longest_front (content : List UInt8) :
    ∃ (frames : List SyncedFrame) (rest : List UInt8), content = frames.flatMap SyncedFrame.bytes ++ rest ∧
      runProducer (openTrack content) = frames.map SyncedFrame.body ∧
      (∀ frame : SyncedFrame, ¬ frame.bytes <+: rest) ∧
      ∀ (others : List SyncedFrame) (behind : List UInt8),
        content = others.flatMap SyncedFrame.bytes ++ behind →
          others.map SyncedFrame.body <+: frames.map SyncedFrame.body := by
  have here : (openTrack content).aacFile.StandsBefore content := .openFile content
  obtain ⟨frames, rest, front, read, stops⟩ := runProducer_front here
  refine ⟨frames, rest, front, read, stops, ?_⟩
  rintro others behind other
  rw [← read]
  rw [other] at here ⊢
  exact runProducer_synced others here

end TinyRtsp.AacMediaTrack
