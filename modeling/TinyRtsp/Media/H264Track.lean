import TinyRtsp.Foundation.InputFile

/-! How `H264MediaTrack` cuts its file into frames. Each call reads a window of
`MAX_FRAME_SIZE` bytes, looks for the second start code in it and seeks back to
that code, unless the window already reached the end of the file. -/
namespace TinyRtsp.H264MediaTrack

def maxFrameSize : Nat := 512 * 1024

/-- The file members of `H264MediaTrack`. -/
structure Reader where
  h264File : InputFile
  frameBuf : List UInt8

def openTrack (content : List UInt8) : Reader := ⟨.openFile content, []⟩

/-- `frame_buf_` after a read: the window over what the buffer held before. -/
def overlay (window frameBuf : List UInt8) : List UInt8 := window ++ frameBuf.drop window.length

/-- The test for 0x000001 or 0x00000001 at index `i` of the window; each code
must lie inside the bytes just read. -/
def startCodeAt (window : List UInt8) (i : Nat) : Bool :=
  (decide (i + 2 < window.length) &&
    window[i]? == some 0 && window[i + 1]? == some 0 && window[i + 2]? == some 1) ||
  (decide (i + 3 < window.length) &&
    window[i]? == some 0 && window[i + 1]? == some 0 && window[i + 2]? == some 0 &&
    window[i + 3]? == some 1)

/-- `for (ssize_t i = 3; i < read_bytes; ++i)` up to the first start code. -/
def nextStartCode (window : List UInt8) : Option Nat :=
  (List.range' 3 (window.length - 3)).find? (startCodeAt window)

theorem nextStartCode_bounds {window : List UInt8} {i : Nat}
    (found : nextStartCode window = some i) : 3 ≤ i ∧ i < window.length := by
  have inside := List.mem_range'_1.mp (List.mem_of_find?_eq_some found)
  omega

/-- The size of the next frame, which then stands at the front of `frame_buf_`,
or -1. A window without a start code is dropped and the next one is read. -/
def readNextFrame (r : Reader) : Int × Reader :=
  if r.h264File.eof then (-1, r)
  else
    let window := (r.h264File.read maxFrameSize).1
    let file := (r.h264File.read maxFrameSize).2
    let frameBuf := overlay window r.frameBuf
    match nextStartCode window with
    | some i => (i, ⟨if file.eof then file else file.seekBack (window.length - i), frameBuf⟩)
    | none => readNextFrame ⟨file, frameBuf⟩
  termination_by r.h264File.budget
  decreasing_by exact InputFile.budget_read (eq_false_of_ne_true ‹_›) (by decide)

section Equations
variable {r : Reader} {i : Nat}

theorem readNextFrame_eof (ended : r.h264File.eof = true) : readNextFrame r = (-1, r) := by
  rw [readNextFrame, if_pos ended]

/-- The frame starts at the front of the window; a full window is given back
from its second start code on. -/
theorem readNextFrame_found (ready : r.h264File.eof = false)
    (found : nextStartCode (r.h264File.read maxFrameSize).1 = some i) :
    readNextFrame r = ((i : Int),
      ⟨if (r.h264File.read maxFrameSize).2.eof then (r.h264File.read maxFrameSize).2
        else (r.h264File.read maxFrameSize).2.seekBack ((r.h264File.read maxFrameSize).1.length - i),
      overlay (r.h264File.read maxFrameSize).1 r.frameBuf⟩) := by
  rw [readNextFrame, if_neg (by simp [ready])]
  simp only [found]

theorem readNextFrame_missing (ready : r.h264File.eof = false)
    (missing : nextStartCode (r.h264File.read maxFrameSize).1 = none) :
    readNextFrame r = readNextFrame
      ⟨(r.h264File.read maxFrameSize).2, overlay (r.h264File.read maxFrameSize).1 r.frameBuf⟩ := by
  rw [readNextFrame, if_neg (by simp [ready])]
  simp only [missing]

end Equations

/-- What one call may do to the stream, with the size it returns. Unless the
window of the frame reached the end of the file, the stream stands right after
the frame with bytes left; otherwise whatever followed the frame is lost. -/
def Advances (before : InputFile) (size : Int) (after : Reader) : Prop :=
  size = -1 ∨ ∃ i : Nat, size = i ∧ 3 ≤ i ∧ i < after.frameBuf.length ∧
    (after.h264File.eof = true ∧ i < before.remaining ∨
      after.h264File.eof = false ∧ 0 < after.h264File.remaining ∧
        i + after.h264File.remaining ≤ before.remaining)

theorem readNextFrame_advances (r : Reader) :
    Advances r.h264File (readNextFrame r).1 (readNextFrame r).2 := by
  induction r using readNextFrame.induct with
  | case1 r ended =>
    rw [readNextFrame_eof ended]
    exact Or.inl rfl
  | case2 r ready window i found =>
    have ready := eq_false_of_ne_true ready
    have delivered := InputFile.read_length maxFrameSize ready
    obtain ⟨low, high⟩ : 3 ≤ i ∧ i < (r.h264File.read maxFrameSize).1.length :=
      nextStartCode_bounds found
    rw [readNextFrame_found ready found]
    refine Or.inr ⟨i, rfl, low, ?_, ?_⟩
    · simp only [overlay, List.length_append]
      omega
    · by_cases full : maxFrameSize ≤ r.h264File.remaining
      · obtain ⟨still, _⟩ := InputFile.remaining_read_full ready full
        have within : (r.h264File.read maxFrameSize).1.length - i ≤ maxFrameSize := by omega
        obtain ⟨good, left⟩ := InputFile.remaining_seekBack ready full (by decide) within
        simp only [still, Bool.false_eq_true, if_false]
        exact Or.inr ⟨good, by omega, by omega⟩
      · have ended := InputFile.read_short ready (Nat.lt_of_not_le full)
        simp only [ended, if_true]
        exact Or.inl ⟨trivial, by omega⟩
  | case3 r ready window file frameBuf missing ih =>
    have ready := eq_false_of_ne_true ready
    rw [readNextFrame_missing ready missing]
    obtain ended | ⟨i, size, low, held, rest⟩ := ih
    · exact Or.inl ended
    · -- The dropped window only shortens what remains.
      have shrinks : (r.h264File.read maxFrameSize).2.remaining ≤ r.h264File.remaining := by
        by_cases full : maxFrameSize ≤ r.h264File.remaining
        · have := (InputFile.remaining_read_full ready full).2
          omega
        · have ended := InputFile.read_short ready (Nat.lt_of_not_le full)
          simp [InputFile.remaining, ended]
      refine Or.inr ⟨i, size, low, held, ?_⟩
      obtain ⟨ended, bound⟩ | ⟨good, left, bound⟩ := rest
      · exact Or.inl ⟨ended, Nat.lt_of_lt_of_le bound shrinks⟩
      · exact Or.inr ⟨good, left, Nat.le_trans bound shrinks⟩

theorem budget_readNextFrame {r : Reader} (positive : 0 < (readNextFrame r).1) :
    (readNextFrame r).2.h264File.budget < r.h264File.budget := by
  obtain ended | ⟨i, size, low, _, ⟨ended, bound⟩ | ⟨good, left, bound⟩⟩ := readNextFrame_advances r
  · omega
  · have good := InputFile.good_of_remaining (Nat.zero_lt_of_lt bound)
    simp [InputFile.budget, ended, good]
  · have opened := InputFile.good_of_remaining (Nat.lt_of_lt_of_le (by omega) bound)
    simp only [InputFile.budget, good, opened, Bool.false_eq_true, if_false]
    omega

def returnedFrame (r : Reader) : List UInt8 :=
  (readNextFrame r).2.frameBuf.take (readNextFrame r).1.toNat

/-- The frames `run_producer` enqueues while `is_active_` stays true: those read
before the first size that is not positive. -/
def runProducer (r : Reader) : List (List UInt8) :=
  if 0 < (readNextFrame r).1 then
    (readNextFrame r).2.frameBuf.take (readNextFrame r).1.toNat :: runProducer (readNextFrame r).2
  else []
  termination_by r.h264File.budget
  decreasing_by exact budget_readNextFrame ‹_›

/-- The producer never hands out the bytes up to the end of its file: a frame
ends where a later start code begins, and nothing ends the last one. -/
theorem runProducer_length (r : Reader) :
    (runProducer r).flatten.length ≤ r.h264File.remaining ∧
      (0 < r.h264File.remaining → (runProducer r).flatten.length < r.h264File.remaining) := by
  induction r using runProducer.induct with
  | case1 r positive ih =>
    rw [runProducer, if_pos positive]
    obtain ended | ⟨i, size, low, held, rest⟩ := readNextFrame_advances r
    · omega
    · have taken : ((readNextFrame r).2.frameBuf.take (readNextFrame r).1.toNat).length = i := by
        rw [List.length_take, size, Int.toNat_natCast]
        omega
      rw [List.flatten_cons, List.length_append, taken]
      obtain ⟨ended, bound⟩ | ⟨_, left, bound⟩ := rest
      · simp only [InputFile.remaining, ended, if_true] at ih
        omega
      · have := ih.2 left
        omega
  | case2 r stops =>
    rw [runProducer, if_neg stops]
    simp

/-- A NAL unit of an Annex-B stream behind its start code, 0x000001 or
0x00000001. -/
structure NalUnit where
  longCode : Bool
  nal : List UInt8

def NalUnit.bytes (unit : NalUnit) : List UInt8 :=
  (if unit.longCode then [0, 0, 0, 1] else [0, 0, 1]) ++ unit.nal

/-- Every unit of the stream is returned by some call, and the enqueued frames
together are the whole file. -/
def Lossless (units : List NalUnit) : Prop :=
  (∀ unit ∈ units, unit.bytes ∈ runProducer (openTrack (units.flatMap NalUnit.bytes))) ∧
    (runProducer (openTrack (units.flatMap NalUnit.bytes))).flatten = units.flatMap NalUnit.bytes

theorem NalUnit.bytes_length_pos (unit : NalUnit) : 0 < unit.bytes.length := by
  unfold NalUnit.bytes
  split <;> simp

theorem flatMap_bytes_length_pos {units : List NalUnit} (nonempty : units ≠ []) :
    0 < (units.flatMap NalUnit.bytes).length := by
  obtain ⟨unit, rest, rfl⟩ := List.exists_cons_of_ne_nil nonempty
  have := unit.bytes_length_pos
  simp only [List.flatMap_cons, List.length_append]
  omega

theorem runProducer_openTrack_length {content : List UInt8} (nonempty : 0 < content.length) :
    (runProducer (openTrack content)).flatten.length < content.length := by
  have all : (openTrack content).h264File.remaining = content.length := by
    simp [openTrack, InputFile.openFile, InputFile.remaining]
  have bound := (runProducer_length (openTrack content)).2 (all ▸ nonempty)
  rwa [all] at bound

/-- No Annex-B stream is segmented losslessly. -/
theorem not_lossless (units : List NalUnit) (nonempty : units ≠ []) :
    ¬ Lossless units ∧
      (runProducer (openTrack (units.flatMap NalUnit.bytes))).flatten.length <
        (units.flatMap NalUnit.bytes).length := by
  have short := runProducer_openTrack_length (flatMap_bytes_length_pos nonempty)
  refine ⟨?_, short⟩
  rintro ⟨_, whole⟩
  rw [whole] at short
  exact Nat.lt_irrefl _ short

/-- A file of one unit: nothing follows it, so nothing is enqueued. -/
theorem not_lossless_single : ¬ Lossless [⟨true, [0x65, 0x88]⟩] :=
  (not_lossless [⟨true, [0x65, 0x88]⟩] (by decide)).1

/-- Parameter sets and a picture in a file shorter than one window: the first
unit is enqueued and the other two are lost with the window. -/
theorem lossless_fails :
    runProducer (openTrack [0, 0, 0, 1, 0x67, 0x42, 0, 0, 0, 1, 0x68, 0xce, 0, 0, 1, 0x65, 0x88]) =
        [[0, 0, 0, 1, 0x67, 0x42]] ∧
      ¬ Lossless [⟨true, [0x67, 0x42]⟩, ⟨true, [0x68, 0xce]⟩, ⟨false, [0x65, 0x88]⟩] := by
  have frames : runProducer (openTrack
      [0, 0, 0, 1, 0x67, 0x42, 0, 0, 0, 1, 0x68, 0xce, 0, 0, 1, 0x65, 0x88]) =
        [[0, 0, 0, 1, 0x67, 0x42]] := by
    have first := readNextFrame_found (r := openTrack
      [0, 0, 0, 1, 0x67, 0x42, 0, 0, 0, 1, 0x68, 0xce, 0, 0, 1, 0x65, 0x88]) (i := 6) rfl
      (by decide)
    rw [runProducer, first, if_pos (by decide), runProducer, readNextFrame_eof (by decide)]
    decide
  refine ⟨frames, ?_⟩
  rintro ⟨every, _⟩
  have last := every ⟨false, [0x65, 0x88]⟩ (by simp)
  rw [show [(⟨true, [0x67, 0x42]⟩ : NalUnit), ⟨true, [0x68, 0xce]⟩, ⟨false, [0x65, 0x88]⟩].flatMap
    NalUnit.bytes = [0, 0, 0, 1, 0x67, 0x42, 0, 0, 0, 1, 0x68, 0xce, 0, 0, 1, 0x65, 0x88] from rfl,
    frames] at last
  simp [NalUnit.bytes] at last

end TinyRtsp.H264MediaTrack
