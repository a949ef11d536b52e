import TinyRtsp.Media.H264Track

/-! The division of an Annex-B stream into units, and that the producer returns them.
A window that is full holds the next start code with room to spare, and one that is
not full holds everything that is left. -/
namespace TinyRtsp.H264MediaTrack

/-- 0x000001 or 0x00000001 begins here. -/
def StartsUnit (bytes : List UInt8) : Prop := [0, 0, 1] <+: bytes ∨ [0, 0, 0, 1] <+: bytes

instance (bytes : List UInt8) : Decidable (StartsUnit bytes) := inferInstanceAs (Decidable (_ ∨ _))

def nextBoundary (bytes : List UInt8) : Option Nat :=
  (List.range' 3 (bytes.length - 3)).find? fun i => decide (StartsUnit (bytes.drop i))

section Boundaries
variable {bytes : List UInt8} {i limit : Nat}

theorem nextBoundary_some (found : nextBoundary bytes = some i) : 3 ≤ i ∧ i < bytes.length ∧
    StartsUnit (bytes.drop i) ∧ ∀ j, 3 ≤ j → j < i → ¬ StartsUnit (bytes.drop j) := by
  obtain ⟨starts, inside, first⟩ := List.find?_range'_eq_some.mp found
  have inside := List.mem_range'_1.mp inside
  exact ⟨inside.1, by omega, by simpa using starts, fun j low high => by simpa using first j low high⟩

theorem nextBoundary_eq_some (low : 3 ≤ i) (high : i < bytes.length) (starts : StartsUnit (bytes.drop i))
    (first : ∀ j, 3 ≤ j → j < i → ¬ StartsUnit (bytes.drop j)) : nextBoundary bytes = some i := by
  refine List.find?_range'_eq_some.mpr ⟨by simpa using starts, ?_, fun j low high => ?_⟩
  · exact List.mem_range'_1.mpr ⟨low, by omega⟩
  · simpa using first j low high

theorem nextBoundary_none (missing : nextBoundary bytes = none) (low : 3 ≤ i) :
    ¬ StartsUnit (bytes.drop i) := by
  by_cases high : i < bytes.length
  · simpa using List.find?_range'_eq_none.mp missing i low (by omega)
  · rw [List.drop_eq_nil_of_le (Nat.le_of_not_lt high)]
    decide

end Boundaries

/-- The units of a stream: each goes up to the next boundary, the last to the end. -/
def division (content : List UInt8) : List (List UInt8) :=
  match _ : nextBoundary content with
  | some i => content.take i :: division (content.drop i)
  | none => [content]
  termination_by content.length
  decreasing_by
    obtain ⟨low, high, _⟩ := nextBoundary_some ‹_›
    rw [List.length_drop]
    omega

section Windows
variable {window : List UInt8} {i : Nat}

theorem startCodeAt_iff (window : List UInt8) (i : Nat) :
    startCodeAt window i = true ↔ StartsUnit (window.drop i) := by
  have byte (k : Nat) : window[i + k]? = (window.drop i)[k]? := List.getElem?_drop.symm
  have inside (k : Nat) : i + k < window.length ↔ k < (window.drop i).length := by
    rw [List.length_drop]
    omega
  have first : window[i]? = (window.drop i)[0]? := byte 0
  have zero (x : UInt8) : 0 = x ↔ x = 0 := eq_comm
  have one (x : UInt8) : 1 = x ↔ x = 1 := eq_comm
  simp only [startCodeAt, byte, first, inside]
  rcases window.drop i with _ | ⟨a, _ | ⟨b, _ | ⟨c, _ | ⟨d, rest⟩⟩⟩⟩
  · decide
  · simp [StartsUnit]
  · simp [StartsUnit]
  · simp [StartsUnit, zero, one, and_assoc]
  · simp [StartsUnit, zero, one, and_assoc]

theorem nextStartCode_eq (window : List UInt8) : nextStartCode window = nextBoundary window := by
  unfold nextStartCode nextBoundary
  congr 1
  funext i
  rw [Bool.eq_iff_iff, startCodeAt_iff, decide_eq_true_iff]

/-- A boundary with room for a whole code behind it does not depend on what follows. -/
theorem startsUnit_take {bytes : List UInt8} {limit : Nat} :
    (StartsUnit (bytes.take limit) → StartsUnit bytes) ∧
      (4 ≤ limit → StartsUnit bytes → StartsUnit (bytes.take limit)) := by
  constructor
  · rintro (short | long)
    · exact .inl (short.trans (List.take_prefix ..))
    · exact .inr (long.trans (List.take_prefix ..))
  · rintro room (short | long)
    · exact .inl (List.prefix_take_iff.mpr ⟨short, by simp; omega⟩)
    · exact .inr (List.prefix_take_iff.mpr ⟨long, by simpa using room⟩)

theorem nextBoundary_take {content : List UInt8} {limit : Nat}
    (found : nextBoundary content = some i) (room : i + 4 ≤ limit) :
    nextBoundary (content.take limit) = some i := by
  obtain ⟨low, high, starts, first⟩ := nextBoundary_some found
  refine nextBoundary_eq_some low ?_ ?_ fun j low high begins => ?_
  · rw [List.length_take]
    omega
  · rw [List.drop_take]
    exact startsUnit_take.2 (by omega) starts
  · rw [List.drop_take] at begins
    exact first j low high (startsUnit_take.1 begins)

end Windows

section Producer
variable {r : Reader} {content : List UInt8} {i : Nat}

theorem runProducer_eof (ended : r.h264File.eof = true) : runProducer r = [] := by
  rw [runProducer, readNextFrame_eof ended]
  rfl

theorem division_some (found : nextBoundary content = some i) :
    division content = content.take i :: division (content.drop i) := by
  rw [division]
  split
  · rename_i other
    obtain rfl := Option.some.inj (other.symm.trans found)
    rfl
  · rename_i missing
    rw [missing] at found
    contradiction

theorem division_none (missing : nextBoundary content = none) : division content = [content] := by
  rw [division]
  split
  · rename_i found
    rw [missing] at found
    contradiction
  · rfl

/-- From the start of a unit the producer returns units of the division, in order. -/
theorem runProducer_prefix (here : r.h264File.StandsBefore content)
    (small : ∀ unit ∈ division content, unit.length ≤ maxFrameSize - 4) :
    runProducer r <+: division content := by
  induction content using division.induct generalizing r with
  | case1 content i found ih =>
    obtain ⟨low, high, _⟩ := nextBoundary_some found
    rw [division_some found] at small ⊢
    have room : i ≤ maxFrameSize - 4 := by
      have first := small (content.take i) List.mem_cons_self
      rw [List.length_take] at first
      omega
    have limit : 4 ≤ maxFrameSize := by decide
    have window : (r.h264File.read maxFrameSize).1 = content.take maxFrameSize := here.read maxFrameSize
    have scanned : nextStartCode (r.h264File.read maxFrameSize).1 = some i := by
      rw [window, nextStartCode_eq]
      exact nextBoundary_take found (by omega)
    have result := readNextFrame_found here.ready scanned
    have positive : 0 < (readNextFrame r).1 := by
      rw [result]
      exact Int.natCast_pos.mpr (by omega)
    have frame : (readNextFrame r).2.frameBuf.take (readNextFrame r).1.toNat = content.take i := by
      rw [result, window, overlay, Int.toNat_natCast, List.take_append_of_le_length, List.take_take]
      · rw [Nat.min_eq_left (by omega)]
      · rw [List.length_take]
        omega
    rw [runProducer, if_pos positive, frame, List.cons_prefix_cons]
    refine ⟨rfl, ?_⟩
    by_cases full : maxFrameSize ≤ content.length
    · -- The stream goes back from the end of the window to the boundary.
      have length : (r.h264File.read maxFrameSize).1.length = maxFrameSize := by
        rw [window, List.length_take, Nat.min_eq_left full]
      have left := here.seekBack full (show maxFrameSize - i ≤ maxFrameSize by omega)
      rw [show maxFrameSize - (maxFrameSize - i) = i by omega] at left
      have next : (readNextFrame r).2.h264File.StandsBefore (content.drop i) := by
        rw [result]
        dsimp only
        rw [length, if_neg (by simp [(here.read_full full).ready])]
        exact left
      exact ih next fun unit member => small unit (List.mem_cons_of_mem _ member)
    · -- The window held everything, and nothing is read any more.
      have ended := here.read_short (Nat.lt_of_not_le full)
      have lost : (readNextFrame r).2.h264File.eof = true := by
        rw [result]
        dsimp only
        rw [if_pos ended, ended]
      rw [runProducer_eof lost]
      exact List.nil_prefix
  | case2 content missing =>
    rw [division_none missing] at small ⊢
    have short : content.length < maxFrameSize := by
      have last := small content List.mem_cons_self
      have limit : 4 ≤ maxFrameSize := by decide
      omega
    have scanned : nextStartCode (r.h264File.read maxFrameSize).1 = none := by
      rw [here.read, List.take_of_length_le (Nat.le_of_lt short), nextStartCode_eq]
      exact missing
    rw [runProducer, readNextFrame_missing here.ready scanned, readNextFrame_eof (here.read_short short)]
    exact List.nil_prefix

end Producer
section Units
variable {content : List UInt8} {i : Nat}

theorem division_flatten (content : List UInt8) : (division content).flatten = content := by
  induction content using division.induct with
  | case1 content i found ih =>
    rw [division_some found, List.flatten_cons, ih, List.take_append_drop]
  | case2 content missing =>
    rw [division_none missing, List.flatten_cons, List.flatten_nil, List.append_nil]

theorem take_unit (starts : StartsUnit content) (low : 3 ≤ i)
    (clear : ∀ j, 3 ≤ j → j < i → ¬ StartsUnit (content.drop j))
    (ends : i = content.length ∨ StartsUnit (content.drop i)) :
    ∃ unit : NalUnit, content.take i = unit.bytes ∧ ¬ [0, 0, 1] <:+: unit.nal := by
  have alone (code nal : List UInt8) (parts : content.take i = code ++ nal) (size : 3 ≤ code.length) :
      ¬ [0, 0, 1] <:+: nal := by
    rintro ⟨before, after, rfl⟩
    have length := congrArg List.length parts
    simp only [List.length_take, List.length_append, List.length_cons, List.length_nil] at length
    have whole : content = (code ++ before) ++ ([0, 0, 1] ++ (after ++ content.drop i)) :=
      calc content = content.take i ++ content.drop i := (List.take_append_drop i content).symm
        _ = _ := by
          rw [parts]
          simp
    apply clear (code ++ before).length
    · rw [List.length_append]
      omega
    · rw [List.length_append]
      omega
    · rw [whole, List.drop_left]
      exact .inl (List.prefix_append ..)
  rcases starts with ⟨rest, rfl⟩ | ⟨rest, rfl⟩
  · obtain ⟨k, rfl⟩ := Nat.exists_eq_add_of_le' low
    exact ⟨⟨false, rest.take k⟩, rfl, alone [0, 0, 1] _ rfl (by decide)⟩
  · -- A unit behind a long code is not cut inside the code.
    have four : 4 ≤ i := by
      refine Nat.lt_of_le_of_ne low ?_
      rintro rfl
      rcases ends with short | starts
      · simp at short
      · simp [StartsUnit] at starts
    obtain ⟨k, rfl⟩ := Nat.exists_eq_add_of_le' four
    exact ⟨⟨true, rest.take k⟩, rfl, alone [0, 0, 0, 1] _ rfl (by decide)⟩

theorem division_units (starts : StartsUnit content) :
    ∀ frame ∈ division content, ∃ unit : NalUnit, frame = unit.bytes ∧ ¬ [0, 0, 1] <:+: unit.nal := by
  induction content using division.induct with
  | case1 content i found ih =>
    obtain ⟨low, _, next, clear⟩ := nextBoundary_some found
    rw [division_some found, List.forall_mem_cons]
    exact ⟨take_unit starts low clear (.inr next), ih next⟩
  | case2 content missing =>
    have low : 3 ≤ content.length := by
      rcases starts with short | long
      · exact short.length_le
      · exact Nat.le_of_succ_le long.length_le
    rw [division_none missing, List.forall_mem_singleton]
    have last := take_unit starts low (fun j low _ => nextBoundary_none missing low) (.inl rfl)
    rwa [List.take_length] at last

end Units

/-- The frames that the producer enqueues are units of the division, in order from the
first, each one start code and its NAL unit. -/
theorem segmentation_sound (content : List UInt8) (starts : StartsUnit content)
    (small : ∀ unit ∈ division content, unit.length ≤ maxFrameSize - 4) :
    (division content).flatten = content ∧ runProducer (openTrack content) <+: division content ∧
      ∀ frame ∈ runProducer (openTrack content),
        ∃ unit : NalUnit, frame = unit.bytes ∧ ¬ [0, 0, 1] <:+: unit.nal := by
  have units := runProducer_prefix (r := openTrack content) (.openFile content) small
  exact ⟨division_flatten content, units, fun frame member =>
    division_units starts frame (units.subset member)⟩

/-- A parameter set behind a long code and a picture behind a short one. -/
theorem segmentation_sound_two :
    division [0, 0, 0, 1, 0x67, 0x42, 0, 0, 1, 0x65, 0x88] =
        [[0, 0, 0, 1, 0x67, 0x42], [0, 0, 1, 0x65, 0x88]] ∧
      runProducer (openTrack [0, 0, 0, 1, 0x67, 0x42, 0, 0, 1, 0x65, 0x88]) <+:
        division [0, 0, 0, 1, 0x67, 0x42, 0, 0, 1, 0x65, 0x88] := by
  have units : division [0, 0, 0, 1, 0x67, 0x42, 0, 0, 1, 0x65, 0x88] =
      [[0, 0, 0, 1, 0x67, 0x42], [0, 0, 1, 0x65, 0x88]] := by decide +kernel
  refine ⟨units, (segmentation_sound _ (by decide) ?_).2.1⟩
  rw [units, List.forall_mem_cons, List.forall_mem_singleton]
  exact ⟨by decide, by decide⟩

end TinyRtsp.H264MediaTrack
