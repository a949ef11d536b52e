import TinyRtsp.Media.Segmentation

/-! How much of an H.264 file its producer enqueues. The window in which a frame is
found gives the stream back from the next unit on only while it is full, so a unit
comes out when its predecessor has a whole window before it, and what is lost of the
file is shorter than a window. -/
namespace TinyRtsp.H264MediaTrack

/-- What is enqueued of the units of a file: never the last one, and none behind the
first that a window does not fill. -/
def enqueued : List (List UInt8) → List (List UInt8)
  | unit :: next :: rest =>
    unit :: if maxFrameSize ≤ (unit :: next :: rest).flatten.length then enqueued (next :: rest) else []
  | _ => []

section Calls
variable {r : Reader} {content : List UInt8} {i : Nat}

/-- A call that stands before a unit returns it. The stream then stands behind the unit
if a whole window was left, and has ended otherwise. -/
theorem readNextFrame_unit (here : r.h264File.StandsBefore content) (found : nextBoundary content = some i)
    (room : i + 4 ≤ maxFrameSize) :
    (readNextFrame r).1 = i ∧ returnedFrame r = content.take i ∧
      (maxFrameSize ≤ content.length → (readNextFrame r).2.h264File.StandsBefore (content.drop i)) ∧
      (content.length < maxFrameSize → (readNextFrame r).2.h264File.eof = true) := by
  have window : (r.h264File.read maxFrameSize).1 = content.take maxFrameSize := here.read maxFrameSize
  have scanned : nextStartCode (r.h264File.read maxFrameSize).1 = some i := by
    rw [window, nextStartCode_eq]
    exact nextBoundary_take found room
  have inside := (nextBoundary_some found).2.1
  rw [returnedFrame, readNextFrame_found here.ready scanned]
  refine ⟨rfl, ?_, fun full => ?_, fun short => ?_⟩
  · rw [window, overlay, Int.toNat_natCast, List.take_append_of_le_length, List.take_take,
      Nat.min_eq_left (by omega)]
    rw [List.length_take]
    omega
  · have left := here.seekBack full (show maxFrameSize - i ≤ maxFrameSize by omega)
    have length : (r.h264File.read maxFrameSize).1.length = maxFrameSize := by
      rw [window, List.length_take, Nat.min_eq_left full]
    dsimp only
    rw [if_neg (by simp [(here.read_full full).ready]), length]
    rwa [show maxFrameSize - (maxFrameSize - i) = i by omega] at left
  · have ended := here.read_short short
    dsimp only
    rw [if_pos ended, ended]

/-- Where no unit follows, the call reads to the end of the file and fails. -/
theorem readNextFrame_last (here : r.h264File.StandsBefore content) (missing : nextBoundary content = none)
    (short : content.length < maxFrameSize) : (readNextFrame r).1 = -1 := by
  have scanned : nextStartCode (r.h264File.read maxFrameSize).1 = none := by
    rw [here.read, List.take_of_length_le (Nat.le_of_lt short), nextStartCode_eq]
    exact missing
  rw [readNextFrame_missing here.ready scanned, readNextFrame_eof (here.read_short short)]

theorem division_nonempty (content : List UInt8) : ∃ unit rest, division content = unit :: rest := by
  cases found : nextBoundary content with
  | some i => exact ⟨_, _, division_some found⟩
  | none => exact ⟨_, _, division_none found⟩

theorem runProducer_eq (here : r.h264File.StandsBefore content)
    (small : ∀ unit ∈ division content, unit.length ≤ maxFrameSize - 4) :
    runProducer r = enqueued (division content) := by
  have limit : 4 ≤ maxFrameSize := by decide
  induction content using division.induct generalizing r with
  | case1 content i found ih =>
    obtain ⟨low, high, _⟩ := nextBoundary_some found
    rw [division_some found] at small ⊢
    have room : i + 4 ≤ maxFrameSize := by
      have first := small (content.take i) List.mem_cons_self
      rw [List.length_take] at first
      omega
    obtain ⟨size, frame, full, short⟩ := readNextFrame_unit here found room
    have positive : 0 < (readNextFrame r).1 := by omega
    have whole : (content.take i :: division (content.drop i)).flatten = content := by
      rw [List.flatten_cons, division_flatten, List.take_append_drop]
    obtain ⟨next, rest, units⟩ := division_nonempty (content.drop i)
    rw [runProducer, if_pos positive]
    rw [returnedFrame] at frame
    rw [frame]
    rw [units] at whole ih ⊢
    rw [enqueued, whole]
    congr 1
    by_cases left : maxFrameSize ≤ content.length
    · rw [if_pos left]
      rw [units] at small
      exact ih (full left) fun unit member => small unit (List.mem_cons_of_mem _ member)
    · rw [if_neg left]
      exact runProducer_eof (short (Nat.lt_of_not_le left))
  | case2 content missing =>
    rw [division_none missing] at small ⊢
    have last := small content List.mem_cons_self
    have failed := readNextFrame_last here missing (show content.length < maxFrameSize by omega)
    rw [runProducer, failed, if_neg (by decide), enqueued]
    rintro unit next rest same
    simp at same

end Calls

section Units
variable {units : List (List UInt8)}

theorem enqueued_front (units : List (List UInt8)) : enqueued units <+: units := by
  induction units using enqueued.induct with
  | case1 unit next rest ih =>
    rw [enqueued, List.cons_prefix_cons]
    refine ⟨rfl, ?_⟩
    split
    · exact ih
    · exact List.nil_prefix
  | case2 units _ =>
    rw [enqueued]
    · exact List.nil_prefix
    · assumption

/-- The unit at an index comes out if it is not the last and its predecessor begins at
least a window before the end. -/
theorem lt_enqueued_length (units : List (List UInt8)) (i : Nat) : i < (enqueued units).length ↔
    i + 1 < units.length ∧ (i = 0 ∨ maxFrameSize ≤ (units.drop (i - 1)).flatten.length) := by
  induction units using enqueued.induct generalizing i with
  | case1 unit next rest ih =>
    rw [enqueued, List.length_cons]
    cases i with
    | zero => simp
    | succ i =>
      have shift : i + 1 < (if maxFrameSize ≤ (unit :: next :: rest).flatten.length then
          enqueued (next :: rest) else []).length + 1 ↔
          maxFrameSize ≤ (unit :: next :: rest).flatten.length ∧ i < (enqueued (next :: rest)).length := by
        by_cases full : maxFrameSize ≤ (unit :: next :: rest).flatten.length
        · rw [if_pos full, Nat.add_lt_add_iff_right, iff_true_intro full, true_and]
        · rw [if_neg full, iff_false_intro full, false_and, List.length_nil]
          simp
      rw [shift, ih i]
      cases i with
      | zero => simp [and_comm]
      | succ i =>
        -- A whole window behind a later unit is also one behind the first.
        have later : (((next :: rest).drop i).flatten).length ≤ (unit :: next :: rest).flatten.length := by
          obtain ⟨front, whole⟩ : (next :: rest).drop i <:+ unit :: next :: rest :=
            (List.drop_suffix i _).trans (List.suffix_cons unit _)
          rw [← whole, List.flatten_append, List.length_append]
          exact Nat.le_add_left ..
        simp only [List.length_cons, Nat.add_sub_cancel, List.drop_succ_cons, Nat.add_eq_zero_iff,
          Nat.one_ne_zero, and_false, false_or]
        constructor
        · rintro ⟨_, more, left⟩
          exact ⟨by omega, left⟩
        · rintro ⟨more, left⟩
          exact ⟨Nat.le_trans left later, by omega, left⟩
  | case2 units few =>
    have short : units.length ≤ 1 := by
      match units, few with
      | [], _ => exact Nat.zero_le _
      | [_], _ => exact Nat.le_refl _
      | unit :: next :: rest, few => exact absurd rfl (few unit next rest)
    rw [enqueued]
    · simp only [List.length_nil, Nat.not_lt_zero, false_iff, not_and]
      omega
    · exact few

theorem enqueued_length_lt (nonempty : units ≠ []) : (enqueued units).length < units.length := by
  rcases Nat.eq_zero_or_pos (enqueued units).length with none | some
  · rw [none]
    exact List.length_pos_iff.mpr nonempty
  · have last := (lt_enqueued_length units ((enqueued units).length - 1)).mp (Nat.sub_one_lt_of_lt some)
    omega

theorem lost_length (small : ∀ unit ∈ units, unit.length < maxFrameSize) :
    ((units.drop (enqueued units).length).flatten).length < maxFrameSize := by
  induction units using enqueued.induct with
  | case1 unit next rest ih =>
    have later := ih fun unit member => small unit (List.mem_cons_of_mem _ member)
    rw [enqueued, List.length_cons, List.drop_succ_cons]
    split
    · exact later
    · rename_i short
      rw [List.length_nil, List.drop_zero]
      have longer : (next :: rest).flatten.length ≤ (unit :: next :: rest).flatten.length := by
        simp only [List.flatten_cons, List.length_append]
        omega
      omega
  | case2 units few =>
    rw [enqueued]
    · match units, few with
      | [], _ => decide
      | [unit], _ => simpa using small unit
      | unit :: next :: rest, few => exact absurd rfl (few unit next rest)
    · exact few

end Units

/-- Of the units of a file those are enqueued, in order, that are not the last and whose
predecessor begins at least a window before the end of the file. What is lost of the
file is its end: at least one byte, and less than a window. -/
theorem enqueued_exactly (content : List UInt8) (nonempty : content ≠ [])
    (small : ∀ unit ∈ division content, unit.length ≤ maxFrameSize - 4) :
    ∃ lost, content = (runProducer (openTrack content)).flatten ++ lost ∧
      0 < lost.length ∧ lost.length < maxFrameSize ∧
      ∀ i, (runProducer (openTrack content))[i]? =
        if i + 1 < (division content).length ∧
            (i = 0 ∨ maxFrameSize ≤ ((division content).drop (i - 1)).flatten.length)
        then (division content)[i]? else none := by
  have limit : 4 ≤ maxFrameSize := by decide
  have frames : runProducer (openTrack content) = enqueued (division content) :=
    runProducer_eq (.openFile content) small
  have front := List.prefix_iff_eq_take.mp (enqueued_front (division content))
  have whole : content = (enqueued (division content)).flatten ++
      ((division content).drop (enqueued (division content)).length).flatten := by
    have parts := List.take_append_drop (enqueued (division content)).length (division content)
    rw [← front] at parts
    rw [← List.flatten_append, parts, division_flatten]
  refine ⟨((division content).drop (enqueued (division content)).length).flatten, ?_, ?_, ?_, ?_⟩
  · rwa [frames]
  · have left := runProducer_openTrack_length (List.length_pos_iff.mpr nonempty)
    have length := congrArg List.length whole
    rw [List.length_append] at length
    rw [frames] at left
    omega
  · exact lost_length fun unit member => by
      have := small unit member
      omega
  · intro i
    rw [frames]
    split
    · rename_i inside
      rw [front, List.getElem?_take_of_lt ((lt_enqueued_length _ i).mpr inside)]
    · rename_i outside
      refine List.getElem?_eq_none (Nat.le_of_not_lt fun inside => outside ?_)
      exact (lt_enqueued_length _ i).mp inside

/-- Three units in less than a window: the first comes out. -/
theorem enqueued_exactly_three :
    ∃ lost, [0, 0, 1, 0x67, 0, 0, 1, 0x68, 0, 0, 1, 0x65] =
        (runProducer (openTrack [0, 0, 1, 0x67, 0, 0, 1, 0x68, 0, 0, 1, 0x65])).flatten ++ lost ∧
      0 < lost.length ∧ lost.length < maxFrameSize := by
  have units : division [0, 0, 1, 0x67, 0, 0, 1, 0x68, 0, 0, 1, 0x65] =
      [[0, 0, 1, 0x67], [0, 0, 1, 0x68], [0, 0, 1, 0x65]] := by decide +kernel
  obtain ⟨lost, whole, some, few, _⟩ := enqueued_exactly
    [0, 0, 1, 0x67, 0, 0, 1, 0x68, 0, 0, 1, 0x65] (List.cons_ne_nil _ _) (by rw [units]; decide)
  exact ⟨lost, whole, some, few⟩

end TinyRtsp.H264MediaTrack
