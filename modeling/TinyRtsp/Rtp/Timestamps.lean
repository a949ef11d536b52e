import TinyRtsp.Rtp.Stream

/-! By how much `send_h264` moves the timestamp. Its two branches each have their own
update, and only the one for a single packet skips the parameter sets. -/
namespace TinyRtsp.RtpRtcpHandler

/-- A frame of `send_h264` that a NAL unit fills: a start code, the NAL header and
what is behind it. -/
structure NalFrame where
  longCode : Bool
  nalHeader : UInt8
  data : List UInt8

namespace NalFrame

def code (frame : NalFrame) : List UInt8 := if frame.longCode then [0, 0, 0, 1] else [0, 0, 1]

def bytes (frame : NalFrame) : List UInt8 := frame.code ++ frame.nalHeader :: frame.data

def IsParameterSet (frame : NalFrame) : Prop :=
  frame.nalHeader &&& 0x1F = 7 ∨ frame.nalHeader &&& 0x1F = 8

instance (frame : NalFrame) : Decidable frame.IsParameterSet := inferInstanceAs (Decidable (_ ∨ _))

def FitsPacket (frame : NalFrame) : Prop := frame.data.length + 1 ≤ maxPayloadSize

/-- By how much the timestamp moves for the frame. -/
def due (frame : NalFrame) (timestampIncrement : UInt32) : UInt32 :=
  if frame.IsParameterSet then 0 else timestampIncrement

/-- The frame is sent and moves the timestamp by that amount. -/
def OnTime (frame : NalFrame) (link : Link) (amount : UInt32) : Prop :=
  ∃ after, (sendH264 frame.bytes).run link = .ok () after ∧
    after.handler.timestamp = link.handler.timestamp + amount

variable {frame : NalFrame} {link : Link} {amount : UInt32}

theorem code_annexB (frame : NalFrame) : frame.code = [0, 0, 1] ∨ frame.code = [0, 0, 0, 1] := by
  unfold code
  split
  · exact .inr rfl
  · exact .inl rfl

theorem not_advances_iff :
    ¬ advances frame.nalHeader frame.data ↔ frame.FitsPacket ∧ frame.IsParameterSet := by
  simp only [advances, FitsPacket, IsParameterSet, not_or, not_and_or, not_not, Nat.not_lt]

/-- What was sent does not touch the timestamp; the update after it is for all frames
that the branch taken does not skip. -/
theorem sendH264_timestamp {address : Ipv4} (known : Ipv4.inetPton link.handler.ip = some address) :
    ∃ after, (sendH264 frame.bytes).run link = .ok () after ∧ after.handler.timestamp =
      if advances frame.nalHeader frame.data then link.handler.timestamp + link.handler.timestampIncrement
      else link.handler.timestamp := by
  obtain ⟨clientAddress, handler⟩ := @deliver_handler address (nalPackets frame.nalHeader frame.data) link
  refine ⟨_, sendH264_run frame.code_annexB known, ?_⟩
  dsimp only
  split
  · simp only [Handler.advance, Handler.count, handler]
  · simp only [Handler.count, handler]

theorem sendH264_unknown (unknown : Ipv4.inetPton link.handler.ip = none) :
    ∃ e after, (sendH264 frame.bytes).run link = .error e after := by
  have fails (marker : Bool) (body : List UInt8) :
      ∃ e after, (sendPacket .h264 marker body).run link = .error e after := by
    rcases sendPacket_cases .h264 marker body link with ⟨_, ran⟩ | ⟨_, ⟨_, what, ran⟩ | ⟨address, known, _⟩⟩
    · exact ⟨_, _, ran⟩
    · exact ⟨_, _, ran⟩
    · rw [unknown] at known
      contradiction
  have found : (startCode frame.bytes).run link = .ok (some frame.code.length) link := by
    unfold bytes
    rcases frame.code_annexB with code | code
    · rw [code]
      exact startCode_short _
    · rw [code]
      exact startCode_long _
  have inside : frame.bytes[frame.code.length]? = some frame.nalHeader := by simp [bytes]
  simp only [sendH264, EStateM.run_bind, found]
  split
  · rename_i long
    have more : frame.code.length + 1 < frame.bytes.length := by
      have : 1 ≤ maxPayloadSize := by decide
      omega
    have fits : frame.code.length + 1 + fragmentSize frame.bytes (frame.code.length + 1) ≤
        frame.bytes.length := by
      simp only [fragmentSize]
      omega
    let last := frame.code.length + 1 + fragmentSize frame.bytes (frame.code.length + 1) == frame.bytes.length
    obtain ⟨e, after, ran⟩ := fails last
      ([fuIndicator frame.nalHeader, fuHeader true last frame.nalHeader] ++
        (frame.bytes.drop (frame.code.length + 1)).take (fragmentSize frame.bytes (frame.code.length + 1)))
    refine ⟨e, after, ?_⟩
    rw [sendFragments, if_pos more]
    simp only [EStateM.run_bind, byteAt_run inside, slice_run fits, last] at ran ⊢
    rw [ran]
  · obtain ⟨e, after, ran⟩ := fails true (frame.bytes.drop frame.code.length)
    exact ⟨e, after, by simp only [EStateM.run_bind, ran]⟩

theorem onTime_iff : frame.OnTime link (frame.due link.handler.timestampIncrement) ↔
    (Ipv4.inetPton link.handler.ip).isSome ∧
      (¬ frame.IsParameterSet ∨ link.handler.timestampIncrement = 0 ∨ frame.FitsPacket) := by
  cases client : Ipv4.inetPton link.handler.ip with
  | none =>
    obtain ⟨e, failed, faults⟩ := @sendH264_unknown frame link client
    refine iff_of_false ?_ (by simp)
    rintro ⟨after, ran, _⟩
    rw [faults] at ran
    contradiction
  | some address =>
    obtain ⟨after, ran, moved⟩ := @sendH264_timestamp frame link address client
    have outcome : frame.OnTime link (frame.due link.handler.timestampIncrement) ↔
        after.handler.timestamp = link.handler.timestamp + frame.due link.handler.timestampIncrement := by
      constructor
      · rintro ⟨other, same, time⟩
        obtain ⟨_, rfl⟩ := EStateM.Result.ok.inj (ran.symm.trans same)
        exact time
      · exact fun time => ⟨after, ran, time⟩
    rw [outcome, moved, due]
    by_cases parameterSet : frame.IsParameterSet
    · by_cases fits : frame.FitsPacket
      · have skipped := not_advances_iff.mpr ⟨fits, parameterSet⟩
        simp [parameterSet, fits, skipped]
      · have moves : advances frame.nalHeader frame.data := by
          by_contra skipped
          exact fits (not_advances_iff.mp skipped).1
        simp [parameterSet, fits, moves]
    · have moves : advances frame.nalHeader frame.data := by
        by_contra skipped
        exact parameterSet (not_advances_iff.mp skipped).2
      simp [parameterSet, moves]

end NalFrame

/-- Two frames with the same NAL header move the timestamp by what is due for it
exactly when the client's address converts and no parameter set is fragmented, or the
increment is 0. -/
theorem timestamps_agree_iff (link : Link) (first second : NalFrame)
    (same : second.nalHeader = first.nalHeader) :
    (first.OnTime link (first.due link.handler.timestampIncrement) ∧
        second.OnTime link (first.due link.handler.timestampIncrement)) ↔
      (Ipv4.inetPton link.handler.ip).isSome ∧
        (¬ first.IsParameterSet ∨ link.handler.timestampIncrement = 0 ∨
          first.FitsPacket ∧ second.FitsPacket) := by
  have kind : second.IsParameterSet ↔ first.IsParameterSet := by
    rw [NalFrame.IsParameterSet, same]
    exact Iff.rfl
  have due : second.due link.handler.timestampIncrement = first.due link.handler.timestampIncrement := by
    simp only [NalFrame.due, kind]
  rw [NalFrame.onTime_iff, ← due, NalFrame.onTime_iff, kind]
  tauto

/-- Two pictures, one of them fragmented. -/
theorem timestamps_agree_iff_pictures : ∃ link : Link,
    NalFrame.OnTime ⟨true, 0x65, List.replicate 2000 1⟩ link 3600 ∧
      NalFrame.OnTime ⟨false, 0x65, [1]⟩ link 3600 := by
  let link : Link := ⟨.new (Ipv4.inetNtoa ⟨10, 0, 0, 7⟩) 5000 3600 1 ⟨0, ⟨0, 0, 0, 0⟩⟩, []⟩
  have known : (Ipv4.inetPton link.handler.ip).isSome := by
    rw [show link.handler.ip = Ipv4.inetNtoa ⟨10, 0, 0, 7⟩ from rfl, Ipv4.inetPton_inetNtoa]
    rfl
  exact ⟨link, (timestamps_agree_iff link ⟨true, 0x65, List.replicate 2000 1⟩ ⟨false, 0x65, [1]⟩ rfl).mpr
    ⟨known, .inl (by decide)⟩⟩

/-- A sequence parameter set that is fragmented moves the timestamp, and one that is
not does not. -/
theorem large_parameter_set_moves : ¬ ∀ (link : Link) (first second : NalFrame),
    link.handler.ip = Ipv4.inetNtoa ⟨10, 0, 0, 7⟩ → second.nalHeader = first.nalHeader →
      first.OnTime link (first.due link.handler.timestampIncrement) ∧
        second.OnTime link (first.due link.handler.timestampIncrement) := by
  intro claim
  let link : Link := ⟨.new (Ipv4.inetNtoa ⟨10, 0, 0, 7⟩) 5000 3600 1 ⟨0, ⟨0, 0, 0, 0⟩⟩, []⟩
  have large := (claim link ⟨true, 0x67, List.replicate 1012 0⟩ ⟨true, 0x67, []⟩ rfl rfl).1
  rcases (NalFrame.onTime_iff.mp large).2 with picture | still | fits
  · exact absurd picture (by decide)
  · exact absurd still (by decide)
  · rw [NalFrame.FitsPacket, List.length_replicate] at fits
    exact absurd fits (by decide)

end TinyRtsp.RtpRtcpHandler
