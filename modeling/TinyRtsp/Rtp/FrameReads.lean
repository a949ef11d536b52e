import TinyRtsp.Media.H264Track
import TinyRtsp.Rtp.Destination

/-! What `send_h264` reads of the frames that `read_next_frame` returns. It compares
bytes before it looks at the size, and a frame ends wherever a start code begins. -/
namespace TinyRtsp.RtpRtcpHandler
open H264MediaTrack (readNextFrame returnedFrame openTrack)

/-- `send_h264` reads the frame below its size only, from whatever handler. -/
def ReadsInside (payload : List UInt8) : Prop :=
  ∀ link i after, (sendH264 payload).run link ≠ .error (.readOutOfBounds i) after

abbrev StaysInside {A : Type} (send : Sending A) (Q : A → Prop) : Prop :=
  Triple (fun _ => True) send (fun a _ => Q a ∧ True) fun e _ => ∀ i, e ≠ .readOutOfBounds i

section Sends
variable {payload : List UInt8} {i offset size : Nat} {byte : UInt8}

theorem byteAt_inside (inside : payload[i]? = some byte) : StaysInside (byteAt payload i) fun _ => True := by
  intro link _
  rw [byteAt_run inside]
  exact ⟨trivial, trivial⟩

theorem slice_inside (inside : offset + size ≤ payload.length) :
    StaysInside (slice payload offset size) fun _ => True := by
  intro link _
  rw [slice_run inside]
  exact ⟨trivial, trivial⟩

theorem sendPacket_staysInside (payloadType : MediaType) (marker : Bool) (body : List UInt8) :
    StaysInside (sendPacket payloadType marker body) fun _ => True := by
  intro link _
  rcases sendPacket_cases payloadType marker body link with
    ⟨_, ran⟩ | ⟨_, ⟨_, what, ran⟩ | ⟨address, _, ran⟩⟩
  · rw [ran]
    exact fun _ same => Fault.noConfusion same
  · rw [ran]
    exact fun _ same => Fault.noConfusion same
  · rw [ran]
    exact ⟨trivial, trivial⟩

theorem sendFragments_inside {startCode : Nat} (inside : payload[startCode]? = some byte) (offset : Nat)
    (first : Bool) : StaysInside (sendFragments payload startCode offset first) fun _ => True := by
  induction offset, first using sendFragments.induct payload with
  | case1 offset first more ih =>
    have fits : offset + fragmentSize payload offset ≤ payload.length := by
      simp only [fragmentSize]
      omega
    rw [sendFragments, if_pos more]
    refine .bind (byteAt_inside inside) fun _ => .fact fun _ => ?_
    refine .bind (byteAt_inside inside) fun _ => .fact fun _ => ?_
    refine .bind (slice_inside fits) fun _ => .fact fun _ => ?_
    exact .bind (sendPacket_staysInside _ _ _) fun _ => .fact fun _ => ih
  | case2 offset first done =>
    rw [sendFragments, if_neg done]
    exact .pure fun _ _ => ⟨trivial, trivial⟩

theorem sendH264_staysInside (safe : Call.Safe ⟨payload, .h264⟩) :
    StaysInside (sendH264 payload) fun _ => True := by
  have found : StaysInside (startCode payload) fun code => code = annexBCode payload := by
    intro link _
    rw [startCode_run safe]
    exact ⟨rfl, trivial⟩
  have counts : StaysInside (modify fun link => { link with handler := link.handler.count })
      fun _ => True := .modify fun _ _ => ⟨trivial, trivial⟩
  have advances : StaysInside (modify fun link => { link with handler := link.handler.advance })
      fun _ => True := .modify fun _ _ => ⟨trivial, trivial⟩
  refine .bind found fun code => .fact fun same => ?_
  subst code
  rcases annexBCode_cases safe with none | ⟨code, nalHeader, data, rfl, _, here⟩
  · rw [none]
    exact .pure fun _ _ => ⟨trivial, trivial⟩
  · have inside : (code ++ nalHeader :: data)[code.length]? = some nalHeader := by simp
    rw [here]
    dsimp only
    split
    · refine .bind (sendFragments_inside inside _ _) fun _ => .fact fun _ => ?_
      exact .bind advances fun _ => .fact fun _ => counts
    · refine .bind (sendPacket_staysInside _ _ _) fun _ => .fact fun _ => ?_
      refine .bind (byteAt_inside inside) fun _ => .fact fun _ => ?_
      split
      · exact .bind advances fun _ => .fact fun _ => counts
      · exact counts

theorem readsInside_iff : ReadsInside payload ↔ Call.Safe ⟨payload, .h264⟩ := by
  constructor
  · intro inside
    by_contra part
    -- a handler with a client address gets as far as the read
    let link : Link := ⟨.new (Ipv4.inetNtoa ⟨0, 0, 0, 0⟩) 0 0 0 ⟨0, ⟨0, 0, 0, 0⟩⟩, []⟩
    obtain ⟨i, after, ran⟩ : ∃ i after, (sendH264 payload).run link =
        .error (.readOutOfBounds i) after := sendH264_faults (Ipv4.inetPton_inetNtoa _) part
    exact inside link i after ran
  · intro safe link i after ran
    have never := sendH264_staysInside safe link trivial
    rw [ran] at never
    exact never i rfl

end Sends

section Frames
variable {r : H264MediaTrack.Reader}

theorem returnedFrame_length (returned : 0 < (readNextFrame r).1) : 3 ≤ (returnedFrame r).length := by
  obtain failed | ⟨i, size, low, held, _⟩ := H264MediaTrack.readNextFrame_advances r
  · omega
  · rw [returnedFrame, size, Int.toNat_natCast, List.length_take]
    omega

/-- The frames that end with their start code or inside it: a start code that another
one follows, and three zeros before one. -/
def bareFrames : List (List UInt8) := [[0, 0, 0], [0, 0, 1], [0, 0, 0, 1]]

theorem safe_iff_notBare {payload : List UInt8} (size : 3 ≤ payload.length) :
    Call.Safe ⟨payload, .h264⟩ ↔ payload ∉ bareFrames := by
  have parts : payload <+: [0, 0, 1] ∨ payload <+: [0, 0, 0, 1] ↔ payload ∈ bareFrames := by
    constructor
    · rintro (⟨rest, whole⟩ | ⟨rest, whole⟩)
      · obtain _ | ⟨_, _ | ⟨_, _ | ⟨_, payload⟩⟩⟩ := payload <;> simp_all [bareFrames]
      · obtain _ | ⟨_, _ | ⟨_, _ | ⟨_, _ | ⟨_, payload⟩⟩⟩⟩ := payload <;> simp_all [bareFrames]
    · intro member
      simp only [bareFrames, List.mem_cons, List.not_mem_nil, or_false] at member
      rcases member with rfl | rfl | rfl <;> decide
  rw [← parts, not_or]
  exact Iff.rfl

/-- A frame is read below its size exactly when it does not end with its start code. -/
theorem frame_reads_inside_iff (r : H264MediaTrack.Reader) (returned : 0 < (readNextFrame r).1) :
    ReadsInside (returnedFrame r) ↔ returnedFrame r ∉ bareFrames :=
  readsInside_iff.trans (safe_iff_notBare (returnedFrame_length returned))

/-- A picture of two bytes before the next start code. -/
theorem frame_reads_inside_iff_picture :
    ReadsInside (returnedFrame (openTrack [0, 0, 1, 0x65, 0x88, 0, 0, 1, 0x41])) := by
  have found := H264MediaTrack.readNextFrame_found
    (r := openTrack [0, 0, 1, 0x65, 0x88, 0, 0, 1, 0x41]) (i := 5) rfl (by decide)
  refine (frame_reads_inside_iff _ (by rw [found]; decide)).mpr ?_
  rw [returnedFrame, found]
  decide

/-- A start code directly behind another: the NAL header that `send_h264` reads is the
byte after the frame. -/
theorem adjacent_start_codes : ¬ ∀ content : List UInt8, 0 < (readNextFrame (openTrack content)).1 →
    ReadsInside (returnedFrame (openTrack content)) := by
  intro claim
  have found := H264MediaTrack.readNextFrame_found
    (r := openTrack [0, 0, 1, 0, 0, 1, 0x65]) (i := 3) rfl (by decide)
  have positive : 0 < (readNextFrame (openTrack [0, 0, 1, 0, 0, 1, 0x65])).1 := by
    rw [found]
    decide
  have bare : returnedFrame (openTrack [0, 0, 1, 0, 0, 1, 0x65]) = [0, 0, 1] := by
    rw [returnedFrame, found]
    decide
  have inside := claim _ positive
  rw [bare, readsInside_iff] at inside
  exact absurd inside (by decide)

end Frames
end TinyRtsp.RtpRtcpHandler
