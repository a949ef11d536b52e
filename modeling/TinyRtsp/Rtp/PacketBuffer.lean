import TinyRtsp.Media.AacTrack
import TinyRtsp.Rtp.Destination

/-! What `send_rtp_packet` writes to `rtp_buf_` for the frames that the tracks read.
`send_h264` cuts a frame to the size of a packet, `send_aac` does not. -/
namespace TinyRtsp.RtpRtcpHandler

/-- The link has sent nothing since but packets that fitted `rtp_buf_`. -/
def SentFitting (sent : List Datagram) (link : Link) : Prop :=
  ∃ group, link.sent = sent ++ group ∧ ∀ datagram ∈ group, datagram.bytes.length ≤ rtpBufSize

/-- No packet of the call is larger than the buffer it is assembled in, however the
call ends. -/
def PacketsFit (stream : Stream) (call : Call) : Prop :=
  Triple (· = stream) (sendRtpPacket call.payload call.payloadType)
    (fun _ after => SentFitting stream.sent after.toLink)
    fun e after => (∀ size, e ≠ .writeOutOfBounds size) ∧ SentFitting stream.sent after.toLink

section Sends
variable {sent : List Datagram} {stream : Stream} {payload : List UInt8}

abbrev WritesInside (sent : List Datagram) (send : Sending Unit) : Prop :=
  Triple (SentFitting sent) send (fun _ => SentFitting sent) fun e link =>
    (∀ size, e ≠ .writeOutOfBounds size) ∧ SentFitting sent link

theorem sendPacket_inside {body : List UInt8} (fits : RtpHeader.size + body.length ≤ rtpBufSize)
    (payloadType : MediaType) (marker : Bool) :
    WritesInside sent (sendPacket payloadType marker body) := by
  intro link here
  rcases sendPacket_cases payloadType marker body link with
    ⟨large, _⟩ | ⟨_, ⟨_, what, ran⟩ | ⟨address, _, ran⟩⟩
  · omega
  · rw [ran]
    exact ⟨fun _ same => Fault.noConfusion same, here⟩
  · obtain ⟨group, since, fitting⟩ := here
    rw [ran]
    refine ⟨group ++ [_], by rw [since, List.append_assoc], fun datagram member => ?_⟩
    rcases List.mem_append.mp member with earlier | last
    · exact fitting datagram earlier
    · rw [List.mem_singleton.mp last, List.length_append, RtpHeader.bytes_length]
      exact fits

theorem sendH264_inside (payload : List UInt8) : WritesInside sent (sendH264 payload) := by
  refine sendH264_keeps ⟨fun i link here => ⟨fun _ same => Fault.noConfusion same, here⟩,
    fun marker body small => ?_,
    fun _ here => here, fun _ here => here⟩ payload
  have room : RtpHeader.size + maxPayloadSize ≤ rtpBufSize := by decide
  exact sendPacket_inside (by omega) .h264 marker

theorem sendAac_inside (small : payload.length ≤ 1018) : WritesInside sent (sendAac payload) := by
  refine .bind (sendPacket_inside ?_ .aac true) fun _ => .modify fun _ here => here
  have room : RtpHeader.size + 4 + 1018 = rtpBufSize := by decide
  simp only [auHeaders, List.length_append, List.length_cons, List.length_nil]
  omega

theorem packetsFit_of_inside {payloadType : MediaType}
    (inside : WritesInside stream.sent (match payloadType with
      | .h264 => sendH264 payload
      | .aac => sendAac payload)) : PacketsFit stream ⟨payload, payloadType⟩ := by
  refine (sendRtpPacket_keeps inside).weaken ?_ (fun _ _ here => here) fun _ _ here => here
  rintro _ rfl
  exact ⟨[], (List.append_nil _).symm, List.forall_mem_nil _⟩

theorem packetsFit_aac_iff : PacketsFit stream ⟨payload, .aac⟩ ↔ payload.length ≤ 1018 := by
  constructor
  · intro fit
    by_contra large
    obtain ⟨after, ran⟩ : ∃ after, (sendAac payload).run stream.toLink =
        .error (.writeOutOfBounds (payload.length + 16)) after := sendAac_faults large
    have overrun : (sendRtpPacket payload .aac).run stream =
        .error (.writeOutOfBounds (payload.length + 16)) { stream with toLink := after } := by
      simp only [sendRtpPacket, EStateM.run_bind, onLink_error ran]
    have never := fit stream rfl
    rw [overrun] at never
    exact never.1 _ rfl
  · exact fun small => packetsFit_of_inside (sendAac_inside small)

end Sends

/-- Every packet of an H.264 frame fits the buffer, and that of an AAC frame exactly
when the frame has at most 1018 bytes. -/
theorem packets_fit_iff (stream : Stream) :
    (∀ r : H264MediaTrack.Reader, 0 < (H264MediaTrack.readNextFrame r).1 →
      PacketsFit stream ⟨H264MediaTrack.returnedFrame r, .h264⟩) ∧
    ∀ r : AacMediaTrack.Reader, 0 < (AacMediaTrack.readNextFrame r).1 →
      (PacketsFit stream ⟨AacMediaTrack.returnedFrame r, .aac⟩ ↔
        (AacMediaTrack.readNextFrame r).1 ≤ 1018) := by
  refine ⟨fun r _ => packetsFit_of_inside (sendH264_inside _), fun r returned => ?_⟩
  rw [packetsFit_aac_iff, ← AacMediaTrack.returnedFrame_length (Int.le_of_lt returned)]
  omega

/-- A stereo frame of 1019 bytes behind its header. -/
theorem large_frame_overruns : ∃ r,
    r = AacMediaTrack.openTrack ([0xFF, 0xF1, 0x50, 0x80, 0x80, 0x5F, 0xFC] ++ List.replicate 1019 0) ∧
      0 < (AacMediaTrack.readNextFrame r).1 ∧
      ¬ PacketsFit (.new ⟨10, 0, 0, 7⟩ 5000 1025 1 ⟨0, ⟨0, 0, 0, 0⟩⟩)
        ⟨AacMediaTrack.returnedFrame r, .aac⟩ := by
  obtain ⟨r, opened, size⟩ : ∃ r, r = AacMediaTrack.openTrack
      ([0xFF, 0xF1, 0x50, 0x80, 0x80, 0x5F, 0xFC] ++ List.replicate 1019 0) ∧
        (AacMediaTrack.readNextFrame r).1 = 1019 := ⟨_, rfl, by decide +kernel⟩
  have length : ((AacMediaTrack.returnedFrame r).length : Int) = 1019 := by
    rw [AacMediaTrack.returnedFrame_length, size]
    rw [size]
    decide
  refine ⟨r, opened, by rw [size]; decide, fun fit => ?_⟩
  have small := packetsFit_aac_iff.mp fit
  omega

end TinyRtsp.RtpRtcpHandler
