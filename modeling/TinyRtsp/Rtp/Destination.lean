import TinyRtsp.Foundation.Triple
import TinyRtsp.Rtp.Accounting

/-! Where the datagrams of a handler go. RTP packets go to the client's RTP port;
`send_rtcp_packet` gives `sendto` the same `client_addr_`, so its reports go
there too. -/
namespace TinyRtsp.RtpRtcpHandler

/-- All packets so far went to the port of the handler, and `client_addr_` has it
once there is one. -/
structure Addressed (port : UInt16) (link : Link) : Prop where
  own : link.handler.port = port
  sent : ∀ datagram ∈ link.sent, datagram.address.port = port
  last : link.sent ≠ [] → link.handler.clientAddress.port = port

abbrev Keeps {A : Type} (P : Link → Prop) (send : Sending A) : Prop :=
  Triple P send (fun _ => P) fun _ => P

/-- What the steps of `send_h264` keep. No packet of it has a larger body than
`max_payload_size`. -/
structure StepsKeep (P : Link → Prop) (R : Fault → Link → Prop) : Prop where
  read : ∀ i link, P link → R (.readOutOfBounds i) link
  packet : ∀ marker body, body.length ≤ maxPayloadSize →
    Triple P (sendPacket .h264 marker body) (fun _ => P) R
  advance : ∀ link, P link → P { link with handler := link.handler.advance }
  count : ∀ link, P link → P { link with handler := link.handler.count }

section Frames
variable {P : Link → Prop} {R : Fault → Link → Prop}

theorem byteAt_keeps (read : ∀ i link, P link → R (.readOutOfBounds i) link) (payload : List UInt8)
    (i : Nat) : Triple P (byteAt payload i) (fun _ => P) R := by
  unfold byteAt
  split
  · exact .pure fun _ here => here
  · exact .throw (read i)

theorem matchesAt_keeps (read : ∀ i link, P link → R (.readOutOfBounds i) link)
    (payload expected : List UInt8) (i : Nat) :
    Triple P (matchesAt payload i expected) (fun _ => P) R := by
  induction expected generalizing i with
  | nil => exact .pure fun _ here => here
  | cons byte rest ih =>
    refine .bind (byteAt_keeps read payload i) fun found => ?_
    split
    · exact ih (i + 1)
    · exact .pure fun _ here => here

theorem startCode_keeps (read : ∀ i link, P link → R (.readOutOfBounds i) link)
    (payload : List UInt8) : Triple P (startCode payload) (fun _ => P) R := by
  refine .bind (matchesAt_keeps read _ _ _) fun short => ?_
  split
  · exact .pure fun _ here => here
  · refine .bind (matchesAt_keeps read _ _ _) fun long => ?_
    split
    · exact .pure fun _ here => here
    · exact .pure fun _ here => here

theorem slice_keeps (read : ∀ i link, P link → R (.readOutOfBounds i) link) (payload : List UInt8)
    (offset size : Nat) :
    Triple P (slice payload offset size) (fun bytes link => bytes.length ≤ size ∧ P link) R := by
  unfold slice
  split
  · exact .pure fun _ here => ⟨List.length_take_le .., here⟩
  · exact .throw (read _)

theorem sendFragments_keeps (keep : StepsKeep P R) (payload : List UInt8) (startCode offset : Nat)
    (first : Bool) : Triple P (sendFragments payload startCode offset first) (fun _ => P) R := by
  induction offset, first using sendFragments.induct payload with
  | case1 offset first more ih =>
    rw [sendFragments, if_pos more]
    refine .bind (byteAt_keeps keep.read _ _) fun nalHeader => ?_
    refine .bind (byteAt_keeps keep.read _ _) fun again => ?_
    refine .bind (slice_keeps keep.read _ _ _) fun fragment => .fact fun size => ?_
    refine .bind (keep.packet _ _ ?_) fun _ => ih
    have small : fragmentSize payload offset ≤ maxPayloadSize - 2 := Nat.min_le_left ..
    have two : 2 ≤ maxPayloadSize := by decide
    simp only [List.length_append, List.length_cons, List.length_nil]
    omega
  | case2 offset first done =>
    rw [sendFragments, if_neg done]
    exact .pure fun _ here => here

theorem sendH264_keeps (keep : StepsKeep P R) (payload : List UInt8) :
    Triple P (sendH264 payload) (fun _ => P) R := by
  refine .bind (startCode_keeps keep.read payload) fun code => ?_
  split
  · exact .pure fun _ here => here
  · have counts : Triple P (modify fun link => { link with handler := link.handler.count })
        (fun _ => P) R := .modify keep.count
    have advances : Triple P (modify fun link => { link with handler := link.handler.advance })
        (fun _ => P) R := .modify keep.advance
    dsimp only
    split
    · refine .bind (sendFragments_keeps keep _ _ _ _) fun _ => ?_
      exact .bind advances fun _ => counts
    · rename_i short
      refine .bind (keep.packet _ _ ?_) fun _ => .bind (byteAt_keeps keep.read _ _) fun nalHeader => ?_
      · rw [List.length_drop]
        exact Nat.le_of_not_lt short
      · split
        · exact .bind advances fun _ => counts
        · exact counts

theorem onLink_keeps {A : Type} {send : Sending A} {Q : A → Link → Prop} (spec : Triple P send Q R) :
    Triple (fun stream => P stream.toLink) (onLink send) (fun a stream => Q a stream.toLink)
      fun e stream => R e stream.toLink := by
  intro stream here
  have after := spec stream.toLink here
  simp only [onLink, EStateM.run] at after ⊢
  cases ran : send stream.toLink with
  | ok a link | error e link =>
    rw [ran] at after
    exact after

theorem sendRtpPacket_keeps {payload : List UInt8} {payloadType : MediaType}
    (keeps : Triple P (match payloadType with
      | .h264 => sendH264 payload
      | .aac => sendAac payload) (fun _ => P) R) :
    Triple (fun stream => P stream.toLink) (sendRtpPacket payload payloadType)
      (fun _ stream => P stream.toLink) fun e stream => R e stream.toLink :=
  .bind (onLink_keeps keeps) fun _ => .modify fun _ here => here

end Frames

section Sends
variable {port : UInt16}

theorem sendPacket_addressed (payloadType : MediaType) (marker : Bool) (body : List UInt8) :
    Keeps (Addressed port) (sendPacket payloadType marker body) := by
  intro link here
  rcases sendPacket_cases payloadType marker body link with
    ⟨_, ran⟩ | ⟨_, ⟨_, what, ran⟩ | ⟨address, _, ran⟩⟩
  · rw [ran]
    exact ⟨here.own, here.sent, here.last⟩
  · rw [ran]
    exact ⟨here.own, here.sent, fun _ => here.own⟩
  · rw [ran]
    refine ⟨here.own, fun datagram member => ?_, fun _ => here.own⟩
    rcases List.mem_append.mp member with earlier | last
    · exact here.sent datagram earlier
    · rw [List.mem_singleton.mp last]
      exact here.own

theorem addressed_same {link : Link} {f : Handler → Handler}
    (same : ∀ h, (f h).port = h.port ∧ (f h).clientAddress = h.clientAddress)
    (here : Addressed port link) : Addressed port { link with handler := f link.handler } := by
  obtain ⟨own, last⟩ := same link.handler
  exact ⟨own.trans here.own, here.sent, fun some => (congrArg _ last).trans (here.last some)⟩

theorem sendH264_addressed (payload : List UInt8) : Keeps (Addressed port) (sendH264 payload) :=
  sendH264_keeps ⟨fun _ _ here => here, fun marker body _ => sendPacket_addressed .h264 marker body,
    fun _ => addressed_same fun _ => ⟨rfl, rfl⟩, fun _ => addressed_same fun _ => ⟨rfl, rfl⟩⟩ payload

theorem sendAac_addressed (payload : List UInt8) : Keeps (Addressed port) (sendAac payload) :=
  .bind (sendPacket_addressed _ _ _) fun _ => .modify fun _ =>
    addressed_same (f := fun h => h.advance.count) fun _ => ⟨rfl, rfl⟩

theorem sendRtpPacket_addressed (payload : List UInt8) (payloadType : MediaType) :
    Triple (fun stream => Addressed port stream.toLink) (sendRtpPacket payload payloadType)
      (fun _ stream => Addressed port stream.toLink) fun _ stream => Addressed port stream.toLink := by
  apply sendRtpPacket_keeps
  cases payloadType with
  | h264 => exact sendH264_addressed payload
  | aac => exact sendAac_addressed payload

theorem sendAll_addressed (calls : List Call) :
    Triple (fun stream => Addressed port stream.toLink) (sendAll calls)
      (fun _ stream => Addressed port stream.toLink) fun _ stream => Addressed port stream.toLink := by
  induction calls with
  | nil => exact .pure fun _ here => here
  | cons call rest ih =>
    refine .read fun before => .bind (sendRtpPacket_addressed _ _) fun _ => .read fun middle => ?_
    exact .bind ih fun groups => .pure fun _ here => here

end Sends

end TinyRtsp.RtpRtcpHandler
