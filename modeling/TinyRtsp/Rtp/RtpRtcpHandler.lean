import TinyRtsp.Foundation.Chunks
import TinyRtsp.Rtp.Address
import TinyRtsp.Rtp.Header

/-! How `RtpRtcpHandler` puts an H.264 frame into RTP packets: as it is when it
fits one, in FU-A fragments otherwise. A send is a computation over the handler
and the datagrams given to `sendto`; what was sent before a fault stays sent. -/
namespace TinyRtsp.RtpRtcpHandler

structure SocketAddress where
  port : UInt16
  address : Ipv4
  deriving DecidableEq

structure Datagram where
  address : SocketAddress
  bytes : List UInt8
  deriving DecidableEq

/-- The members of `RtpRtcpHandler` that sending reads and writes. The sequence
number is an `int`; it does not wrap before 2^31 packets. -/
structure Handler where
  ip : List Char
  rtpPort : Int
  clientAddress : SocketAddress
  ssrc : UInt32
  rtpSequenceNumber : Nat
  timestamp : UInt32
  timestampIncrement : UInt32
  totalRtpPacketSent : UInt32
  deriving DecidableEq

structure Link where
  handler : Handler
  sent : List Datagram

/-- How a send ends early: an access outside the frame or `rtp_buf_`, or the
exception for a client address that does not convert. -/
inductive Fault where
  | readOutOfBounds (index : Nat)
  | writeOutOfBounds (size : Nat)
  | runtimeError (what : String)

abbrev Sending := EStateM Fault Link

def maxPayloadSize : Nat := maxRtpPacketSize - RtpHeader.size

/-- `sizeof(rtp_buf_)` -/
def rtpBufSize : Nat := maxRtpPacketSize + 10

def byteAt (payload : List UInt8) (i : Nat) : Sending UInt8 :=
  match payload[i]? with
  | some byte => return byte
  | none => throw (.readOutOfBounds i)

/-- `payload[i] == first && payload[i + 1] == second && ...` -/
def matchesAt (payload : List UInt8) (i : Nat) : List UInt8 → Sending Bool
  | [] => return true
  | expected :: rest => do
    if (← byteAt payload i) = expected then matchesAt payload (i + 1) rest else return false

/-- The size of the start code the frame begins with. -/
def startCode (payload : List UInt8) : Sending (Option Nat) := do
  if ← matchesAt payload 0 [0, 0, 1] then return some 3
  else if ← matchesAt payload 0 [0, 0, 0, 1] then return some 4
  else return none

/-- The source bytes of a `memcpy`. -/
def slice (payload : List UInt8) (offset size : Nat) : Sending (List UInt8) :=
  if offset + size ≤ payload.length then return (payload.drop offset).take size
  else throw (.readOutOfBounds payload.length)

def Handler.header (h : Handler) (payloadType : MediaType) (marker : Bool) : RtpHeader :=
  .mediaHeader payloadType marker (.ofNat h.rtpSequenceNumber) h.timestamp h.ssrc

def Handler.port (h : Handler) : UInt16 := .ofInt h.rtpPort

/-- One packet: the header with the next sequence number, the body behind it in
`rtp_buf_`, and `sendto` to the client's address. -/
def sendPacket (payloadType : MediaType) (marker : Bool) (body : List UInt8) : Sending Unit := do
  let h := (← get).handler
  modify fun link => { link with handler.rtpSequenceNumber := h.rtpSequenceNumber + 1 }
  if rtpBufSize < RtpHeader.size + body.length then
    throw (.writeOutOfBounds (RtpHeader.size + body.length))
  match Ipv4.inetPton h.ip with
  | none =>
    modify fun link => { link with handler.clientAddress := ⟨h.port, ⟨0, 0, 0, 0⟩⟩ }
    throw (.runtimeError "RtpRtcpHandler bind client rtp socket address failed")
  | some address =>
    modify fun link => {
      handler := { link.handler with clientAddress := ⟨h.port, address⟩ }
      sent := link.sent ++ [⟨⟨h.port, address⟩, (h.header payloadType marker).bytes ++ body⟩] }

/-- The size of the fragment at `offset`: two bytes go to the FU indicator and
the FU header. -/
def fragmentSize (payload : List UInt8) (offset : Nat) : Nat :=
  min (maxPayloadSize - 2) (payload.length - offset)

/-- The FU indicator: F, NRI and the type FU-A. -/
def fuIndicator (nalHeader : UInt8) : UInt8 := (nalHeader &&& 0x60) ||| 28

/-- The FU header: S, E and the type of the NAL unit. -/
def fuHeader (firstFragment last : Bool) (nalHeader : UInt8) : UInt8 :=
  (if firstFragment then 0x80 else 0) ||| (if last then 0x40 else 0) ||| (nalHeader &&& 0x1F)

/-- `while (offset < payload_size)`: the fragments from `offset` on. -/
def sendFragments (payload : List UInt8) (startCode offset : Nat) (firstFragment : Bool) :
    Sending Unit :=
  if offset < payload.length then do
    let last := offset + fragmentSize payload offset == payload.length
    let fuHeader := fuHeader firstFragment last (← byteAt payload startCode)
    let fuIndicator := fuIndicator (← byteAt payload startCode)
    let fragment ← slice payload offset (fragmentSize payload offset)
    sendPacket .h264 last ([fuIndicator, fuHeader] ++ fragment)
    sendFragments payload startCode (offset + fragmentSize payload offset) false
  else return
  termination_by payload.length - offset
  decreasing_by
    have : 0 < maxPayloadSize - 2 := by decide
    simp only [fragmentSize]
    omega

def Handler.advance (h : Handler) : Handler :=
  { h with timestamp := h.timestamp + h.timestampIncrement }

def Handler.count (h : Handler) : Handler :=
  { h with totalRtpPacketSent := h.totalRtpPacketSent + 1 }

/-- `send_h264`. A frame without a start code is logged and dropped. -/
def sendH264 (payload : List UInt8) : Sending Unit := do
  match ← startCode payload with
  | none => return
  | some startCode =>
    if maxPayloadSize < payload.length - startCode then
      sendFragments payload startCode (startCode + 1) true
      modify fun link => { link with handler := link.handler.advance }
    else
      sendPacket .h264 true (payload.drop startCode)
      let nalType := (← byteAt payload startCode) &&& 0x1F
      -- Skip SPS & PPS
      if nalType ≠ 7 ∧ nalType ≠ 8 then
        modify fun link => { link with handler := link.handler.advance }
    modify fun link => { link with handler := link.handler.count }

section Runs
variable {link : Link} {payload body : List UInt8} {address : Ipv4} {i offset size : Nat}
  {payloadType : MediaType} {marker : Bool}

theorem byteAt_run (inside : payload[i]? = some byte) : (byteAt payload i).run link = .ok byte link := by
  simp [byteAt, inside]

theorem slice_run (inside : offset + size ≤ payload.length) :
    (slice payload offset size).run link = .ok ((payload.drop offset).take size) link := by
  simp [slice, inside]

theorem startCode_short (rest : List UInt8) :
    (startCode (0 :: 0 :: 1 :: rest)).run link = .ok (some 3) link := rfl

theorem startCode_long (rest : List UInt8) :
    (startCode (0 :: 0 :: 0 :: 1 :: rest)).run link = .ok (some 4) link := rfl

/-- What a packet to a convertible address leaves behind. -/
def Link.deliver (address : Ipv4) (link : Link) (packet : Bool × List UInt8) : Link where
  handler := { link.handler with
    rtpSequenceNumber := link.handler.rtpSequenceNumber + 1
    clientAddress := ⟨link.handler.port, address⟩ }
  sent := link.sent ++
    [⟨⟨link.handler.port, address⟩, (link.handler.header .h264 packet.1).bytes ++ packet.2⟩]

theorem sendPacket_cases (payloadType : MediaType) (marker : Bool) (body : List UInt8) (link : Link) :
    (rtpBufSize < RtpHeader.size + body.length ∧ (sendPacket payloadType marker body).run link =
      .error (.writeOutOfBounds (RtpHeader.size + body.length))
        { link with handler.rtpSequenceNumber := link.handler.rtpSequenceNumber + 1 }) ∨
    RtpHeader.size + body.length ≤ rtpBufSize ∧
      ((Ipv4.inetPton link.handler.ip = none ∧ ∃ what, (sendPacket payloadType marker body).run link =
        .error (.runtimeError what) { link with handler := { link.handler with
          rtpSequenceNumber := link.handler.rtpSequenceNumber + 1
          clientAddress := ⟨link.handler.port, ⟨0, 0, 0, 0⟩⟩ } }) ∨
      ∃ address, Ipv4.inetPton link.handler.ip = some address ∧
        (sendPacket payloadType marker body).run link = .ok () {
          handler := { link.handler with
            rtpSequenceNumber := link.handler.rtpSequenceNumber + 1
            clientAddress := ⟨link.handler.port, address⟩ }
          sent := link.sent ++ [⟨⟨link.handler.port, address⟩,
            (link.handler.header payloadType marker).bytes ++ body⟩] }) := by
  by_cases large : rtpBufSize < RtpHeader.size + body.length
  · left
    simp only [sendPacket, EStateM.run_bind, EStateM.run_get, EStateM.run_modify, large, if_true]
    exact ⟨trivial, rfl⟩
  · refine .inr ⟨Nat.le_of_not_lt large, ?_⟩
    cases client : Ipv4.inetPton link.handler.ip with
    | none =>
      simp only [sendPacket, EStateM.run_bind, EStateM.run_get, EStateM.run_modify, large, if_false, client]
      exact .inl ⟨trivial, _, rfl⟩
    | some address =>
      simp only [sendPacket, EStateM.run_bind, EStateM.run_get, EStateM.run_modify, large, if_false, client]
      exact .inr ⟨address, rfl, rfl⟩

theorem sendPacket_ok (client : Ipv4.inetPton link.handler.ip = some address)
    (fits : RtpHeader.size + body.length ≤ rtpBufSize) :
    (sendPacket payloadType marker body).run link = .ok () {
      handler := { link.handler with
        rtpSequenceNumber := link.handler.rtpSequenceNumber + 1
        clientAddress := ⟨link.handler.port, address⟩ }
      sent := link.sent ++ [⟨⟨link.handler.port, address⟩,
        (link.handler.header payloadType marker).bytes ++ body⟩] } := by
  rcases sendPacket_cases payloadType marker body link with
    ⟨large, _⟩ | ⟨_, ⟨unknown, _⟩ | ⟨other, known, ran⟩⟩
  · omega
  · rw [client] at unknown
    contradiction
  · obtain rfl := Option.some.inj (client.symm.trans known)
    exact ran

theorem sendPacket_run (client : Ipv4.inetPton link.handler.ip = some address)
    (fits : RtpHeader.size + body.length ≤ rtpBufSize) :
    (sendPacket .h264 marker body).run link = .ok () (link.deliver address (marker, body)) :=
  sendPacket_ok client fits

def fuPackets (nalHeader : UInt8) (first : Bool) : List (List UInt8) → List (Bool × List UInt8)
  | [] => []
  | piece :: rest =>
    (rest.isEmpty, [fuIndicator nalHeader, fuHeader first rest.isEmpty nalHeader] ++ piece) ::
      fuPackets nalHeader false rest

theorem take_fragment :
    (payload.drop offset).take (fragmentSize payload offset) =
      (payload.drop offset).take (maxPayloadSize - 2) := by
  rw [fragmentSize, ← List.length_drop, ← List.take_take, List.take_length]

theorem drop_fragment (more : offset < payload.length) :
    payload.drop (offset + fragmentSize payload offset) =
      (payload.drop offset).drop (maxPayloadSize - 2) := by
  rw [List.drop_drop, fragmentSize]
  rcases Nat.le_total (maxPayloadSize - 2) (payload.length - offset) with full | short
  · rw [Nat.min_eq_left full]
  · rw [Nat.min_eq_right short, List.drop_eq_nil_of_le (by omega), List.drop_eq_nil_of_le (by omega)]

theorem last_fragment (more : offset < payload.length) :
    (offset + fragmentSize payload offset == payload.length) =
      (chunks (maxPayloadSize - 2) (payload.drop (offset + fragmentSize payload offset))).isEmpty := by
  have size : fragmentSize payload offset ≤ payload.length - offset := Nat.min_le_right ..
  rcases Nat.lt_or_eq_of_le (show offset + fragmentSize payload offset ≤ payload.length by omega)
    with left | done
  · have nonempty : payload.drop (offset + fragmentSize payload offset) ≠ [] := by simpa using left
    rw [chunks_cons (by decide) nonempty]
    simpa using Nat.ne_of_lt left
  · simp [done]

/-- The loop sends the rest of the frame in pieces, the last one marked where
nothing is left behind it. -/
theorem sendFragments_run {startCode : Nat} {nalHeader : UInt8} {first : Bool}
    (client : Ipv4.inetPton link.handler.ip = some address)
    (inside : payload[startCode]? = some nalHeader) :
    (sendFragments payload startCode offset first).run link = .ok ()
      ((fuPackets nalHeader first (chunks (maxPayloadSize - 2) (payload.drop offset))).foldl
        (Link.deliver address) link) := by
  induction offset, first using sendFragments.induct payload generalizing link with
  | case1 offset first more ih =>
    have left : payload.drop offset ≠ [] := by simpa using more
    have fits : offset + fragmentSize payload offset ≤ payload.length := by
      simp only [fragmentSize]
      omega
    have small : fragmentSize payload offset ≤ maxPayloadSize - 2 := Nat.min_le_left ..
    rw [sendFragments, if_pos more, chunks_cons (by decide) left, fuPackets, List.foldl_cons,
      ← drop_fragment more, ← last_fragment more, ← take_fragment]
    simp only [EStateM.run_bind, byteAt_run inside, slice_run fits]
    rw [sendPacket_run client]
    · exact ih client
    · simp only [List.length_append, List.length_cons, List.length_nil, List.length_take]
      have : RtpHeader.size + (2 + (maxPayloadSize - 2)) ≤ rtpBufSize := by decide
      omega
  | case2 offset first done =>
    rw [sendFragments, if_neg done, List.drop_eq_nil_of_le (Nat.le_of_not_lt done)]
    simp [fuPackets]

def nalPackets (nalHeader : UInt8) (data : List UInt8) : List (Bool × List UInt8) :=
  if maxPayloadSize < data.length + 1 then
    fuPackets nalHeader true (chunks (maxPayloadSize - 2) data)
  else [(true, nalHeader :: data)]

/-- Whether a frame moves the timestamp on: always when fragmented, else unless
it is a parameter set. -/
def advances (nalHeader : UInt8) (data : List UInt8) : Prop :=
  maxPayloadSize < data.length + 1 ∨ nalHeader &&& 0x1F ≠ 7 ∧ nalHeader &&& 0x1F ≠ 8

instance (nalHeader : UInt8) (data : List UInt8) : Decidable (advances nalHeader data) :=
  inferInstanceAs (Decidable (_ ∨ _))

theorem sendH264_run {code data : List UInt8} {nalHeader : UInt8}
    (annexB : code = [0, 0, 1] ∨ code = [0, 0, 0, 1])
    (client : Ipv4.inetPton link.handler.ip = some address) :
    (sendH264 (code ++ nalHeader :: data)).run link = .ok ()
      (let sent := (nalPackets nalHeader data).foldl (Link.deliver address) link
      { sent with handler :=
          (if advances nalHeader data then sent.handler.advance else sent.handler).count }) := by
  have found : (startCode (code ++ nalHeader :: data)).run link = .ok (some code.length) link := by
    rcases annexB with rfl | rfl
    · exact startCode_short _
    · exact startCode_long _
  have inside : (code ++ nalHeader :: data)[code.length]? = some nalHeader := by simp
  have nal : (code ++ nalHeader :: data).drop code.length = nalHeader :: data := by simp
  have behind : (code ++ nalHeader :: data).drop (code.length + 1) = data := by simp
  have size : (code ++ nalHeader :: data).length - code.length = data.length + 1 := by simp
  simp only [sendH264, EStateM.run_bind, found, size, nal]
  by_cases long : maxPayloadSize < data.length + 1
  · simp only [long, if_true, EStateM.run_bind, sendFragments_run client inside, behind,
      nalPackets, advances, true_or, EStateM.run_modify]
  · have fits : RtpHeader.size + (nalHeader :: data).length ≤ rtpBufSize := by
      have : RtpHeader.size + maxPayloadSize ≤ rtpBufSize := by decide
      simp only [List.length_cons]
      omega
    simp only [long, if_false, EStateM.run_bind, sendPacket_run client fits, byteAt_run inside,
      nalPackets, advances, false_or, List.foldl_cons, List.foldl_nil]
    by_cases picture : nalHeader &&& 0x1F ≠ 7 ∧ nalHeader &&& 0x1F ≠ 8
    · rw [if_pos picture, if_pos picture]
      rfl
    · rw [if_neg picture, if_neg picture]
      rfl

end Runs
end TinyRtsp.RtpRtcpHandler
