import TinyRtsp.Rtp.Depacketize

/-! The packets of one handler over any sequence of frames, H.264 or AAC: how
sequence numbers, timestamps and marker bits go on from frame to frame. -/
namespace TinyRtsp.RtpRtcpHandler

/-- The AU header section of one access unit: the length of its AU headers, and
the 13 bits of the unit's size. -/
def auHeaders (payloadSize : Nat) : List UInt8 :=
  [0x00, 0x10, .ofNat ((payloadSize &&& 0x1FE0) >>> 5), .ofNat ((payloadSize &&& 0x1F) <<< 3)]

def sendAac (payload : List UInt8) : Sending Unit := do
  sendPacket .aac true (auHeaders payload.length ++ payload)
  modify fun link => { link with handler := link.handler.advance.count }

/-- The link of a handler with its `total_payload_size_`. -/
structure Stream extends Link where
  totalPayloadSize : UInt32

def onLink {A : Type} (send : Sending A) : EStateM Fault Stream A := fun stream =>
  match send.run stream.toLink with
  | .ok a link => .ok a { stream with toLink := link }
  | .error e link => .error e { stream with toLink := link }

def sendRtpPacket (payload : List UInt8) (payloadType : MediaType) : EStateM Fault Stream Unit := do
  onLink (match payloadType with
    | .h264 => sendH264 payload
    | .aac => sendAac payload)
  modify fun stream =>
    { stream with totalPayloadSize := stream.totalPayloadSize + .ofNat payload.length }

/-- The constructor: `ssrc` is drawn at random and `client_addr_` starts as it
lies in memory. -/
def Handler.new (ip : List Char) (rtpPort : Int) (timestampIncrement ssrc : UInt32)
    (clientAddress : SocketAddress) : Handler where
  ip := ip
  rtpPort := rtpPort
  clientAddress := clientAddress
  ssrc := ssrc
  rtpSequenceNumber := 0
  timestamp := 0
  timestampIncrement := timestampIncrement
  totalRtpPacketSent := 0

structure Call where
  payload : List UInt8
  payloadType : MediaType

def sendAll : List Call → EStateM Fault Stream (List (List Datagram))
  | [] => return []
  | call :: rest => do
    let before := (← get).sent.length
    sendRtpPacket call.payload call.payloadType
    let group := (← get).sent.drop before
    return group :: (← sendAll rest)

namespace Call

/-- An H.264 frame needs a start code. -/
def Accepted : Call → Prop
  | ⟨payload, .h264⟩ => [0, 0, 1] <+: payload ∨ [0, 0, 0, 1] <+: payload
  | ⟨_, .aac⟩ => True

/-- What the send of the frame reads lies inside the frame, and what it writes
inside `rtp_buf_`. -/
def Fits : Call → Prop
  | ⟨payload, .h264⟩ => 4 ≤ payload.length ∧ ([0, 0, 0, 1] <+: payload → 4 < payload.length)
  | ⟨payload, .aac⟩ => payload.length ≤ 1018

end Call

/-- A receiver's reading of the datagram's RTP header. -/
def Datagram.header (datagram : Datagram) : Option RtpHeader :=
  (RtpHeader.parse datagram.bytes).map Prod.fst

def Stamped (group : List Datagram) (timestamp : UInt32) : Prop :=
  ∀ datagram ∈ group, datagram.header.map RtpHeader.timestamp = some timestamp

/-- The law of a stream from the packet numbered `first` on, given by the
datagrams of each call. -/
structure StreamLaw (first : Nat) (increment : UInt32) (calls : List Call)
    (groups : List (List Datagram)) : Prop where
  accepted : List.Forall₂ (fun call group => group ≠ [] ↔ call.Accepted) calls groups
  numbered : ∀ k datagram, groups.flatten[k]? = some datagram →
    datagram.header.map (·.sequenceNumber.toNat) = some ((first + k) % 2 ^ 16)
  stamped : ∀ group ∈ groups, ∃ timestamp, Stamped group timestamp
  moves : (groups.filter (!·.isEmpty)).IsChain fun group next =>
    ∃ timestamp, Stamped group timestamp ∧
      (Stamped next timestamp ∨ Stamped next (timestamp + increment))
  marked : ∀ group ∈ groups, ∀ i datagram, group[i]? = some datagram →
    (datagram.header.map (·.marker) = some 1 ↔ i + 1 = group.length)

section Frames
variable {link : Link} {payload : List UInt8} {address : Ipv4} {i : Nat}
  {packets : List (Bool × List UInt8)} {nalHeader : UInt8} {data : List UInt8}

theorem matchesAt_run {expected : List UInt8} (inside : i + expected.length ≤ payload.length) :
    (matchesAt payload i expected).run link = .ok (decide (expected <+: payload.drop i)) link := by
  induction expected generalizing i with
  | nil => simp [matchesAt]
  | cons byte rest ih =>
    have here : i < payload.length := by
      simp only [List.length_cons] at inside
      omega
    rw [List.drop_eq_getElem_cons here]
    simp only [matchesAt, EStateM.run_bind, byteAt_run (List.getElem?_eq_getElem here)]
    by_cases same : payload[i] = byte
    · have inside : i + 1 + rest.length ≤ payload.length := by
        simp only [List.length_cons] at inside
        omega
      rw [if_pos same, ih inside]
      simp only [List.cons_prefix_cons, same, true_and]
    · have apart : ¬ byte :: rest <+: payload[i] :: payload.drop (i + 1) := by
        intro starts
        exact same (List.cons_prefix_cons.mp starts).1.symm
      rw [if_neg same, decide_eq_false apart]
      rfl

theorem sendH264_rejected (size : 4 ≤ payload.length) (short : ¬ [0, 0, 1] <+: payload)
    (long : ¬ [0, 0, 0, 1] <+: payload) : (sendH264 payload).run link = .ok () link := by
  have none : (startCode payload).run link = .ok none link := by
    simp only [startCode, EStateM.run_bind]
    rw [matchesAt_run (by simpa using (by omega : 3 ≤ payload.length))]
    simp only [List.drop_zero, short, decide_false, Bool.false_eq_true, if_false]
    rw [EStateM.run_bind, matchesAt_run (by simpa using size)]
    simp [long]
  simp only [sendH264, EStateM.run_bind, none]
  rfl

theorem deliver_handler (packets : List (Bool × List UInt8)) (link : Link) :
    ∃ clientAddress, (packets.foldl (Link.deliver address) link).handler =
      { link.handler with
        rtpSequenceNumber := link.handler.rtpSequenceNumber + packets.length, clientAddress } := by
  induction packets generalizing link with
  | nil => exact ⟨link.handler.clientAddress, rfl⟩
  | cons packet rest ih =>
    obtain ⟨clientAddress, handler⟩ := ih (link.deliver address packet)
    refine ⟨clientAddress, ?_⟩
    rw [List.foldl_cons, handler]
    simp only [Link.deliver, List.length_cons, Nat.add_comm rest.length, Nat.add_assoc]

theorem deliver_appends (packets : List (Bool × List UInt8)) (link : Link) :
    ∃ group, (packets.foldl (Link.deliver address) link).sent = link.sent ++ group ∧
      group.map Datagram.bytes =
        wire link.handler.rtpSequenceNumber link.handler.timestamp link.handler.ssrc packets := by
  induction packets generalizing link with
  | nil => exact ⟨[], by simp, rfl⟩
  | cons packet rest ih =>
    obtain ⟨group, sent, bytes⟩ := ih (link.deliver address packet)
    refine ⟨⟨⟨link.handler.port, address⟩, (link.handler.header .h264 packet.1).bytes ++ packet.2⟩ ::
      group, ?_, ?_⟩
    · rw [List.foldl_cons, sent, Link.deliver, List.append_assoc]
      rfl
    · rw [List.map_cons, bytes]
      rfl

theorem nalPackets_marked {packet : Bool × List UInt8}
    (here : (nalPackets nalHeader data)[i]? = some packet) :
    packet.1 = (i + 1 == (nalPackets nalHeader data).length) := by
  unfold nalPackets at here ⊢
  split at here
  · rename_i long
    rw [if_pos long, fuPackets_length]
    rw [fuPackets_getElem?] at here
    obtain ⟨piece, _, rfl⟩ := Option.map_eq_some_iff.mp here
    rfl
  · rename_i short
    rw [if_neg short]
    cases i with
    | zero =>
      obtain rfl := Option.some.inj here
      rfl
    | succ i => contradiction

theorem nalPackets_nonempty : nalPackets nalHeader data ≠ [] := by
  unfold nalPackets
  split
  · rename_i long
    have pieces := pieces_nonempty long
    apply List.ne_nil_of_length_pos
    rw [fuPackets_length]
    omega
  · exact List.cons_ne_nil _ _

end Frames

/-- What a call that sends `group` does to its link. -/
structure Emits (before after : Link) (group : List Datagram) : Prop where
  sent : after.sent = before.sent ++ group
  ip : after.handler.ip = before.handler.ip
  increment : after.handler.timestampIncrement = before.handler.timestampIncrement
  counts : after.handler.rtpSequenceNumber = before.handler.rtpSequenceNumber + group.length
  headers : ∀ (i : Nat) (datagram : Datagram), group[i]? = some datagram → ∃ payloadType,
    datagram.header = some (.mediaHeader payloadType (i + 1 == group.length)
      (.ofNat (before.handler.rtpSequenceNumber + i)) before.handler.timestamp before.handler.ssrc)
  moves : after.handler.timestamp = before.handler.timestamp ∨
    after.handler.timestamp = before.handler.timestamp + before.handler.timestampIncrement
  quiet : group = [] → after = before

section Calls
variable {link : Link} {stream : Stream} {payload : List UInt8} {address : Ipv4} {call : Call}

theorem sendH264_emits (client : Ipv4.inetPton link.handler.ip = some address)
    (fits : Call.Fits ⟨payload, .h264⟩) :
    ∃ group after, (sendH264 payload).run link = .ok () after ∧ Emits link after group ∧
      (group ≠ [] ↔ Call.Accepted ⟨payload, .h264⟩) := by
  by_cases accepted : Call.Accepted ⟨payload, .h264⟩
  · obtain ⟨code, nalHeader, data, annexB, rfl⟩ : ∃ code nalHeader data,
        (code = [0, 0, 1] ∨ code = [0, 0, 0, 1]) ∧ payload = code ++ nalHeader :: data := by
      have behind {code rest : List UInt8} (whole : code ++ rest = payload)
          (more : code.length < payload.length) : ∃ nalHeader data, payload = code ++ nalHeader :: data := by
        cases rest with
        | nil =>
          rw [← whole, List.append_nil] at more
          exact absurd more (Nat.lt_irrefl _)
        | cons nalHeader data => exact ⟨nalHeader, data, whole.symm⟩
      obtain ⟨size, room⟩ := fits
      rcases accepted with ⟨rest, short⟩ | ⟨rest, long⟩
      · obtain ⟨nalHeader, data, cut⟩ := behind short (show 3 < payload.length by omega)
        exact ⟨_, nalHeader, data, .inl rfl, cut⟩
      · obtain ⟨nalHeader, data, cut⟩ := behind long (room ⟨rest, long⟩)
        exact ⟨_, nalHeader, data, .inr rfl, cut⟩
    obtain ⟨clientAddress, handler⟩ := @deliver_handler address (nalPackets nalHeader data) link
    obtain ⟨group, sent, bytes⟩ := @deliver_appends address (nalPackets nalHeader data) link
    have length : group.length = (nalPackets nalHeader data).length := by
      rw [← List.length_map, bytes, wire_length]
    have nonempty : group ≠ [] := by
      apply List.ne_nil_of_length_pos
      rw [length]
      exact List.length_pos_iff.mpr nalPackets_nonempty
    refine ⟨group, _, sendH264_run annexB client, ?_, iff_of_true nonempty accepted⟩
    constructor
    · exact sent
    · dsimp only
      split <;> simp [Handler.advance, Handler.count, handler]
    · dsimp only
      split <;> simp [Handler.advance, Handler.count, handler]
    · dsimp only
      split <;> simp [Handler.advance, Handler.count, handler, length]
    · intro i datagram here
      have wired : (group.map Datagram.bytes)[i]? = some datagram.bytes := by
        rw [List.getElem?_map, here, Option.map_some]
      rw [bytes, wire_getElem?] at wired
      obtain ⟨packet, nal, bytes⟩ := Option.map_eq_some_iff.mp wired
      refine ⟨.h264, ?_⟩
      rw [Datagram.header, ← bytes, RtpHeader.parse_bytes, nalPackets_marked nal, length]
      rfl
    · dsimp only
      split
      · exact .inr (by simp [Handler.advance, Handler.count, handler])
      · exact .inl (by simp [Handler.count, handler])
    · exact fun empty => absurd empty nonempty
  · obtain ⟨short, long⟩ := not_or.mp accepted
    refine ⟨[], link, sendH264_rejected fits.1 short long, ?_, by simp [accepted]⟩
    exact ⟨by simp, rfl, rfl, rfl, nofun, .inl rfl, fun _ => rfl⟩

def Link.aacPacket (address : Ipv4) (link : Link) (payload : List UInt8) : Datagram where
  address := ⟨link.handler.port, address⟩
  bytes := (link.handler.header .aac true).bytes ++ (auHeaders payload.length ++ payload)

theorem sendAac_run (client : Ipv4.inetPton link.handler.ip = some address)
    (fits : Call.Fits ⟨payload, .aac⟩) :
    (sendAac payload).run link = .ok () {
      handler := Handler.count (Handler.advance { link.handler with
        rtpSequenceNumber := link.handler.rtpSequenceNumber + 1
        clientAddress := ⟨link.handler.port, address⟩ })
      sent := link.sent ++ [link.aacPacket address payload] } := by
  have inside : RtpHeader.size + (auHeaders payload.length ++ payload).length ≤ rtpBufSize := by
    have size : payload.length ≤ 1018 := fits
    have limit : RtpHeader.size + 4 + 1018 = rtpBufSize := by decide
    simp only [auHeaders, List.length_append, List.length_cons, List.length_nil]
    omega
  simp only [sendAac, EStateM.run_bind, sendPacket_ok client inside]
  rfl

theorem sendAac_emits (client : Ipv4.inetPton link.handler.ip = some address)
    (fits : Call.Fits ⟨payload, .aac⟩) :
    ∃ group after, (sendAac payload).run link = .ok () after ∧ Emits link after group ∧
      (group ≠ [] ↔ Call.Accepted ⟨payload, .aac⟩) := by
  refine ⟨[link.aacPacket address payload], _, sendAac_run client fits, ?_,
    iff_of_true (List.cons_ne_nil _ _) trivial⟩
  constructor
  · rfl
  · rfl
  · rfl
  · rfl
  · intro i datagram here
    cases i with
    | zero =>
      obtain rfl := Option.some.inj here
      exact ⟨.aac, congrArg (Option.map Prod.fst) (RtpHeader.parse_bytes ..)⟩
    | succ i => contradiction
  · exact .inr rfl
  · rintro ⟨⟩

theorem onLink_ok {send : Sending Unit} {after : Link} (ran : send.run stream.toLink = .ok () after) :
    (onLink send).run stream = .ok () { stream with toLink := after } := by
  simp only [onLink, EStateM.run] at ran ⊢
  rw [ran]

theorem onLink_error {send : Sending Unit} {e : Fault} {after : Link}
    (ran : send.run stream.toLink = .error e after) :
    (onLink send).run stream = .error e { stream with toLink := after } := by
  simp only [onLink, EStateM.run] at ran ⊢
  rw [ran]

theorem sendRtpPacket_emits (client : Ipv4.inetPton stream.handler.ip = some address)
    (fits : call.Fits) :
    ∃ group after, (sendRtpPacket call.payload call.payloadType).run stream = .ok () after ∧
      Emits stream.toLink after.toLink group ∧ (group ≠ [] ↔ call.Accepted) := by
  obtain ⟨payload, payloadType⟩ := call
  have sends : ∃ group after, (match payloadType with
        | .h264 => sendH264 payload
        | .aac => sendAac payload).run stream.toLink = .ok () after ∧
      Emits stream.toLink after group ∧ (group ≠ [] ↔ Call.Accepted ⟨payload, payloadType⟩) := by
    cases payloadType with
    | h264 => exact sendH264_emits client fits
    | aac => exact sendAac_emits client fits
  obtain ⟨group, after, ran, emits, accepted⟩ := sends
  refine ⟨group, ⟨after, stream.totalPayloadSize + .ofNat payload.length⟩, ?_, emits, accepted⟩
  simp only [sendRtpPacket, EStateM.run_bind, onLink_ok ran]
  rfl

theorem sendAll_snoc {calls : List Call} {middle after : Stream} {groups : List (List Datagram)}
    (ran : (sendAll calls).run stream = .ok groups middle)
    (sends : (sendRtpPacket call.payload call.payloadType).run middle = .ok () after) :
    (sendAll (calls ++ [call])).run stream =
      .ok (groups ++ [after.sent.drop middle.sent.length]) after := by
  induction calls generalizing stream groups with
  | nil =>
    obtain ⟨rfl, rfl⟩ : [] = groups ∧ stream = middle := by
      simpa [sendAll] using ran
    simp only [List.nil_append, sendAll, EStateM.run_bind, EStateM.run_get, sends]
    rfl
  | cons first rest ih =>
    simp only [sendAll, EStateM.run_bind, EStateM.run_get] at ran
    rw [List.cons_append, sendAll]
    simp only [EStateM.run_bind, EStateM.run_get]
    cases here : (sendRtpPacket first.payload first.payloadType).run stream with
    | error e other =>
      rw [here] at ran
      contradiction
    | ok _ next =>
      rw [here] at ran
      simp only at ran ⊢
      cases later : (sendAll rest).run next with
      | error e other =>
        rw [later] at ran
        contradiction
      | ok others last =>
        rw [later] at ran
        obtain ⟨rfl, rfl⟩ : next.sent.drop stream.sent.length :: others = groups ∧ last = middle := by
          simpa using ran
        rw [ih later]
        rfl

end Calls

section Law
variable {before after : Link} {group : List Datagram} {groups : List (List Datagram)} {call : Call}
  {calls : List Call}

theorem Emits.stamped (emits : Emits before after group) : Stamped group before.handler.timestamp := by
  intro datagram member
  obtain ⟨i, here⟩ := List.getElem?_of_mem member
  obtain ⟨payloadType, header⟩ := emits.headers i datagram here
  rw [header]
  rfl

/-- The next accepted frame of a lawful stream carries `timestamp`. -/
def Leads (timestamp : UInt32) (groups : List (List Datagram)) : Prop :=
  ∀ group ∈ (groups.filter (!·.isEmpty)).head?, Stamped group timestamp

theorem StreamLaw.cons (emits : Emits before after group) (accepted : group ≠ [] ↔ call.Accepted)
    (law : StreamLaw after.handler.rtpSequenceNumber before.handler.timestampIncrement calls groups)
    (leads : Leads after.handler.timestamp groups) :
    StreamLaw before.handler.rtpSequenceNumber before.handler.timestampIncrement (call :: calls)
        (group :: groups) ∧
      Leads before.handler.timestamp (group :: groups) := by
  have counts := emits.counts
  refine ⟨⟨.cons accepted law.accepted, ?_, ?_, ?_, ?_⟩, ?_⟩
  · intro k datagram here
    rw [List.flatten_cons, List.getElem?_append] at here
    split at here
    · obtain ⟨payloadType, header⟩ := emits.headers k datagram here
      rw [header]
      rfl
    · rename_i beyond
      rw [law.numbered _ _ here, counts]
      congr 2
      omega
  · intro other member
    rcases List.mem_cons.mp member with rfl | later
    · exact ⟨_, emits.stamped⟩
    · exact law.stamped other later
  · cases sent : group with
    | nil => exact law.moves
    | cons datagram rest =>
      show List.IsChain _ ((datagram :: rest) :: groups.filter (!·.isEmpty))
      rw [← sent, List.isChain_cons]
      refine ⟨fun next first => ⟨_, emits.stamped, ?_⟩, law.moves⟩
      have stamped := leads next first
      rcases emits.moves with same | moved
      · exact .inl (same ▸ stamped)
      · exact .inr (moved ▸ stamped)
  · intro other member i datagram here
    rcases List.mem_cons.mp member with rfl | later
    · obtain ⟨payloadType, header⟩ := emits.headers i datagram here
      rw [header, Option.map_some, Option.some.injEq, RtpHeader.mediaHeader_marker]
      exact beq_iff_eq
    · exact law.marked other later i datagram here
  · cases sent : group with
    | nil =>
      have same := emits.quiet sent
      subst same
      exact leads
    | cons datagram rest =>
      intro first here
      obtain rfl : datagram :: rest = first := Option.some.inj here
      exact sent ▸ emits.stamped

theorem StreamLaw.nil (first : Nat) (increment timestamp : UInt32) :
    StreamLaw first increment [] [] ∧ Leads timestamp [] := by
  refine ⟨⟨.nil, ?_, ?_, .nil, ?_⟩, ?_⟩
  · nofun
  · nofun
  · nofun
  · nofun

end Law

/-- Every call returns, and the stream it continues is lawful. -/
theorem sendAll_run {address : Ipv4} (calls : List Call) (stream : Stream)
    (client : Ipv4.inetPton stream.handler.ip = some address) (fits : ∀ call ∈ calls, call.Fits) :
    ∃ groups after, (sendAll calls).run stream = .ok groups after ∧
      after.sent = stream.sent ++ groups.flatten ∧
      after.handler.rtpSequenceNumber = stream.handler.rtpSequenceNumber + groups.flatten.length ∧
      StreamLaw stream.handler.rtpSequenceNumber stream.handler.timestampIncrement calls groups ∧
      Leads stream.handler.timestamp groups := by
  induction calls generalizing stream with
  | nil => exact ⟨[], stream, rfl, by simp, rfl, StreamLaw.nil ..⟩
  | cons call rest ih =>
    obtain ⟨fit, fits⟩ := List.forall_mem_cons.mp fits
    obtain ⟨group, middle, first, emits, accepted⟩ := sendRtpPacket_emits client fit
    obtain ⟨groups, after, later, sent, counts, law, leads⟩ := ih middle (emits.ip ▸ client) fits
    rw [emits.increment] at law
    refine ⟨group :: groups, after, ?_, ?_, ?_, law.cons emits accepted leads⟩
    · have appended : middle.sent.drop stream.sent.length = group := by
        rw [emits.sent, List.drop_left]
      simp only [sendAll, EStateM.run_bind, EStateM.run_get, first, later, appended]
      rfl
    · rw [sent, emits.sent, List.flatten_cons, List.append_assoc]
    · rw [counts, emits.counts, List.flatten_cons, List.length_append]
      omega

/-- Whatever frames a new handler with a valid client address is given, it sends
each of them, and while fewer than 2^31 packets are sent, so that the sequence
number stays an `int`, the packets obey the law of a stream. -/
theorem stream_lawful {ip : List Char} {client : Ipv4} (valid : Ipv4.inetPton ip = some client)
    (rtpPort : Int) (timestampIncrement ssrc : UInt32) (clientAddress : SocketAddress)
    (calls : List Call) (fits : ∀ call ∈ calls, call.Fits) :
    ∃ groups after, (sendAll calls).run
        ⟨⟨.new ip rtpPort timestampIncrement ssrc clientAddress, []⟩, 0⟩ = .ok groups after ∧
      after.sent = groups.flatten ∧
      (groups.flatten.length < 2 ^ 31 → after.handler.rtpSequenceNumber < 2 ^ 31 ∧
        StreamLaw 0 timestampIncrement calls groups) := by
  obtain ⟨groups, after, ran, sent, counts, law, _⟩ := sendAll_run calls
    ⟨⟨.new ip rtpPort timestampIncrement ssrc clientAddress, []⟩, 0⟩ valid fits
  refine ⟨groups, after, ran, sent, fun few => ⟨?_, law⟩⟩
  rw [counts]
  exact (Nat.zero_add _).trans_lt few

/-- Parameter set, a frame without a start code, audio and a picture. -/
theorem stream_lawful_mixed :
    ∃ groups after, (sendAll [⟨[0, 0, 0, 1, 0x67, 0x42], .h264⟩, ⟨[9, 9, 9, 9], .h264⟩,
        ⟨[0x21, 0x10], .aac⟩, ⟨[0, 0, 1, 0x65], .h264⟩]).run
        ⟨⟨.new (Ipv4.inetNtoa ⟨10, 0, 0, 7⟩) 5000 3600 1 ⟨0, ⟨0, 0, 0, 0⟩⟩, []⟩, 0⟩ =
          .ok groups after ∧
      after.sent = groups.flatten ∧
      (groups.flatten.length < 2 ^ 31 → after.handler.rtpSequenceNumber < 2 ^ 31 ∧
        StreamLaw 0 3600 [⟨[0, 0, 0, 1, 0x67, 0x42], .h264⟩, ⟨[9, 9, 9, 9], .h264⟩,
          ⟨[0x21, 0x10], .aac⟩, ⟨[0, 0, 1, 0x65], .h264⟩] groups) := by
  apply stream_lawful (Ipv4.inetPton_inetNtoa _)
  intro call member
  simp only [List.mem_cons, List.not_mem_nil, or_false] at member
  rcases member with rfl | rfl | rfl | rfl
  · exact ⟨by decide, by decide⟩
  · exact ⟨by decide, by decide⟩
  · exact (by decide : 2 ≤ 1018)
  · exact ⟨by decide, by decide⟩

end TinyRtsp.RtpRtcpHandler
