import Mathlib.Algebra.Order.Ring.Int
import TinyRtsp.Rtp.SenderReports

/-! What a sender report counts against what was given to `sendto`: packets and
payload octets, over any sequence of frames of any size and content. -/
namespace TinyRtsp.RtpRtcpHandler

def annexBCode (payload : List UInt8) : Option Nat :=
  if [0, 0, 1] <+: payload then some 3
  else if [0, 0, 0, 1] <+: payload then some 4
  else none

def octets (sent : List Datagram) : Nat :=
  (sent.map fun datagram => datagram.bytes.length - RtpHeader.size).sum

namespace Call

/-- Sending the frame stays in the frame and in `rtp_buf_`: an H.264 frame is not a
start code or a part of one, and an AAC frame fits behind its headers. -/
def Safe : Call → Prop
  | ⟨payload, .h264⟩ => ¬ payload <+: [0, 0, 1] ∧ ¬ payload <+: [0, 0, 0, 1]
  | ⟨payload, .aac⟩ => payload.length ≤ 1018

instance : DecidablePred Safe
  | ⟨_, .h264⟩ => inferInstanceAs (Decidable (_ ∧ _))
  | ⟨_, .aac⟩ => inferInstanceAs (Decidable (_ ≤ _))

def counted : Call → Nat
  | ⟨payload, .h264⟩ => if (annexBCode payload).isSome then 1 else 0
  | ⟨_, .aac⟩ => 1

def surplusPackets : Call → Nat
  | ⟨payload, .h264⟩ =>
    match annexBCode payload with
    | some code => if maxPayloadSize < payload.length - code then
        (payload.length - code - 2) / (maxPayloadSize - 2) else 0
    | none => 0
  | ⟨_, .aac⟩ => 0

/-- The octets of the frame that are in no packet, less those in its packets that
are not of the frame: a start code, the NAL header of a fragmented unit and all of
a dropped frame, less two octets for each fragment and four for an AAC frame. -/
def octetDrift : Call → Int
  | ⟨payload, .h264⟩ =>
    match annexBCode payload with
    | some code => if maxPayloadSize < payload.length - code then
        code + 1 - 2 * ((payload.length - code - 2) / (maxPayloadSize - 2) + 1 : Nat) else code
    | none => payload.length
  | ⟨_, .aac⟩ => -4

end Call

section StartCodes
variable {link : Link} {payload expected : List UInt8} {i : Nat}

theorem matchesAt_apart (apart : ¬ payload.drop i <+: expected) :
    (matchesAt payload i expected).run link = .ok (decide (expected <+: payload.drop i)) link := by
  induction expected generalizing i with
  | nil => simp [matchesAt]
  | cons byte rest ih =>
    have here : i < payload.length := by
      by_contra beyond
      rw [List.drop_eq_nil_of_le (Nat.le_of_not_lt beyond)] at apart
      exact apart List.nil_prefix
    rw [List.drop_eq_getElem_cons here] at apart ⊢
    simp only [matchesAt, EStateM.run_bind, byteAt_run (List.getElem?_eq_getElem here)]
    by_cases same : payload[i] = byte
    · rw [List.cons_prefix_cons] at apart
      rw [if_pos same, ih fun ends => apart ⟨same, ends⟩]
      simp only [List.cons_prefix_cons, same, true_and]
    · have differs : ¬ byte :: rest <+: payload[i] :: payload.drop (i + 1) := by
        intro starts
        exact same (List.cons_prefix_cons.mp starts).1.symm
      rw [if_neg same, decide_eq_false differs]
      rfl

theorem startCode_run (safe : Call.Safe ⟨payload, .h264⟩) :
    (startCode payload).run link = .ok (annexBCode payload) link := by
  have short : (matchesAt payload 0 [0, 0, 1]).run link = .ok (decide ([0, 0, 1] <+: payload)) link :=
    matchesAt_apart safe.1
  have long : (matchesAt payload 0 [0, 0, 0, 1]).run link =
      .ok (decide ([0, 0, 0, 1] <+: payload)) link := matchesAt_apart safe.2
  unfold startCode annexBCode
  simp only [EStateM.run_bind, short, decide_eq_true_eq]
  split
  · rfl
  · simp only [EStateM.run_bind, long, decide_eq_true_eq]
    split
    · rfl
    · rfl

theorem annexBCode_cases (safe : Call.Safe ⟨payload, .h264⟩) :
    annexBCode payload = none ∨ ∃ code nalHeader data, payload = code ++ nalHeader :: data ∧
      (code = [0, 0, 1] ∨ code = [0, 0, 0, 1]) ∧ annexBCode payload = some code.length := by
  have behind {code : List UInt8} (begins : code <+: payload) (more : ¬ payload <+: code) :
      ∃ nalHeader data, payload = code ++ nalHeader :: data := by
    obtain ⟨rest, rfl⟩ := begins
    cases rest with
    | nil => exact absurd (by rw [List.append_nil]) more
    | cons nalHeader data => exact ⟨nalHeader, data, rfl⟩
  unfold annexBCode
  split
  · rename_i short
    obtain ⟨nalHeader, data, cut⟩ := behind short safe.1
    exact .inr ⟨_, nalHeader, data, cut, .inl rfl, rfl⟩
  · split
    · rename_i long
      obtain ⟨nalHeader, data, cut⟩ := behind long safe.2
      exact .inr ⟨_, nalHeader, data, cut, .inr rfl, rfl⟩
    · exact .inl rfl

theorem sendH264_faults {client : Ipv4} (known : Ipv4.inetPton link.handler.ip = some client)
    (part : ¬ Call.Safe ⟨payload, .h264⟩) :
    ∃ i after, (sendH264 payload).run link = .error (.readOutOfBounds i) after := by
  have whole (code : List UInt8) (annexB : code = [0, 0, 1] ∨ code = [0, 0, 0, 1]) :
      ∃ i after, (sendH264 code).run link = .error (.readOutOfBounds i) after := by
    have found : (startCode code).run link = .ok (some code.length) link := by
      rcases annexB with rfl | rfl
      · exact startCode_short []
      · exact startCode_long []
    have none : code[code.length]? = none := List.getElem?_eq_none (Nat.le_refl _)
    have sends : (sendPacket .h264 true []).run link = .ok () (link.deliver client (true, [])) :=
      sendPacket_run known (by decide)
    refine ⟨code.length, link.deliver client (true, []), ?_⟩
    simp only [sendH264, EStateM.run_bind, found, Nat.sub_self, Nat.not_lt_zero, if_false,
      List.drop_length, sends, byteAt, none]
    rfl
  have parts : payload = [] ∨ payload = [0] ∨ payload = [0, 0] ∨ payload = [0, 0, 0] ∨
      payload = [0, 0, 1] ∨ payload = [0, 0, 0, 1] := by
    rcases not_and_or.mp part with short | long
    · have short := not_not.mp short
      simp only [List.prefix_cons_iff, List.prefix_nil] at short
      rcases short with rfl | ⟨_, rfl, rfl | ⟨_, rfl, rfl | ⟨_, rfl, rfl⟩⟩⟩ <;> simp
    · have long := not_not.mp long
      simp only [List.prefix_cons_iff, List.prefix_nil] at long
      rcases long with rfl | ⟨_, rfl, rfl | ⟨_, rfl, rfl | ⟨_, rfl, rfl | ⟨_, rfl, rfl⟩⟩⟩⟩ <;> simp
  rcases parts with rfl | rfl | rfl | rfl | code
  · exact ⟨_, _, rfl⟩
  · exact ⟨_, _, rfl⟩
  · exact ⟨_, _, rfl⟩
  · exact ⟨_, _, rfl⟩
  · exact whole payload code

end StartCodes

section Packets
variable {payload data : List UInt8} {nalHeader : UInt8} {pieces : List (List UInt8)}
  {packets : List (Bool × List UInt8)} {first : Bool}

def bodies (packets : List (Bool × List UInt8)) : Nat := (packets.map (·.2.length)).sum

theorem bodies_fuPackets : bodies (fuPackets nalHeader first pieces) =
    2 * pieces.length + pieces.flatten.length := by
  induction pieces generalizing first with
  | nil => rfl
  | cons piece rest ih =>
    have rest : (List.map (·.2.length) (fuPackets nalHeader false rest)).sum = _ := ih
    simp only [bodies, fuPackets, List.map_cons, List.sum_cons, rest, List.length_append,
      List.length_cons, List.length_nil, List.flatten_cons]
    omega

theorem octets_wire {group : List Datagram} {sequenceNumber : Nat} {timestamp ssrc : UInt32}
    (wired : group.map Datagram.bytes = wire sequenceNumber timestamp ssrc packets) :
    octets group = bodies packets := by
  have sizes (packets : List (Bool × List UInt8)) (sequenceNumber : Nat) :
      ((wire sequenceNumber timestamp ssrc packets).map fun bytes => bytes.length - RtpHeader.size).sum =
        bodies packets := by
    induction packets generalizing sequenceNumber with
    | nil => rfl
    | cons packet rest ih =>
      simp only [wire, List.map_cons, List.sum_cons, ih, bodies, List.length_append,
        RtpHeader.bytes_length, Nat.add_sub_cancel_left]
  rw [octets, ← sizes packets sequenceNumber, ← wired, List.map_map]
  rfl

/-- A unit of one packet goes out as it is; a fragmented one without its header and
with two octets for each fragment. -/
theorem nalPackets_account (nalHeader : UInt8) (data : List UInt8) :
    if maxPayloadSize < data.length + 1 then
      (nalPackets nalHeader data).length = 1 + (data.length - 1) / (maxPayloadSize - 2) ∧
        bodies (nalPackets nalHeader data) =
          data.length + 2 * (1 + (data.length - 1) / (maxPayloadSize - 2))
    else (nalPackets nalHeader data).length = 1 ∧ bodies (nalPackets nalHeader data) = data.length + 1 := by
  by_cases long : maxPayloadSize < data.length + 1
  · have positive : 0 < maxPayloadSize - 2 := by decide
    have nonempty : data ≠ [] := by
      rintro rfl
      exact absurd long (by decide)
    have pieces := chunks_length positive nonempty
    rw [if_pos long, nalPackets, if_pos long, fuPackets_length, bodies_fuPackets, pieces,
      chunks_flatten positive]
    exact ⟨rfl, Nat.add_comm ..⟩
  · rw [if_neg long, nalPackets, if_neg long]
    exact ⟨rfl, by simp [bodies]⟩

end Packets

/-- What a call adds to what was sent, and to the count of packets. -/
structure Accounts (call : Call) (before after : Link) : Prop where
  ip : after.handler.ip = before.handler.ip
  counts : after.handler.totalRtpPacketSent =
    before.handler.totalRtpPacketSent + .ofNat call.counted
  sent : ∃ group, after.sent = before.sent ++ group ∧
    group.length = call.counted + call.surplusPackets ∧
    (call.payload.length : Int) = octets group + call.octetDrift

section Calls
variable {link : Link} {stream : Stream} {payload : List UInt8} {client : Ipv4} {call : Call}

theorem sendH264_accounts (known : Ipv4.inetPton link.handler.ip = some client)
    (safe : Call.Safe ⟨payload, .h264⟩) :
    ∃ after, (sendH264 payload).run link = .ok () after ∧ Accounts ⟨payload, .h264⟩ link after := by
  rcases annexBCode_cases safe with none | ⟨code, nalHeader, data, rfl, annexB, found⟩
  · refine ⟨link, ?_, ?_⟩
    · simp only [sendH264, EStateM.run_bind, startCode_run safe, none]
      rfl
    · have counted : Call.counted ⟨payload, .h264⟩ = 0 := by simp [Call.counted, none]
      have surplus : Call.surplusPackets ⟨payload, .h264⟩ = 0 := by simp [Call.surplusPackets, none]
      have drift : Call.octetDrift ⟨payload, .h264⟩ = payload.length := by simp [Call.octetDrift, none]
      refine ⟨rfl, by simp [counted], [], by simp, by simp [counted, surplus], ?_⟩
      rw [drift]
      exact (Int.zero_add _).symm
  · obtain ⟨clientAddress, handler⟩ := @deliver_handler client (nalPackets nalHeader data) link
    obtain ⟨group, sent, bytes⟩ := @deliver_appends client (nalPackets nalHeader data) link
    have length : group.length = (nalPackets nalHeader data).length := by
      rw [← List.length_map, bytes, wire_length]
    have account := nalPackets_account nalHeader data
    have counted : Call.counted ⟨code ++ nalHeader :: data, .h264⟩ = 1 := by
      simp [Call.counted, found]
    have size : (code ++ nalHeader :: data).length = code.length + (data.length + 1) := by simp
    refine ⟨_, sendH264_run annexB known, ⟨?_, ?_, group, sent, ?_, ?_⟩⟩
    · dsimp only
      split <;> simp [Handler.advance, Handler.count, handler]
    · dsimp only
      split <;> simp [Handler.advance, Handler.count, handler, counted]
    · simp only [counted, Call.surplusPackets, found, size, Nat.add_sub_cancel_left, length]
      split at account
      · rename_i long
        rw [if_pos long, account.1]
        rfl
      · rename_i short
        rw [if_neg short, account.1]
    · simp only [Call.octetDrift, found, size, Nat.add_sub_cancel_left, octets_wire bytes]
      split at account
      · rename_i long
        have behind : data.length + 1 - 2 = data.length - 1 := rfl
        rw [if_pos long, account.2, behind]
        omega
      · rename_i short
        rw [if_neg short, account.2]
        omega

theorem sendAac_accounts (known : Ipv4.inetPton link.handler.ip = some client)
    (safe : Call.Safe ⟨payload, .aac⟩) :
    ∃ after, (sendAac payload).run link = .ok () after ∧ Accounts ⟨payload, .aac⟩ link after := by
  refine ⟨_, sendAac_run known safe, rfl, rfl, [link.aacPacket client payload], rfl, rfl, ?_⟩
  have sum : octets [link.aacPacket client payload] = payload.length + 4 := by
    simp only [octets, Link.aacPacket, List.map_cons, List.map_nil, List.sum_cons, List.sum_nil,
      List.length_append, RtpHeader.bytes_length, Nat.add_sub_cancel_left, auHeaders, List.length_cons,
      List.length_nil]
    omega
  rw [sum]
  show (payload.length : Int) = (payload.length + 4 : Nat) + (-4)
  omega

theorem sendAac_faults (large : ¬ Call.Safe ⟨payload, .aac⟩) :
    ∃ after, (sendAac payload).run link = .error (.writeOutOfBounds (payload.length + 16)) after := by
  have size : RtpHeader.size + (auHeaders payload.length ++ payload).length = payload.length + 16 := by
    simp only [RtpHeader.size, auHeaders, List.length_append, List.length_cons, List.length_nil]
    omega
  have outside : rtpBufSize < payload.length + 16 := by
    have large : ¬ payload.length ≤ 1018 := large
    have limit : rtpBufSize = 1034 := by decide
    omega
  rcases sendPacket_cases .aac true (auHeaders payload.length ++ payload) link with
    ⟨_, ran⟩ | ⟨inside, _⟩
  · refine ⟨{ link with handler.rtpSequenceNumber := link.handler.rtpSequenceNumber + 1 }, ?_⟩
    simp only [sendAac, EStateM.run_bind, ran, size]
  · omega

/-- `total_payload_size_` grows by the size of the frame, whatever was sent of it. -/
theorem sendRtpPacket_accounts (known : Ipv4.inetPton stream.handler.ip = some client)
    (safe : call.Safe) :
    ∃ after, (sendRtpPacket call.payload call.payloadType).run stream = .ok () after ∧
      Accounts call stream.toLink after.toLink ∧
      after.totalPayloadSize = stream.totalPayloadSize + .ofNat call.payload.length := by
  obtain ⟨payload, payloadType⟩ := call
  cases payloadType with
  | h264 =>
    obtain ⟨after, ran, accounts⟩ := sendH264_accounts known safe
    refine ⟨⟨after, stream.totalPayloadSize + .ofNat payload.length⟩, ?_, accounts, rfl⟩
    simp only [sendRtpPacket, EStateM.run_bind, onLink_ok ran]
    rfl
  | aac =>
    obtain ⟨after, ran, accounts⟩ := sendAac_accounts known safe
    refine ⟨⟨after, stream.totalPayloadSize + .ofNat payload.length⟩, ?_, accounts, rfl⟩
    simp only [sendRtpPacket, EStateM.run_bind, onLink_ok ran]
    rfl

theorem sendRtpPacket_faults (known : Ipv4.inetPton stream.handler.ip = some client)
    (part : ¬ call.Safe) :
    ∃ e after, (sendRtpPacket call.payload call.payloadType).run stream = .error e after := by
  obtain ⟨payload, payloadType⟩ := call
  cases payloadType with
  | h264 =>
    obtain ⟨i, after, ran⟩ := sendH264_faults known part
    refine ⟨.readOutOfBounds i, { stream with toLink := after }, ?_⟩
    simp only [sendRtpPacket, EStateM.run_bind, onLink_error ran]
  | aac =>
    obtain ⟨after, ran⟩ : ∃ after, (sendAac payload).run stream.toLink =
        .error (.writeOutOfBounds (payload.length + 16)) after := sendAac_faults part
    refine ⟨.writeOutOfBounds (payload.length + 16), { stream with toLink := after }, ?_⟩
    simp only [sendRtpPacket, EStateM.run_bind, onLink_error ran]

end Calls

/-- What a sequence of calls adds: its counted packets and its frames' sizes to the
counters, and the packets that it really sends. -/
theorem sendAll_accounts {client : Ipv4} (calls : List Call) (stream : Stream)
    (known : Ipv4.inetPton stream.handler.ip = some client) (safe : ∀ call ∈ calls, call.Safe) :
    ∃ groups after group, (sendAll calls).run stream = .ok groups after ∧
      after.sent = stream.sent ++ group ∧
      group.length = (calls.map Call.counted).sum + (calls.map Call.surplusPackets).sum ∧
      (((calls.map (·.payload.length)).sum : Nat) : Int) = octets group + (calls.map Call.octetDrift).sum ∧
      after.handler.totalRtpPacketSent =
        stream.handler.totalRtpPacketSent + .ofNat (calls.map Call.counted).sum ∧
      after.totalPayloadSize =
        stream.totalPayloadSize + .ofNat (calls.map (·.payload.length)).sum := by
  induction calls generalizing stream with
  | nil => exact ⟨[], stream, [], rfl, by simp, rfl, rfl, by simp, by simp⟩
  | cons call rest ih =>
    obtain ⟨safe, others⟩ := List.forall_mem_cons.mp safe
    obtain ⟨middle, first, ⟨ip, counts, group, sent, packets, drift⟩, size⟩ :=
      sendRtpPacket_accounts known safe
    obtain ⟨groups, after, more, later, sent', packets', drift', counts', size'⟩ :=
      ih middle (ip ▸ known) others
    refine ⟨middle.sent.drop stream.sent.length :: groups, after, group ++ more, ?_, ?_, ?_, ?_, ?_, ?_⟩
    · simp only [sendAll, EStateM.run_bind, EStateM.run_get, first, later]
      rfl
    · rw [sent', sent, List.append_assoc]
    · simp only [List.length_append, List.map_cons, List.sum_cons, packets, packets']
      omega
    · have appended : octets (group ++ more) = octets group + octets more := by
        simp [octets]
      simp only [List.map_cons, List.sum_cons, appended]
      omega
    · simp only [List.map_cons, List.sum_cons, counts', counts, UInt32.ofNat_add]
      exact UInt32.add_assoc ..
    · simp only [List.map_cons, List.sum_cons, size', size, UInt32.ofNat_add]
      exact UInt32.add_assoc ..

theorem sendAll_faults {client : Ipv4} (calls : List Call) (stream : Stream)
    (known : Ipv4.inetPton stream.handler.ip = some client) (part : ¬ ∀ call ∈ calls, call.Safe) :
    ∃ e after, (sendAll calls).run stream = .error e after := by
  induction calls generalizing stream with
  | nil => exact absurd nofun part
  | cons call rest ih =>
    by_cases safe : call.Safe
    · obtain ⟨middle, first, accounts, _⟩ := sendRtpPacket_accounts known safe
      obtain ⟨e, after, later⟩ := ih middle (accounts.ip ▸ known) fun others =>
        part (List.forall_mem_cons.mpr ⟨safe, others⟩)
      refine ⟨e, after, ?_⟩
      simp only [sendAll, EStateM.run_bind, EStateM.run_get, first, later]
    · obtain ⟨e, after, first⟩ := sendRtpPacket_faults known safe
      refine ⟨e, after, ?_⟩
      simp only [sendAll, EStateM.run_bind, EStateM.run_get, first]

/-- The counters of the next sender report are those of what was sent. -/
def Stream.Truthful (stream : Stream) : Prop :=
  ∀ ssrc tv size, let report := senderReport ssrc (stream.readings tv) size
    report.senderPacketCount = .ofNat stream.sent.length ∧
      report.senderOctetCount = .ofNat (octets stream.sent)

/-- The fragments that no frame was counted for and the octets that were counted
otherwise than sent make up a multiple of 2^32 each. -/
def Balanced (calls : List Call) : Prop :=
  2 ^ 32 ∣ (calls.map Call.surplusPackets).sum ∧ (2 ^ 32 : Int) ∣ (calls.map Call.octetDrift).sum

theorem ofNat_eq_iff {a b : Nat} : UInt32.ofNat a = UInt32.ofNat b ↔ (2 ^ 32 : Int) ∣ (a : Int) - b := by
  rw [← UInt32.toNat_inj, UInt32.toNat_ofNat', UInt32.toNat_ofNat']
  omega

def Stream.new (client : Ipv4) (rtpPort : Int) (timestampIncrement ssrc : UInt32)
    (clientAddress : SocketAddress) : Stream :=
  ⟨⟨.new client.inetNtoa rtpPort timestampIncrement ssrc clientAddress, []⟩, 0⟩

section Counters
variable (client : Ipv4) (rtpPort : Int) (timestampIncrement ssrc : UInt32)
  (clientAddress : SocketAddress) (calls : List Call)

theorem truthful_iff {groups : List (List Datagram)} {after : Stream} (safe : ∀ call ∈ calls, call.Safe)
    (ran : (sendAll calls).run (.new client rtpPort timestampIncrement ssrc clientAddress) =
      .ok groups after) : after.Truthful ↔ Balanced calls := by
  obtain ⟨_, _, group, ended, sent, packets, drift, counts, size⟩ :=
    sendAll_accounts calls (.new client rtpPort timestampIncrement ssrc clientAddress)
      (Ipv4.inetPton_inetNtoa client) safe
  obtain ⟨rfl, rfl⟩ := EStateM.Result.ok.inj (ran.symm.trans ended)
  have sent : after.sent = group := sent
  have counts : after.handler.totalRtpPacketSent = .ofNat (calls.map Call.counted).sum :=
    counts.trans (UInt32.zero_add _)
  have size : after.totalPayloadSize = .ofNat (calls.map (·.payload.length)).sum :=
    size.trans (UInt32.zero_add _)
  have packetsAgree : after.handler.totalRtpPacketSent = .ofNat after.sent.length ↔
      2 ^ 32 ∣ (calls.map Call.surplusPackets).sum := by
    rw [counts, sent, packets, ofNat_eq_iff]
    omega
  have octetsAgree : after.totalPayloadSize = .ofNat (octets after.sent) ↔
      (2 ^ 32 : Int) ∣ (calls.map Call.octetDrift).sum := by
    rw [size, sent, ofNat_eq_iff, drift, Int.add_comm, Int.add_sub_cancel]
  unfold Balanced
  rw [← packetsAgree, ← octetsAgree]
  constructor
  · exact fun truthful => truthful 0 ⟨0, 0⟩ 0
  · exact fun both _ _ _ => both

/-- A new handler takes a sequence of frames and then reports what was really sent
exactly when every frame can be sent safely and the differences cancel out. -/
theorem report_counts_iff :
    (∃ groups after, (sendAll calls).run (.new client rtpPort timestampIncrement ssrc clientAddress) =
        .ok groups after ∧ after.Truthful) ↔
      (∀ call ∈ calls, call.Safe) ∧ Balanced calls := by
  constructor
  · rintro ⟨groups, after, ran, truthful⟩
    have safe : ∀ call ∈ calls, call.Safe := by
      by_contra part
      obtain ⟨e, failed, faults⟩ := sendAll_faults calls
        (.new client rtpPort timestampIncrement ssrc clientAddress) (Ipv4.inetPton_inetNtoa client) part
      exact nomatch ran.symm.trans faults
    exact ⟨safe, (truthful_iff client rtpPort timestampIncrement ssrc clientAddress calls safe ran).mp
      truthful⟩
  · rintro ⟨safe, balanced⟩
    obtain ⟨groups, after, _, ran, _⟩ := sendAll_accounts calls
      (.new client rtpPort timestampIncrement ssrc clientAddress) (Ipv4.inetPton_inetNtoa client) safe
    exact ⟨groups, after, ran,
      (truthful_iff client rtpPort timestampIncrement ssrc clientAddress calls safe ran).mpr balanced⟩

end Counters

/-- A picture of 1101 bytes goes out in two packets and counts as one. -/
theorem fragmented_frame_counts_once :
    ¬ ∀ (calls : List Call) (groups : List (List Datagram)) (after : Stream),
      (sendAll calls).run (.new ⟨10, 0, 0, 7⟩ 5000 3600 1 ⟨0, ⟨0, 0, 0, 0⟩⟩) = .ok groups after →
        after.Truthful := by
  intro claim
  let picture : Call := ⟨[0, 0, 0, 1, 0x65] ++ List.replicate 1100 0, .h264⟩
  have safe : ∀ call ∈ [picture], call.Safe := by decide +kernel
  obtain ⟨groups, after, _, ran, _⟩ := sendAll_accounts [picture]
    (.new ⟨10, 0, 0, 7⟩ 5000 3600 1 ⟨0, ⟨0, 0, 0, 0⟩⟩) (Ipv4.inetPton_inetNtoa _) safe
  have balanced := (truthful_iff _ _ _ _ _ _ safe ran).mp (claim _ groups after ran)
  have one : ([picture].map Call.surplusPackets).sum = 1 := by decide +kernel
  rw [Balanced, one] at balanced
  exact absurd balanced.1 (by decide)

end TinyRtsp.RtpRtcpHandler
