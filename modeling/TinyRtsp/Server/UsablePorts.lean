import TinyRtsp.Rtp.Destination
import TinyRtsp.Rtsp.Transport
import TinyRtsp.Server.Advertise
import TinyRtsp.Server.Ports

/-! What a 200 answer to SETUP is worth: the ports that the request offered, those
that the new handler uses and those that the answer names. -/
namespace TinyRtsp
open RtpRtcpHandler

namespace RtpRtcpConfig
variable {config : RtpRtcpConfig} {client : Ipv4} {port : Nat}

/-- The handler that is constructed, its `ssrc_` drawn and its `client_addr_` as it
lies in memory. -/
def stream (config : RtpRtcpConfig) (ssrc : UInt32) (clientAddress : SocketAddress) : Stream :=
  ⟨⟨.new config.ip config.rtpPort config.timestampIncrement ssrc clientAddress, []⟩, 0⟩

/-- Whatever frames it is given, its RTP packets go to the port. -/
def SendsRtpTo (config : RtpRtcpConfig) (port : Nat) : Prop :=
  ∀ ssrc clientAddress calls,
    ∀ datagram ∈ (finalState (sendAll calls) (config.stream ssrc clientAddress)).sent,
      datagram.address.port.toNat = port

/-- Once it has sent an RTP packet its sender reports go to the port. -/
def SendsRtcpTo (config : RtpRtcpConfig) (port : Nat) : Prop :=
  ∀ ssrc clientAddress calls,
    (finalState (sendAll calls) (config.stream ssrc clientAddress)).sent ≠ [] →
      (finalState (sendAll calls) (config.stream ssrc clientAddress)).rtcpAddress.port.toNat = port

theorem addressed (config : RtpRtcpConfig) (ssrc : UInt32) (clientAddress : SocketAddress)
    (calls : List Call) : Addressed (.ofInt config.rtpPort)
      (finalState (sendAll calls) (config.stream ssrc clientAddress)).toLink := by
  have initial : Addressed (.ofInt config.rtpPort) (config.stream ssrc clientAddress).toLink :=
    ⟨rfl, fun _ => nofun, fun some => absurd rfl some⟩
  exact (sendAll_addressed calls).finalState initial

theorem sends_something (known : Ipv4.inetPton config.ip = some client) (ssrc : UInt32)
    (clientAddress : SocketAddress) : ∃ calls datagram,
      datagram ∈ (finalState (sendAll calls) (config.stream ssrc clientAddress)).sent := by
  let calls : List Call := [⟨[0], .aac⟩]
  have safe : ∀ call ∈ calls, call.Safe := by decide
  obtain ⟨groups, after, group, ran, sent, packets, _⟩ :=
    sendAll_accounts calls (config.stream ssrc clientAddress) known safe
  have left : finalState (sendAll calls) (config.stream ssrc clientAddress) = after := by
    rw [finalState, ran]
  have one : group.length = 1 := packets.trans (by decide)
  obtain ⟨datagram, rfl⟩ := List.length_eq_one_iff.mp one
  refine ⟨calls, datagram, ?_⟩
  rw [left, sent]
  exact List.mem_append_right _ (List.mem_singleton_self _)

theorem sendsRtpTo_iff (known : Ipv4.inetPton config.ip = some client) :
    config.SendsRtpTo port ↔ (UInt16.ofInt config.rtpPort).toNat = port := by
  constructor
  · intro sends
    obtain ⟨calls, datagram, member⟩ := sends_something known 0 ⟨0, ⟨0, 0, 0, 0⟩⟩
    rw [← (config.addressed _ _ calls).sent datagram member]
    exact sends _ _ calls datagram member
  · rintro rfl ssrc clientAddress calls datagram member
    rw [(config.addressed ssrc clientAddress calls).sent datagram member]

theorem sendsRtcpTo_iff (known : Ipv4.inetPton config.ip = some client) :
    config.SendsRtcpTo port ↔ (UInt16.ofInt config.rtpPort).toNat = port := by
  constructor
  · intro sends
    obtain ⟨calls, datagram, member⟩ := sends_something known 0 ⟨0, ⟨0, 0, 0, 0⟩⟩
    have some := List.ne_nil_of_mem member
    rw [← (config.addressed _ _ calls).last some]
    exact sends _ _ calls some
  · rintro rfl ssrc clientAddress calls some
    exact congrArg UInt16.toNat ((config.addressed ssrc clientAddress calls).last some)

end RtpRtcpConfig

/-- The pool only ever loses its front. -/
theorem Server.preserves_available (initial : List Int) :
    Server.Preserves fun server => server.availablePorts <:+ initial where
  allocatePortPair := by
    intro server here
    unfold allocatePortPair
    split
    · exact here
    · rename_i port rest pool
      rw [pool] at here
      exact (List.suffix_cons port rest).trans here
  createSession := fun _ here => here
  addMediaTrack := by
    intro server after sessionId ref config here left
    obtain ⟨s, added, _, _, rfl⟩ := addMediaTrack_session left
    exact here
  startSession := by
    intro server after sessionId opens here left
    obtain ⟨s, sources, started, _, _, rfl⟩ := startSession_session left
    exact here
  pauseSession := fun _ here => here
  terminateSession := by
    intro server sessionId here
    unfold terminateSession
    split
    · exact here
    · exact here
  thread := by
    intro server after step here taken
    rcases thread_cases taken with ⟨_, _, _, _, _, rfl⟩ | ⟨_, _, rfl⟩
    · exact here
    · exact here

namespace ConnectionHandler
variable {env : Env} {request response answer : RtspMessage} {w after : World} {url : RtspUrl}
  {client : ClientPorts} {t : MediaTrack} {server : Server}

def newHandler (env : Env) (request : RtspMessage) (after : World) : Option RtpRtcpConfig := do
  let url ← (parseUrl request.requestUri).toOption
  let s ← after.server.sessions.lookup (setupId env request)
  let h ← s.handler url.track
  return h.rtpRtcpHandler

theorem setupAdds_returned (returned : setupAdds env request url client t w = .returned server) :
    server.availablePorts = w.server.availablePorts.tail ∧
      ∃ s, server.sessions.lookup (setupId env request) = some s ∧
        (s.handler url.track).map (·.rtpRtcpHandler) = some (rtpConfig w client t) := by
  rw [setupAdds_eq] at returned
  cases sockets : env.constructs with
  | error e =>
    rw [sockets] at returned
    contradiction
  | ok =>
    rw [sockets] at returned
    simp only [Session.addMediaTrack, Except.map] at returned
    split at returned
    · contradiction
    · obtain rfl := Outcome.returned.inj returned
      refine ⟨rfl, _, AList.lookup_insert _, ?_⟩
      rw [Session.handler_set, if_pos rfl]
      rfl

theorem handleSetup_accepted (ran : (handleSetup env request response).run w = .ok answer after)
    (accepted : answer.statusCode = .ok) :
    ∃ url client t, Reads request url client ∧ answer = setupAnswer env request response client w ∧
      after.server.availablePorts = w.server.availablePorts.tail ∧
      newHandler env request after = some (rtpConfig w client t) := by
  cases read : parseUrl request.requestUri with
  | error e => exact nomatch (handleSetup_url read).symm.trans ran
  | ok url =>
    cases understood : parseTransport (request.getHeaderValue "Transport".toList) with
    | error e => exact nomatch (handleSetup_transport read understood).symm.trans ran
    | ok client =>
      have reads : Reads request url client := ⟨read, understood⟩
      cases found : w.server.mediaSources.track ⟨url.app, url.track⟩ with
      | none =>
        obtain ⟨rfl, _⟩ := EStateM.Result.ok.inj ((handleSetup_missing reads found).symm.trans ran)
        contradiction
      | some t =>
        have spec := handleSetup_found env response reads found
        cases outcome : setupAdds env request url client t w with
        | thrown e server =>
          rw [outcome] at spec
          exact nomatch spec.symm.trans ran
        | terminated =>
          rw [outcome] at spec
          obtain ⟨left, ended⟩ := spec
          exact nomatch ended.symm.trans ran
        | returned server =>
          rw [outcome] at spec
          obtain ⟨rfl, rfl⟩ := EStateM.Result.ok.inj (spec.symm.trans ran)
          obtain ⟨ports, s, session, handler⟩ := setupAdds_returned outcome
          refine ⟨url, client, t, reads, rfl, ports, ?_⟩
          obtain ⟨h, here, same⟩ := Option.map_eq_some_iff.mp handler
          simp only [newHandler, read, Except.toOption, session, here, same, Option.bind_eq_bind,
            Option.bind_some, Option.pure_def]

def PortText (text : Text) : Prop := 1 ≤ Text.digitsValue text ∧ Text.digitsValue text ≤ 65535

instance : DecidablePred PortText := fun _ => inferInstanceAs (Decidable (_ ∧ _))

/-- The offer of the request, the new handler and the answer fit together, but for
where the handler's sender reports go. -/
structure Announces (startPort endPort : Int) (env : Env) (request : RtspMessage) (before : World)
    (answer : RtspMessage) (after : World) (rtp rtcp : Text) (config : RtpRtcpConfig) : Prop where
  offer : offered (request.getHeaderValue "Transport".toList) = some (rtp, rtcp)
  client : PortText rtp ∧ PortText rtcp
  handler : newHandler env request after = some config
  sendsRtp : config.SendsRtpTo (Text.digitsValue rtp)
  taken : before.server.availablePorts = config.serverRtpPort :: after.server.availablePorts
  pair : config.serverRtcpPort = config.serverRtpPort + 1
  inside : startPort ≤ config.serverRtpPort ∧ config.serverRtcpPort ≤ endPort
  header : answer.headers.lookup "Transport".toList =
    some ("RTP/AVP;unicast;client_port=".toList ++ (rtp ++ "-".toList ++ rtcp) ++
      ";server_port=".toList ++ Text.decimalInt config.serverRtpPort ++ "-".toList ++
      Text.decimalInt config.serverRtcpPort)

/-- The request offers two ports, and the pool has a pair whose second port is
within its range. -/
structure Suitable (endPort : Int) (request : RtspMessage) (availablePorts : List Int)
    (rtp rtcp : Text) : Prop where
  offer : offered (request.getHeaderValue "Transport".toList) = some (rtp, rtcp)
  client : PortText rtp ∧ PortText rtcp
  pool : ∃ port ∈ availablePorts.head?, port + 1 ≤ endPort

theorem ofInt_toNat {n : Nat} (small : n ≤ 65535) : (UInt16.ofInt (n : Int)).toNat = n := by
  rw [UInt16.ofInt, UInt16.toNat_ofNat']
  omega

theorem lookup_setupAnswer : (setupAnswer env request response client w).headers.lookup
      "Transport".toList = some ("RTP/AVP;unicast;client_port=".toList ++ client.range ++
        ";server_port=".toList ++ Text.decimalInt w.server.allocatePortPair.1 ++ "-".toList ++
        Text.decimalInt (w.server.allocatePortPair.1 + 1)) := by
  rw [setupAnswer, RtspMessage.lookup_setHeaders, if_neg (by decide), RtspMessage.lookup_setHeaders,
    if_pos rfl]

section Accepted
variable {startPort endPort : Int} {rtp rtcp : Text} {config : RtpRtcpConfig} {address : Ipv4}

theorem announces_iff (known : Ipv4.inetPton w.connection.clientIp = some address)
    (within : w.server.availablePorts <:+ portPool startPort endPort)
    (ran : (handleSetup env request response).run w = .ok answer after)
    (accepted : answer.statusCode = .ok) :
    (∃ config, Announces startPort endPort env request w answer after rtp rtcp config) ↔
      Suitable endPort request w.server.availablePorts rtp rtcp := by
  obtain ⟨url, client, t, reads, rfl, ports, handler⟩ := handleSetup_accepted ran accepted
  constructor
  · rintro ⟨config, announces⟩
    refine ⟨announces.offer, announces.client, config.serverRtpPort, ?_, ?_⟩
    · rw [announces.taken]
      rfl
    · rw [← announces.pair]
      exact announces.inside.2
  · rintro ⟨offer, valid, port, first, room⟩
    obtain ⟨rest, pool⟩ := List.head?_eq_some_iff.mp first
    have allocated : w.server.allocatePortPair.1 = port := by
      rw [Server.allocatePortPair, pool]
    have started : startPort ≤ port := by
      apply le_of_mem_portPool
      apply within.subset
      rw [pool]
      exact List.mem_cons_self
    obtain rfl := parseTransport_offered offer reads.client
    refine ⟨_, offer, valid, handler, ?_, ?_, rfl, ⟨?_, ?_⟩, ?_⟩
    · exact (RtpRtcpConfig.sendsRtpTo_iff known).mpr (ofInt_toNat valid.1.2)
    · rw [ports, pool]
      exact congrArg (· :: rest) allocated.symm
    · exact started.trans_eq allocated.symm
    · show w.server.allocatePortPair.1 + 1 ≤ endPort
      rw [allocated]
      exact room
    · exact lookup_setupAnswer

theorem Announces.sendsRtcpTo_iff {port : Nat}
    (known : Ipv4.inetPton w.connection.clientIp = some address)
    (ran : (handleSetup env request response).run w = .ok answer after)
    (accepted : answer.statusCode = .ok)
    (announces : Announces startPort endPort env request w answer after rtp rtcp config) :
    config.SendsRtcpTo port ↔ Text.digitsValue rtp = port := by
  obtain ⟨url, client, t, reads, rfl, _, handler⟩ := handleSetup_accepted ran accepted
  obtain rfl := Option.some.inj (handler.symm.trans announces.handler)
  have rtpPort := (RtpRtcpConfig.sendsRtpTo_iff known).mp announces.sendsRtp
  rw [RtpRtcpConfig.sendsRtcpTo_iff known, rtpPort]

end Accepted

/-- Offer, handler and answer fit together, the sender reports included. -/
def Usable (startPort endPort : Int) (env : Env) (request : RtspMessage) (before : World)
    (answer : RtspMessage) (after : World) : Prop :=
  ∃ rtp rtcp config, Announces startPort endPort env request before answer after rtp rtcp config ∧
    config.SendsRtcpTo (Text.digitsValue rtcp)

end ConnectionHandler

namespace Site
open ConnectionHandler
variable {C : Type} [DecidableEq C] {s : Site C} {trace : List (Event C)} {startPort endPort : Int}
  {env : Env} {request response answer : RtspMessage} {connection : Connection} {after : World}

def setupRequest (headers : Table Text Text) : RtspMessage :=
  { RtspMessage.new with method := .setup, requestUri := "rtsp://host:554/a/v".toList, headers := headers }

def firstClient : Connection := ⟨Ipv4.inetNtoa ⟨10, 0, 0, 7⟩, [], .empty, [], []⟩

def socketsWork : Env := ⟨0, 0, .ok (), fun _ => true⟩

end Site
end TinyRtsp
