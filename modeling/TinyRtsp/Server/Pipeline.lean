import TinyRtsp.Foundation.Delimited
import TinyRtsp.Server.Framing
import TinyRtsp.Server.Orphans

/-! A client's view of its connection: the responses in the byte stream, where each
ends and which request it answers. -/
namespace TinyRtsp

namespace RtspMessage
open Delimited

/-- The length of the body, as the headers tell a client. -/
def bodyLength (headers : List ((_ : Text) × Text)) : Nat :=
  ((headers.dlookup "Content-Length".toList).map Text.digitsValue).getD 0

/-- The first response, once its body has arrived, and what lies behind it. -/
def nextResponse (bytes : Text) : Option (Received × Text) := do
  let received ← readResponse bytes
  let length := bodyLength received.headers
  if length ≤ received.body.length then
    return ({ received with body := received.body.take length }, received.body.drop length)
  else none

def received (response : RtspMessage) : Received :=
  ⟨response.firstLine, response.headerList, response.body⟩

section Reading
variable {bytes rest : Text} {read : Received} {response : RtspMessage}

theorem readResponse_some (found : readResponse bytes = some read) :
    ∃ head, Text.cutAt (Text.crlf ++ Text.crlf) bytes = some (head, read.body) ∧
      ∀ later, readResponse (bytes ++ later) = some { read with body := read.body ++ later } := by
  simp only [readResponse, Option.bind_eq_bind, Option.bind_eq_some_iff] at found
  obtain ⟨⟨head, body⟩, cut, found⟩ := found
  dsimp only at found
  split at found
  · contradiction
  · rename_i statusLine lines split
    obtain ⟨headers, read, same⟩ := Option.bind_eq_some_iff.mp found
    obtain rfl := Option.some.inj same
    refine ⟨head, cut, fun later => ?_⟩
    simp only [readResponse, Text.cutAt_later cut later, split, read, Option.bind_eq_bind,
      Option.bind_some, Option.pure_def]

theorem nextResponse_some (found : nextResponse bytes = some (read, rest)) :
    ∃ whole, readResponse bytes = some whole ∧ bodyLength whole.headers ≤ whole.body.length ∧
      read = { whole with body := whole.body.take (bodyLength whole.headers) } ∧
      rest = whole.body.drop (bodyLength whole.headers) := by
  obtain ⟨whole, here, found⟩ := Option.bind_eq_some_iff.mp found
  obtain ⟨enough, same⟩ := Option.ite_none_right_eq_some.mp found
  obtain ⟨rfl, rfl⟩ := Prod.mk.inj (Option.some.inj same)
  exact ⟨whole, here, enough, rfl, rfl⟩

theorem nextResponse_shortens {bytes : Text} {read : Received} {rest : Text}
    (found : nextResponse bytes = some (read, rest)) : rest.length < bytes.length := by
  obtain ⟨whole, here, _, _, rfl⟩ := nextResponse_some found
  obtain ⟨head, cut, _⟩ := readResponse_some here
  rw [Text.cutAt_eq cut, List.length_drop]
  simp only [List.length_append, Text.crlf, List.length_cons]
  omega

theorem nextResponse_stable {bytes : Text} {read : Received} {rest : Text}
    (found : nextResponse bytes = some (read, rest)) (later : Text) :
    nextResponse (bytes ++ later) = some (read, rest ++ later) := by
  obtain ⟨whole, here, enough, rfl, rfl⟩ := nextResponse_some found
  obtain ⟨_, _, grows⟩ := readResponse_some here
  have still : bodyLength whole.headers ≤ (whole.body ++ later).length := by
    rw [List.length_append]
    omega
  simp only [nextResponse, grows later, Option.bind_eq_bind, Option.bind_some, if_pos still,
    Option.pure_def, List.take_append_of_le_length enough, List.drop_append_of_le_length enough]

def client : Reader Char Received := ⟨nextResponse, @nextResponse_shortens, @nextResponse_stable⟩

theorem WellFormed.bodyLength (wellFormed : response.WellFormed) :
    RtspMessage.bodyLength response.headerList = response.body.length := by
  have framed := wellFormed.framed
  rw [RtspMessage.bodyLength, dlookup_headerList]
  unfold Framed at framed
  split at framed
  · rename_i length found
    rw [found, framed, Option.map_some, Option.getD_some, Text.digitsValue_decimal]
  · rename_i found
    rw [found, framed]
    rfl

theorem WellFormed.reads (wellFormed : response.WellFormed) :
    client.Reads response.createResponse response.received := by
  have length := wellFormed.bodyLength
  simp only [Reader.Reads, client, nextResponse, wellFormed.readResponse, Option.bind_eq_bind,
    Option.bind_some, length, Nat.le_refl, if_true, List.take_length, List.drop_length, Option.pure_def,
    RtspMessage.received]

end Reading
end RtspMessage

namespace Site
open ConnectionHandler RtspMessage Transition
variable {C : Type} [DecidableEq C]

/-- What a client has asked since it connected, after one more event. -/
def asked {Q : Type} (c : C) (question : Turn → Q) (before : List Q) : Event C → List Q
  | .connect d _ => if d = c then [] else before
  | .turn d t => if d = c then before ++ [question t] else before
  | _ => before

/-- What a connection has sent answers the questions in order, all but perhaps the
last, after which the loop has ended. -/
structure Conversed {Q : Type} (answers : Q → RtspMessage → Prop) (questions : List Q) (client : Client)
    (responses : List RtspMessage) : Prop where
  sent : client.connection.sent = responses.map createResponse
  wellFormed : ∀ response ∈ responses, response.WellFormed
  answered : List.Forall₂ answers (questions.take responses.length) responses
  most : questions.length ≤ responses.length + 1
  all : client.processing = true → questions.length = responses.length

variable {Q : Type} {answers : Q → RtspMessage → Prop} {questions : List Q} {question : Turn → Q}
  {s s' : Site C} {event : Event C} {c : C}

omit [DecidableEq C] in
theorem conversed_connected (clientIp : Text) :
    Conversed answers [] ⟨⟨clientIp, [], .empty, [], []⟩, true⟩ [] :=
  ⟨rfl, fun _ => nofun, .nil, by simp, fun _ => rfl⟩

/-- What a handler makes of a client's request answers the client's question. -/
def Suits (answers : Q → RtspMessage → Prop) (question : Turn → Q) (c : C) (s : Site C) : Prop :=
  ∀ {t request response connection handled}, s.clients c = some ⟨connection, true⟩ →
    Receives request t → (dispatch t.env request).run ⟨s.server, connection⟩ = .ok response handled →
      answers (question t) response

omit [DecidableEq C] in
theorem conversed_turn {t : Turn} {connection : Connection} {w : World} {goes : Bool}
    {responses : List RtspMessage} (suits : Suits answers question c s)
    (known : s.clients c = some ⟨connection, true⟩)
    (conversed : Conversed answers questions ⟨connection, true⟩ responses)
    (sends : Sends t ⟨s.server, connection⟩ w)
    (stays : goes = true → w.connection.sent ≠ connection.sent) :
    ∃ more, Conversed answers (questions ++ [question t]) ⟨w.connection, goes⟩ more := by
  have length := conversed.all rfl
  cases sends with
  | answer response answered wellFormed sent =>
    obtain ⟨request, handled, receives, made⟩ := answered
    refine ⟨responses ++ [response], ?_, ?_, ?_, ?_, ?_⟩
    · rw [List.map_append, ← conversed.sent]
      exact sent
    · intro one member
      rcases List.mem_append.mp member with old | new
      · exact conversed.wellFormed one old
      · obtain rfl := List.mem_singleton.mp new
        exact wellFormed
    · have earlier := conversed.answered
      rw [← length, List.take_length] at earlier
      rw [List.length_append, List.length_singleton, ← length, ← List.length_singleton (a := question t),
        ← List.length_append, List.take_length]
      exact List.rel_append earlier (.cons (suits known receives made) .nil)
    · simp [length]
    · simp [length]
  | nothing sent =>
    refine ⟨responses, ?_, conversed.wellFormed, ?_, ?_, fun goes => absurd sent (stays goes)⟩
    · exact sent.trans conversed.sent
    · rw [List.take_append_of_le_length length.ge]
      exact conversed.answered
    · simp [length]

/-- A step leaves every client's conversation in order. -/
theorem conversed_act (suits : Suits answers question c s) (taken : s.act event = some s')
    (before : ∀ client, s.clients c = some client → ∃ responses,
      Conversed answers questions client responses) :
    ∀ client, s'.clients c = some client → ∃ responses,
      Conversed answers (asked c question questions event) client responses := by
  intro client known
  cases event with
  | connect d clientIp =>
    obtain ⟨_, rfl⟩ := act_connect taken
    by_cases same : d = c
    · subst d
      simp only [Function.update_self, Option.some.injEq] at known
      subst client
      rw [asked, if_pos rfl]
      exact ⟨[], conversed_connected clientIp⟩
    · simp only [Function.update_of_ne (Ne.symm same)] at known
      rw [asked, if_neg same]
      exact before client known
  | turn d t =>
    by_cases same : d = c
    · subst d
      rw [asked, if_pos rfl]
      simp only [act] at taken
      split at taken
      · rename_i connection here
        obtain ⟨responses, conversed⟩ := before _ here
        have outcome := turn_sends t ⟨s.server, connection⟩
        split at taken
        · rename_i goes w ended
          rw [ended] at outcome
          obtain rfl := Option.some.inj taken
          simp only [Function.update_self, Option.some.injEq] at known
          subst client
          exact conversed_turn suits here conversed outcome.1 outcome.2
        · rename_i w ended
          rw [ended] at outcome
          obtain rfl := Option.some.inj taken
          simp only [Function.update_self, Option.some.injEq] at known
          subst client
          exact conversed_turn suits here conversed outcome Bool.noConfusion
        · contradiction
      · contradiction
    · obtain ⟨_, _, _, _, rfl, _⟩ := act_turn taken
      simp only [Function.update_of_ne (Ne.symm same)] at known
      rw [asked, if_neg same]
      exact before client known
  | disconnect d =>
    obtain ⟨connection, _, rfl⟩ := act_disconnect taken
    by_cases same : c = d
    · subst d
      simp only [Function.update_self] at known
      contradiction
    · simp only [Function.update_of_ne same] at known
      exact before client known
  | thread step =>
    obtain ⟨server, _, rfl⟩ := Option.map_eq_some_iff.mp taken
    exact before client known

def turnsOf (c : C) (trace : List (Event C)) : List Turn := trace.foldl (asked c id) []

def meet (c : C) (known : Option (Site C) × List (Site C × Turn)) (event : Event C) :
    Option (Site C) × List (Site C × Turn) :=
  (known.1.bind (act · event), known.1.elim known.2 fun s => asked c (s, ·) known.2 event)

/-- The same turns, each with the site that it meets on the way from `s`. -/
def encounters (c : C) (s : Site C) (trace : List (Event C)) : List (Site C × Turn) :=
  (trace.foldl (meet c) (some s, [])).2

/-- The response answers the client's turn in the site that the turn meets. -/
def Answered (c : C) (encounter : Site C × Turn) (response : RtspMessage) : Prop :=
  ∃ connection, encounter.1.clients c = some ⟨connection, true⟩ ∧
    ConnectionHandler.Answered ⟨encounter.1.server, connection⟩ encounter.2 response

theorem asked_map {P : Type} (f : P → Q) (question : Turn → P) (before : List P) :
    (asked c question before event).map f = asked c (f ∘ question) (before.map f) event := by
  cases event with
  | connect d =>
    by_cases same : d = c
    · simp [asked, same]
    · simp [asked, same]
  | turn d =>
    by_cases same : d = c
    · simp [asked, same]
    · simp [asked, same]
  | disconnect | thread => rfl

theorem encounters_snoc {init : Site C} {trace : List (Event C)} (run : Run (Takes act) init trace s) :
    encounters c init (trace ++ [event]) = asked c (s, ·) (encounters c init trace) event := by
  have reached : (trace.foldl (meet c) (some init, [])).1 = some s := by
    induction run with
    | start => rfl
    | snoc _ taken ih =>
      rw [List.foldl_append, List.foldl_cons, List.foldl_nil, meet, ih]
      exact taken
  rw [encounters, List.foldl_append, List.foldl_cons, List.foldl_nil, meet, reached]
  rfl

theorem map_encounters {init : Site C} {trace : List (Event C)} (run : Run (Takes act) init trace s) :
    (encounters c init trace).map Prod.snd = turnsOf c trace := by
  induction run with
  | start => rfl
  | snoc run _ ih =>
    have whole (trace : List (Event C)) (event : Event C) :
        turnsOf c (trace ++ [event]) = asked c id (turnsOf c trace) event := by
      rw [turnsOf, List.foldl_append]
      rfl
    rw [encounters_snoc run, asked_map, ih, whole]
    rfl

theorem conversed_run {mediaSources : MediaSources} {availablePorts : List Int} {trace : List (Event C)}
    {client : Client} (run : Run (Takes act) (start mediaSources availablePorts) trace s)
    (known : s.clients c = some client) : ∃ responses,
      Conversed (Answered c) (encounters c (start mediaSources availablePorts) trace) client responses := by
  induction run generalizing client with
  | start => contradiction
  | @snoc _ s _ _ run taken ih =>
    rw [encounters_snoc run]
    refine conversed_act ?_ taken (fun client => ih) client known
    intro t request response connection handled here receives answered
    exact ⟨connection, here, request, handled, receives, answered⟩

/-- Whatever the clients of a server do, in any order, each of them finds the responses
to its own requests in what it receives, in the order of the requests and each as it
was set in the state of the server that its request met: those whose bytes have all
arrived, in pieces of any size, are read, and a part of the next one is kept until the
rest is there. -/
theorem responses_in_order {mediaSources : MediaSources} {availablePorts : List Int}
    {trace : List (Event C)} {client : Client}
    (run : Run (Takes act) (start mediaSources availablePorts) trace s)
    (known : s.clients c = some client) {pieces : List Text}
    (arrived : pieces.flatten <+: client.connection.sent.flatten) :
    ∃ responses count left,
      client.connection.sent = responses.map createResponse ∧
      (encounters c (start mediaSources availablePorts) trace).map Prod.snd = turnsOf c trace ∧
      List.Forall₂ (Answered c)
        ((encounters c (start mediaSources availablePorts) trace).take responses.length) responses ∧
      (turnsOf c trace).length ≤ responses.length + 1 ∧
      (client.processing = true → (turnsOf c trace).length = responses.length) ∧
      pieces.foldl RtspMessage.client.receive ([], []) = ((responses.take count).map received, left) ∧
      ((responses.take count).map createResponse).flatten ++ left = pieces.flatten ∧
      (left = [] ∨ ∃ response, responses[count]? = some response ∧ left <+: response.createResponse ∧
        left ≠ response.createResponse) := by
  obtain ⟨responses, conversed⟩ := conversed_run run known
  have read : List.Forall₂ RtspMessage.client.Reads (responses.map createResponse)
      (responses.map received) := by
    rw [List.forall₂_map_left_iff, List.forall₂_map_right_iff, List.forall₂_same]
    exact fun response member => (conversed.wellFormed response member).reads
  rw [conversed.sent] at arrived
  obtain ⟨count, left, made, cut, stays⟩ := Delimited.Reader.messages_front read arrived
  have turns := map_encounters (c := c) run
  have length : (turnsOf c trace).length =
      (encounters c (start mediaSources availablePorts) trace).length := by
    rw [← turns, List.length_map]
  refine ⟨responses, count, left, conversed.sent, turns, conversed.answered, length ▸ conversed.most,
    length ▸ conversed.all, ?_, by rwa [List.map_take], ?_⟩
  · have pieced := RtspMessage.client.receive_pieces pieces []
    rw [Delimited.Reader.messages_nil, List.nil_append] at pieced
    rw [pieced, made, List.map_take]
  · rcases stays with none | ⟨code, next, part, short⟩
    · exact .inl none
    · rw [List.getElem?_map] at next
      obtain ⟨response, here, rfl⟩ := Option.map_eq_some_iff.mp next
      exact .inr ⟨response, here, part, short⟩

def pipelinedEvents : List (Event Unit) :=
  .connect () "10.0.0.1".toList :: pipelined.map fun r => .turn () (idleTurn r.text)

/-- Two requests of one client, whose responses arrive in two pieces. -/
theorem responses_in_order_two :
    ∃ (s : Site Unit) (client : Client) (responses : List RtspMessage) (count : Nat) (left : Text),
      s.clients () = some client ∧ responses.length = 2 ∧
      (encounters () (start ∅ []) pipelinedEvents).map Prod.snd = pipelined.map (idleTurn ·.text) ∧
      List.Forall₂ (Answered ()) (encounters () (start ∅ []) pipelinedEvents) responses ∧
      [client.connection.sent.flatten.take 40, (client.connection.sent.flatten.drop 40).take 40].foldl
        RtspMessage.client.receive ([], []) = ((responses.take count).map received, left) := by
  have outcome : ((pipelinedEvents.foldlM act (start ∅ [])).bind fun s =>
      (s.clients ()).map fun client => client.connection.sent.length) = some 2 := by decide +kernel
  obtain ⟨s, done, outcome⟩ := Option.bind_eq_some_iff.mp outcome
  obtain ⟨client, known, length⟩ := Option.map_eq_some_iff.mp outcome
  have arrived : [client.connection.sent.flatten.take 40,
      (client.connection.sent.flatten.drop 40).take 40].flatten <+: client.connection.sent.flatten := by
    refine ⟨(client.connection.sent.flatten.drop 40).drop 40, ?_⟩
    simp only [List.flatten_cons, List.flatten_nil, List.append_nil, List.append_assoc,
      List.take_append_drop]
  obtain ⟨responses, count, left, sent, turns, answered, _, _, made, _⟩ :=
    responses_in_order (.of_foldlM done) known arrived
  have two : responses.length = 2 := by rw [← length, sent, List.length_map]
  have asked : (encounters () (start ∅ []) pipelinedEvents).length = 2 := by
    rw [← List.length_map Prod.snd, turns]
    rfl
  refine ⟨s, client, responses, count, left, known, two, turns, ?_, made⟩
  rw [two, ← asked, List.take_length] at answered
  exact answered

end Site
end TinyRtsp
