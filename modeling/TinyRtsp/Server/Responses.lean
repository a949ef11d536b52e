import TinyRtsp.Rtsp.Response
import TinyRtsp.Server.Handling

/-! Every response that a connection sends reads back as it was set, whatever the
request contains. -/
namespace TinyRtsp

namespace RtspMessage
variable {request response : RtspMessage} {key value : Text} {status : StatusCode}

/-- A response without headers and body, as the handlers get it. -/
structure Blank (m : RtspMessage) : Prop where
  protocol : m.protocol.Clean
  headers : m.headers = ∅
  body : m.body = []

theorem blank_new (number : UInt32) : ({ new with cseq := number } : RtspMessage).Blank :=
  ⟨show Text.Clean "RTSP/1.0".toList by decide, rfl, rfl⟩

theorem Blank.wellFormed (blank : response.Blank) (status : response.statusCode ≠ .unset) :
    response.WellFormed := by
  have none : ∀ name, response.headers.lookup name = none := by
    intro name
    rw [blank.headers]
    rfl
  refine ⟨status, blank.protocol, ?_, ?_, ?_⟩
  · intro name value found
    rw [none] at found
    contradiction
  · intro name value found
    rw [none] at found
    contradiction
  · rw [Framed, none]
    exact blank.body

theorem WellFormed.setHeaders (wellFormed : response.WellFormed) (name : key.Clean ∧ ':' ∉ key)
    (other : key ≠ "Content-Length".toList) (clean : value.Clean) :
    (response.setHeaders key value).WellFormed := by
  refine ⟨wellFormed.status, wellFormed.protocol, ?_, ?_, ?_⟩
  · intro here text found
    rw [lookup_setHeaders] at found
    split at found
    · subst here
      exact name
    · exact wellFormed.name found
  · intro here text found
    rw [lookup_setHeaders] at found
    split at found
    · exact Option.some.inj found ▸ clean
    · exact wellFormed.value found
  · have framed := wellFormed.framed
    rw [Framed, lookup_setHeaders, if_neg other.symm]
    exact framed

theorem WellFormed.setBody (wellFormed : response.WellFormed) (body : Text)
    (length : value = Text.decimal body.length) :
    ({ response.setHeaders "Content-Length".toList value with body := body } : RtspMessage).WellFormed := by
  subst length
  refine ⟨wellFormed.status, wellFormed.protocol, ?_, ?_, ?_⟩
  · intro here text found
    rw [lookup_setHeaders] at found
    split at found
    · subst here
      exact ⟨by decide, by decide⟩
    · exact wellFormed.name found
  · intro here text found
    rw [lookup_setHeaders] at found
    split at found
    · exact Option.some.inj found ▸ Text.clean_decimal _
    · exact wellFormed.value found
  · rw [Framed, lookup_setHeaders, if_pos rfl]

end RtspMessage

namespace ConnectionHandler
open RtspMessage

/-- A property of what the connection has dispatched and given to `send`. -/
def Logs (P : List RtspMessage → List Text → Prop) (w : World) : Prop :=
  P w.connection.dispatched w.connection.sent

variable {request response : RtspMessage} {env : Env} {P : List RtspMessage → List Text → Prop}

/-- A handler answers with a well-formed response or throws, and dispatches and
sends nothing itself. -/
def Answers (handler : Handling RtspMessage) : Prop :=
  ∀ P, Triple (Logs P) handler (fun answer w => answer.WellFormed ∧ Logs P w) fun _ => Logs P

theorem act_logs {call : Server → Outcome Server} :
    Triple (Logs P) (act call) (fun _ => Logs P) fun _ => Logs P := by
  intro w here
  refine (act_spec call w).weaken (fun _ => id) (fun _ w' ended => ?_) (fun _ w' ended => ?_) w rfl
  · rw [Logs, ended.2]
    exact here
  · rw [Logs, ended.1]
    exact here

theorem parseUrlOf_logs :
    Triple (Logs P) (parseUrlOf request) (fun _ => Logs P) fun _ => Logs P := by
  refine attempt_then (fun url _ => ?_) fun _ _ _ here => here
  refine .bind (.modify (T := fun _ => Logs P) fun w here => here) fun _ => ?_
  exact .pure fun w here => here

theorem reply_wellFormed (clean : request.CleanRequest) (blank : response.Blank) {status : StatusCode}
    (set : status ≠ .unset) : (reply request response status).WellFormed :=
  Blank.wellFormed ⟨clean.protocol, blank.headers, blank.body⟩ set

theorem ok_wellFormed (clean : request.CleanRequest) (blank : response.Blank) :
    (reply request response .ok).WellFormed :=
  reply_wellFormed clean blank nofun

theorem sessionHeader_wellFormed (clean : request.CleanRequest) (blank : response.Blank) :
    ((reply request response .ok).setHeaders "Session".toList
      (request.getHeaderValue "Session".toList)).WellFormed :=
  (ok_wellFormed clean blank).setHeaders (by decide) (by decide) (clean.getHeaderValue _)

theorem notFound_answers (clean : request.CleanRequest) (blank : response.Blank) :
    Answers (pure (reply request response .notFound)) :=
  fun _ => .pure fun _ here => ⟨reply_wellFormed clean blank nofun, here⟩

theorem handleOptions_answers (clean : request.CleanRequest) (blank : response.Blank) :
    Answers (handleOptions request response) := by
  intro P
  refine .pure fun w here => ⟨?_, here⟩
  exact (ok_wellFormed clean blank).setHeaders (by decide) (by decide) (by decide)

theorem handleDescribe_answers (clean : request.CleanRequest) (blank : response.Blank) :
    Answers (handleDescribe env request response) := by
  intro P
  refine .bind parseUrlOf_logs fun url => ?_
  split
  · refine .pure fun w here => ⟨?_, here⟩
    exact Blank.wellFormed ⟨blank.protocol, blank.headers, blank.body⟩ nofun
  · refine .read fun w => ?_
    split
    · refine .pure fun _ here => ⟨?_, here⟩
      have replied : (reply request response .notFound).WellFormed :=
        reply_wellFormed clean blank nofun
      exact replied.setBody response.body (by rw [blank.body]; rfl)
    · refine .pure fun _ here => ⟨?_, here⟩
      have typed : ((reply request response .ok).setHeaders "Content-Type".toList
          "application/sdp".toList).WellFormed :=
        (ok_wellFormed clean blank).setHeaders (by decide) (by decide) (by decide)
      exact typed.setBody _ rfl

theorem allocatePortPair_logs :
    Triple (Logs P) allocatePortPair (fun _ => Logs P) fun _ => Logs P := by
  refine .get fun w here => ?_
  refine .bind (.modify (T := fun _ => Logs P) fun _ same => same ▸ here) fun _ => ?_
  exact .pure fun w here => here

theorem padded_clean (width n : Nat) : (padded width n).Clean := by
  refine Text.clean_of_isDigit fun c member => ?_
  rw [padded, List.leftpad] at member
  rcases List.mem_append.mp member with zero | digit
  · obtain rfl := List.eq_of_mem_replicate zero
    rfl
  · exact Nat.isDigit_of_mem_toDigits (by decide) (by decide) digit

theorem sessionIdOf_logs (clean : request.CleanRequest) :
    Triple (Logs P) (sessionIdOf env request)
      (fun sessionId w => sessionId.Clean ∧ Logs P w) fun _ => Logs P := by
  unfold sessionIdOf
  dsimp only
  split
  · refine .bind (.modify (T := fun _ => Logs P) fun w here => here) fun _ => ?_
    exact .pure fun w here => ⟨(padded_clean _ _).append (padded_clean _ _), here⟩
  · exact .pure fun w here => ⟨clean.getHeaderValue _, here⟩

theorem handleSetup_answers (clean : request.CleanRequest) (blank : response.Blank) :
    Answers (handleSetup env request response) := by
  intro P
  refine .bind parseUrlOf_logs fun url => ?_
  refine attempt_then (fun client parsed => ?_) fun _ _ _ here => here
  have range := parseTransport_clean (clean.getHeaderValue _) parsed
  refine .bind allocatePortPair_logs fun serverPort => ?_
  refine .bind (sessionIdOf_logs clean) fun sessionId => .fact fun sessionClean => ?_
  have ports (n m : Int) : Text.Clean ("RTP/AVP;unicast;client_port=".toList ++ client.range ++
      ";server_port=".toList ++ Text.decimalInt n ++ "-".toList ++ Text.decimalInt m) := by
    have front : Text.Clean "RTP/AVP;unicast;client_port=".toList := by decide
    have middle : Text.Clean ";server_port=".toList := by decide
    have dash : Text.Clean "-".toList := by decide
    exact ((((front.append range).append middle).append (Text.clean_decimalInt n)).append dash).append
      (Text.clean_decimalInt m)
  refine .read fun w => ?_
  split
  · exact notFound_answers clean blank P
  · split
    · exact notFound_answers clean blank P
    · have added (call : Server → Outcome Server) : Triple (Logs P) (do
            act call
            return ((reply request response .ok).setHeaders "Transport".toList
              ("RTP/AVP;unicast;client_port=".toList ++ client.range ++ ";server_port=".toList ++
                Text.decimalInt serverPort ++ "-".toList ++
                Text.decimalInt (serverPort + 1))).setHeaders "Session".toList sessionId)
          (fun answer w => answer.WellFormed ∧ Logs P w) fun _ => Logs P := by
        refine .bind act_logs fun _ => .pure fun _ here => ⟨?_, here⟩
        exact ((ok_wellFormed clean blank).setHeaders (by decide) (by decide)
          (ports _ _)).setHeaders (by decide) (by decide) sessionClean
      split
      · exact .bind (.modify (T := fun _ => Logs P) fun _ here => here) fun _ => added _
      · exact added _

theorem handlePlay_answers (clean : request.CleanRequest) (blank : response.Blank) :
    Answers (handlePlay env request response) := by
  intro P
  refine .read fun w => ?_
  split
  · refine .bind act_logs fun _ => ?_
    refine .pure fun _ here => ⟨?_, here⟩
    have url : Text.Clean ("url=".toList ++ request.requestUri ++ ";seq=1;rtptime=0".toList) :=
      (Text.Clean.append (by decide) clean.requestUri).append (by decide)
    exact ((sessionHeader_wellFormed clean blank).setHeaders (by decide) (by decide)
      (clean.getHeaderValue _)).setHeaders (by decide) (by decide) url
  · exact notFound_answers clean blank P

theorem handlePause_answers (clean : request.CleanRequest) (blank : response.Blank) :
    Answers (handlePause request response) := by
  intro P
  refine .read fun w => ?_
  split
  · refine .bind (.modify (T := fun _ => Logs P) fun _ here => here) fun _ => ?_
    exact .pure fun _ here => ⟨sessionHeader_wellFormed clean blank, here⟩
  · exact notFound_answers clean blank P

theorem handleTeardown_answers (clean : request.CleanRequest) (blank : response.Blank) :
    Answers (handleTeardown request response) := by
  intro P
  refine .read fun w => ?_
  split
  · refine .bind (.modify (T := fun _ => Logs P) fun _ here => here) fun _ => ?_
    exact .pure fun _ here => ⟨sessionHeader_wellFormed clean blank, here⟩
  · exact notFound_answers clean blank P

theorem dispatch_answers (env : Env) (clean : request.CleanRequest)
    (P : List RtspMessage → List Text → Prop) :
    Triple (Logs fun dispatched sent => P (dispatched ++ [request]) sent) (dispatch env request)
      (fun answer w => answer.WellFormed ∧ Logs P w) fun _ => Logs P := by
  have blank := blank_new request.cseq
  refine .bind (.modify (T := fun _ => Logs P) fun _ here => here) fun _ => ?_
  dsimp only
  split
  · exact handleOptions_answers clean blank P
  · exact handleDescribe_answers clean blank P
  · exact handleSetup_answers clean blank P
  · exact handlePlay_answers clean blank P
  · exact handlePause_answers clean blank P
  · exact handleTeardown_answers clean blank P
  · refine .pure fun _ here => ⟨?_, here⟩
    exact Blank.wellFormed ⟨blank.protocol, blank.headers, blank.body⟩ nofun

variable {t : Turn} {w : World}

/-- The response is what a handler makes of the request that the turn receives, in the
world that the turn meets. -/
def Answered (w : World) (t : Turn) (response : RtspMessage) : Prop :=
  ∃ request after, Receives request t ∧ (dispatch t.env request).run w = .ok response after

/-- What a turn has given to `send`: an answer to its request, or nothing. -/
inductive Sends (t : Turn) (before after : World) : Prop where
  | answer (response : RtspMessage) (answered : Answered before t response)
      (wellFormed : response.WellFormed)
      (sent : after.connection.sent = before.connection.sent ++ [response.createResponse])
  | nothing (sent : after.connection.sent = before.connection.sent)

theorem turn_sends (t : Turn) (w : World) :
    match (turn t).run w with
    | .ok goes left => Sends t w left ∧ (goes = true → left.connection.sent ≠ w.connection.sent)
    | .error _ left => Sends t w left := by
  by_cases read : ∃ request, Receives request t
  · obtain ⟨request, receives⟩ := read
    obtain ⟨_, _, parsed⟩ := id receives
    have answers := dispatch_answers t.env (parse_clean parsed)
      (fun _ texts => texts = w.connection.sent) w rfl
    rw [turn_run receives, EStateM.run_bind]
    cases handled : (dispatch t.env request).run w with
    | error e left =>
      rw [handled] at answers
      exact .nothing answers
    | ok response after =>
      rw [handled] at answers
      obtain ⟨wellFormed, same⟩ := answers
      have same : after.connection.sent = w.connection.sent := same
      have recorded : Sends t w
          { after with connection.sent := after.connection.sent ++ [response.createResponse] } :=
        .answer response ⟨request, after, receives, handled⟩ wellFormed (by rw [same])
      cases result : t.send with
      | whole =>
        have run : (sendRtspMessage t response.createResponse).run after = .ok ()
            { after with connection.sent := after.connection.sent ++ [response.createResponse] } := by
          rw [sendRtspMessage, result]
          rfl
        simp only [EStateM.run_bind, run, EStateM.run_pure]
        exact ⟨recorded, fun _ => by simp [same]⟩
      | part | failed | brokenPipe =>
        have run : ∃ e, (sendRtspMessage t response.createResponse).run after = .error e
            { after with connection.sent := after.connection.sent ++ [response.createResponse] } := by
          rw [sendRtspMessage, result]
          exact ⟨_, rfl⟩
        obtain ⟨e, run⟩ := run
        simp only [EStateM.run_bind, run]
        exact recorded
  · rcases turn_unread (w := w) (t := t) fun request receives => read ⟨request, receives⟩ with
      ended | ⟨e, ended⟩
    · rw [ended]
      exact ⟨.nothing rfl, nofun⟩
    · rw [ended]
      exact .nothing rfl

theorem process_goes {next : World} (ended : (turn t).run w = .ok true next) (rest : List Turn) :
    (process (t :: rest)).run w = (process rest).run next := by
  simp only [process, EStateM.run_bind, ended, if_true]

/-- Each response answers the turn at its place, in the world that the turns before it
leave. -/
def Replies (turns : List Turn) (w : World) (responses : List RtspMessage) : Prop :=
  ∀ i response, responses[i]? = some response → response.WellFormed ∧
    ∃ t reached, turns[i]? = some t ∧ (process (turns.take i)).run w = .ok () reached ∧
      Answered reached t response

section Replies
variable {turns rest : List Turn} {left : World} {response : RtspMessage} {responses : List RtspMessage}

theorem replies_nil : Replies turns w [] := by
  intro i response here
  simp at here

theorem replies_single (answered : Answered w t response) (wellFormed : response.WellFormed) :
    Replies (t :: rest) w [response] := by
  intro i one here
  cases i with
  | zero =>
    obtain rfl := Option.some.inj here
    exact ⟨wellFormed, t, w, rfl, rfl, answered⟩
  | succ i => simp at here

theorem replies_cons (ended : (turn t).run w = .ok true left) (answered : Answered w t response)
    (wellFormed : response.WellFormed) (later : Replies rest left responses) :
    Replies (t :: rest) w (response :: responses) := by
  intro i one here
  cases i with
  | zero =>
    obtain rfl := Option.some.inj here
    exact ⟨wellFormed, t, w, rfl, rfl, answered⟩
  | succ i =>
    obtain ⟨formed, u, reached, position, before, answers⟩ := later i one here
    exact ⟨formed, u, reached, position, (process_goes ended _).trans before, answers⟩

theorem process_replied (turns : List Turn) (w : World) :
    ∃ responses, (finalState (process turns) w).connection.sent =
      w.connection.sent ++ responses.map createResponse ∧ Replies turns w responses := by
  induction turns generalizing w with
  | nil => exact ⟨[], by simp [process, finalState], replies_nil⟩
  | cons t rest ih =>
    -- the loop ends behind this turn
    have last {left : World} (ended : finalState (process (t :: rest)) w = left) (sends : Sends t w left) :
        ∃ responses, (finalState (process (t :: rest)) w).connection.sent =
          w.connection.sent ++ responses.map createResponse ∧ Replies (t :: rest) w responses := by
      rw [ended]
      cases sends with
      | nothing sent => exact ⟨[], by simpa using sent, replies_nil⟩
      | answer response answered wellFormed sent =>
        exact ⟨[response], sent, replies_single answered wellFormed⟩
    have sends := turn_sends t w
    cases ended : (turn t).run w with
    | error e left =>
      rw [ended] at sends
      refine last ?_ sends
      simp only [finalState, process, EStateM.run_bind, ended]
    | ok goes left =>
      rw [ended] at sends
      cases goes with
      | false =>
        refine last ?_ sends.1
        simp [finalState, process, EStateM.run_bind, ended]
      | true =>
        cases sends.1 with
        | nothing sent => exact absurd sent (sends.2 rfl)
        | answer response answered wellFormed sent =>
          obtain ⟨responses, all, later⟩ := ih left
          refine ⟨response :: responses, ?_, replies_cons ended answered wellFormed later⟩
          rw [finalState, process_goes ended, ← finalState, all, sent]
          simp

end Replies

/-- Every text that a connection gives to `send` is a status line, one line for each header,
an empty line and the body, and no line break of a request gets into it: cutting
it at the first empty line gives back the status line, the headers and the body
that the handler set, with a body as long as Content-Length says. The handler made it
of the request of its own turn, in the world that the turns before left. -/
theorem responses_unsplit (turns : List Turn) (w : World) :
    ∃ responses : List RtspMessage,
      (finalState (process turns) w).connection.sent =
        w.connection.sent ++ responses.map createResponse ∧
      ∀ i response, responses[i]? = some response →
        (∃ t reached, turns[i]? = some t ∧ (process (turns.take i)).run w = .ok () reached ∧
          Answered reached t response) ∧
        response.statusCode ≠ .unset ∧
        response.firstLine = response.protocol ++ " ".toList ++
          Text.decimal response.statusCode.value ++ " ".toList ++
          statusCodeToString response.statusCode ∧
        response.createResponse = response.firstLine ++ Text.crlf ++
          response.headerList.flatMap
            (fun header => header.1 ++ ": ".toList ++ header.2 ++ Text.crlf) ++
          Text.crlf ++ response.body ∧
        response.firstLine.Clean ∧
        (∀ header ∈ response.headerList, header.1.Clean ∧ header.2.Clean) ∧
        readResponse response.createResponse =
          some ⟨response.firstLine, response.headerList, response.body⟩ ∧
        (∀ name, response.headerList.dlookup name = response.headers.lookup name) ∧
        (response.headers.lookup "Content-Length".toList = some (Text.decimal response.body.length) ∨
          response.headers.lookup "Content-Length".toList = none ∧ response.body = []) := by
  obtain ⟨responses, sent, known⟩ := process_replied turns w
  refine ⟨responses, sent, fun i response here => ?_⟩
  obtain ⟨wellFormed, answered⟩ := known i response here
  have header {header} (inside : header ∈ response.headerList) := mem_headerList.mp inside
  refine ⟨answered, wellFormed.status, if_pos wellFormed.status, rfl,
    (wellFormed.lines _ List.mem_cons_self).1,
    fun one inside => ⟨(wellFormed.name (header inside)).1, wellFormed.value (header inside)⟩,
    wellFormed.readResponse, dlookup_headerList response, ?_⟩
  have framed := wellFormed.framed
  unfold Framed at framed
  split at framed
  · rename_i length found
    exact .inl (framed ▸ found)
  · exact .inr ⟨‹_›, framed⟩

end ConnectionHandler
end TinyRtsp
