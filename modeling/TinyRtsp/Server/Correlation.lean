import TinyRtsp.Server.Framing
import TinyRtsp.Server.Responses

/-! The sequence number of a request on its way into the response. Every path copies
it into `cseq_`, and `create_response` writes the header map, where it is not. -/
namespace TinyRtsp
namespace RtspMessage
variable {request response m : RtspMessage} {status : StatusCode} {key value : Text}

/-- The header lines of a serialised response: the lines behind the first, up to
the first empty line. -/
def headerLines (bytes : Text) : List Text :=
  match Text.cutAt (Text.crlf ++ Text.crlf) bytes with
  | some (head, _) => (Text.splitLines head).tail
  | none => []

def cseqLine (number : UInt32) : Text := "CSeq: ".toList ++ Text.decimal number.toNat

theorem WellFormed.headerLines (wellFormed : m.WellFormed) :
    headerLines m.createResponse = m.headerList.map headerLine := by
  obtain ⟨head, cut, split⟩ := wellFormed.cut
  rw [RtspMessage.headerLines, cut]
  simp only [split, List.tail_cons]

/-- A line that begins with a name and a colon is the line of the header with that
name. -/
theorem headerLine_name {header : (_ : Text) × Text} (clean : ':' ∉ header.1) {name : Text}
    (named : ':' ∉ name) (same : headerLine header = name ++ ": ".toList ++ value) : header.1 = name := by
  have until_ (text : Text) (free : ':' ∉ text) (rest : Text) :
      (text ++ ": ".toList ++ rest).takeWhile (· != ':') = text := by
    have inside : ∀ c ∈ text, (c != ':') = true := by
      intro c member
      simpa using fun colon : c = ':' => free (colon ▸ member)
    rw [List.append_assoc]
    exact (Text.span_append (": ".toList ++ rest) inside (by simp)).1
  rw [← until_ header.1 clean header.2, ← until_ name named value]
  exact congrArg _ same

theorem cseqLine_notMem (wellFormed : m.WellFormed)
    (absent : m.headers.lookup "CSeq".toList = none) (number : UInt32) :
    cseqLine number ∉ RtspMessage.headerLines m.createResponse := by
  rw [wellFormed.headerLines]
  intro member
  obtain ⟨header, inside, same⟩ := List.mem_map.mp member
  have found := mem_headerList.mp inside
  have name : header.1 = "CSeq".toList := by
    have joined : "CSeq: ".toList = "CSeq".toList ++ ": ".toList := by decide
    apply headerLine_name (wellFormed.name found).2 (by decide)
    exact same.trans (congrArg (· ++ Text.decimal number.toNat) joined)
  rw [name, absent] at found
  contradiction

/-- The response has the request's sequence number, and no header of its name. -/
structure Numbered (request response : RtspMessage) : Prop where
  cseq : response.cseq = request.cseq
  absent : response.headers.lookup "CSeq".toList = none

theorem Numbered.setHeaders (numbered : Numbered request response) (other : "CSeq".toList ≠ key) :
    Numbered request (response.setHeaders key value) := by
  refine ⟨numbered.cseq, ?_⟩
  rw [lookup_setHeaders, if_neg other]
  exact numbered.absent

end RtspMessage

namespace ConnectionHandler
open RtspMessage
variable {env : Env} {request response : RtspMessage}

/-- Whatever the state, the handler answers with the request's number or throws. -/
def Numbers (request : RtspMessage) (handler : Handling RtspMessage) : Prop :=
  Triple (fun _ => True) handler (fun answer _ => Numbered request answer) fun _ _ => True

theorem anything {A : Type} (x : Handling A) :
    Triple (fun _ => True) x (fun _ _ => True) fun _ _ => True := by
  intro w _
  cases x.run w with
  | ok a after => trivial
  | error e after => trivial

theorem answers (numbered : Numbered request response) : Numbers request (pure response) :=
  .pure fun _ _ => numbered

theorem after_step {A : Type} {x : Handling A} {next : A → Handling RtspMessage}
    (later : ∀ a, Numbers request (next a)) : Numbers request (x >>= next) :=
  .bind (anything x) later

theorem reply_numbered (blank : response.Blank) (status : StatusCode) :
    Numbered request (reply request response status) := by
  refine ⟨rfl, ?_⟩
  show response.headers.lookup _ = none
  rw [blank.headers]
  rfl

theorem session_numbered (blank : response.Blank) (value : Text) :
    Numbered request ((reply request response .ok).setHeaders "Session".toList value) :=
  (reply_numbered blank .ok).setHeaders (by decide)

theorem handleDescribe_numbers (blank : response.Blank) :
    Numbers request (handleDescribe env request response) := by
  refine after_step fun url => ?_
  split
  · refine answers ⟨rfl, ?_⟩
    show response.headers.lookup _ = none
    rw [blank.headers]
    rfl
  · refine after_step fun w => ?_
    split
    · exact answers ((reply_numbered blank .notFound).setHeaders (by decide))
    · have typed : Numbered request (((reply request response .ok).setHeaders
          "Content-Type".toList "application/sdp".toList).setHeaders "Content-Length".toList
            (Text.decimal (sdp env url.host ‹_›).length)) :=
        ((reply_numbered blank .ok).setHeaders (by decide)).setHeaders (by decide)
      exact answers ⟨typed.cseq, typed.absent⟩

theorem handleSetup_numbers (blank : response.Blank) :
    Numbers request (handleSetup env request response) := by
  refine after_step fun url => after_step fun client => after_step fun port => ?_
  refine after_step fun sessionId => after_step fun w => ?_
  split
  · exact answers (reply_numbered blank .notFound)
  · split
    · exact answers (reply_numbered blank .notFound)
    · have added (transport : Text) : Numbered request (((reply request response .ok).setHeaders
          "Transport".toList transport).setHeaders "Session".toList sessionId) :=
        ((reply_numbered blank .ok).setHeaders (by decide)).setHeaders (by decide)
      split
      · exact after_step fun _ => after_step fun _ => answers (added _)
      · exact after_step fun _ => answers (added _)

theorem dispatch_numbers (env : Env) (request : RtspMessage) :
    Numbers request (dispatch env request) := by
  have blank := blank_new request.cseq
  refine after_step fun _ => ?_
  dsimp only
  split
  · exact answers ((reply_numbered blank .ok).setHeaders (by decide))
  · exact handleDescribe_numbers blank
  · exact handleSetup_numbers blank
  · refine after_step fun w => ?_
    split
    · refine after_step fun _ => answers ?_
      exact ((session_numbered blank _).setHeaders (by decide)).setHeaders (by decide)
    · exact answers (reply_numbered blank .notFound)
  · refine after_step fun w => ?_
    split
    · exact after_step fun _ => answers (session_numbered blank _)
    · exact answers (reply_numbered blank .notFound)
  · refine after_step fun w => ?_
    split
    · exact after_step fun _ => answers (session_numbered blank _)
    · exact answers (reply_numbered blank .notFound)
  · exact answers ⟨rfl, rfl⟩

/-- Whatever the connection receives, each text that it sends is the response to one
of the requests and has its sequence number, and none of them has a header line
with any sequence number. -/
theorem responses_without_cseq (turns : List Turn) (w : World) :
    ∃ responses : List RtspMessage,
      (finalState (process turns) w).connection.sent =
        w.connection.sent ++ responses.map createResponse ∧
      ∀ response ∈ responses,
        (∃ t ∈ turns, ∃ request, Receives request t ∧ response.cseq = request.cseq) ∧
        ∀ number, cseqLine number ∉ headerLines response.createResponse := by
  obtain ⟨responses, sent, known⟩ := process_replied turns w
  refine ⟨responses, sent, fun response member => ?_⟩
  obtain ⟨i, here⟩ := List.mem_iff_getElem?.mp member
  obtain ⟨wellFormed, t, _, position, _, request, _, receives, ended⟩ := known i response here
  have numbered : Numbered request response := (dispatch_numbers t.env request).returned trivial ended
  exact ⟨⟨t, List.mem_of_getElem? position, request, receives, numbered.cseq⟩,
    cseqLine_notMem wellFormed numbered.absent⟩

/-- OPTIONS with the sequence number 1 is answered without it. -/
theorem options_answered_without_cseq :
    ¬ ∀ (t : Turn) (w : World) (request : RtspMessage), Receives request t → ∀ text,
      (finalState (turn t) w).connection.sent = w.connection.sent ++ [text] →
        cseqLine request.cseq ∈ headerLines text := by
  intro claim
  have outcome : (finalState (turn (idleTurn firstRequest.text)) idleWorld).connection.sent.map
      (fun text => decide (cseqLine firstRequest.message.cseq ∈ headerLines text)) = [false] := by
    decide +kernel
  obtain ⟨text, sent, without⟩ := List.map_eq_singleton_iff.mp outcome
  have noNull : firstRequest.text.takeWhile (· != '\x00') = firstRequest.text := by decide +kernel
  have receives : Receives firstRequest.message (idleTurn firstRequest.text) :=
    ⟨_, rfl, (congrArg parse noNull).trans (parse_text firstRequest)⟩
  exact of_decide_eq_false without (claim _ idleWorld _ receives text sent)

end ConnectionHandler
end TinyRtsp
