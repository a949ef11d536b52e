import TinyRtsp.Rtsp.Request
import TinyRtsp.Server.Responses

/-! How `process` finds the requests in what `recv` returns: each result is one
request by itself, and nothing is kept from one result to the next. -/
namespace TinyRtsp
namespace ConnectionHandler

/-- Handling the request or sending its response throws. -/
def Fails (t : Turn) (request : RtspMessage) (w : World) (e : Failure) (left : World) : Prop :=
  (dispatch t.env request).run w = .error e left ∨
    ∃ response answered, (dispatch t.env request).run w = .ok response answered ∧
      (sendRtspMessage t response.createResponse).run answered = .error e left

section Turns
variable {request : RtspMessage} {t : Turn} {w : World}

theorem sendRtspMessage_dispatched (t : Turn) (message : Text) {P : List RtspMessage → Prop} :
    Triple (Logs fun dispatched _ => P dispatched) (sendRtspMessage t message)
      (fun _ => Logs fun dispatched _ => P dispatched) fun _ => Logs fun dispatched _ => P dispatched := by
  refine .bind (.modify (T := fun _ => Logs fun dispatched _ => P dispatched) fun _ here => here)
    fun _ => ?_
  split
  · exact .pure fun _ here => here
  · exact .throw fun _ here => here
  · exact .throw fun _ here => here
  · exact .throw fun _ here => here

/-- A turn that receives a request dispatches it, and goes on when it can be
answered and is no TEARDOWN. -/
theorem turn_dispatches (receives : Receives request t) (w : World) :
    (∃ left, (turn t).run w = .ok (decide (request.method ≠ .teardown)) left ∧
      left.connection.dispatched = w.connection.dispatched ++ [request]) ∨
    ∃ e left, (turn t).run w = .error e left ∧ Fails t request w e left ∧
      left.connection.dispatched = w.connection.dispatched ++ [request] := by
  obtain ⟨bytes, _, parsed⟩ := id receives
  have logged := dispatch_answers t.env (RtspMessage.parse_clean parsed)
    (fun dispatched _ => dispatched = w.connection.dispatched ++ [request]) w rfl
  rw [turn_run receives]
  cases handled : (dispatch t.env request).run w with
  | error e left =>
    rw [handled] at logged
    refine .inr ⟨e, left, ?_, .inl handled, logged⟩
    simp only [EStateM.run_bind, handled]
  | ok response answered =>
    rw [handled] at logged
    have kept := sendRtspMessage_dispatched t response.createResponse answered logged.2
    cases sent : (sendRtspMessage t response.createResponse).run answered with
    | error e left =>
      rw [sent] at kept
      refine .inr ⟨e, left, ?_, .inr ⟨response, answered, handled, sent⟩, kept⟩
      simp only [EStateM.run_bind, handled, sent]
    | ok _ left =>
      rw [sent] at kept
      refine .inl ⟨left, ?_, kept⟩
      simp only [EStateM.run_bind, handled, sent, EStateM.run_pure]

/-- Each result is handled as one request: all of them, or up to the first whose
handling or answer fails. -/
theorem process_dispatches {requests : List RtspMessage} {turns : List Turn}
    (received : List.Forall₂ Receives requests turns)
    (going : ∀ request ∈ requests.dropLast, request.method ≠ .teardown) (w : World) :
    (∃ left, (process turns).run w = .ok () left ∧
      left.connection.dispatched = w.connection.dispatched ++ requests) ∨
    ∃ before request after t reached e left, requests = before ++ request :: after ∧
      (process (turns.take before.length)).run w = .ok () reached ∧
      turns[before.length]? = some t ∧ Receives request t ∧ Fails t request reached e left ∧
      (process turns).run w = .error e left ∧
      left.connection.dispatched = w.connection.dispatched ++ (before ++ [request]) := by
  induction received generalizing w with
  | nil => exact .inl ⟨w, rfl, by simp⟩
  | @cons request t requests turns receives received ih =>
    rcases turn_dispatches receives w with ⟨next, ended, logged⟩ | ⟨e, left, ended, fails, logged⟩
    · cases received with
      | nil =>
        refine .inl ⟨next, ?_, logged⟩
        simp only [process, EStateM.run_bind, ended]
        split <;> rfl
      | @cons second u others turns also received =>
        have goes : request.method ≠ .teardown := going request (by simp)
        rw [decide_eq_true goes] at ended
        have first := process_goes ended
        rcases ih (fun other member => going other (by simp [member])) next with
          ⟨left, done, all⟩ | ⟨before, other, after, v, reached, e, left, split, done, position, others,
            fails, thrown, all⟩
        · exact .inl ⟨left, (first _).trans done, by simp [all, logged]⟩
        · refine .inr ⟨request :: before, other, after, v, reached, e, left, by simp [split], ?_, ?_,
            others, fails, (first _).trans thrown, by simp [all, logged]⟩
          · rw [List.length_cons, List.take_succ_cons]
            exact (first _).trans done
          · rwa [List.length_cons, List.getElem?_cons_succ]
    · refine .inr ⟨[], request, requests, t, w, e, left, rfl, rfl, rfl, receives, fails, ?_, logged⟩
      simp only [process, EStateM.run_bind, ended]

end Turns

/-- What `recv` may return for a stream of bytes. -/
def Delivers (bytes : Text) (results : List Text) : Prop :=
  results.flatten = bytes ∧ ∀ result ∈ results, result ≠ [] ∧ result.length ≤ 4095

/-- Requests that arrive one in each result are parsed and dispatched in order and
once each: all of them, or up to the first whose handling or answer fails. -/
theorem process_framed {requests : List Request} {turns : List Turn}
    (delivered : List.Forall₂ (fun r t => t.received = some r.text) requests turns)
    (noNull : ∀ r ∈ requests, '\x00' ∉ r.text)
    (going : ∀ r ∈ requests.dropLast, r.message.method ≠ .teardown) (w : World) :
    (∃ left, (process turns).run w = .ok () left ∧
      left.connection.dispatched = w.connection.dispatched ++ requests.map Request.message) ∨
    ∃ before request after t reached e left,
      requests.map Request.message = before ++ request :: after ∧
      (process (turns.take before.length)).run w = .ok () reached ∧
      turns[before.length]? = some t ∧ Receives request t ∧ Fails t request reached e left ∧
      (process turns).run w = .error e left ∧
      left.connection.dispatched = w.connection.dispatched ++ (before ++ [request]) := by
  refine process_dispatches ?_ ?_ w
  · rw [List.forall₂_map_left_iff]
    refine ((List.forall₂_and_left _ _).mpr ⟨noNull, delivered⟩).imp fun r t ⟨clean, received⟩ => ?_
    have whole : r.text.takeWhile (· != '\x00') = r.text := by
      refine List.takeWhile_eq_self_iff.mpr fun c member => ?_
      simpa using fun same : c = '\x00' => clean (same ▸ member)
    exact ⟨r.text, received, by rw [whole, RtspMessage.parse_text]⟩
  · intro message member
    rw [← List.map_dropLast] at member
    obtain ⟨r, inside, rfl⟩ := List.mem_map.mp member
    exact going r inside

def firstRequest : Request where
  method := ⟨"OPTIONS".toList, by decide, by decide⟩
  uri := ⟨"*".toList, by decide, by decide⟩
  protocol := ⟨"RTSP/1.0".toList, by decide, by decide⟩
  firstGap := 0
  secondGap := 0
  lineEnd := .crlf
  headers := [⟨"CSeq".toList, "1".toList, 1, 0, .crlf, by decide, by decide, by decide, by decide,
    by decide, by decide, fun _ => by decide⟩]
  lastEnd := .crlf
  body := []

def secondRequest : Request :=
  { firstRequest with
    headers := [⟨"CSeq".toList, "2".toList, 1, 0, .crlf, by decide, by decide, by decide, by decide,
      by decide, by decide, fun _ => by decide⟩] }

def pipelined : List Request := [firstRequest, secondRequest]

/-- A server without streams, which `OPTIONS` does not ask for. -/
def idleWorld : World := ⟨⟨∅, ∅, []⟩, ⟨[], [], .empty, [], []⟩⟩

def idleTurn (result : Text) : Turn := ⟨some result, ⟨0, 0, .ok (), fun _ => true⟩, .whole⟩

theorem process_framed_two :
    List.Forall₂ (fun (r : Request) t => t.received = some r.text) pipelined
      (pipelined.map (idleTurn ·.text)) ∧
    ∃ left, (process (pipelined.map (idleTurn ·.text))).run idleWorld = .ok () left ∧
      left.connection.dispatched = pipelined.map Request.message := by
  have delivered : List.Forall₂ (fun (r : Request) t => t.received = some r.text) pipelined
      (pipelined.map (idleTurn ·.text)) := .cons rfl (.cons rfl .nil)
  have returns : (match (process (pipelined.map (idleTurn ·.text))).run idleWorld with
      | .ok _ _ => true
      | .error _ _ => false) = true := by decide +kernel
  refine ⟨delivered, ?_⟩
  rcases process_framed delivered (by decide +kernel) (by decide +kernel) idleWorld with
    done | ⟨_, _, _, _, _, _, _, _, _, _, _, _, thrown, _⟩
  · exact done
  · rw [thrown] at returns
    contradiction

/-- Two requests in one result: the second is never dispatched, while it is when
each has a result of its own. -/
theorem pipelined_request_lost :
    (∀ r ∈ pipelined, r.body = [] ∧ r.text.length < 4096 ∧ '\x00' ∉ r.text ∧
      r.message.method ≠ .teardown) ∧
    Delivers (pipelined.flatMap Request.text) [pipelined.flatMap Request.text] ∧
    Delivers (pipelined.flatMap Request.text) (pipelined.map Request.text) ∧
    (finalState (process [idleTurn (pipelined.flatMap Request.text)])
      idleWorld).connection.dispatched ≠ pipelined.map Request.message ∧
    (finalState (process [idleTurn (pipelined.flatMap Request.text)]) idleWorld).connection.dispatched ≠
      (finalState (process (pipelined.map (idleTurn ·.text))) idleWorld).connection.dispatched := by
  have together : (finalState (process [idleTurn (pipelined.flatMap Request.text)])
      idleWorld).connection.dispatched.length = 1 := by decide +kernel
  have apart : (finalState (process (pipelined.map (idleTurn ·.text)))
      idleWorld).connection.dispatched.length = 2 := by decide +kernel
  refine ⟨by decide +kernel, ?_, ?_, ?_, ?_⟩
  · exact ⟨by simp, by decide +kernel⟩
  · exact ⟨(List.flatMap_def ..).symm, by decide +kernel⟩
  · intro same
    rw [same] at together
    exact absurd together (by decide)
  · intro same
    rw [same, apart] at together
    exact absurd together (by decide)

end ConnectionHandler
end TinyRtsp
