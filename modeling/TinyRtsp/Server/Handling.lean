import TinyRtsp.Foundation.Triple
import TinyRtsp.Server.ConnectionHandler

/-! What the parts that all handlers share do. -/
namespace TinyRtsp.ConnectionHandler
variable {P : World → Prop} {w : World} {t : Turn} {request : RtspMessage}

theorem attempt_then {A B : Type} {result : Except Exception A} {f : A → Handling B}
    {Q : B → World → Prop} {R : Failure → World → Prop}
    (returned : ∀ a, result = .ok a → Triple P (f a) Q R)
    (thrown : ∀ e, result = .error e → ∀ w, P w → R (.exception e) w) :
    Triple P (attempt result >>= f) Q R := by
  cases result with
  | ok a => exact returned a rfl
  | error e => exact .bind (.throw (Q := fun _ _ => False) fun w here => thrown e rfl w here) nofun

theorem act_spec (call : Server → Outcome Server) (w : World) :
    Triple (· = w) (act call)
      (fun _ w' => call w.server = .returned w'.server ∧ w'.connection = w.connection)
      fun failure w' => w'.connection = w.connection ∧ match failure with
        | .exception e => call w.server = .thrown e w'.server
        | .terminate => call w.server = .terminated := by
  refine .get fun v same => ?_
  subst v
  split
  · refine .modify fun v same => ?_
    subst v
    exact ⟨‹_›, rfl⟩
  · rename_i e server ended
    refine .bind (.modify (T := fun _ w' => w' = { w with server }) ?_) fun _ => .throw ?_
    · rintro _ rfl
      rfl
    · rintro _ rfl
      exact ⟨rfl, ended⟩
  · refine .throw fun v same => ?_
    subst v
    exact ⟨rfl, ‹_›⟩

/-- What the turn receives parses to the request. -/
def Receives (request : RtspMessage) (t : Turn) : Prop :=
  ∃ bytes, t.received = some bytes ∧
    RtspMessage.parse (bytes.takeWhile (· != '\x00')) = .ok (some request)

theorem turn_run (receives : Receives request t) :
    (turn t).run w = (do
      let response ← dispatch t.env request
      sendRtspMessage t response.createResponse
      return decide (request.method ≠ .teardown) : Handling Bool).run w := by
  obtain ⟨bytes, received, parsed⟩ := receives
  have read : receive t = pure (bytes.takeWhile (· != '\x00')) := by rw [receive, received]
  have understood : attempt (RtspMessage.parse (bytes.takeWhile (· != '\x00'))) =
      pure (some request) := by rw [parsed]; rfl
  rw [turn, read, pure_bind, understood, pure_bind]

theorem turn_unread (none : ∀ request, ¬ Receives request t) :
    (turn t).run w = .ok false w ∨ ∃ e, (turn t).run w = .error (.exception e) w := by
  cases received : t.received with
  | none =>
    have failed : receive t = throw (.exception (.runtimeError "Failed to receive RTSP message")) := by
      rw [receive, received]
    exact .inr ⟨_, by rw [turn, failed]; rfl⟩
  | some bytes =>
    have read : receive t = pure (bytes.takeWhile (· != '\x00')) := by rw [receive, received]
    rw [turn, read, pure_bind]
    cases parsed : RtspMessage.parse (bytes.takeWhile (· != '\x00')) with
    | error e => exact .inr ⟨e, rfl⟩
    | ok result =>
      cases result with
      | none => exact .inl rfl
      | some request => exact absurd ⟨bytes, received, parsed⟩ (none request)

end TinyRtsp.ConnectionHandler
