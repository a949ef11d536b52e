import TinyRtsp.Rtsp.Request

/-! Which texts `parse` returns from. A header line without a value leaves it by an
exception of `substr`, a `CSeq` that is no `int` by one of `stoi`. -/
namespace TinyRtsp.RtspMessage

/-- The header lines of what follows the request line, without carriage returns and
up to the first empty one. -/
def fieldLines (data : Text) : List Text :=
  match _ : Text.getline '\n' data with
  | none => []
  | some (line, rest) =>
    if line.filter (· != '\r') = [] then [] else line.filter (· != '\r') :: fieldLines rest
  termination_by data.length
  decreasing_by exact Text.getline_length ‹_›

def headerTexts (data : Text) : List Text :=
  match Text.getline '\n' data with
  | none => []
  | some (_, rest) => fieldLines rest

/-- All of the line, when it has no colon. -/
def fieldName (line : Text) : Text := line.takeWhile (· != ':')

def fieldValue (line : Text) : Text := (line.dropWhile (· != ':')).drop 1

/-- The line has a value, and that of a `CSeq` is a number. -/
def Readable (line : Text) : Prop :=
  (∃ c ∈ fieldValue line, c ≠ ' ') ∧
    (fieldName line = "CSeq".toList → (fieldValue line).BeginsWithInt)

theorem returns_bind {A B : Type} {x : Except Exception A} {next : A → Except Exception B} :
    (∃ b, (x >>= next) = .ok b) ↔ ∃ a, x = .ok a ∧ ∃ b, next a = .ok b := by
  cases x with
  | error e => exact iff_of_false nofun nofun
  | ok a =>
    constructor
    · exact fun ⟨b, returned⟩ => ⟨a, rfl, b, returned⟩
    · rintro ⟨_, same, returned⟩
      obtain rfl := Except.ok.inj same
      exact returned

section Lines
variable {m : RtspMessage} {line : Text}

theorem parseHeaderLine_returns_iff (nonempty : line ≠ []) (whole : '\n' ∉ line) :
    (∃ after, m.parseHeaderLine line = .ok after) ↔ Readable line := by
  have named : Text.getline ':' line = some (fieldName line, fieldValue line) := by
    rw [Text.getline, if_neg nonempty]
    rfl
  have value : ((Text.getline '\n' (fieldValue line)).getD ([], [])).1 = fieldValue line := by
    by_cases none : fieldValue line = []
    · rw [none]
      rfl
    · have inside : '\n' ∉ fieldValue line := fun member =>
        whole (List.dropWhile_subset _ (List.mem_of_mem_drop member))
      rw [Text.getline_whole inside none]
      rfl
  have steps : m.parseHeaderLine line = (Text.trimSpaces (fieldValue line) >>= fun value =>
      if fieldName line = "CSeq".toList then
        Text.stoi value >>= fun number => .ok { m with cseq := .ofInt number }
      else .ok { m with headers := m.headers.insert (fieldName line) value }) := by
    rw [parseHeaderLine, named, Option.getD_some]
    dsimp only
    rw [value]
    rfl
  have numbers {value : Text} (trimmed : Text.trimSpaces (fieldValue line) = .ok value) :
      (∃ n, Text.stoi value = .ok n) ↔ (fieldValue line).BeginsWithInt := by
    obtain ⟨before, after, padded⟩ := Text.trimSpaces_cut trimmed
    rw [padded, Text.beginsWithInt_padded, Text.stoi_returns_iff]
  rw [steps, returns_bind, Readable, ← Text.trimSpaces_returns_iff]
  by_cases cseq : fieldName line = "CSeq".toList
  · simp only [if_pos cseq, returns_bind]
    constructor
    · rintro ⟨value, trimmed, n, read, _⟩
      exact ⟨⟨value, trimmed⟩, fun _ => (numbers trimmed).mp ⟨n, read⟩⟩
    · rintro ⟨⟨value, trimmed⟩, number⟩
      obtain ⟨n, read⟩ := (numbers trimmed).mpr (number cseq)
      exact ⟨value, trimmed, n, read, _, rfl⟩
  · simp only [if_neg cseq]
    constructor
    · rintro ⟨value, trimmed, _⟩
      exact ⟨⟨value, trimmed⟩, fun same => absurd same cseq⟩
    · rintro ⟨⟨value, trimmed⟩, _⟩
      exact ⟨value, trimmed, _, rfl⟩

theorem fieldLines_none {data : Text} (ended : Text.getline '\n' data = none) : fieldLines data = [] := by
  rw [fieldLines]
  split
  · rfl
  · rename_i found
    rw [ended] at found
    contradiction

theorem fieldLines_line {data line rest : Text} (found : Text.getline '\n' data = some (line, rest)) :
    fieldLines data = if line.filter (· != '\r') = [] then []
      else line.filter (· != '\r') :: fieldLines rest := by
  rw [fieldLines]
  split
  · rename_i ended
    rw [ended] at found
    contradiction
  · rename_i other
    rw [other] at found
    obtain ⟨rfl, rfl⟩ := Prod.mk.inj (Option.some.inj found)
    rfl

theorem parseHeaders_returns_iff (data : Text) :
    (∃ after, m.parseHeaders data = .ok after) ↔ ∀ line ∈ fieldLines data, Readable line := by
  induction data using fieldLines.induct generalizing m with
  | case1 data ended =>
    rw [fieldLines_none ended]
    refine iff_of_true ⟨m, ?_⟩ (List.forall_mem_nil _)
    rw [parseHeaders]
    split
    · rfl
    · rename_i found
      rw [ended] at found
      contradiction
  | case2 data line rest found blank =>
    rw [parseHeaders_line found, fieldLines_line found, if_pos blank, if_pos blank]
    exact iff_of_true ⟨m, rfl⟩ (List.forall_mem_nil _)
  | case3 data line rest found more ih =>
    have one : '\n' ∉ line.filter (· != '\r') := fun member =>
      (Text.getline_subset found).2.2 (List.mem_of_mem_filter member)
    rw [parseHeaders_line found, fieldLines_line found, if_neg more, if_neg more, List.forall_mem_cons,
      ← @parseHeaderLine_returns_iff m _ more one, returns_bind]
    constructor
    · rintro ⟨after, read, returns⟩
      exact ⟨⟨after, read⟩, ih.mp returns⟩
    · rintro ⟨⟨after, read⟩, readable⟩
      exact ⟨after, read, ih.mpr readable⟩

end Lines

/-- Parsing returns exactly when every header line can be read. -/
theorem parse_returns_iff (data : Text) :
    (∃ verdict, parse data = .ok verdict) ↔ ∀ line ∈ headerTexts data, Readable line := by
  unfold parse headerTexts
  cases Text.getline '\n' data with
  | none => exact iff_of_true ⟨none, rfl⟩ (List.forall_mem_nil _)
  | some cut =>
    obtain ⟨line, rest⟩ := cut
    dsimp only
    rw [← @parseHeaders_returns_iff (parseRequestLine line) rest, returns_bind]
    constructor
    · rintro ⟨after, read, _⟩
      exact ⟨after, read⟩
    · rintro ⟨after, read⟩
      exact ⟨after, read, _, rfl⟩

/-- A request with a header line that has no colon. -/
theorem line_without_colon_throws :
    ¬ ∃ verdict, parse "OPTIONS * RTSP/1.0\r\nCSeq: 1\r\nFoo\r\n\r\n".toList = .ok verdict := by
  rintro ⟨verdict, returned⟩
  have throws : (match parse "OPTIONS * RTSP/1.0\r\nCSeq: 1\r\nFoo\r\n\r\n".toList with
      | .ok _ => false
      | .error _ => true) = true := by decide +kernel
  rw [returned] at throws
  contradiction

end TinyRtsp.RtspMessage
