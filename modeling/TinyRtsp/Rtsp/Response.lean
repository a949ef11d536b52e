import Mathlib.Data.List.Sort
import TinyRtsp.Rtsp.Message

/-! What a client reads back from a response, and why no line break of a request
can reach it. -/
namespace TinyRtsp
namespace RtspMessage

/-- A received request: behind the line parser its texts hold no line break. -/
structure CleanRequest (m : RtspMessage) : Prop where
  protocol : m.protocol.Clean
  requestUri : m.requestUri.Clean
  value : ∀ {name value}, m.headers.lookup name = some value → value.Clean

/-- The body is as long as `Content-Length` says, and empty without it. -/
def Framed (m : RtspMessage) : Prop :=
  match m.headers.lookup "Content-Length".toList with
  | some length => length = Text.decimal m.body.length
  | none => m.body = []

/-- A response that reads back as it was set. -/
structure WellFormed (m : RtspMessage) : Prop where
  status : m.statusCode ≠ .unset
  protocol : m.protocol.Clean
  name : ∀ {name value}, m.headers.lookup name = some value → name.Clean ∧ ':' ∉ name
  value : ∀ {name value}, m.headers.lookup name = some value → value.Clean
  framed : m.Framed

/-- What a client makes of a response: the status line, the headers and the body
behind the first empty line. -/
structure Received where
  statusLine : Text
  headers : List ((_ : Text) × Text)
  body : Text

def readHeader (line : Text) : Option ((_ : Text) × Text) :=
  (Text.cutAt ": ".toList line).map fun (name, value) => ⟨name, value⟩

def readResponse (bytes : Text) : Option Received := do
  let (head, body) ← Text.cutAt (Text.crlf ++ Text.crlf) bytes
  match Text.splitLines head with
  | [] => none
  | statusLine :: lines => return ⟨statusLine, ← lines.mapM readHeader, body⟩

section Requests
variable {m n : RtspMessage} {data line : Text}

theorem CleanRequest.getHeaderValue (clean : m.CleanRequest) (key : Text) :
    (m.getHeaderValue key).Clean := by
  unfold RtspMessage.getHeaderValue
  cases found : m.headers.lookup key with
  | none => exact fun _ => nofun
  | some value => exact clean.value found

theorem parseRequestLine_clean (line : Text) : (parseRequestLine line).CleanRequest := by
  have initial : Text.Clean "RTSP/1.0".toList := by decide
  have empty : Text.Clean [] := fun _ => nofun
  have token {text first rest} (found : Text.extract text = some (first, rest)) : first.Clean :=
    Text.clean_of_notSpace (Text.extract_token found).2
  unfold parseRequestLine
  split
  · exact ⟨initial, empty, nofun⟩
  · split
    · exact ⟨initial, empty, nofun⟩
    · rename_i foundUri
      split
      · exact ⟨initial, token foundUri, nofun⟩
      · rename_i foundProtocol
        exact ⟨token foundProtocol, token foundUri, nofun⟩

theorem parseHeaderLine_clean (clean : m.CleanRequest) (whole : line.Clean)
    (parsed : m.parseHeaderLine line = .ok n) : n.CleanRequest := by
  have piece {c text} : ((Text.getline c text).getD ([], [])).1 ⊆ text ∧
      ((Text.getline c text).getD ([], [])).2 ⊆ text := by
    cases found : Text.getline c text with
    | none => exact ⟨List.nil_subset _, List.nil_subset _⟩
    | some pair => exact ⟨(Text.getline_subset found).1, (Text.getline_subset found).2.1⟩
  simp only [parseHeaderLine, bind, Except.bind] at parsed
  split at parsed
  · contradiction
  · rename_i headerValue trimmed
    have valueClean : headerValue.Clean :=
      whole.subset fun _ member => piece.2 (piece.1 (Text.trimSpaces_subset trimmed member))
    split at parsed
    · split at parsed
      · contradiction
      · obtain rfl := Except.ok.inj parsed
        exact ⟨clean.protocol, clean.requestUri, clean.value⟩
    · obtain rfl := Except.ok.inj parsed
      refine ⟨clean.protocol, clean.requestUri, fun {name value} found => ?_⟩
      by_cases same : name = ((Text.getline ':' line).getD ([], [])).1
      · subst name
        rw [AList.lookup_insert] at found
        exact Option.some.inj found ▸ valueClean
      · rw [AList.lookup_insert_ne same] at found
        exact clean.value found

theorem parseHeaders_clean (clean : m.CleanRequest) (parsed : m.parseHeaders data = .ok n) :
    n.CleanRequest := by
  fun_induction parseHeaders m data with
  | case1 m data ended =>
    obtain rfl := Except.ok.inj parsed
    exact clean
  | case2 m data line rest found empty =>
    obtain rfl := Except.ok.inj parsed
    exact clean
  | case3 m data line rest found line' goes ih =>
    have whole : Text.Clean line' := by
      intro c member
      obtain ⟨inside, notReturn⟩ := List.mem_filter.mp member
      refine ⟨by simpa using notReturn, ?_⟩
      rintro rfl
      exact (Text.getline_subset found).2.2 inside
    simp only [bind, Except.bind] at parsed
    split at parsed
    · contradiction
    · rename_i next here
      exact ih next (parseHeaderLine_clean clean whole here) parsed

theorem parse_clean (parsed : parse data = .ok (some m)) : m.CleanRequest := by
  unfold parse at parsed
  split at parsed
  · cases Except.ok.inj parsed
  · rename_i line rest _
    simp only [bind, Except.bind] at parsed
    split at parsed
    · contradiction
    · rename_i here
      obtain rfl := Option.some.inj (Except.ok.inj parsed)
      exact parseHeaders_clean (parseRequestLine_clean line) here

end Requests

section Responses
variable {m : RtspMessage}

theorem dlookup_headerList (m : RtspMessage) (name : Text) :
    m.headerList.dlookup name = m.headers.lookup name := by
  have sorted := List.perm_insertionSort (fun a b : (_ : Text) × Text => a.1 ≤ b.1) m.headers.entries
  exact List.perm_dlookup name ((List.perm_nodupKeys sorted).mpr m.headers.nodupKeys) sorted

theorem mem_headerList {header : (_ : Text) × Text} :
    header ∈ m.headerList ↔ m.headers.lookup header.1 = some header.2 := by
  have sorted := List.perm_insertionSort (fun a b : (_ : Text) × Text => a.1 ≤ b.1) m.headers.entries
  exact sorted.mem_iff.trans AList.mem_lookup_iff.symm

theorem readHeader_headerLine {header : (_ : Text) × Text} (noColon : ':' ∉ header.1) :
    readHeader (headerLine header) = some header := by
  have mark : Text.cutAt [':', ' '] ([':', ' '] ++ header.2) = some ([], header.2) :=
    Text.cutAt_mark (by simp) header.2
  have passed : Text.cutAt [':', ' '] (header.1 ++ ([':', ' '] ++ header.2)) =
      (Text.cutAt [':', ' '] ([':', ' '] ++ header.2)).map fun (first, after) =>
        (header.1 ++ first, after) := Text.cutAt_append noColon _
  rw [mark] at passed
  show (Text.cutAt [':', ' '] (header.1 ++ [':', ' '] ++ header.2)).map _ = _
  rw [List.append_assoc, passed]
  simp

theorem readHeaders_headerLines {headers : List ((_ : Text) × Text)}
    (noColon : ∀ header ∈ headers, ':' ∉ header.1) :
    (headers.map headerLine).mapM readHeader = some headers := by
  induction headers with
  | nil => rfl
  | cons header headers ih =>
    have here := readHeader_headerLine (noColon header List.mem_cons_self)
    have later := ih fun other member => noColon other (List.mem_cons_of_mem _ member)
    rw [List.map_cons, List.mapM_cons, here, later]
    rfl

theorem WellFormed.lines (wellFormed : m.WellFormed) :
    ∀ line ∈ m.firstLine :: m.headerList.map headerLine, line.Clean ∧ line ≠ [] := by
  have space : Text.Clean " ".toList := by decide
  have colon : Text.Clean ": ".toList := by decide
  have reason : (statusCodeToString m.statusCode).Clean := by
    unfold statusCodeToString
    split <;> simp [Text.Clean]
  intro line member
  rcases List.mem_cons.mp member with rfl | member
  · rw [firstLine, if_pos wellFormed.status]
    constructor
    · exact (((wellFormed.protocol.append space).append (Text.clean_decimal _)).append space).append
        reason
    · simp
  · obtain ⟨header, inside, rfl⟩ := List.mem_map.mp member
    have found := mem_headerList.mp inside
    constructor
    · exact ((wellFormed.name found).1.append colon).append (wellFormed.value found)
    · simp [headerLine]

theorem WellFormed.cut (wellFormed : m.WellFormed) :
    ∃ head, Text.cutAt (Text.crlf ++ Text.crlf) m.createResponse = some (head, m.body) ∧
      Text.splitLines head = m.firstLine :: m.headerList.map headerLine := by
  have clean := wellFormed.lines
  have cut := Text.cutAt_emptyLine (List.cons_ne_nil _ _) clean m.body
  have split := Text.splitLines_intercalate (List.cons_ne_nil _ _) fun line member =>
    (clean line member).1
  have rendered : m.createResponse = (m.firstLine :: m.headerList.map headerLine).flatMap
      (· ++ Text.crlf) ++ (Text.crlf ++ m.body) := by
    simp [createResponse, List.flatMap_map]
  exact ⟨_, by rw [rendered, cut], split⟩

/-- Cutting a response at its first empty line gives back what was set. -/
theorem WellFormed.readResponse (wellFormed : m.WellFormed) :
    readResponse m.createResponse = some ⟨m.firstLine, m.headerList, m.body⟩ := by
  obtain ⟨head, cut, split⟩ := wellFormed.cut
  have headers := readHeaders_headerLines fun header (inside : header ∈ m.headerList) =>
    (wellFormed.name (mem_headerList.mp inside)).2
  simp only [RtspMessage.readResponse, cut, split, headers, Option.bind_eq_bind, Option.bind_some,
    Option.pure_def]

end Responses
end RtspMessage
end TinyRtsp
