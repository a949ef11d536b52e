import TinyRtsp.Rtsp.Message

/-! Requests as a client writes them, with the spaces and line ends left to it,
and the message that `parse` makes of each. -/
namespace TinyRtsp

inductive LineEnd where
  | lf
  | crlf
  deriving DecidableEq

def LineEnd.carriage : LineEnd → Text
  | .lf => []
  | .crlf => ['\r']

def LineEnd.text (ending : LineEnd) : Text := ending.carriage ++ ['\n']

structure Token where
  text : Text
  nonempty : text ≠ []
  solid : ∀ c ∈ text, Text.isSpace c = false

/-- A header line: its name and value, with spaces around the value. -/
structure HeaderField where
  name : Text
  value : Text
  before : Nat
  after : Nat
  lineEnd : LineEnd
  nameClean : name.Clean
  noColon : ':' ∉ name
  nonempty : value ≠ []
  valueClean : value.Clean
  noLeading : value.head? ≠ some ' '
  noTrailing : value.getLast? ≠ some ' '
  number : name = "CSeq".toList →
    (∀ c ∈ value, c.isDigit) ∧ Text.digitsValue value < 2 ^ 31

structure Request where
  method : Token
  uri : Token
  protocol : Token
  firstGap : Nat
  secondGap : Nat
  lineEnd : LineEnd
  headers : List HeaderField
  lastEnd : LineEnd
  body : Text

namespace HeaderField

def text (h : HeaderField) : Text :=
  h.name ++ [':'] ++ Text.spaces h.before ++ h.value ++ Text.spaces h.after

theorem text_clean (h : HeaderField) : h.text.Clean := by
  have colon : Text.Clean [':'] := by decide
  have gap (n) : (Text.spaces n).Clean := fun c member => by
    rw [List.eq_of_mem_replicate member]
    decide
  exact (((h.nameClean.append colon).append (gap _)).append h.valueClean).append (gap _)

def apply (m : RtspMessage) (h : HeaderField) : RtspMessage :=
  if h.name = "CSeq".toList then { m with cseq := .ofNat (Text.digitsValue h.value) }
  else { m with headers := m.headers.insert h.name h.value }

end HeaderField

namespace Request

def requestLine (r : Request) : Text :=
  r.method.text ++ Text.spaces (r.firstGap + 1) ++ r.uri.text ++ Text.spaces (r.secondGap + 1) ++
    r.protocol.text

def text (r : Request) : Text :=
  r.requestLine ++ r.lineEnd.text ++ r.headers.flatMap (fun h => h.text ++ h.lineEnd.text) ++
    r.lastEnd.text ++ r.body

def message (r : Request) : RtspMessage :=
  r.headers.foldl HeaderField.apply
    { RtspMessage.new with
      method := RtspMessage.parseMethod r.method.text
      requestUri := r.uri.text
      protocol := r.protocol.text }

end Request

namespace RtspMessage
variable {m : RtspMessage} {data line rest : Text}

theorem parseHeaders_line (found : Text.getline '\n' data = some (line, rest)) :
    m.parseHeaders data = if line.filter (· != '\r') = [] then .ok m
      else m.parseHeaderLine (line.filter (· != '\r')) >>= (·.parseHeaders rest) := by
  rw [parseHeaders]
  split
  · rename_i ended
    rw [ended] at found
    contradiction
  · rename_i other
    rw [other] at found
    obtain ⟨rfl, rfl⟩ := Prod.mk.inj (Option.some.inj found)
    rfl

theorem parseRequestLine_text (r : Request) {ending : Text}
    (blank : ∀ c ∈ ending, Text.isSpace c = true) :
    parseRequestLine (r.requestLine ++ ending) = { new with
      method := parseMethod r.method.text
      requestUri := r.uri.text
      protocol := r.protocol.text } := by
  have gap (n) : ∀ c ∈ Text.spaces n, Text.isSpace c = true := fun c member => by
    rw [List.eq_of_mem_replicate member]
    rfl
  have starts (n text) : ∀ c, (Text.spaces (n + 1) ++ text).head? = some c → Text.isSpace c = true := by
    intro c here
    obtain rfl : ' ' = c := Option.some.inj here
    rfl
  have stops : ∀ c, ending.head? = some c → Text.isSpace c = true :=
    fun c here => blank c (List.mem_of_head? here)
  have third := Text.extract_append (gap (r.secondGap + 1)) r.protocol.nonempty r.protocol.solid stops
  have second := Text.extract_append (gap (r.firstGap + 1)) r.uri.nonempty r.uri.solid
    (starts r.secondGap (r.protocol.text ++ ending))
  have first := Text.extract_append (gap 0) r.method.nonempty r.method.solid
    (starts r.firstGap (r.uri.text ++ (Text.spaces (r.secondGap + 1) ++ (r.protocol.text ++ ending))))
  have whole : r.requestLine ++ ending = Text.spaces 0 ++ r.method.text ++
      (Text.spaces (r.firstGap + 1) ++ (r.uri.text ++
        (Text.spaces (r.secondGap + 1) ++ (r.protocol.text ++ ending)))) := by
    simp [Request.requestLine, Text.spaces]
  rw [List.append_assoc] at second third
  rw [parseRequestLine, whole, first]
  simp only [second, third]

theorem parseHeaderLine_text (h : HeaderField) : m.parseHeaderLine h.text = .ok (h.apply m) := by
  have rest : Text.spaces h.before ++ h.value ++ Text.spaces h.after ≠ [] := by simp [h.nonempty]
  have line : '\n' ∉ Text.spaces h.before ++ h.value ++ Text.spaces h.after := by
    intro member
    have inside : '\n' ∈ h.text := by
      simp only [HeaderField.text, List.mem_append] at member ⊢
      tauto
    exact (h.text_clean _ inside).2 rfl
  have named : Text.getline ':' h.text =
      some (h.name, Text.spaces h.before ++ h.value ++ Text.spaces h.after) := by
    have split := Text.getline_append h.noColon
      (Text.spaces h.before ++ h.value ++ Text.spaces h.after)
    simpa [HeaderField.text] using split
  have trimmed := Text.trimSpaces_padded h.nonempty h.noLeading h.noTrailing h.before h.after
  simp only [parseHeaderLine, named, Option.getD_some, Text.getline_whole line rest, trimmed,
    HeaderField.apply]
  by_cases number : h.name = "CSeq".toList
  · obtain ⟨digits, small⟩ := h.number number
    have same : UInt32.ofInt (Text.digitsValue h.value) = .ofNat (Text.digitsValue h.value) := by
      have kept : ((Text.digitsValue h.value : Int) % 2 ^ 32).toNat = Text.digitsValue h.value := by
        omega
      rw [UInt32.ofInt, kept]
    simp only [number, if_true, bind, Except.bind, Text.stoi_digits h.nonempty digits small, same]
    rfl
  · simp only [number, if_false, bind, Except.bind]
    rfl

theorem parseHeaders_text (headers : List HeaderField) (lastEnd : LineEnd) (body : Text) :
    m.parseHeaders (headers.flatMap (fun h => h.text ++ h.lineEnd.text) ++ lastEnd.text ++ body) =
      .ok (headers.foldl HeaderField.apply m) := by
  have carriage (ending : LineEnd) : '\n' ∉ ending.carriage ∧
      ending.carriage.filter (· != '\r') = [] := by
    cases ending <;> decide
  induction headers generalizing m with
  | nil =>
    have found := Text.getline_append (carriage lastEnd).1 body
    have whole : [].flatMap (fun h : HeaderField => h.text ++ h.lineEnd.text) ++ lastEnd.text ++ body =
        lastEnd.carriage ++ '\n' :: body := by simp [LineEnd.text]
    rw [whole, parseHeaders_line found, if_pos (carriage lastEnd).2]
    rfl
  | cons h headers ih =>
    obtain ⟨noBreak, kept⟩ : '\n' ∉ h.text ++ h.lineEnd.carriage ∧
        (h.text ++ h.lineEnd.carriage).filter (· != '\r') = h.text := by
      have clean := h.text_clean
      constructor
      · intro member
        rcases List.mem_append.mp member with inside | inside
        · exact (clean _ inside).2 rfl
        · exact (carriage h.lineEnd).1 inside
      · have all : ∀ c ∈ h.text, (c != '\r') = true := fun c member => by
          simpa using (clean c member).1
        rw [List.filter_append, List.filter_eq_self.mpr all, (carriage h.lineEnd).2, List.append_nil]
    have found := Text.getline_append noBreak
      (headers.flatMap (fun h => h.text ++ h.lineEnd.text) ++ lastEnd.text ++ body)
    have whole : (h :: headers).flatMap (fun h => h.text ++ h.lineEnd.text) ++ lastEnd.text ++ body =
        h.text ++ h.lineEnd.carriage ++ '\n' ::
          (headers.flatMap (fun h => h.text ++ h.lineEnd.text) ++ lastEnd.text ++ body) := by
      simp [LineEnd.text]
    have nonempty : h.text ≠ [] := by simp [HeaderField.text]
    rw [whole, parseHeaders_line found, kept, if_neg nonempty, parseHeaderLine_text]
    exact ih

/-- Parsing undoes rendering. -/
theorem parse_text (r : Request) : parse r.text = .ok (some r.message) := by
  have noBreak : '\n' ∉ r.requestLine ++ r.lineEnd.carriage := by
    have token (t : Token) : '\n' ∉ t.text := fun member => by
      simpa [Text.isSpace] using t.solid _ member
    have gap (n) : '\n' ∉ Text.spaces n := fun member => by
      simpa using List.eq_of_mem_replicate member
    have carriage : '\n' ∉ r.lineEnd.carriage := by cases r.lineEnd <;> decide
    simp [Request.requestLine, token, gap, carriage]
  have found := Text.getline_append noBreak
    (r.headers.flatMap (fun h => h.text ++ h.lineEnd.text) ++ r.lastEnd.text ++ r.body)
  have whole : r.text = r.requestLine ++ r.lineEnd.carriage ++ '\n' ::
      (r.headers.flatMap (fun h => h.text ++ h.lineEnd.text) ++ r.lastEnd.text ++ r.body) := by
    simp [Request.text, LineEnd.text]
  have blank : ∀ c ∈ r.lineEnd.carriage, Text.isSpace c = true := by
    cases r.lineEnd <;> decide
  rw [parse, whole, found]
  simp only [parseRequestLine_text r blank, parseHeaders_text]
  rfl

end RtspMessage

def Method.token : Method → Option Text
  | .options => some "OPTIONS".toList
  | .describe => some "DESCRIBE".toList
  | .setup => some "SETUP".toList
  | .play => some "PLAY".toList
  | .pause => some "PAUSE".toList
  | .teardown => some "TEARDOWN".toList
  | .getParameter => some "GET_PARAMETER".toList
  | .setParameter => some "SET_PARAMETER".toList
  | .redirect => some "REDIRECT".toList
  | .announce => some "ANNOUNCE".toList
  | .record => some "RECORD".toList
  | .unknown => none

/-- The method has this name, or it is unknown and no method has. -/
def Method.Named (method : Method) (token : Text) : Prop :=
  method.token = some token ∨ method = .unknown ∧ ∀ other : Method, other.token ≠ some token

theorem RtspMessage.parseMethod_named (token : Text) : (parseMethod token).Named token := by
  by_cases known : ∃ method : Method, method.token = some token
  · obtain ⟨method, named⟩ := known
    refine .inl ?_
    cases method with
    | unknown => contradiction
    | options | describe | setup | play | pause | teardown | getParameter | setParameter | redirect
    | announce | record =>
      obtain rfl := Option.some.inj named
      rfl
  · have missing (method : Method) : method.token ≠ some token := fun named => known ⟨method, named⟩
    have apart (method : Method) (name : Text) (named : method.token = some name) : token ≠ name :=
      fun same => missing method (same ▸ named)
    refine .inr ⟨?_, missing⟩
    unfold parseMethod
    rw [if_neg (apart .options _ rfl), if_neg (apart .describe _ rfl), if_neg (apart .setup _ rfl),
      if_neg (apart .play _ rfl), if_neg (apart .pause _ rfl), if_neg (apart .teardown _ rfl),
      if_neg (apart .getParameter _ rfl), if_neg (apart .setParameter _ rfl),
      if_neg (apart .redirect _ rfl), if_neg (apart .announce _ rfl), if_neg (apart .record _ rfl)]

namespace Request
variable {m : RtspMessage} {headers : List HeaderField}

def lastValue (headers : List HeaderField) (name : Text) : Option Text :=
  headers.reverse.findSome? fun h => if h.name = name then some h.value else none

theorem lastValue_cons (h : HeaderField) (name : Text) : lastValue (h :: headers) name =
    (lastValue headers name).or (if h.name = name then some h.value else none) := by
  rw [lastValue, List.reverse_cons, List.findSome?_append, lastValue, List.findSome?_singleton]

theorem lastValue_mem {name value : Text} (last : lastValue headers name = some value) :
    ∃ h ∈ headers, h.name = name ∧ h.value = value := by
  obtain ⟨h, member, same⟩ := List.exists_of_findSome?_eq_some last
  split at same
  · rename_i named
    exact ⟨h, List.mem_reverse.mp member, named, Option.some.inj same⟩
  · contradiction

theorem foldl_apply_lookup (headers : List HeaderField) (name : Text) :
    (headers.foldl HeaderField.apply m).headers.lookup name =
      if name = "CSeq".toList then m.headers.lookup name
      else (lastValue headers name).or (m.headers.lookup name) := by
  induction headers generalizing m with
  | nil =>
    split
    · rfl
    · rfl
  | cons h rest ih =>
    rw [List.foldl_cons, ih, lastValue_cons, Option.or_assoc]
    unfold HeaderField.apply
    by_cases number : h.name = "CSeq".toList
    · rw [if_pos number]
      by_cases asked : name = "CSeq".toList
      · rw [if_pos asked, if_pos asked]
      · rw [if_neg asked, if_neg asked, if_neg fun same : h.name = name => asked (same ▸ number),
          Option.none_or]
    · rw [if_neg number]
      have stored : (m.headers.insert h.name h.value).lookup name =
          if name = h.name then some h.value else m.headers.lookup name := m.lookup_setHeaders ..
      by_cases asked : name = "CSeq".toList
      · rw [if_pos asked, if_pos asked, stored, if_neg fun same : name = h.name => number (same ▸ asked)]
      · rw [if_neg asked, if_neg asked, stored]
        by_cases same : h.name = name
        · rw [if_pos same, if_pos same.symm, Option.some_or]
        · rw [if_neg same, if_neg (Ne.symm same), Option.none_or]

theorem foldl_apply_cseq (headers : List HeaderField) :
    (headers.foldl HeaderField.apply m).cseq =
      ((lastValue headers "CSeq".toList).map fun value => .ofNat (Text.digitsValue value)).getD m.cseq := by
  induction headers generalizing m with
  | nil => rfl
  | cons h rest ih =>
    rw [List.foldl_cons, ih, lastValue_cons]
    unfold HeaderField.apply
    cases lastValue rest "CSeq".toList with
    | some value => rfl
    | none =>
      by_cases number : h.name = "CSeq".toList
      · rw [if_pos number, if_pos number]
        rfl
      · rw [if_neg number, if_neg number]
        rfl

theorem foldl_apply_line (headers : List HeaderField) :
    (headers.foldl HeaderField.apply m).method = m.method ∧
      (headers.foldl HeaderField.apply m).requestUri = m.requestUri ∧
      (headers.foldl HeaderField.apply m).protocol = m.protocol := by
  induction headers generalizing m with
  | nil => exact ⟨rfl, rfl, rfl⟩
  | cons h rest ih =>
    have same : (HeaderField.apply m h).method = m.method ∧
        (HeaderField.apply m h).requestUri = m.requestUri ∧
        (HeaderField.apply m h).protocol = m.protocol := by
      unfold HeaderField.apply
      split
      · exact ⟨rfl, rfl, rfl⟩
      · exact ⟨rfl, rfl, rfl⟩
    obtain ⟨method, uri, protocol⟩ := @ih (HeaderField.apply m h)
    exact ⟨method.trans same.1, uri.trans same.2.1, protocol.trans same.2.2⟩

/-- What the request says, read off its parts. -/
structure SaidBy (r : Request) (m : RtspMessage) : Prop where
  method : m.method.Named r.method.text
  uri : m.requestUri = r.uri.text
  protocol : m.protocol = r.protocol.text
  cseq : m.cseq.toNat = ((lastValue r.headers "CSeq".toList).map Text.digitsValue).getD 0
  headers : ∀ name, m.headers.lookup name =
    if name = "CSeq".toList then none else lastValue r.headers name
  values : ∀ name ≠ "CSeq".toList, m.getHeaderValue name = (lastValue r.headers name).getD []

theorem message_saidBy (r : Request) : r.SaidBy r.message := by
  obtain ⟨method, uri, protocol⟩ := @foldl_apply_line { RtspMessage.new with
    method := RtspMessage.parseMethod r.method.text
    requestUri := r.uri.text
    protocol := r.protocol.text } r.headers
  have stored (name : Text) : r.message.headers.lookup name =
      if name = "CSeq".toList then none else lastValue r.headers name := by
    rw [message, foldl_apply_lookup]
    split
    · rfl
    · exact Option.or_none
  refine ⟨?_, uri, protocol, ?_, stored, fun name other => ?_⟩
  · rw [message, method]
    exact RtspMessage.parseMethod_named _
  · rw [message, foldl_apply_cseq]
    cases last : lastValue r.headers "CSeq".toList with
    | none => rfl
    | some value =>
      obtain ⟨h, _, named, rfl⟩ := lastValue_mem last
      have small := (h.number named).2
      exact UInt32.toNat_ofNat_of_lt' (Nat.lt_trans small (by decide))
  · rw [RtspMessage.getHeaderValue, stored, if_neg other]

end Request

/-- Parsing a request as a client writes it yields what the request says. -/
theorem RtspMessage.parse_rendered (r : Request) :
    ∃ m, parse r.text = .ok (some m) ∧ r.SaidBy m :=
  ⟨r.message, parse_text r, r.message_saidBy⟩

end TinyRtsp
