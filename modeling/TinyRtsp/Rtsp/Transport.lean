import TinyRtsp.Rtsp.StreamUrl

/-! The ports that a Transport header offers: where the expression matches, two
texts of digits, whose numbers are the ports if they are `int`s. -/
namespace TinyRtsp

section Inversion
variable {R : Type} {captures : Regex.Captures Char} {next : Text → Regex.Captures Char → Option R}
  {c : Char} {run text : Text} {result : R} {index : Nat}

theorem go_literal_some (found : (literal c run).go text captures next = some result) :
    ∃ rest, text = c :: run ++ rest ∧ next rest captures = some result := by
  unfold literal at found
  induction run generalizing c text with
  | nil => exact go_char_some found
  | cons d others ih =>
    rw [List.map_cons, go_chain] at found
    obtain ⟨middle, rfl, later⟩ := go_char_some found
    obtain ⟨rest, rfl, behind⟩ := ih later
    exact ⟨rest, rfl, behind⟩

theorem go_digits_some (found : (Regex.group index digits).go text captures next = some result) :
    ∃ run rest, text = run ++ rest ∧ run ≠ [] ∧ (∀ d ∈ run, d.isDigit = true) ∧
      next rest (Function.update captures index run) = some result := by
  cases text with
  | nil => contradiction
  | cons d text =>
    simp only [digits, Regex.go, Option.ite_none_right_eq_some] at found
    obtain ⟨first, found⟩ := found
    obtain ⟨others, rest, rfl, all, found⟩ := Regex.goMany_some found
    have captured : (d :: (others ++ rest)).take ((d :: (others ++ rest)).length - rest.length) =
        d :: others := by
      have whole : d :: (others ++ rest) = (d :: others) ++ rest := rfl
      rw [whole, List.length_append, Nat.add_sub_cancel, List.take_left]
    rw [captured] at found
    exact ⟨d :: others, rest, rfl, List.cons_ne_nil _ _, List.forall_mem_cons.mpr ⟨first, all⟩, found⟩

end Inversion

def offered (transport : Text) : Option (Text × Text) :=
  (transportRegex.search transport).map fun transportMatch => (transportMatch 1, transportMatch 2)

variable {transport rtp rtcp : Text} {client : ClientPorts}

theorem offered_text (found : offered transport = some (rtp, rtcp)) :
    (∃ before after, transport = before ++ "RTP/AVP;unicast;client_port=".toList ++ rtp ++ "-".toList ++
      rtcp ++ after) ∧
    (rtp ≠ [] ∧ ∀ d ∈ rtp, d.isDigit = true) ∧ rtcp ≠ [] ∧ ∀ d ∈ rtcp, d.isDigit = true := by
  obtain ⟨captures, search, same⟩ := Option.map_eq_some_iff.mp found
  obtain ⟨before, here, rfl, matched⟩ := Regex.search_some search
  simp only [Regex.matchAt, transportRegex, go_chain] at matched
  obtain ⟨_, rfl, ports⟩ := go_literal_some matched
  obtain ⟨first, _, rfl, firstSome, firstDigits, dash⟩ := go_digits_some ports
  obtain ⟨_, rfl, last⟩ := go_char_some dash
  obtain ⟨second, after, rfl, secondSome, secondDigits, done⟩ := go_digits_some last
  obtain rfl := Option.some.inj done
  obtain ⟨rfl, rfl⟩ : first = rtp ∧ second = rtcp := Prod.mk.inj same
  refine ⟨⟨before, after, ?_⟩, ⟨firstSome, firstDigits⟩, secondSome, secondDigits⟩
  simp

theorem parseTransport_offered (found : offered transport = some (rtp, rtcp))
    (parsed : parseTransport transport = .ok client) :
    client = ⟨Text.digitsValue rtp, Text.digitsValue rtcp, rtp ++ "-".toList ++ rtcp⟩ := by
  obtain ⟨_, ⟨rtpSome, rtpDigits⟩, rtcpSome, rtcpDigits⟩ := offered_text found
  obtain ⟨captures, search, same⟩ := Option.map_eq_some_iff.mp found
  obtain ⟨rfl, rfl⟩ : captures 1 = rtp ∧ captures 2 = rtcp := Prod.mk.inj same
  simp only [parseTransport, search, Text.stoi_of_digits rtpSome rtpDigits,
    Text.stoi_of_digits rtcpSome rtcpDigits] at parsed
  split at parsed
  · split at parsed
    · exact (Except.ok.inj parsed).symm
    · contradiction
  · contradiction

end TinyRtsp
