import TinyRtsp.Rtsp.Url

/-! The URLs of streams and of their tracks, and what `parse_url` reads in them. -/
namespace TinyRtsp

/-- `rtsp://[user:pass@]host:port/app`, with the delimiters its parts are free of. -/
structure StreamUrl where
  credentials : Option (Text × Text)
  host : Text
  port : Text
  app : Text
  user_plain : ∀ c ∈ credentials, ':' ∉ c.1
  pass_plain : ∀ c ∈ credentials, '@' ∉ c.2
  host_plain : ':' ∉ host
  port_digits : port ≠ [] ∧ ∀ c ∈ port, c.isDigit = true
  app_plain : '/' ∉ app ∧ '@' ∉ app

namespace StreamUrl

def authority (url : StreamUrl) : Text := url.host ++ ':' :: url.port ++ '/' :: url.app

/-- The text of the URL, with `/track` behind it if there is a track. -/
def text (url : StreamUrl) (track : Option Text) : Text :=
  "rtsp://".toList ++ (url.credentials.elim [] fun c => c.1 ++ ':' :: c.2 ++ ['@']) ++
    url.authority ++ track.elim [] ('/' :: ·)

def parts (url : StreamUrl) (track : Option Text) : RtspUrl where
  protocol := "rtsp".toList
  username := url.credentials.elim [] (·.1)
  password := url.credentials.elim [] (·.2)
  host := url.host
  port := url.port
  app := url.app
  track := track.getD []

end StreamUrl

section Matching
variable {R : Type} {captures : Regex.Captures Char} {next : Text → Regex.Captures Char → Option R}
  {c : Char} {run rest text : Text} {result : R} {index : Nat}

theorem go_chain {first second : Regex Char} {others : List (Regex Char)} :
    (chain first (second :: others)).go text captures next =
      first.go text captures fun text captures => (chain second others).go text captures next := rfl

theorem go_char : (char c).go (c :: rest) captures next = next rest captures := by
  simp [char, Regex.go]

theorem go_char_some (found : (char c).go text captures next = some result) :
    ∃ rest, text = c :: rest ∧ next rest captures = some result := by
  cases text with
  | nil => contradiction
  | cons d rest =>
    simp only [char, Regex.go, beq_iff_eq, Option.ite_none_right_eq_some] at found
    exact ⟨rest, by rw [found.1], found.2⟩

theorem go_literal : (literal c run).go (c :: run ++ rest) captures next = next rest captures := by
  unfold literal
  induction run generalizing c with
  | nil => exact go_char
  | cons d others ih =>
    rw [List.map_cons, go_chain, List.cons_append, go_char]
    exact ih

theorem go_word : (Regex.group index (literal c run)).go (c :: run ++ rest) captures next =
    next rest (Function.update captures index (c :: run)) := by
  rw [Regex.go, go_literal, List.length_append, Nat.add_sub_cancel, List.take_left]

theorem go_except (plain : c ∉ run) (stops : ∀ d ∈ rest.head?, d = c)
    (found : next rest (Function.update captures index run) = some result) :
    (Regex.group index (except c)).go (run ++ rest) captures next = some result := by
  refine Regex.goMany_longest ?_ ?_ ?_
  · intro d member
    simpa using fun same : d = c => plain (same ▸ member)
  · intro d first
    simp [stops d first]
  · simpa using found

theorem go_digits (nonempty : run ≠ []) (all : ∀ d ∈ run, d.isDigit = true)
    (stops : ∀ d ∈ rest.head?, d.isDigit = false)
    (found : next rest (Function.update captures index run) = some result) :
    (Regex.group index digits).go (run ++ rest) captures next = some result := by
  cases run with
  | nil => contradiction
  | cons d others =>
    obtain ⟨first, all⟩ := List.forall_mem_cons.mp all
    simp only [digits, Regex.go, List.cons_append, first, if_true]
    refine Regex.goMany_longest all stops ?_
    have captured : (d :: (others ++ rest)).take ((d :: (others ++ rest)).length - rest.length) =
        d :: others := by
      have whole : d :: (others ++ rest) = (d :: others) ++ rest := rfl
      rw [whole, List.length_append, Nat.add_sub_cancel, List.take_left]
    rw [captured]
    exact found

theorem suffix_behind (plain : c ∉ run) (suffix : c :: text <:+ run ++ c :: rest) : text <:+ rest := by
  induction run with
  | nil =>
    rcases List.suffix_cons_iff.mp suffix with same | later
    · obtain rfl := (List.cons.inj same).2
      exact List.suffix_refl text
    · exact (List.suffix_cons c text).trans later
  | cons d others ih =>
    rw [List.cons_append, List.suffix_cons_iff] at suffix
    rcases suffix with same | later
    · exact absurd (List.mem_cons.mpr (.inl (List.cons.inj same).1)) plain
    · exact ih (fun member => plain (List.mem_cons_of_mem d member)) later

/-- `([^:]*):([^@]*)@` -/
def credentialsRegex : Regex Char :=
  chain (.group 2 (except ':')) [char ':', .group 3 (except '@'), char '@']

/-- There are no credentials in a text without `@` behind its first `:`. -/
theorem go_credentials_none (plain : ':' ∉ run) (none : '@' ∉ rest) :
    credentialsRegex.go (run ++ ':' :: rest) captures next = .none := by
  cases taken : credentialsRegex.go (run ++ ':' :: rest) captures next with
  | none => rfl
  | some result =>
    simp only [credentialsRegex, chain, except, Regex.go] at taken
    obtain ⟨username, _, whole, _, found⟩ := Regex.goMany_some taken
    obtain ⟨text, rfl, found⟩ := go_char_some found
    obtain ⟨password, _, rfl, _, found⟩ := Regex.goMany_some found
    obtain ⟨last, rfl, _⟩ := go_char_some found
    have colon : ':' :: (password ++ '@' :: last) <:+ run ++ ':' :: rest := ⟨username, whole.symm⟩
    have member : '@' ∈ password ++ '@' :: last := by simp
    exact absurd ((suffix_behind plain colon).subset member) none

end Matching

namespace StreamUrl
variable {R : Type} {captures : Regex.Captures Char} {next : Text → Regex.Captures Char → Option R}
  {result : R}

/-- `([^:]*):(\d+)/([^/]*)(?:/([^/]*))?` -/
def authorityRegex : Regex Char :=
  chain (.group 4 (except ':')) [char ':', .group 5 digits, char '/', .group 6 (except '/'),
    .opt (chain (char '/') [.group 7 (except '/')])]

theorem authority_text (url : StreamUrl) (track : Option Text) :
    url.authority ++ track.elim [] ('/' :: ·) =
      url.host ++ ':' :: (url.port ++ '/' :: (url.app ++ track.elim [] ('/' :: ·))) := by
  simp [authority]

theorem go_authority (url : StreamUrl) (track : Option Text) (plain : ∀ t ∈ track, '/' ∉ t)
    (found : next [] (track.elim id (fun t c => Function.update c 7 t) (Function.update
      (Function.update (Function.update captures 4 url.host) 5 url.port) 6 url.app)) = some result) :
    authorityRegex.go (url.authority ++ track.elim [] ('/' :: ·)) captures next = some result := by
  rw [authority_text, authorityRegex, go_chain]
  refine go_except url.host_plain ?_ ?_
  · intro d first
    exact (Option.some.inj first).symm
  rw [go_chain, go_char, go_chain]
  refine go_digits url.port_digits.1 url.port_digits.2 ?_ ?_
  · intro d first
    obtain rfl := Option.some.inj first
    rfl
  rw [go_chain, go_char, go_chain]
  refine go_except url.app_plain.1 ?_ ?_
  · cases track with
    | none => nofun
    | some t =>
      intro d first
      exact (Option.some.inj first).symm
  cases track with
  | none => exact found
  | some t =>
    have taken : (Regex.group 7 (except '/')).go (t ++ []) _ next = some result :=
      go_except (plain t rfl) nofun found
    rw [List.append_nil] at taken
    exact Option.or_eq_some_iff.mpr (.inl ((go_chain.trans go_char).trans taken))

def captured (url : StreamUrl) (track : Option Text) : Regex.Captures Char
  | 1 => "rtsp".toList
  | 2 => url.credentials.elim [] (·.1)
  | 3 => url.credentials.elim [] (·.2)
  | 4 => url.host
  | 5 => url.port
  | 6 => url.app
  | 7 => track.getD []
  | _ => []

theorem go_words {a b : Char} {first second rest : Text} (r : Regex Char) :
    (chain (.group 1 (literal a first)) [literal b second, r]).go
        ((a :: first) ++ ((b :: second) ++ rest)) captures next =
      r.go rest (Function.update captures 1 (a :: first)) next := by
  rw [go_chain]
  refine go_word.trans ?_
  rw [go_chain]
  exact go_literal

theorem text_eq (url : StreamUrl) (track : Option Text) :
    url.text track = ('r' :: "tsp".toList) ++ ((':' :: "//".toList) ++
      ((url.credentials.elim [] fun c => c.1 ++ ':' :: c.2 ++ ['@']) ++
        (url.authority ++ track.elim [] ('/' :: ·)))) := by
  have joined {scheme first second : Text} (cut : scheme = first ++ second) (a b c : Text) :
      scheme ++ a ++ b ++ c = first ++ (second ++ (a ++ (b ++ c))) := by
    simp only [cut, List.append_assoc]
  exact joined (by decide) _ _ _

theorem captured_eq (url : StreamUrl) (track : Option Text) :
    track.elim id (fun t c => Function.update c 7 t) (Function.update (Function.update
      (Function.update (url.credentials.elim id (fun u c => Function.update (Function.update c 2 u.1)
        3 u.2) (Function.update (fun _ => []) 1 ('r' :: "tsp".toList))) 4 url.host) 5 url.port) 6
          url.app) = url.captured track := by
  have protocol : 'r' :: "tsp".toList = "rtsp".toList := by decide
  generalize 'r' :: "tsp".toList = word at protocol ⊢
  subst protocol
  funext i
  match i with
  | 0 | 1 | 2 | 3 | 4 | 5 | 6 | 7 | n + 8 =>
    cases track <;> cases given : url.credentials <;> simp [Function.update, captured, given]

theorem matchAt_text (url : StreamUrl) (track : Option Text)
    (plain : ∀ t ∈ track, '/' ∉ t ∧ '@' ∉ t) :
    rtspUrlRegex.matchAt (url.text track) = some (url.captured track) := by
  have slash : ∀ t ∈ track, '/' ∉ t := fun t given => (plain t given).1
  have whole : rtspUrlRegex = chain (.group 1 (literal 'r' "tsp".toList))
    [literal ':' "//".toList, chain (.opt credentialsRegex) [authorityRegex]] := rfl
  rw [Regex.matchAt, whole, text_eq, go_words, go_chain, ← captured_eq]
  have rest captures : authorityRegex.go (url.authority ++ track.elim [] ('/' :: ·)) captures
      (fun _ captures => some captures) = some _ := go_authority url track slash rfl
  cases given : url.credentials with
  | none =>
    have behind : '@' ∉ url.port ++ '/' :: (url.app ++ track.elim [] ('/' :: ·)) := by
      have digit : '@' ∉ url.port := fun member => nomatch url.port_digits.2 '@' member
      have path : '@' ∉ track.elim [] ('/' :: ·) := by
        cases track with
        | none => exact List.not_mem_nil
        | some t => simpa using (plain t rfl).2
      simp [digit, path, url.app_plain.2]
    rw [Regex.go, Option.elim_none, List.nil_append, authority_text,
      go_credentials_none url.host_plain behind, ← authority_text]
    exact rest _
  | some c =>
    obtain ⟨user, pass⟩ := c
    refine Option.or_eq_some_iff.mpr (.inl ?_)
    have text : (some (user, pass)).elim [] (fun c => c.1 ++ ':' :: c.2 ++ ['@']) ++
        (url.authority ++ track.elim [] ('/' :: ·)) =
        user ++ ':' :: (pass ++ '@' :: (url.authority ++ track.elim [] ('/' :: ·))) := by
      simp
    rw [text, credentialsRegex, go_chain]
    refine go_except (url.user_plain _ given) ?_ ?_
    · intro d first
      exact (Option.some.inj first).symm
    rw [go_chain, go_char, go_chain]
    refine go_except (url.pass_plain _ given) ?_ ?_
    · intro d first
      exact (Option.some.inj first).symm
    exact go_char.trans (rest _)

/-- `parse_url` reads exactly the parts a URL was written with. -/
theorem parseUrl_text (url : StreamUrl) (track : Option Text)
    (plain : ∀ t ∈ track, '/' ∉ t ∧ '@' ∉ t) :
    parseUrl (url.text track) = .ok (url.parts track) := by
  have found : rtspUrlRegex.search (url.text track) = some (url.captured track) := by
    have here := matchAt_text url track plain
    cases start : url.text track with
    | nil => rwa [start] at here
    | cons c rest =>
      rw [start] at here
      rw [Regex.search, here]
      rfl
  rw [parseUrl, found]
  rfl

end StreamUrl
end TinyRtsp
