import Mathlib.Algebra.Group.Int.Defs
import Mathlib.Algebra.Group.Nat.Defs
import Mathlib.Data.List.DropRight
import Mathlib.Data.List.TakeWhile

/-! Text as C++ streams and strings treat it: lines, tokens, numbers. A byte is
the character with its code, and lengths count bytes. -/
namespace TinyRtsp

abbrev Text := List Char

/-- What a standard function or the code itself throws. -/
inductive Exception where
  | runtimeError (what : String)
  | outOfRange (what : String)
  | invalidArgument (what : String)
  deriving DecidableEq

namespace Text

/-- What holds of each character of a text is decided by going through the text, and
not through all characters. -/
instance decidableBall (P : Char → Prop) [DecidablePred P] (text : Text) :
    Decidable (∀ c ∈ text, P c) :=
  List.decidableBAll P text

/-- `isspace` in the classic locale. -/
def isSpace (c : Char) : Bool :=
  c == ' ' || c == '\t' || c == '\n' || c == '\x0b' || c == '\x0c' || c == '\r'

/-- `std::getline`: fails when nothing is left, else the text up to the delimiter
and what follows it. -/
def getline (delimiter : Char) (text : Text) : Option (Text × Text) :=
  if text = [] then none
  else some (text.takeWhile (· != delimiter), (text.dropWhile (· != delimiter)).drop 1)

/-- `stream >> string`: skips white space and fails when nothing follows it. -/
def extract (text : Text) : Option (Text × Text) :=
  let text := text.dropWhile isSpace
  if text = [] then none
  else some (text.takeWhile (!isSpace ·), text.dropWhile (!isSpace ·))

/-- `s.substr(s.find_first_not_of(' '), ...)` up to the last character that is
not a space; without one the position is out of range. -/
def trimSpaces (text : Text) : Except Exception Text :=
  if text.all (· == ' ') then .error (.outOfRange "basic_string::substr")
  else .ok ((text.dropWhile (· == ' ')).rdropWhile (· == ' '))

def digitsValue (digits : Text) : Nat :=
  digits.foldl (fun value digit => value * 10 + (digit.toNat - '0'.toNat)) 0

def signedValue (negative : Bool) (text : Text) : Except Exception Int :=
  let digits := text.takeWhile Char.isDigit
  let value : Int := if negative then -digitsValue digits else digitsValue digits
  if digits = [] then .error (.invalidArgument "stoi")
  else if -2 ^ 31 ≤ value ∧ value < 2 ^ 31 then .ok value
  else .error (.outOfRange "stoi")

def intBound (negative : Bool) : Nat := if negative then 2 ^ 31 + 1 else 2 ^ 31

def stoi (text : Text) : Except Exception Int :=
  match text.dropWhile isSpace with
  | '-' :: rest => signedValue true rest
  | '+' :: rest => signedValue false rest
  | rest => signedValue false rest

/-- `std::to_string` of a size. -/
def decimal (n : Nat) : Text := Nat.toDigits 10 n

/-- `std::to_string` of an `int`. -/
def decimalInt : Int → Text
  | .ofNat n => decimal n
  | .negSucc n => '-' :: decimal (n + 1)

def cutAt (mark : Text) : Text → Option (Text × Text)
  | [] => none
  | c :: rest =>
    if mark.isPrefixOf (c :: rest) then some ([], (c :: rest).drop mark.length)
    else (cutAt mark rest).map fun (before, after) => (c :: before, after)

def crlf : Text := ['\r', '\n']

def splitLines : Text → List Text
  | [] => [[]]
  | '\r' :: '\n' :: rest => [] :: splitLines rest
  | c :: rest =>
    match splitLines rest with
    | [] => [[c]]
    | line :: lines => (c :: line) :: lines

def Clean (text : Text) : Prop := ∀ c ∈ text, c ≠ '\r' ∧ c ≠ '\n'

instance (text : Text) : Decidable text.Clean := List.decidableBAll _ _

def spaces (n : Nat) : Text := .replicate n ' '

section Lemmas
variable {text first rest : Text} {delimiter : Char}

theorem getline_length (found : getline delimiter text = some (first, rest)) :
    rest.length < text.length := by
  unfold getline at found
  split at found
  · contradiction
  · rename_i nonempty
    obtain ⟨_, rfl⟩ := Prod.mk.inj (Option.some.inj found)
    have shorter := List.length_dropWhile_le (p := (· != delimiter)) text
    have := List.length_pos_iff.mpr nonempty
    simp only [List.length_drop]
    omega

theorem getline_subset (found : getline delimiter text = some (first, rest)) :
    first ⊆ text ∧ rest ⊆ text ∧ delimiter ∉ first := by
  unfold getline at found
  split at found
  · contradiction
  · obtain ⟨rfl, rfl⟩ := Prod.mk.inj (Option.some.inj found)
    refine ⟨(List.takeWhile_prefix _).subset, ?_, ?_⟩
    · exact fun _ member => List.dropWhile_subset _ (List.mem_of_mem_drop member)
    · intro member
      simpa using List.mem_takeWhile_imp member

theorem span_append {p : Char → Bool} (rest : Text) (inside : ∀ c ∈ first, p c = true)
    (boundary : ∀ c, rest.head? = some c → p c = false) :
    (first ++ rest).takeWhile p = first ∧ (first ++ rest).dropWhile p = rest := by
  rw [List.takeWhile_append_of_pos inside, List.dropWhile_append_of_pos inside]
  cases rest with
  | nil => simp
  | cons c rest => simp [boundary c rfl]

theorem getline_append (missing : delimiter ∉ first) (rest : Text) :
    getline delimiter (first ++ delimiter :: rest) = some (first, rest) := by
  have inside : ∀ c ∈ first, (c != delimiter) = true := by
    intro c member
    simpa using fun same : c = delimiter => missing (same ▸ member)
  obtain ⟨takes, drops⟩ := span_append (delimiter :: rest) inside (by simp)
  simp [getline, takes, drops]

theorem getline_whole (missing : delimiter ∉ first) (nonempty : first ≠ []) :
    getline delimiter first = some (first, []) := by
  have inside : ∀ c ∈ first, (c != delimiter) = true := by
    intro c member
    simpa using fun same : c = delimiter => missing (same ▸ member)
  have split := span_append [] inside nofun
  rw [List.append_nil] at split
  simp [getline, nonempty, split]

theorem extract_append {gap : Text} (blank : ∀ c ∈ gap, isSpace c = true) (nonempty : first ≠ [])
    (solid : ∀ c ∈ first, isSpace c = false)
    (ends : ∀ c, rest.head? = some c → isSpace c = true) :
    extract (gap ++ first ++ rest) = some (first, rest) := by
  obtain ⟨d, others, rfl⟩ := List.exists_cons_of_ne_nil nonempty
  have skipped : (gap ++ (d :: others ++ rest)).dropWhile isSpace = d :: others ++ rest := by
    refine (span_append _ blank fun c here => ?_).2
    obtain rfl : d = c := Option.some.inj here
    exact solid d List.mem_cons_self
  obtain ⟨takes, drops⟩ := span_append (p := (!isSpace ·)) rest
    (fun c member => by simpa using solid c member) fun c here => by simpa using ends c here
  unfold extract
  dsimp only
  rw [List.append_assoc, skipped, takes, drops, if_neg (by simp)]

theorem extract_token (found : extract text = some (first, rest)) :
    first ≠ [] ∧ ∀ c ∈ first, isSpace c = false := by
  unfold extract at found
  dsimp only at found
  split at found
  · contradiction
  · rename_i nonempty
    obtain ⟨rfl, _⟩ := Prod.mk.inj (Option.some.inj found)
    constructor
    · have notSpace := List.head?_dropWhile_not isSpace text
      obtain ⟨c, others, same⟩ := List.exists_cons_of_ne_nil nonempty
      rw [same] at notSpace ⊢
      simp_all
    · intro c member
      simpa using List.mem_takeWhile_imp member

theorem clean_of_notSpace (notSpace : ∀ c ∈ text, isSpace c = false) : Clean text := by
  intro c member
  constructor <;> rintro rfl <;> simpa [isSpace] using notSpace _ member

theorem Clean.subset (clean : Clean text) (inside : first ⊆ text) : Clean first :=
  fun c member => clean c (inside member)

theorem Clean.append (before : Clean first) (after : Clean rest) : Clean (first ++ rest) :=
  fun c member => (List.mem_append.mp member).elim (before c) (after c)

theorem trimSpaces_subset (trimmed : trimSpaces text = .ok first) : first ⊆ text := by
  unfold trimSpaces at trimmed
  split at trimmed
  · contradiction
  · obtain rfl := Except.ok.inj trimmed
    exact fun c member => List.dropWhile_subset _ ((List.rdropWhile_prefix _ _).subset member)

theorem trimSpaces_cut (trimmed : trimSpaces text = .ok first) :
    ∃ before after, text = spaces before ++ (first ++ spaces after) := by
  have blank {p : Text} (all : ∀ c ∈ p, (c == ' ') = true) : p = spaces p.length :=
    List.eq_replicate_of_mem fun c member => by simpa using all c member
  unfold trimSpaces at trimmed
  split at trimmed
  · contradiction
  · obtain rfl := Except.ok.inj trimmed
    have leading : text.takeWhile (· == ' ') = spaces (text.takeWhile (· == ' ')).length :=
      blank fun _ member => List.mem_takeWhile_imp (p := (· == ' ')) member
    have trailing : (text.dropWhile (· == ' ')).rtakeWhile (· == ' ') =
        spaces ((text.dropWhile (· == ' ')).rtakeWhile (· == ' ')).length :=
      blank fun _ member => List.mem_rtakeWhile_imp (p := (· == ' ')) member
    refine ⟨(text.takeWhile (· == ' ')).length,
      ((text.dropWhile (· == ' ')).rtakeWhile (· == ' ')).length, ?_⟩
    rw [← leading, ← trailing, List.rdropWhile_append_rtakeWhile, List.takeWhile_append_dropWhile]

theorem trimSpaces_returns_iff : (∃ value, trimSpaces text = .ok value) ↔ ∃ c ∈ text, c ≠ ' ' := by
  unfold trimSpaces
  constructor
  · rintro ⟨value, trimmed⟩
    split at trimmed
    · contradiction
    · rename_i other
      simpa using other
  · rintro ⟨c, member, other⟩
    rw [if_neg fun all => other (by simpa using List.all_eq_true.mp all c member)]
    exact ⟨_, rfl⟩

theorem trimSpaces_padded {value : Text} (nonempty : value ≠ []) (noLeading : value.head? ≠ some ' ')
    (noTrailing : value.getLast? ≠ some ' ') (before after : Nat) :
    trimSpaces (spaces before ++ value ++ spaces after) = .ok value := by
  have blank (n) : ∀ c ∈ spaces n, (c == ' ') = true := fun c member => by
    simpa using List.eq_of_mem_replicate member
  obtain ⟨c, others, rfl⟩ := List.exists_cons_of_ne_nil nonempty
  have leading : (spaces before ++ (c :: others ++ spaces after)).dropWhile (· == ' ') =
      c :: others ++ spaces after := by
    refine (span_append _ (blank before) fun d here => ?_).2
    obtain rfl : c = d := Option.some.inj here
    simpa using noLeading
  have trailing : (c :: others ++ spaces after).rdropWhile (· == ' ') = c :: others := by
    have reversed := (span_append (c :: others).reverse (blank after) fun d here => by
      rw [List.head?_reverse] at here
      simpa using fun same : d = ' ' => noTrailing (same ▸ here)).2
    have palindrome : (spaces after).reverse = spaces after := List.reverse_replicate ..
    rw [List.rdropWhile, List.reverse_append, palindrome, reversed, List.reverse_reverse]
  have first : c ≠ ' ' := by simpa using noLeading
  unfold trimSpaces
  rw [List.append_assoc, leading, trailing, if_neg]
  simp [first]

/-- Digits convert to their value if that is an `int`, whatever else follows them. -/
theorem signedValue_append {digits : Text} (negative : Bool) (nonempty : digits ≠ [])
    (decimal : ∀ c ∈ digits, c.isDigit = true) (ends : ∀ c, rest.head? = some c → c.isDigit = false) :
    signedValue negative (digits ++ rest) =
      if digitsValue digits < intBound negative then
        .ok (if negative then -digitsValue digits else digitsValue digits)
      else .error (.outOfRange "stoi") := by
  rw [signedValue, (span_append rest decimal ends).1, if_neg nonempty]
  cases negative with
  | true =>
    simp only [intBound, if_true]
    by_cases small : digitsValue digits < 2 ^ 31 + 1
    · rw [if_pos small, if_pos (by omega)]
    · rw [if_neg small, if_neg (by omega)]
  | false =>
    simp only [intBound, Bool.false_eq_true, if_false]
    by_cases small : digitsValue digits < 2 ^ 31
    · rw [if_pos small, if_pos (by omega)]
    · rw [if_neg small, if_neg (by omega)]

theorem not_isSpace_of_isDigit {c : Char} (digit : c.isDigit = true) : isSpace c = false := by
  by_contra space
  simp only [isSpace, Bool.or_eq_true, beq_iff_eq, Bool.not_eq_false] at space
  rcases space with ((((rfl | rfl) | rfl) | rfl) | rfl) | rfl <;> contradiction

theorem stoi_signed {blank sign digits : Text} (space : ∀ c ∈ blank, isSpace c = true)
    (signed : sign = [] ∨ sign = ['+'] ∨ sign = ['-']) (nonempty : digits ≠ [])
    (decimal : ∀ c ∈ digits, c.isDigit = true) :
    stoi (blank ++ (sign ++ (digits ++ rest))) = signedValue (sign == ['-']) (digits ++ rest) := by
  obtain ⟨d, others, rfl⟩ := List.exists_cons_of_ne_nil nonempty
  have digit := decimal d List.mem_cons_self
  have skipped : (blank ++ (sign ++ (d :: others ++ rest))).dropWhile isSpace =
      sign ++ (d :: others ++ rest) := by
    refine (span_append _ space fun c here => ?_).2
    rcases signed with rfl | rfl | rfl
    · obtain rfl : d = c := Option.some.inj here
      exact not_isSpace_of_isDigit digit
    · obtain rfl : '+' = c := Option.some.inj here
      rfl
    · obtain rfl : '-' = c := Option.some.inj here
      rfl
  rw [stoi, skipped]
  rcases signed with rfl | rfl | rfl
  · split
    · rename_i same
      obtain rfl := (List.cons.inj same).1
      contradiction
    · rename_i same
      obtain rfl := (List.cons.inj same).1
      contradiction
    · rfl
  · rfl
  · rfl

theorem stoi_of_digits (nonempty : text ≠ []) (digits : ∀ c ∈ text, c.isDigit = true) :
    stoi text = if digitsValue text < 2 ^ 31 then .ok (digitsValue text)
      else .error (.outOfRange "stoi") := by
  have read : stoi ([] ++ ([] ++ (text ++ []))) = _ :=
    stoi_signed (List.forall_mem_nil _) (.inl rfl) nonempty digits
  rw [signedValue_append _ nonempty digits (by simp), List.append_nil] at read
  exact read

theorem stoi_digits (nonempty : text ≠ []) (digits : ∀ c ∈ text, c.isDigit = true)
    (small : digitsValue text < 2 ^ 31) : stoi text = .ok (digitsValue text) := by
  rw [stoi_of_digits nonempty digits, if_pos small]

def BeginsWithInt (text : Text) : Prop :=
  ∃ blank sign digits rest, text = blank ++ (sign ++ (digits ++ rest)) ∧
    (∀ c ∈ blank, isSpace c = true) ∧ (sign = [] ∨ sign = ['+'] ∨ sign = ['-']) ∧
    digits ≠ [] ∧ (∀ c ∈ digits, c.isDigit = true) ∧
    (∀ c, rest.head? = some c → c.isDigit = false) ∧
    digitsValue digits < intBound (sign == ['-'])

theorem beginsWithInt_of_stoi {n : Int} (read : stoi text = .ok n) : BeginsWithInt text := by
  have cut (blank sign after : Text) (whole : text = blank ++ (sign ++ after))
      (space : ∀ c ∈ blank, isSpace c = true) (signed : sign = [] ∨ sign = ['+'] ∨ sign = ['-'])
      (value : signedValue (sign == ['-']) after = .ok n) : BeginsWithInt text := by
    have parts : after.takeWhile Char.isDigit ++ after.dropWhile Char.isDigit = after :=
      List.takeWhile_append_dropWhile
    have nonempty : after.takeWhile Char.isDigit ≠ [] := by
      intro empty
      rw [signedValue, empty, if_pos rfl] at value
      contradiction
    have decimal : ∀ c ∈ after.takeWhile Char.isDigit, c.isDigit = true :=
      fun _ member => List.mem_takeWhile_imp member
    have ends : ∀ c, (after.dropWhile Char.isDigit).head? = some c → c.isDigit = false := by
      intro c here
      have stops := List.head?_dropWhile_not Char.isDigit after
      rw [here] at stops
      simpa using stops
    refine ⟨blank, sign, _, _, by rw [parts]; exact whole, space, signed, nonempty, decimal, ends, ?_⟩
    rw [← parts, signedValue_append _ nonempty decimal ends] at value
    split at value
    · assumption
    · contradiction
  have whole : text = text.takeWhile isSpace ++ text.dropWhile isSpace :=
    List.takeWhile_append_dropWhile.symm
  have space : ∀ c ∈ text.takeWhile isSpace, isSpace c = true :=
    fun _ member => List.mem_takeWhile_imp member
  unfold stoi at read
  split at read
  · rename_i rest minus
    rw [minus] at whole
    exact cut _ ['-'] rest whole space (.inr (.inr rfl)) read
  · rename_i rest plus
    rw [plus] at whole
    exact cut _ ['+'] rest whole space (.inr (.inl rfl)) read
  · exact cut _ [] _ whole space (.inl rfl) read

theorem stoi_returns_iff : (∃ n, stoi text = .ok n) ↔ BeginsWithInt text := by
  constructor
  · rintro ⟨n, read⟩
    exact beginsWithInt_of_stoi read
  · rintro ⟨blank, sign, digits, rest, rfl, space, signed, nonempty, decimal, ends, small⟩
    rw [stoi_signed space signed nonempty decimal, signedValue_append _ nonempty decimal ends,
      if_pos small]
    exact ⟨_, rfl⟩

theorem beginsWithInt_padded (before after : Nat) :
    BeginsWithInt (spaces before ++ (text ++ spaces after)) ↔ BeginsWithInt text := by
  have blank : ∀ c ∈ spaces before, isSpace c = true := fun c member => by
    rw [List.eq_of_mem_replicate member]
    rfl
  have leading : BeginsWithInt (spaces before ++ (text ++ spaces after)) ↔
      BeginsWithInt (text ++ spaces after) := by
    rw [← stoi_returns_iff, ← stoi_returns_iff, stoi, stoi, List.dropWhile_append_of_pos blank]
  have other (c : Char) (member : c ∈ spaces after) : c.isDigit = false := by
    rw [List.eq_of_mem_replicate member]
    rfl
  rw [leading]
  constructor
  · rintro ⟨blank, sign, digits, rest, whole, space, signed, nonempty, decimal, ends, small⟩
    rw [← List.append_assoc, ← List.append_assoc, List.append_eq_append_iff] at whole
    obtain ⟨more, number, trail⟩ | ⟨more, rfl, rfl⟩ := whole
    · -- The digits cannot reach into the spaces.
      obtain rfl : more = [] := by
        rcases List.eq_nil_or_concat' more with none | ⟨init, c, rfl⟩
        · exact none
        · obtain rfl | ⟨others, d, rfl⟩ := List.eq_nil_or_concat' digits
          · contradiction
          · have last := congrArg List.getLast? number
            simp only [← List.append_assoc, List.getLast?_concat, Option.some.injEq] at last
            have digit := decimal d (by simp)
            rw [last, other c (by rw [trail]; simp)] at digit
            contradiction
      rw [List.append_nil, List.append_assoc] at number
      exact ⟨blank, sign, digits, [], by rw [List.append_nil, number], space, signed, nonempty, decimal,
        by simp, small⟩
    · refine ⟨blank, sign, digits, more, by simp, space, signed, nonempty, decimal, fun c here => ?_, small⟩
      exact ends c (by rw [List.head?_append, here]; rfl)
  · rintro ⟨blank, sign, digits, rest, rfl, space, signed, nonempty, decimal, ends, small⟩
    refine ⟨blank, sign, digits, rest ++ spaces after, by simp, space, signed, nonempty, decimal,
      fun c here => ?_, small⟩
    rw [List.head?_append] at here
    cases first : rest.head? with
    | some d =>
      rw [first] at here
      exact ends c (first.trans here)
    | none =>
      rw [first] at here
      exact other c (List.mem_of_head? here)

theorem clean_of_isDigit (digits : ∀ c ∈ text, c.isDigit = true) : Clean text := by
  intro c member
  constructor <;> rintro rfl <;> simpa using digits _ member

theorem clean_decimal (n : Nat) : Clean (decimal n) :=
  clean_of_isDigit fun _ => Nat.isDigit_of_mem_toDigits (by decide) (by decide)

theorem clean_decimalInt (n : Int) : Clean (decimalInt n) := by
  cases n with
  | ofNat n => exact clean_decimal n
  | negSucc n =>
    have minus : Clean ['-'] := by simp [Clean]
    exact minus.append (clean_decimal (n + 1))

theorem cutAt_mark {mark : Text} (nonempty : mark ≠ []) (after : Text) :
    cutAt mark (mark ++ after) = some ([], after) := by
  obtain ⟨m, marks, rfl⟩ := List.exists_cons_of_ne_nil nonempty
  rw [List.cons_append, cutAt, if_pos]
  · simp
  · simp [List.isPrefixOf_iff_prefix]

theorem cutAt_append {m : Char} {marks before : Text} (missing : m ∉ before) (text : Text) :
    cutAt (m :: marks) (before ++ text) =
      (cutAt (m :: marks) text).map fun (first, after) => (before ++ first, after) := by
  induction before with
  | nil => simp
  | cons c before ih =>
    obtain ⟨other, missing⟩ := not_or.mp (mt List.mem_cons.mpr missing)
    rw [List.cons_append, cutAt, if_neg (by simp [List.isPrefixOf, other]), ih missing]
    simp [Option.map_map, Function.comp_def]

theorem digitsValue_decimal (n : Nat) : digitsValue (decimal n) = n := by
  have same : digitsValue (decimal n) = Nat.ofDigitChars 10 (Nat.toDigits 10 n) 0 := by
    simp only [digitsValue, decimal, Nat.ofDigitChars_eq_foldl, Nat.mul_comm]
  rw [same, Nat.ofDigitChars_ten_toDigits]

theorem cutAt_eq {mark before after : Text} (cut : cutAt mark text = some (before, after)) :
    text = before ++ mark ++ after := by
  induction text generalizing before with
  | nil => contradiction
  | cons c text ih =>
    rw [cutAt] at cut
    split at cut
    · rename_i marked
      obtain ⟨rfl, rfl⟩ := Prod.mk.inj (Option.some.inj cut)
      exact (List.prefix_iff_eq_append.mp (List.isPrefixOf_iff_prefix.mp marked)).symm
    · obtain ⟨⟨first, rest⟩, found, same⟩ := Option.map_eq_some_iff.mp cut
      obtain ⟨rfl, rfl⟩ := Prod.mk.inj same
      rw [ih found, List.cons_append, List.cons_append]

theorem cutAt_later {mark before after : Text} (cut : cutAt mark text = some (before, after))
    (later : Text) : cutAt mark (text ++ later) = some (before, after ++ later) := by
  induction text generalizing before with
  | nil => contradiction
  | cons c text ih =>
    rw [cutAt] at cut
    rw [List.cons_append, cutAt]
    by_cases marked : mark.isPrefixOf (c :: text)
    · have here := List.isPrefixOf_iff_prefix.mp marked
      have still : mark.isPrefixOf (c :: (text ++ later)) :=
        List.isPrefixOf_iff_prefix.mpr (here.trans ⟨later, rfl⟩)
      rw [if_pos marked] at cut
      obtain ⟨rfl, rfl⟩ := Prod.mk.inj (Option.some.inj cut)
      rw [if_pos still, ← List.drop_append_of_le_length here.length_le, List.cons_append]
    · rw [if_neg marked] at cut
      obtain ⟨⟨first, rest⟩, found, same⟩ := Option.map_eq_some_iff.mp cut
      obtain ⟨rfl, rfl⟩ := Prod.mk.inj same
      -- the mark lies in the text as a whole, so it does not begin here either
      have inside : mark.length ≤ (c :: text).length := by
        rw [cutAt_eq found]
        simp only [List.length_cons, List.length_append]
        omega
      have still : ¬ mark.isPrefixOf (c :: (text ++ later)) := by
        intro begins
        have whole : mark <+: c :: text ++ later := List.isPrefixOf_iff_prefix.mp begins
        exact marked (List.isPrefixOf_iff_prefix.mpr
          (List.prefix_of_prefix_length_le whole (List.prefix_append _ _) inside))
      rw [if_neg still, ih found, Option.map_some]

theorem Clean.cr_notMem (clean : Clean text) : '\r' ∉ text := fun member => (clean _ member).1 rfl

theorem splitLines_clean (clean : Clean text) : splitLines text = [text] := by
  induction text with
  | nil => rfl
  | cons c text ih =>
    have here := clean c List.mem_cons_self
    have later := ih fun d member => clean d (List.mem_cons_of_mem _ member)
    rw [splitLines, later]
    rintro _ rfl
    exact absurd rfl here.1

theorem splitLines_append (clean : Clean first) (rest : Text) :
    splitLines (first ++ crlf ++ rest) = first :: splitLines rest := by
  induction first with
  | nil => rfl
  | cons c first ih =>
    have here := clean c List.mem_cons_self
    have later := ih fun d member => clean d (List.mem_cons_of_mem _ member)
    rw [List.cons_append, List.cons_append, splitLines, later]
    rintro _ rfl
    exact absurd rfl here.1

theorem splitLines_intercalate {lines : List Text} (nonempty : lines ≠ [])
    (clean : ∀ line ∈ lines, Clean line) : splitLines (crlf.intercalate lines) = lines := by
  induction lines with
  | nil => contradiction
  | cons line lines ih =>
    have here := clean line List.mem_cons_self
    cases lines with
    | nil => simpa using splitLines_clean here
    | cons next others =>
      rw [List.intercalate_cons_of_ne_nil (by simp), splitLines_append here,
        ih (by simp) fun other member => clean other (List.mem_cons_of_mem _ member)]

theorem splitLines_terminated {lines : List Text} (clean : ∀ line ∈ lines, Clean line) :
    splitLines (lines.flatMap (· ++ crlf)) = lines ++ [[]] := by
  induction lines with
  | nil => rfl
  | cons line lines ih =>
    have later := ih fun other member => clean other (List.mem_cons_of_mem _ member)
    rw [List.flatMap_cons, splitLines_append (clean line List.mem_cons_self), later, List.cons_append]

theorem cutAt_lineEnd (goes : text.head? ≠ some '\r') :
    cutAt (crlf ++ crlf) (crlf ++ text) =
      (cutAt (crlf ++ crlf) text).map fun (before, after) => (crlf ++ before, after) := by
  cases text with
  | nil => rfl
  | cons c text =>
    have other : '\r' ≠ c := fun same => goes (by rw [same]; rfl)
    simp [crlf, cutAt, List.isPrefixOf, other, Function.comp_def]

theorem cutAt_emptyLine {lines : List Text} (nonempty : lines ≠ [])
    (clean : ∀ line ∈ lines, Clean line ∧ line ≠ []) (body : Text) :
    cutAt (crlf ++ crlf) (lines.flatMap (· ++ crlf) ++ (crlf ++ body)) =
      some (crlf.intercalate lines, body) := by
  induction lines with
  | nil => contradiction
  | cons line lines ih =>
    obtain ⟨here, _⟩ := clean line List.mem_cons_self
    rw [List.flatMap_cons, List.append_assoc, List.append_assoc]
    have passed : ∀ text, cutAt (crlf ++ crlf) (line ++ text) = (cutAt (crlf ++ crlf) text).map
        fun (first, after) => (line ++ first, after) := cutAt_append here.cr_notMem
    cases lines with
    | nil =>
      have mark := cutAt_mark (show crlf ++ crlf ≠ [] by simp [crlf]) body
      rw [List.append_assoc] at mark
      rw [List.flatMap_nil, List.nil_append]
      exact (passed _).trans (by rw [mark]; simp)
    | cons next others =>
      obtain ⟨nextClean, nextNonempty⟩ := clean next (by simp)
      obtain ⟨c, rest, rfl⟩ := List.exists_cons_of_ne_nil nextNonempty
      have goes : (((c :: rest) :: others).flatMap (· ++ crlf) ++ (crlf ++ body)).head? ≠ some '\r' := by
        simpa using (nextClean c List.mem_cons_self).1
      have later := ih (by simp) fun other member => clean other (List.mem_cons_of_mem _ member)
      have joined : crlf.intercalate (line :: (c :: rest) :: others) =
          line ++ crlf ++ crlf.intercalate ((c :: rest) :: others) :=
        List.intercalate_cons_of_ne_nil (by simp)
      refine (passed _).trans ?_
      rw [cutAt_lineEnd goes, later, joined]
      simp only [Option.map_some, List.append_assoc]

end Lemmas
end Text
end TinyRtsp
