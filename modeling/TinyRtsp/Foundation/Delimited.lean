import Mathlib.Data.List.Infix

/-! Streams of messages that say themselves where they end: what a reader has made of
the symbols it received does not depend on how they arrived. Nothing here names a
particular system. -/
namespace TinyRtsp.Delimited
variable {S A : Type}

/-- Takes the first message off what has arrived, once it is complete. Later symbols
change nothing about a complete message, and no message is empty. -/
structure Reader (S A : Type) where
  next : List S → Option (A × List S)
  shortens : ∀ {symbols a rest}, next symbols = some (a, rest) → rest.length < symbols.length
  stable : ∀ {symbols a rest}, next symbols = some (a, rest) →
    ∀ later, next (symbols ++ later) = some (a, rest ++ later)

namespace Reader
variable {reader : Reader S A} {symbols rest later code : List S} {a : A}

/-- The complete messages, and what has arrived of the one behind them. -/
def messages (reader : Reader S A) (symbols : List S) : List A × List S :=
  match _ : reader.next symbols with
  | none => ([], symbols)
  | some (a, rest) => (a :: (reader.messages rest).1, (reader.messages rest).2)
termination_by symbols.length
decreasing_by all_goals exact reader.shortens ‹_›

theorem messages_none (incomplete : reader.next symbols = none) :
    reader.messages symbols = ([], symbols) := by
  rw [messages]
  split
  · rfl
  · rename_i found
    rw [incomplete] at found
    contradiction

theorem messages_some (complete : reader.next symbols = some (a, rest)) :
    reader.messages symbols = (a :: (reader.messages rest).1, (reader.messages rest).2) := by
  rw [messages]
  split
  · rename_i found
    rw [complete] at found
    contradiction
  · rename_i found
    obtain ⟨rfl, rfl⟩ := Prod.mk.inj (Option.some.inj (complete.symm.trans found))
    rfl

theorem messages_nil : reader.messages [] = ([], []) := by
  refine messages_none (Option.eq_none_iff_forall_ne_some.mpr fun message complete => ?_)
  exact Nat.not_lt_zero _ (reader.shortens complete)

theorem messages_append (symbols later : List S) :
    reader.messages (symbols ++ later) =
      ((reader.messages symbols).1 ++ (reader.messages ((reader.messages symbols).2 ++ later)).1,
        (reader.messages ((reader.messages symbols).2 ++ later)).2) := by
  cases complete : reader.next symbols with
  | none => rw [messages_none complete, List.nil_append]
  | some message =>
    obtain ⟨a, rest⟩ := message
    have shorter := reader.shortens complete
    rw [messages_some (reader.stable complete later), messages_some complete,
      messages_append rest later, List.cons_append]
termination_by symbols.length

def receive (reader : Reader S A) (state : List A × List S) (piece : List S) : List A × List S :=
  (state.1 ++ (reader.messages (state.2 ++ piece)).1, (reader.messages (state.2 ++ piece)).2)

theorem receive_pieces (pieces : List (List S)) (symbols : List S) :
    pieces.foldl reader.receive (reader.messages symbols) = reader.messages (symbols ++ pieces.flatten) := by
  induction pieces generalizing symbols with
  | nil => simp
  | cons piece pieces ih =>
    have first : reader.receive (reader.messages symbols) piece = reader.messages (symbols ++ piece) :=
      (messages_append symbols piece).symm
    rw [List.foldl_cons, first, ih, List.flatten_cons, List.append_assoc]

def Reads (reader : Reader S A) (code : List S) (a : A) : Prop := reader.next code = some (a, [])

theorem messages_code (reads : reader.Reads code a) (later : List S) :
    reader.messages (code ++ later) = (a :: (reader.messages later).1, (reader.messages later).2) :=
  messages_some (reader.stable reads later)

theorem next_of_part (reads : reader.Reads code a) (part : symbols <+: code) (short : symbols ≠ code) :
    reader.next symbols = none := by
  obtain ⟨missing, rfl⟩ := part
  cases complete : reader.next symbols with
  | none => rfl
  | some message =>
    have whole := (reader.stable complete missing).symm.trans reads
    have left := (Prod.mk.inj (Option.some.inj whole)).2
    exact absurd (by simp [(List.append_eq_nil_iff.mp left).2]) short

/-- Of what has arrived of a stream of messages, the reader makes those that are there
as a whole, and it keeps a part of the next. -/
theorem messages_front {codes : List (List S)} {values : List A}
    (read : List.Forall₂ reader.Reads codes values) {front : List S} (arrived : front <+: codes.flatten) :
    ∃ count left, reader.messages front = (values.take count, left) ∧
      (codes.take count).flatten ++ left = front ∧
      (left = [] ∨ ∃ code, codes[count]? = some code ∧ left <+: code ∧ left ≠ code) := by
  induction read generalizing front with
  | nil =>
    obtain rfl := List.prefix_nil.mp arrived
    exact ⟨0, [], messages_nil, rfl, .inl rfl⟩
  | @cons code a codes values here read ih =>
    rw [List.flatten_cons] at arrived
    by_cases whole : code <+: front
    · obtain ⟨rest, rfl⟩ := whole
      obtain ⟨count, left, made, cut, stays⟩ := ih ((List.prefix_append_right_inj code).mp arrived)
      refine ⟨count + 1, left, ?_, ?_, ?_⟩
      · rw [messages_code here, made, List.take_succ_cons]
      · rw [List.take_succ_cons, List.flatten_cons, List.append_assoc, cut]
      · simpa using stays
    · have part : front <+: code :=
        (List.prefix_or_prefix_of_prefix arrived (List.prefix_append _ _)).resolve_right whole
      have short : front ≠ code := fun same => whole (same ▸ List.prefix_rfl)
      exact ⟨0, front, messages_none (next_of_part here part short), rfl,
        .inr ⟨code, by simp, part, short⟩⟩

end Reader
end TinyRtsp.Delimited
