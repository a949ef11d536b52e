/-! An input file stream over a fixed content. A read that comes up short sets
the end-of-file and failure bits together, and nothing is read after that. -/
namespace TinyRtsp

structure InputFile where
  content : List UInt8
  position : Nat
  eof : Bool

namespace InputFile

def openFile (content : List UInt8) : InputFile := ⟨content, 0, false⟩

/-- `read(buffer, count)`; the bytes returned are `gcount()` many. -/
def read (file : InputFile) (count : Nat) : List UInt8 × InputFile :=
  if file.eof then ([], file)
  else
    let bytes := (file.content.drop file.position).take count
    (bytes, { file with position := file.position + bytes.length, eof := bytes.length < count })

/-- `read(buffer, count)` for a count of any sign. A negative one delivers nothing
and ends the stream as a short read does. -/
def readSigned (file : InputFile) (count : Int) : List UInt8 × InputFile :=
  if count < 0 then ([], { file with eof := true }) else file.read count.toNat

/-- `seekg(-count, cur)` on a stream in a good state. -/
def seekBack (file : InputFile) (count : Nat) : InputFile :=
  { file with position := file.position - count }

def remaining (file : InputFile) : Nat :=
  if file.eof then 0 else file.content.length - file.position

/-- Bounds the number of further reads: one more than the bytes left, until a
short read. -/
def budget (file : InputFile) : Nat := if file.eof then 0 else file.remaining + 1

variable {file : InputFile} {count : Nat}

theorem good_of_remaining (left : 0 < file.remaining) : file.eof = false := by
  cases ended : file.eof with
  | false => rfl
  | true => simp [remaining, ended] at left

theorem read_length (count : Nat) (ready : file.eof = false) :
    (file.read count).1.length = min count file.remaining := by
  simp [read, remaining, ready]

theorem read_full (ready : file.eof = false) (full : count ≤ file.remaining) :
    (file.read count).2 = { file with position := file.position + count } := by
  have delivered := read_length count ready
  simp only [read, ready, Bool.false_eq_true, if_false] at delivered ⊢
  rw [delivered, Nat.min_eq_left full]
  simp

theorem read_short (ready : file.eof = false) (short : file.remaining < count) :
    (file.read count).2.eof = true := by
  have delivered := read_length count ready
  simp only [read, ready, Bool.false_eq_true, if_false] at delivered ⊢
  rw [delivered, Nat.min_eq_right (Nat.le_of_lt short)]
  simpa using short

theorem remaining_read_full (ready : file.eof = false) (full : count ≤ file.remaining) :
    (file.read count).2.eof = false ∧ (file.read count).2.remaining + count = file.remaining := by
  rw [read_full ready full]
  refine ⟨ready, ?_⟩
  simp only [remaining, ready, Bool.false_eq_true, if_false] at full ⊢
  omega

theorem remaining_seekBack (ready : file.eof = false) (full : count ≤ file.remaining)
    (positive : 0 < count) {back : Nat} (within : back ≤ count) :
    ((file.read count).2.seekBack back).eof = false ∧
      ((file.read count).2.seekBack back).remaining + count = file.remaining + back := by
  rw [read_full ready full]
  refine ⟨ready, ?_⟩
  simp only [remaining, seekBack, ready, Bool.false_eq_true, if_false] at full ⊢
  omega

theorem budget_read (ready : file.eof = false) (positive : 0 < count) :
    (file.read count).2.budget < file.budget := by
  have here : file.budget = file.remaining + 1 := by simp [budget, ready]
  by_cases full : count ≤ file.remaining
  · obtain ⟨still, left⟩ := remaining_read_full ready full
    simp only [budget, still, ready, Bool.false_eq_true, if_false]
    omega
  · have ended := read_short ready (Nat.lt_of_not_le full)
    rw [here, budget, ended]
    simp

theorem budget_readSigned (signed : Int) : (file.readSigned signed).2.budget ≤ file.budget := by
  unfold readSigned
  split
  · simp [budget]
  · generalize signed.toNat = count
    cases ended : file.eof with
    | true =>
      have same : (file.read count).2 = file := by rw [read, if_pos ended]
      exact Nat.le_of_eq (congrArg budget same)
    | false =>
      obtain rfl | positive := Nat.eq_zero_or_pos count
      · have same : (file.read 0).2 = file := read_full ended (Nat.zero_le _)
        exact Nat.le_of_eq (congrArg budget same)
      · exact Nat.le_of_lt (budget_read ended positive)

structure StandsBefore (file : InputFile) (rest : List UInt8) : Prop where
  ready : file.eof = false
  rest : file.content.drop file.position = rest

namespace StandsBefore
variable {rest : List UInt8}

theorem openFile (content : List UInt8) : (openFile content).StandsBefore content := ⟨rfl, rfl⟩

theorem remaining (here : file.StandsBefore rest) : file.remaining = rest.length := by
  rw [InputFile.remaining, if_neg (by simp [here.ready]), ← here.rest, List.length_drop]

theorem read (here : file.StandsBefore rest) (count : Nat) : (file.read count).1 = rest.take count := by
  rw [InputFile.read, if_neg (by simp [here.ready]), here.rest]

theorem read_full (here : file.StandsBefore rest) (full : count ≤ rest.length) :
    (file.read count).2.StandsBefore (rest.drop count) := by
  rw [InputFile.read_full here.ready (by rwa [here.remaining])]
  refine ⟨here.ready, ?_⟩
  rw [← here.rest, List.drop_drop]

theorem read_short (here : file.StandsBefore rest) (short : rest.length < count) :
    (file.read count).2.eof = true :=
  InputFile.read_short here.ready (by rwa [here.remaining])

theorem read_front {front : List UInt8} (here : file.StandsBefore (front ++ rest)) :
    (file.read front.length).1 = front ∧ (file.read front.length).2.StandsBefore rest := by
  have full : front.length ≤ (front ++ rest).length := by simp
  refine ⟨by rw [here.read, List.take_left], ?_⟩
  have behind := here.read_full full
  rwa [List.drop_left] at behind

/-- The last bytes of a full read are delivered again after seeking back over them. -/
theorem seekBack (here : file.StandsBefore rest) (full : count ≤ rest.length) {back : Nat}
    (within : back ≤ count) :
    ((file.read count).2.seekBack back).StandsBefore (rest.drop (count - back)) := by
  rw [InputFile.read_full here.ready (by rwa [here.remaining])]
  refine ⟨here.ready, ?_⟩
  rw [← here.rest, List.drop_drop, InputFile.seekBack, Nat.add_sub_assoc within]

end StandsBefore
end InputFile
end TinyRtsp
