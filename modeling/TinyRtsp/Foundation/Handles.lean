import Mathlib.Logic.Function.Basic

/-! A table of numbers that are handed out while they are free and taken back by
number, whoever has them, and holders that each know which numbers are theirs.
Nothing here names a particular system. -/
namespace TinyRtsp
variable {Name Id : Type} {table : Name → Option Id} {holds : Id → Name → Prop} {name : Name} {id : Id}

/-- The table gives each holder exactly the numbers that the holder knows as its own. -/
def Accounted (table : Name → Option Id) (holds : Id → Name → Prop) : Prop :=
  ∀ id name, table name = some id ↔ holds id name

namespace Accounted

theorem unheld (accounted : Accounted table holds) (free : table name = none) : ¬ holds id name := by
  intro held
  have taken := (accounted id name).mpr held
  rw [free] at taken
  contradiction

theorem congr {other : Id → Name → Prop} (accounted : Accounted table holds)
    (same : ∀ id name, other id name ↔ holds id name) : Accounted table other :=
  fun id name => (accounted id name).trans (same id name).symm

variable [DecidableEq Name]

theorem give {other : Id → Name → Prop} (accounted : Accounted table holds) (free : table name = none)
    (knows : ∀ i n, other i n ↔ holds i n ∨ i = id ∧ n = name) :
    Accounted (Function.update table name (some id)) other := by
  intro i n
  rw [knows]
  by_cases here : n = name
  · subst n
    simp [accounted.unheld free, eq_comm]
  · simpa [here] using accounted i n

theorem take {other : Id → Name → Prop} (accounted : Accounted table holds) (own : holds id name)
    (knows : ∀ i n, other i n ↔ holds i n ∧ ¬ (i = id ∧ n = name)) :
    Accounted (Function.update table name none) other := by
  intro i n
  rw [knows]
  by_cases here : n = name
  · subst n
    have only : holds i name → i = id := fun held =>
      Option.some.inj (((accounted i name).mpr held).symm.trans ((accounted id name).mpr own))
    simpa using only
  · simpa [here] using accounted i n

theorem lost_iff (accounted : Accounted table holds) :
    Accounted (Function.update table name none) holds ↔ table name = none := by
  constructor
  · intro after
    cases owner : table name with
    | none => rfl
    | some id =>
      have held := (accounted id name).mp owner
      have still := (after id name).mpr held
      rw [Function.update_self] at still
      contradiction
  · intro free
    rwa [← free, Function.update_eq_self]

end Accounted
end TinyRtsp
