import Mathlib.Data.List.AList
import Mathlib.Data.List.Induction

/-! Tables from keys to values of one type, with a change of every value. -/
namespace TinyRtsp
variable {K V W X : Type}

abbrev Table (K V : Type) := AList fun _ : K => V

namespace Table

def mapValues (f : K → V → W) (table : Table K V) : Table K W where
  entries := table.entries.map fun entry => ⟨entry.1, f entry.1 entry.2⟩
  nodupKeys := by
    have keys : (table.entries.map fun entry =>
        (⟨entry.1, f entry.1 entry.2⟩ : (_ : K) × W)).keys = table.entries.keys := by
      simp [List.keys]
    rw [List.NodupKeys, keys]
    exact table.nodupKeys

theorem mapValues_mapValues (g : K → W → X) (f : K → V → W) (table : Table K V) :
    (table.mapValues f).mapValues g = table.mapValues fun key value => g key (f key value) := by
  apply AList.ext
  exact List.map_map

variable [DecidableEq K]

def modify (key : K) (f : V → V) (table : Table K V) : Table K V :=
  table.mapValues fun other value => if other = key then f value else value

theorem lookup_mapValues (f : K → V → W) (table : Table K V) (key : K) :
    (table.mapValues f).lookup key = (table.lookup key).map (f key) :=
  List.dlookup_map₂ key

theorem mapValues_insert (f : K → V → W) (key : K) (value : V) (table : Table K V) :
    mapValues f (AList.insert key value table) =
      AList.insert key (f key value) (mapValues f table) := by
  apply AList.ext
  simp only [mapValues, AList.entries_insert, List.map_cons, List.kerase, List.eraseP_map]
  rfl

theorem lookup_modify (key other : K) (f : V → V) (table : Table K V) :
    (table.modify key f).lookup other =
      if other = key then (table.lookup other).map f else table.lookup other := by
  rw [modify, lookup_mapValues]
  split
  · rfl
  · exact Option.map_id'

theorem lookup_foldl_insert (key : V → K) (values : List V) (table : Table K V) (k : K) :
    (values.foldl (fun table value => AList.insert (key value) value table) table).lookup k =
      (values.reverse.find? fun value => key value = k).or (table.lookup k) := by
  induction values using List.reverseRecOn generalizing table with
  | nil => rfl
  | append_singleton rest value ih =>
    rw [List.foldl_append, List.reverse_append, List.reverse_singleton, List.singleton_append,
      List.find?_cons]
    by_cases same : key value = k
    · subst k
      simp
    · simp only [List.foldl_cons, List.foldl_nil, AList.lookup_insert_ne (Ne.symm same), same, decide_false]
      exact ih table

end Table
end TinyRtsp
