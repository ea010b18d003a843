import Mathlib.Data.List.AList
import Mathlib.Algebra.BigOperators.Group.List.Basic
import Mathlib.Algebra.GroupWithZero.Nat

namespace Glimmer.Lib

-- A finite map with unspecified iteration order. Lookup, insert and erase are
-- those of AList; only the additive measures below are added here.
abbrev KeyedMap (κ ν : Type) := AList (fun _ : κ => ν)

namespace KeyedMap

variable {κ ν : Type} (weigh : κ → ν → Nat)

def total (m : KeyedMap κ ν) : Nat :=
  (m.entries.map fun entry => weigh entry.1 entry.2).sum

variable [DecidableEq κ] (m : KeyedMap κ ν)

theorem mem_entries_iff (key : κ) (value : ν) :
    (⟨key, value⟩ : Sigma fun _ : κ => ν) ∈ m.entries ↔ m.lookup key = some value := by
  rw [← AList.mem_lookup_iff]
  rfl

variable {key : κ} {value : ν}

theorem total_insert_fresh (value : ν)
    (fresh : m.lookup key = none) : total weigh (m.insert key value) = weigh key value + total weigh m := by
  have absent : key ∉ m := AList.lookup_eq_none.mp fresh
  rw [total, AList.entries_insert_of_notMem absent]
  rfl

theorem total_erase
    (found : m.lookup key = some value) : total weigh (m.erase key) + weigh key value = total weigh m := by
  have present : key ∈ m.entries.keys := by
    rw [← AList.keys, ← AList.mem_keys, ← AList.lookup_isSome, found]
    rfl
  obtain ⟨stored, before, after, _, split, erased⟩ := List.exists_of_kerase present
  have same : m.lookup key = some stored := by
    rw [← mem_entries_iff, split]
    simp
  obtain rfl : stored = value := Option.some.inj (same.symm.trans found)
  have rest : (m.erase key).entries = before ++ after := erased
  simp only [total, rest, split, List.map_append, List.map_cons, List.sum_append, List.sum_cons]
  omega

theorem total_insert_known {old : ν} (value : ν) (found : m.lookup key = some old) :
    total weigh (m.insert key value) + weigh key old = total weigh m + weigh key value := by
  have erased := total_erase weigh m found
  have inserted : total weigh (m.insert key value) = weigh key value + total weigh (m.erase key) := by
    simp only [total, AList.entries_insert, List.map_cons, List.sum_cons]
    rfl
  omega

theorem total_insert (key : κ) (value : ν) :
    total weigh (m.insert key value) + (m.lookup key).elim 0 (weigh key) = total weigh m + weigh key value := by
  cases found : m.lookup key with
  | none =>
    rw [total_insert_fresh weigh m value found, Option.elim_none]
    omega
  | some old => exact total_insert_known weigh m value found

theorem weigh_le_total (found : m.lookup key = some value) : weigh key value ≤ total weigh m := by
  have erased := total_erase weigh m found
  omega

theorem total_eq_zero (zero : ∀ key value, m.lookup key = some value → weigh key value = 0) : total weigh m = 0 := by
  apply List.sum_eq_zero
  intro amount mem
  obtain ⟨entry, present, rfl⟩ := List.mem_map.mp mem
  exact zero entry.1 entry.2 ((mem_entries_iff m entry.1 entry.2).mp present)

theorem erase_fresh (fresh : m.lookup key = none) : m.erase key = m :=
  AList.ext (List.kerase_of_notMem_keys (AList.lookup_eq_none.mp fresh))

theorem erase_insert_fresh (fresh : m.lookup key = none) : (m.insert key value).erase key = m := by
  have absent : key ∉ m := AList.lookup_eq_none.mp fresh
  apply AList.ext
  change List.kerase key (m.insert key value).entries = m.entries
  rw [AList.entries_insert_of_notMem absent]
  exact List.kerase_cons_eq rfl

theorem lookup_insert_cases (key query : κ) (value : ν) :
    (m.insert key value).lookup query = if query = key then some value else m.lookup query := by
  by_cases same : query = key
  · subst query
    simp
  · simp [same, AList.lookup_insert_ne same]

theorem lookup_erase_cases {query : κ} : (m.erase key).lookup query = if query = key then none else m.lookup query := by
  by_cases same : query = key
  · subst query
    simp
  · simp [same, AList.lookup_erase_ne same]

end KeyedMap

end Glimmer.Lib
