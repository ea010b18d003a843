import Mathlib.Algebra.GroupWithZero.Nat
import Mathlib.Algebra.Order.BigOperators.Group.Finset

namespace Glimmer.Lib

theorem sum_range_single {count only : Nat} {weight : Nat → Nat}
    (others : ∀ index, index < count → index ≠ only → weight index = 0) :
    ((List.range count).map weight).sum = if only < count then weight only else 0 := by
  rw [List.sum_map_eq_nsmul_single only weight (fun index other listed => others index (List.mem_range.mp listed) other),
    List.nodup_range.count]
  simp only [List.mem_range]
  split <;> simp

theorem map_range_entries {α β : Type} {entries : List α} {byPlace : Nat → β} {byEntry : α → β}
    (same : ∀ place entry, entries[place]? = some entry → byPlace place = byEntry entry) :
    (List.range entries.length).map byPlace = entries.map byEntry := by
  refine List.ext_getElem? (fun place => ?_)
  rw [List.getElem?_map, List.getElem?_map]
  by_cases inside : place < entries.length
  · rw [List.getElem?_range inside, List.getElem?_eq_getElem inside, Option.map_some, Option.map_some,
      same place _ (List.getElem?_eq_getElem inside)]
  · rw [List.getElem?_eq_none (by simpa using inside), List.getElem?_eq_none (Nat.le_of_not_lt inside)]
    rfl

theorem sum_one_smaller {count here : Nat} {before after : Nat → Nat} (inside : here < count)
    (smaller : after here < before here) (others : ∀ index, index ≠ here → after index = before index) :
    ∑ index ∈ Finset.range count, after index < ∑ index ∈ Finset.range count, before index := by
  refine Finset.sum_lt_sum (fun index _ => ?_) ⟨here, Finset.mem_range.mpr inside, smaller⟩
  by_cases same : index = here
  · exact same ▸ Nat.le_of_lt smaller
  · exact Nat.le_of_eq (others index same)

end Glimmer.Lib
