import Glimmer.Lib.RangeSums
import Mathlib.Data.Int.ModEq

namespace Glimmer.Lib

def strides (first step limit : Nat) : Nat := (limit - first + (step - 1)) / step

def walk (first step limit : Nat) : List Nat := List.range' first (strides first step limit) step

variable {first step limit : Nat} (pos : 0 < step)
include pos

theorem stride_inside (index : Nat) : index < strides first step limit ↔ first + step * index < limit := by
  have unfolded : index < strides first step limit ↔ (index + 1) * step ≤ limit - first + (step - 1) := by
    rw [strides, ← Nat.succ_le_iff, Nat.le_div_iff_mul_le pos]
  have spread : (index + 1) * step = step * index + step := by rw [Nat.succ_mul, Nat.mul_comm]
  omega

theorem walk_get {index : Nat} :
    (walk first step limit)[index]? = if first + step * index < limit then some (first + step * index) else none := by
  split
  · next inside => exact List.getElem?_range' ((stride_inside pos index).mpr inside)
  · next outside =>
    refine List.getElem?_eq_none ?_
    rw [walk, List.length_range']
    exact Nat.le_of_not_lt (fun inside => outside ((stride_inside pos index).mp inside))

variable {number : Nat}

theorem walk_mem : number ∈ walk first step limit ↔ number < limit ∧ first ≤ number ∧ number % step = first % step := by
  rw [walk, List.mem_range']
  constructor
  · rintro ⟨index, inside, rfl⟩
    exact ⟨(stride_inside pos index).mp inside, Nat.le_add_right _ _, Nat.add_mul_mod_self_left _ _ _⟩
  · rintro ⟨small, above, same⟩
    have split : number = first + step * ((number - first) / step) := by
      have divides : step ∣ number - first := (Nat.modEq_iff_dvd' above).mp same.symm
      rw [Nat.mul_div_cancel' divides]
      omega
    refine ⟨(number - first) / step, (stride_inside pos _).mpr ?_, split⟩
    rwa [← split]

theorem walk_nodup : (walk first step limit).Nodup := List.nodup_range' step pos

theorem walk_count (small : first < step) :
    (walk first step limit).count number = if number < limit ∧ first = number % step then 1 else 0 := by
  rw [(walk_nodup pos).count]
  refine if_congr ?_ rfl rfl
  rw [walk_mem pos, Nat.mod_eq_of_lt small]
  constructor
  · rintro ⟨inside, _, same⟩
    exact ⟨inside, same.symm⟩
  · rintro ⟨inside, same⟩
    exact ⟨inside, same ▸ Nat.mod_le _ _, same.symm⟩

theorem walks_cover :
    ((List.range step).map (fun first => (walk first step limit).count number)).sum =
      if number < limit then 1 else 0 := by
  have residue : number % step < step := Nat.mod_lt _ pos
  have others : ∀ first, first < step → first ≠ number % step → (walk first step limit).count number = 0 := by
    intro first small other
    rw [walk_count pos small, if_neg (fun same => other same.2)]
  rw [sum_range_single others, if_pos residue, walk_count pos residue]
  simp

end Glimmer.Lib
