import Glimmer.Transform.PersistentGrid
import Glimmer.Lib.StridedWalk

namespace Glimmer.Transform.Persistent

open Lib Kernel

-- What a launch owes: among others, no more static workers than blocks in a row.
structure Cta.Fits (kernel : Kernel) (cta : Cta) : Prop where
  worker : cta.worker < cta.workers
  workers : cta.workers < word32
  row : kernel.kind = .static → cta.workers ≤ kernel.grid.x
  slice : cta.sliceStart < word32 ∧ cta.sliceCount < word32

namespace Kernel

def plan (kernel : Kernel) (cta : Cta) : List Nat :=
  match kernel.kind with
  | .static => walk cta.worker cta.workers kernel.grid.x
  | .sliced =>
    if cta.worker < cta.sliceCount ∧ cta.sliceStart + cta.worker < kernel.grid.total
    then [cta.sliceStart + cta.worker] else []
  | _ => walk cta.worker cta.workers kernel.grid.total

end Kernel

section Plans
variable {kernel : Kernel} {cta : Cta}

theorem remaining_exact {claim : Nat} (inside : claim < kernel.grid.x) :
    (kernel.grid.x + word32 - claim) % word32 = kernel.grid.x - claim := by
  have narrow := kernel.grid.counted.1
  rw [show kernel.grid.x + word32 - claim = kernel.grid.x - claim + word32 by omega, Nat.add_mod_right]
  exact Nat.mod_eq_of_lt (by omega)

theorem next_stride {first step index : Nat} : first + step * (index + 1) = first + step * index + step := by
  rw [Nat.mul_succ, Nat.add_assoc]

theorem static_plan (static : kernel.kind = .static) (fits : cta.Fits kernel) : Plan kernel cta (kernel.plan cta) := by
  have pos : 0 < cta.workers := Nat.zero_lt_of_lt fits.worker
  have planned : kernel.plan cta = walk cta.worker cta.workers kernel.grid.x := by simp [plan, static]
  have narrow := kernel.grid.counted.1
  rw [planned]
  refine ⟨?_, ?_, by simp [startCarries, static], ?_⟩
  · rw [walk_get pos, if_pos]
    · simp [start, static]
    · have inside := Nat.lt_of_lt_of_le fits.worker (fits.row static)
      simpa using inside
  · intro index claim here
    rw [walk_get pos] at here
    split at here
    · next inside =>
      obtain rfl := Option.some.inj here
      simp only [advance, static, remaining_exact inside]
      rw [walk_get pos, next_stride]
      by_cases last : kernel.grid.x - (cta.worker + cta.workers * index) ≤ cta.workers
      · rw [if_pos last, if_neg (by omega)]
      · rw [if_neg last, if_pos (by omega), Nat.mod_eq_of_lt (by omega)]
    · simp at here
  · intro claim listed
    have inside := ((walk_mem pos).mp listed).1
    simp only [advanceCarries, static, Bool.and_eq_false_iff, decide_eq_false_iff_not]
    rw [remaining_exact inside]
    omega

theorem block_static_plan (blockwise : kernel.kind = .blockStatic) (sized : kernel.grid.Sized)
    (fits : cta.Fits kernel) : Plan kernel cta (kernel.plan cta) := by
  have pos : 0 < cta.workers := Nat.zero_lt_of_lt fits.worker
  have planned : kernel.plan cta = walk cta.worker cta.workers kernel.grid.total := by
    simp [plan, blockwise]
  have narrow := total_small sized
  have few := fits.workers
  have wide : word32 + word32 < word64 := by decide
  rw [planned]
  refine ⟨?_, ?_, by simp [startCarries, blockwise], ?_⟩
  · rw [walk_get pos]
    simp only [start, blockwise, Nat.mul_zero, Nat.add_zero]
    by_cases inside : cta.worker < kernel.grid.total
    · rw [if_pos inside, if_neg (Nat.not_le_of_lt inside)]
    · rw [if_neg inside, if_pos (Nat.le_of_not_lt inside)]
  · intro index claim here
    rw [walk_get pos] at here
    split at here
    · next inside =>
      obtain rfl := Option.some.inj here
      have fitted : cta.worker + cta.workers * index + cta.workers < word64 := by omega
      simp only [advance, blockwise, Nat.mod_eq_of_lt fitted]
      rw [walk_get pos, next_stride]
      by_cases last : kernel.grid.total ≤ cta.worker + cta.workers * index + cta.workers
      · rw [if_pos last, if_neg (Nat.not_lt_of_le last)]
      · rw [if_neg last, if_pos (Nat.lt_of_not_le last)]
    · simp at here
  · intro claim listed
    have inside := ((walk_mem pos).mp listed).1
    simp only [advanceCarries, blockwise, decide_eq_false_iff_not]
    omega

theorem sliced_plan (sliced : kernel.kind = .sliced) (fits : cta.Fits kernel) : Plan kernel cta (kernel.plan cta) := by
  have wide : word32 + word32 < word64 := by decide
  obtain ⟨start, count⟩ := fits.slice
  have exact : cta.worker < cta.sliceCount → cta.sliceStart + cta.worker < word64 := by omega
  refine ⟨?_, ?_, ?_, ?_⟩
  · simp only [Kernel.start, Kernel.plan, sliced]
    by_cases inside : cta.worker < cta.sliceCount
    · rw [if_neg (Nat.not_le_of_lt inside), Nat.mod_eq_of_lt (exact inside)]
      by_cases within : cta.sliceStart + cta.worker < kernel.grid.total
      · rw [if_neg (Nat.not_le_of_lt within), if_pos ⟨inside, within⟩]
        rfl
      · rw [if_pos (Nat.le_of_not_lt within), if_neg (fun both => within both.2)]
        rfl
    · rw [if_pos (Nat.le_of_not_lt inside), if_neg (fun both => inside both.1)]
      rfl
  · intro index claim _
    simp only [Kernel.advance, sliced]
    have short : (kernel.plan cta).length ≤ 1 := by
      simp only [Kernel.plan, sliced]
      split <;> simp
    exact (List.getElem?_eq_none (Nat.le_trans short (Nat.succ_pos index))).symm
  · simp only [Kernel.startCarries, sliced, Bool.and_eq_false_iff, decide_eq_false_iff_not]
    omega
  · intro claim _
    simp [Kernel.advanceCarries, sliced]

theorem private_plan (alone : kernel.isShared = false) (sized : kernel.grid.Sized) (fits : cta.Fits kernel) :
    Plan kernel cta (kernel.plan cta) := by
  cases kind : kernel.kind with
  | static => exact static_plan kind fits
  | blockStatic => exact block_static_plan kind sized fits
  | sliced => exact sliced_plan kind fits
  | dynamic | preemptive => simp [isShared, kind] at alone

end Plans

instance (grid : Grid) (block : Block) : Decidable (grid.Has block) :=
  inferInstanceAs (Decidable (block.x < grid.x ∧ block.y < grid.y ∧ block.z < grid.z))

variable {cta : Cta} {block : Block}

section Counts
variable {kernel : Kernel} {grid : Grid}

theorem row_coordinates (static : kernel.kind = .static) :
    kernel.coordinates cta = fun claim => ⟨claim, cta.y, cta.z⟩ := by
  funext claim
  simp [coordinates, static]

theorem flat_coordinates (barred : kernel.kind ≠ .static) :
    kernel.coordinates cta = fun flat => kernel.grid.block (flat % word32) := by
  funext claim
  unfold coordinates
  split
  · next static => exact absurd static barred
  · rfl

theorem block_count (sized : grid.Sized) {flats : List Nat} (inside : ∀ flat ∈ flats, flat < grid.total)
    (block : Block) :
    (flats.map (fun flat => grid.block (flat % word32))).count block =
      if grid.Has block then flats.count (grid.flat block) else 0 := by
  have exact : ∀ flat ∈ flats, flat % word32 = flat := fun flat listed =>
    Nat.mod_eq_of_lt (Nat.lt_trans (inside flat listed) (total_small sized))
  rw [List.map_congr_left (fun flat listed => by rw [exact flat listed])]
  split
  · next has =>
    rw [List.count, List.countP_map, List.count]
    refine List.countP_congr (fun flat _ => ?_)
    simp only [Function.comp_apply, beq_iff_eq]
    constructor
    · rintro rfl
      exact (flat_block flat).symm
    · rintro rfl
      exact block_flat has
  · next lacks =>
    refine List.count_eq_zero.mpr (fun met => ?_)
    obtain ⟨flat, listed, rfl⟩ := List.mem_map.mp met
    refine lacks (block_has ?_)
    rw [← total_exact sized]
    exact inside flat listed

end Counts

namespace Kernel

def covered (kernel : Kernel) (ctas : List Cta) : List Block :=
  ctas.flatMap (fun cta => (kernel.plan cta).map (kernel.coordinates cta))

end Kernel

variable {kernel : Kernel} {workers start count : Nat}

theorem covered_range {place : Nat → Cta} :
    (kernel.covered ((List.range workers).map place)).count block =
      ((List.range workers).map (fun worker =>
        ((kernel.plan (place worker)).map (kernel.coordinates (place worker))).count block)).sum := by
  rw [covered, List.flatMap_map, List.count_flatMap]
  rfl

theorem block_static_count (blockwise : kernel.kind = .blockStatic) (sized : kernel.grid.Sized) (cta : Cta)
    (pos : 0 < cta.workers) (block : Block) :
    ((kernel.plan cta).map (kernel.coordinates cta)).count block =
      if kernel.grid.Has block
      then (walk cta.worker cta.workers kernel.grid.total).count (kernel.grid.flat block) else 0 := by
  rw [← block_count sized (fun flat listed => ((walk_mem pos).mp listed).1) block]
  rw [flat_coordinates (by simp [blockwise])]
  simp [plan, blockwise]

theorem block_static_cover (blockwise : kernel.kind = .blockStatic) (sized : kernel.grid.Sized)
    (pos : 0 < workers) :
    (kernel.covered (kernel.launched workers start count)).count block = if kernel.grid.Has block then 1 else 0 := by
  simp only [launched, blockwise]
  rw [covered_range]
  have each : ∀ worker, _ := fun worker =>
    block_static_count blockwise sized ⟨worker, workers, 0, 0, start, count⟩ pos block
  simp only [each]
  by_cases has : kernel.grid.Has block
  · have inside : kernel.grid.flat block < kernel.grid.total := total_exact sized ▸ flat_small has
    simp [if_pos has, walks_cover pos, if_pos inside]
  · simp [has]

theorem slice_count (sliced : kernel.kind = .sliced) (sized : kernel.grid.Sized) :
    ((kernel.plan cta).map (kernel.coordinates cta)).count block =
      if kernel.grid.Has block ∧ cta.worker < cta.sliceCount ∧ cta.sliceStart + cta.worker = kernel.grid.flat block
      then 1 else 0 := by
  have inside : ∀ flat ∈ kernel.plan cta, flat < kernel.grid.total := by
    intro flat listed
    simp only [plan, sliced] at listed
    split at listed
    · next within => exact List.mem_singleton.mp listed ▸ within.2
    · simp at listed
  rw [flat_coordinates (by simp [sliced]), block_count sized inside block]
  by_cases has : kernel.grid.Has block
  · have small : kernel.grid.flat block < kernel.grid.total := total_exact sized ▸ flat_small has
    rw [if_pos has]
    simp only [plan, sliced, has, true_and]
    by_cases hit : cta.worker < cta.sliceCount ∧ cta.sliceStart + cta.worker = kernel.grid.flat block
    · rw [if_pos hit, if_pos ⟨hit.1, hit.2 ▸ small⟩, hit.2]
      simp
    rw [if_neg hit]
    split
    · next within =>
      refine List.count_eq_zero.mpr (fun listed => hit ⟨within.1, ?_⟩)
      exact (List.mem_singleton.mp listed).symm
    · rfl
  · rw [if_neg has, if_neg (fun both => has both.1)]

theorem slice_cover (sliced : kernel.kind = .sliced) (sized : kernel.grid.Sized) (enough : count ≤ workers)
    :
    (kernel.covered (kernel.launched workers start count)).count block =
      if kernel.grid.Has block ∧ start ≤ kernel.grid.flat block ∧ kernel.grid.flat block < start + count
      then 1 else 0 := by
  simp only [launched, sliced]
  rw [covered_range]
  simp only [slice_count sliced sized]
  have others : ∀ worker, worker < workers → worker ≠ kernel.grid.flat block - start →
      (if kernel.grid.Has block ∧ worker < count ∧ start + worker = kernel.grid.flat block then 1 else 0) = 0 := by
    intro worker _ other
    rw [if_neg]
    rintro ⟨_, _, same⟩
    omega
  rw [sum_range_single others]
  by_cases has : kernel.grid.Has block
  · simp only [has, true_and]
    by_cases hit : start ≤ kernel.grid.flat block ∧ kernel.grid.flat block < start + count
    · rw [if_pos hit, if_pos (by omega), if_pos (by omega)]
    rw [if_neg hit]
    split
    · rw [if_neg (by omega)]
    · rfl
  · simp [has]

theorem static_count (static : kernel.kind = .static) :
    ((kernel.plan cta).map (kernel.coordinates cta)).count block =
      if cta.y = block.y ∧ cta.z = block.z then (walk cta.worker cta.workers kernel.grid.x).count block.x else 0 := by
  obtain ⟨x, y, z⟩ := block
  rw [row_coordinates static]
  simp only [plan, static]
  by_cases row : cta.y = y ∧ cta.z = z
  · rw [if_pos row, List.count, List.countP_map, List.count]
    refine List.countP_congr (fun claim _ => ?_)
    simp [row.1, row.2]
  · rw [if_neg row]
    refine List.count_eq_zero.mpr (fun met => ?_)
    obtain ⟨claim, _, same⟩ := List.mem_map.mp met
    simp only [Block.mk.injEq] at same
    exact row same.2

theorem static_cover (static : kernel.kind = .static) (pos : 0 < workers) :
    (kernel.covered (kernel.launched workers start count)).count block = if kernel.grid.Has block then 1 else 0 := by
  have row : ∀ y z, (kernel.covered ((List.range workers).map (fun worker =>
      (⟨worker, workers, y, z, 0, 0⟩ : Cta)))).count block =
      if y = block.y ∧ z = block.z then (if block.x < kernel.grid.x then 1 else 0) else 0 := by
    intro y z
    rw [covered_range]
    simp only [static_count static]
    by_cases here : y = block.y ∧ z = block.z
    · simp [if_pos here, walks_cover pos]
    · simp [if_neg here]
  have shape : (kernel.covered (kernel.launched workers start count)).count block =
      ((List.range kernel.grid.z).map (fun z => if block.y < kernel.grid.y then
        (if z = block.z then (if block.x < kernel.grid.x then 1 else 0) else 0) else 0)).sum := by
    simp only [launched, static, covered, List.flatMap_assoc, List.count_flatMap]
    refine congrArg List.sum (List.map_congr_left (fun z _ => ?_))
    rw [Function.comp_apply, List.count_flatMap]
    refine (congrArg List.sum (List.map_congr_left (fun y _ => row y z))).trans ?_
    rw [@sum_range_single _ block.y]
    · simp only [true_and]
    · exact fun y _ other => if_neg (fun both => other both.1)
  rw [shape, @sum_range_single _ block.z]
  · simp only [Grid.Has, if_true]
    by_cases inX : block.x < kernel.grid.x
    · by_cases inY : block.y < kernel.grid.y
      · simp [inX, inY]
      · simp [inY]
    · simp [inX]
  · intro z _ other
    simp [other]

end Glimmer.Transform.Persistent
