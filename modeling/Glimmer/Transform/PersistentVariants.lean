import Glimmer.Transform.PersistentRuns

namespace Glimmer.Transform.Persistent

open Lib Kernel

-- What the launches of a schedule owe; one counter serves no more CTAs than it can count.
structure Proper (kernel : Kernel) (schedule : List DeviceEvent) : Prop where
  launches : ∀ workers start count, DeviceEvent.launch workers start count ∈ schedule →
    0 < workers ∧ workers < word32 ∧ start < word32 ∧ count < word32 ∧
      (kernel.kind = .static → workers ≤ kernel.grid.x) ∧ (kernel.kind = .sliced → count ≤ workers)
  single : kernel.kind = .static ∨ kernel.kind = .blockStatic → schedule.countP DeviceEvent.isLaunch ≤ 1
  room : kernel.isShared = true → kernel.grid.total + (kernel.ctasOf schedule).length < word64

def Device.executions (device : Device) (thread : Nat) (block : Block) : Nat :=
  ((List.range device.ctas.length).map (fun index => ((device.team index).thread thread).trace.count block)).sum

def slicesOver (schedule : List DeviceEvent) (flat : Nat) : Nat :=
  schedule.countP (fun event =>
    match event with
    | .launch _ start count => decide (start ≤ flat ∧ flat < start + count)
    | _ => false)

-- How often the launches execute a block: once for each slice that has it, once if it
-- has been claimed from the counter, and once.
def Kernel.due (kernel : Kernel) (schedule : List DeviceEvent) (counter : Nat) (block : Block) : Nat :=
  if kernel.grid.Has block then
    match kernel.kind with
    | .sliced => slicesOver schedule (kernel.grid.flat block)
    | .preemptive => if kernel.grid.flat block < counter then 1 else 0
    | _ => 1
  else 0

variable {kernel : Kernel} {schedule : List DeviceEvent} {tickets : Nat → List Nat} {spent : List Nat}

section Schedules

theorem proper_init {event : DeviceEvent} (proper : Proper kernel (schedule ++ [event])) : Proper kernel schedule := by
  refine ⟨fun workers start count listed => ?_, fun static => ?_, fun shared => ?_⟩
  · exact proper.launches workers start count (List.mem_append_left _ listed)
  · have few := proper.single static
    rw [List.countP_append] at few
    omega
  · have room := proper.room shared
    rw [ctasOf, List.flatMap_append, List.length_append] at room
    exact Nat.lt_of_le_of_lt (Nat.add_le_add_left (Nat.le_add_right _ _) _) room

theorem schedule_sound (sized : kernel.grid.Sized) (pos : 0 < kernel.threads) (proper : Proper kernel schedule) :
    ∃ tickets spent, Sound kernel tickets spent (kernel.run emptyDevice schedule) := by
  induction schedule using List.reverseRecOn with
  | nil => exact ⟨_, _, empty_sound⟩
  | append_singleton init event ih =>
    have earlier := proper_init proper
    obtain ⟨tickets, spent, sound⟩ := ih earlier
    rw [run, List.foldl_append]
    cases launch : event.isLaunch with
    | false =>
      have room : kernel.isShared = true →
          kernel.grid.total + (kernel.run emptyDevice init).ctas.length < word64 := by
        rw [run_ctas]
        exact earlier.room
      obtain ⟨later, done, kept, _⟩ := event_sound sized pos room sound launch
      exact ⟨later, done, kept⟩
    | true =>
      cases event with
      | launch workers start count =>
        obtain ⟨_, small, first, last, row, _⟩ :=
          proper.launches workers start count (List.mem_append_right _ List.mem_cons_self)
        have fits : ∀ cta ∈ kernel.launched workers start count, cta.Fits kernel := by
          intro cta listed
          unfold launched at listed
          split at listed
          · next _ =>
            simp only [List.mem_flatMap, List.mem_map, List.mem_range] at listed
            obtain ⟨z, _, y, _, worker, inside, rfl⟩ := listed
            exact ⟨inside, small, row, (by decide : 0 < word32), (by decide : 0 < word32)⟩
          · simp only [List.mem_map, List.mem_range] at listed
            obtain ⟨worker, inside, rfl⟩ := listed
            exact ⟨inside, small, row, first, last⟩
        obtain ⟨later, kept⟩ := launch_sound sound fits
        exact ⟨later, spent, kept⟩
      | setRetreat value | step index thread | release index => simp [DeviceEvent.isLaunch] at launch

theorem covered_schedule (alone : kernel.isShared = false) (sized : kernel.grid.Sized)
    (launches : ∀ workers start count, DeviceEvent.launch workers start count ∈ schedule →
      0 < workers ∧ (kernel.kind = .sliced → count ≤ workers)) (block : Block) :
    (kernel.covered (kernel.ctasOf schedule)).count block =
      if kernel.grid.Has block then
        if kernel.kind = .sliced then slicesOver schedule (kernel.grid.flat block)
        else schedule.countP DeviceEvent.isLaunch else 0 := by
  induction schedule with
  | nil => simp [ctasOf, covered, slicesOver]
  | cons event rest ih =>
    have tail := ih (fun workers start count listed => launches workers start count (List.mem_cons_of_mem _ listed))
    have split : (kernel.covered (kernel.ctasOf (event :: rest))).count block =
        (kernel.covered (kernel.ctasOf [event])).count block +
          (kernel.covered (kernel.ctasOf rest)).count block := by
      simp [ctasOf, covered]
    rw [split, tail]
    cases event with
    | launch workers start count =>
      obtain ⟨pos, enough⟩ := launches workers start count List.mem_cons_self
      have one : kernel.ctasOf [.launch workers start count] = kernel.launched workers start count := by
        simp [ctasOf]
      rw [one]
      cases kind : kernel.kind with
      | static =>
        rw [static_cover kind pos]
        by_cases has : kernel.grid.Has block <;> simp [has, List.countP_cons, DeviceEvent.isLaunch, Nat.add_comm]
      | blockStatic =>
        rw [block_static_cover kind sized pos]
        by_cases has : kernel.grid.Has block <;> simp [has, List.countP_cons, DeviceEvent.isLaunch, Nat.add_comm]
      | sliced =>
        rw [slice_cover kind sized (enough kind)]
        by_cases has : kernel.grid.Has block <;> simp [has, slicesOver, List.countP_cons, Nat.add_comm]
      | dynamic | preemptive => simp [isShared, kind] at alone
    | setRetreat value | step index thread | release index =>
      simp [ctasOf, covered, slicesOver, DeviceEvent.isLaunch]

end Schedules

def blocksOf (kernel : Kernel) (tickets : Nat → List Nat) (device : Device) (index : Nat) : List Block :=
  match device.ctas[index]? with
  | some cta => (tickets index).map (kernel.coordinates cta)
  | none => []

variable {block : Block}

section Executions
variable {device : Device} {thread : Nat}

section
variable (sound : Sound kernel tickets spent device) (small : thread < kernel.threads)
include sound small

theorem trace_along {index : Nat} (inside : index < device.ctas.length) :
    ((device.team index).thread thread).trace <+: blocksOf kernel tickets device index ∧
      (((device.team index).thread thread).phase = .exited →
        ((device.team index).thread thread).trace = blocksOf kernel tickets device index ∧
          (kernel.kind = .dynamic → kernel.grid.total ≤ device.counter)) := by
  have here := List.getElem?_eq_getElem inside
  have keeps := sound.teams index _ here
  rw [blocksOf, here]
  cases shared : kernel.isShared with
  | false =>
    have traces := follows_traces ((keeps.follows shared).2.threads thread small)
    refine ⟨traces.1, fun exits => ⟨traces.2 exits, fun dynamic => ?_⟩⟩
    simp [isShared, dynamic] at shared
  | true => exact sharing_traces (keeps.shares shared) small

theorem executions_ended (ended : kernel.Ended device) :
    device.executions thread block =
      ((List.range device.ctas.length).map (fun index => (blocksOf kernel tickets device index).count block)).sum := by
  refine congrArg List.sum (List.map_congr_left (fun index listed => ?_))
  have inside := List.mem_range.mp listed
  rw [((trace_along sound small inside).2 (ended index inside thread small)).1]

end

theorem alone_sum (alone : kernel.isShared = false) (sound : Sound kernel tickets spent device) :
    ((List.range device.ctas.length).map (fun index => (blocksOf kernel tickets device index).count block)).sum =
      (kernel.covered device.ctas).count block := by
  rw [covered, List.count_flatMap]
  refine congrArg List.sum (map_range_entries (fun index cta here => ?_))
  rw [blocksOf, here, Function.comp_apply, ((sound.teams index cta here).follows alone).1]

theorem shared_sum (shared : kernel.isShared = true) (sized : kernel.grid.Sized)
    (sound : Sound kernel tickets spent device) :
    ((List.range device.ctas.length).map (fun index => (blocksOf kernel tickets device index).count block)).sum =
      if kernel.grid.Has block ∧ kernel.grid.flat block < device.counter then 1 else 0 := by
  have barred : kernel.kind ≠ .static := fun static => by simp [isShared, static] at shared
  have claims := sound.claims shared
  have each : ∀ index < device.ctas.length, (blocksOf kernel tickets device index).count block =
      if kernel.grid.Has block then (tickets index).count (kernel.grid.flat block) else 0 := by
    intro index inside
    simp only [blocksOf, List.getElem?_eq_getElem inside, flat_coordinates barred]
    exact block_count sized (fun flat listed => (claims.drawn index flat listed).2) block
  rw [List.map_congr_left (fun index listed => each index (List.mem_range.mp listed))]
  by_cases has : kernel.grid.Has block
  · have small : kernel.grid.flat block < kernel.grid.total := total_exact sized ▸ flat_small has
    simp [has, true_and, claims_count claims (sound.unused shared), small, and_true]
  · simp [has]

end Executions

section Due

variable (proper : Proper kernel schedule) (sound : Sound kernel tickets spent (kernel.run emptyDevice schedule))
include proper sound

theorem handed_out (sized : kernel.grid.Sized) :
    ((List.range (kernel.run emptyDevice schedule).ctas.length).map (fun index =>
      (blocksOf kernel tickets (kernel.run emptyDevice schedule) index).count block)).sum =
      if kernel.grid.Has block then
        match kernel.kind with
        | .sliced => slicesOver schedule (kernel.grid.flat block)
        | .static | .blockStatic => schedule.countP DeviceEvent.isLaunch
        | _ => if kernel.grid.flat block < (kernel.run emptyDevice schedule).counter then 1 else 0 else 0 := by
  cases shared : kernel.isShared with
  | false =>
    rw [alone_sum shared sound, run_ctas, show emptyDevice.ctas = [] from rfl, List.nil_append,
      covered_schedule shared sized (fun workers start count listed =>
        ⟨(proper.launches workers start count listed).1, (proper.launches workers start count listed).2.2.2.2.2⟩) block]
    cases kind : kernel.kind with
    | static | blockStatic | sliced => simp
    | dynamic | preemptive => simp [isShared, kind] at shared
  | true =>
    rw [shared_sum shared sized sound]
    cases kind : kernel.kind with
    | static | blockStatic | sliced => simp [isShared, kind] at shared
    | dynamic | preemptive => simp [ite_and]

theorem dynamic_drawn (pos : 0 < kernel.threads) (dynamic : kernel.kind = .dynamic)
    (launched : 0 < schedule.countP DeviceEvent.isLaunch) (ended : kernel.Ended (kernel.run emptyDevice schedule)) :
    kernel.grid.total ≤ (kernel.run emptyDevice schedule).counter := by
  obtain ⟨event, listed, launch⟩ := List.countP_pos_iff.mp launched
  cases event with
  | launch workers start count =>
    have some : 0 < workers := (proper.launches workers start count listed).1
    have first : ∃ cta, cta ∈ (kernel.run emptyDevice schedule).ctas := by
      rw [run_ctas]
      refine ⟨⟨0, workers, 0, 0, start, count⟩, List.mem_append_right _ (List.mem_flatMap.mpr ⟨_, listed, ?_⟩)⟩
      simp only [Kernel.launched, dynamic]
      exact List.mem_map.mpr ⟨0, List.mem_range.mpr some, rfl⟩
    obtain ⟨cta, mem⟩ := first
    have inside := List.length_pos_of_mem mem
    exact ((trace_along sound pos inside).2 (ended 0 inside 0 pos)).2 dynamic
  | setRetreat value | step index thread | release index => simp [DeviceEvent.isLaunch] at launch

end Due

structure CoversGrid (kernel : Kernel) (schedule : List DeviceEvent) (device : Device) : Prop where
  dry : device.carried = false
  together : ∀ index < device.ctas.length, ∀ thread < kernel.threads, ∀ other < kernel.threads,
    (((device.team index).thread thread).trace <+: ((device.team index).thread other).trace ∨
      ((device.team index).thread other).trace <+: ((device.team index).thread thread).trace) ∧
    (((device.team index).thread thread).phase = .exited → ((device.team index).thread other).phase = .exited →
      ((device.team index).thread thread).trace = ((device.team index).thread other).trace)
  atMost : ∀ thread < kernel.threads, ∀ block, device.executions thread block ≤ kernel.due schedule device.counter block
  exactly : kernel.Ended device → 0 < schedule.countP DeviceEvent.isLaunch → ∀ thread < kernel.threads, ∀ block,
    device.executions thread block = kernel.due schedule device.counter block
  goesOn : ¬kernel.Ended device → ∃ event, event.isLaunch = false ∧ kernel.enabled device event = true
  ends : ∃ bound, ∀ later : List DeviceEvent, (∀ event ∈ later, event.isLaunch = false) →
    kernel.moves device later ≤ bound

theorem persistent_variants_cover_grid (kernel : Kernel) (sized : kernel.grid.Sized) (pos : 0 < kernel.threads)
    (schedule : List DeviceEvent) (proper : Proper kernel schedule) :
    CoversGrid kernel schedule (kernel.run emptyDevice schedule) := by
  obtain ⟨tickets, spent, sound⟩ := schedule_sound sized pos proper
  have room : kernel.isShared = true →
      kernel.grid.total + (kernel.run emptyDevice schedule).ctas.length < word64 := by
    rw [run_ctas]
    exact proper.room
  refine ⟨sound.dry, ?_, ?_, ?_, live_event pos sound,
    ⟨_, fun later inner => moves_bounded sized pos inner room sound⟩⟩
  · intro index inside thread small other near
    have first := trace_along sound small inside
    have second := trace_along sound near inside
    exact ⟨List.prefix_or_prefix_of_prefix first.1 second.1,
      fun left gone => (first.2 left).1.trans (second.2 gone).1.symm⟩
  · intro thread small block
    refine Nat.le_trans (List.sum_le_sum fun index listed =>
      (trace_along sound small (List.mem_range.mp listed)).1.sublist.count_le block) ?_
    rw [handed_out proper sound sized, Kernel.due]
    split
    · cases kind : kernel.kind with
      | static => exact proper.single (.inl kind)
      | blockStatic => exact proper.single (.inr kind)
      | dynamic => dsimp only; split <;> simp
      | preemptive | sliced => exact Nat.le_refl _
    · exact Nat.le_refl _
  · intro ended launched thread small block
    rw [executions_ended sound small ended, handed_out proper sound sized, Kernel.due]
    by_cases has : kernel.grid.Has block
    · rw [if_pos has, if_pos has]
      cases kind : kernel.kind with
      | static => exact Nat.le_antisymm (proper.single (.inl kind)) launched
      | blockStatic => exact Nat.le_antisymm (proper.single (.inr kind)) launched
      | dynamic =>
        have drawn := dynamic_drawn proper sound pos kind launched ended
        have within : kernel.grid.flat block < kernel.grid.total := total_exact sized ▸ flat_small has
        exact if_pos (Nat.lt_of_lt_of_le within drawn)
      | preemptive => rfl
      | sliced => rfl
    · rw [if_neg has, if_neg has]

def unitGrid : Grid := ⟨1, 1, 1, by decide⟩

def pairGrid : Grid := ⟨2, 1, 1, by decide⟩

def unitKernel : Kernel := { kind := .preemptive, grid := unitGrid, shape := unitGrid, barriers := fun _ => 0 }

def sliceKernel : Kernel := { kind := .sliced, grid := pairGrid, shape := unitGrid, barriers := fun _ => 0 }

def unitCta : Cta := ⟨0, 1, 0, 0, 0, 0⟩

def attempt (index : Nat) : List DeviceEvent :=
  [.launch 1 0 0, .step index 0, .step index 0, .step index 0, .step index 0, .step index 0, .release index,
    .step index 0, .step index 0]

theorem unit_wait {team : Team} : unitKernel.allWait team = (team.thread 0).phase.waits := by
  simp [allWait, show unitKernel.threads = 1 from rfl]

theorem attempt_draws (device : Device) (fresh : device.team device.ctas.length = idleTeam)
    (steady : device.retreat = 0) :
    let after := unitKernel.run device (attempt device.ctas.length)
    after.ctas = device.ctas ++ [unitCta] ∧ after.retreat = 0 ∧ after.counter = (device.counter + 1) % word64 ∧
      (∀ other, other ≠ device.ctas.length → after.team other = device.team other) ∧
      (device.counter = 0 → ((after.team device.ctas.length).thread 0).trace = [⟨0, 0, 0⟩]) := by
  have follower : unitKernel.isFollower 0 = false := by decide
  have shared : unitKernel.isShared = true := by decide
  have total : unitKernel.grid.total = 1 := by decide
  have threads : unitKernel.threads = 1 := rfl
  have launch : unitKernel.launched 1 0 0 = [unitCta] := by decide
  simp only [attempt, run, List.foldl_cons, List.foldl_nil]
  simp only [next, launch, List.getElem?_concat_length, threads, Nat.zero_lt_one, if_true]
  by_cases zero : device.counter = 0 <;>
    simp [threads, stepThread, fresh, idleTeam, shared, follower, steady, Device.setTeam, Team.setPhase, Team.set,
      total, unit_wait, Phase.waits, release, released, Device.carry, zero]
  · exact ⟨fun other apart => Function.update_of_ne apart _ _, by decide⟩
  · exact fun other apart => Function.update_of_ne apart _ _

def relaunches (count : Nat) : List DeviceEvent := (List.range count).flatMap attempt

theorem relaunches_succ (count : Nat) :
    unitKernel.run emptyDevice (relaunches (count + 1)) =
      unitKernel.run (unitKernel.run emptyDevice (relaunches count)) (attempt count) := by
  rw [relaunches, List.range_succ, List.flatMap_append, List.flatMap_singleton, run, List.foldl_append]
  rfl

theorem relaunches_count (count : Nat) :
    let device := unitKernel.run emptyDevice (relaunches (count + 1))
    device.ctas.length = count + 1 ∧ device.retreat = 0 ∧ device.counter = (count + 1) % word64 ∧
      (∀ index, count + 1 ≤ index → device.team index = idleTeam) ∧
      ((device.team 0).thread 0).trace = [⟨0, 0, 0⟩] := by
  induction count with
  | zero =>
    obtain ⟨ctas, steady, counter, others, trace⟩ := attempt_draws emptyDevice rfl rfl
    refine ⟨congrArg List.length ctas, steady, counter, fun index beyond => ?_, trace rfl⟩
    exact others index (by simp [emptyDevice]; omega)
  | succ count ih =>
    obtain ⟨listed, steady, counter, fresh, first⟩ := ih
    rw [relaunches_succ (count + 1)]
    have drawn := attempt_draws (unitKernel.run emptyDevice (relaunches (count + 1)))
      (fresh _ (Nat.le_of_eq listed.symm)) steady
    rw [listed] at drawn
    obtain ⟨ctas, still, after, others, _⟩ := drawn
    refine ⟨?_, still, ?_, fun index beyond => ?_, ?_⟩
    · rw [ctas, List.length_append, listed]
      rfl
    · rw [after, counter, Nat.mod_add_mod]
    · rw [others index (by omega)]
      exact fresh index (by omega)
    · rw [others 0 (by omega)]
      exact first

theorem relaunches_repeat : 2 ≤ (unitKernel.run emptyDevice (relaunches (word64 + 1))).executions 0 ⟨0, 0, 0⟩ := by
  obtain ⟨count, full⟩ : ∃ count, word64 = count + 1 := ⟨word64 - 1, by decide⟩
  obtain ⟨listed, steady, counter, fresh, first⟩ := relaunches_count count
  have wrapped : (unitKernel.run emptyDevice (relaunches (count + 1))).counter = 0 := by
    rw [counter, ← full, Nat.mod_self]
  have drawn := attempt_draws (unitKernel.run emptyDevice (relaunches (count + 1)))
    (fresh _ (Nat.le_of_eq listed.symm)) steady
  rw [listed] at drawn
  obtain ⟨ctas, _, _, others, again⟩ := drawn
  rw [full, relaunches_succ, Device.executions, ctas, List.length_append, listed, List.length_singleton, List.range_succ,
    List.map_append, List.sum_append, List.map_singleton, List.sum_singleton, again wrapped]
  have early : ((List.range (count + 1)).map (fun index =>
      (((unitKernel.run (unitKernel.run emptyDevice (relaunches (count + 1))) (attempt (count + 1))).team
        index).thread 0).trace.count ⟨0, 0, 0⟩)).sum ≥ 1 := by
    refine List.le_sum_of_mem (List.mem_map.mpr ⟨0, List.mem_range.mpr (Nat.succ_pos _), ?_⟩)
    rw [others 0 (by omega), first]
    rfl
  have late : List.count (⟨0, 0, 0⟩ : Block) [⟨0, 0, 0⟩] = 1 := by decide
  omega

def retreatKernel : Kernel := { kind := .preemptive, grid := pairGrid, shape := pairGrid, barriers := fun _ => 0 }

def retreatSchedule : List DeviceEvent :=
  List.flatten
    [[.launch 1 0 0], List.replicate 5 (.step 0 0), List.replicate 2 (.step 0 1), [.release 0],
      List.replicate 3 (.step 0 1), List.replicate 3 (.step 0 0), [.release 0, .setRetreat 1],
      List.replicate 3 (.step 0 0), [.step 0 1, .release 0], List.replicate 2 (.step 0 0),
      List.replicate 2 (.step 0 1), [.setRetreat 0, .launch 1 0 0], List.replicate 5 (.step 1 0),
      List.replicate 2 (.step 1 1), [.release 1], List.replicate 3 (.step 1 0), List.replicate 3 (.step 1 1),
      [.release 1], List.replicate 4 (.step 1 0), [.step 1 1, .release 1], List.replicate 2 (.step 1 0),
      List.replicate 2 (.step 1 1)]

theorem retreating_variant_covers_grid : retreatKernel.Ended (retreatKernel.run emptyDevice retreatSchedule) ∧
      CoversGrid retreatKernel retreatSchedule (retreatKernel.run emptyDevice retreatSchedule) := by
  refine ⟨by unfold Kernel.Ended; decide +kernel,
    persistent_variants_cover_grid retreatKernel (by unfold Grid.Sized; decide) (by decide) retreatSchedule
      ⟨fun workers start count listed => ?_, by simp [retreatKernel], fun _ => by decide +kernel⟩⟩
  have only : ∀ event ∈ retreatSchedule, event.isLaunch = true → event = .launch 1 0 0 := by decide +kernel
  obtain ⟨rfl, rfl, rfl⟩ := DeviceEvent.launch.inj (only _ listed rfl)
  exact ⟨by decide, by decide, by decide, by decide, by simp [retreatKernel], by simp [retreatKernel]⟩

theorem persistent_variants_miss_and_repeat :
    (sliceKernel.Ended (sliceKernel.run emptyDevice [.launch 1 0 2, .step 0 0, .step 0 0, .release 0]) ∧
      (sliceKernel.run emptyDevice [.launch 1 0 2, .step 0 0, .step 0 0, .release 0]).executions 0 ⟨1, 0, 0⟩ = 0) ∧
    (sliceKernel.run emptyDevice [.launch 1 0 1, .step 0 0, .step 0 0, .release 0, .launch 1 0 1, .step 1 0, .step 1 0,
      .release 1]).executions 0 ⟨0, 0, 0⟩ = 2 ∧
    ∃ count, 2 ≤ (unitKernel.run emptyDevice (relaunches count)).executions 0 ⟨0, 0, 0⟩ := by
  refine ⟨⟨?_, by decide +kernel⟩, by decide +kernel, _, relaunches_repeat⟩
  unfold Kernel.Ended
  decide +kernel

end Glimmer.Transform.Persistent
