import Mathlib.Data.Nat.Bitwise

namespace Glimmer.Transform.Persistent

def word32 : Nat := 2 ^ 32

def word64 : Nat := 2 ^ 64

structure Grid where
  x : Nat
  y : Nat
  z : Nat
  counted : x < word32 ∧ y < word32 ∧ z < word32

structure Block where
  x : Nat
  y : Nat
  z : Nat
deriving DecidableEq

-- mul.wide.u32 of two extents, then mul.lo.u64 with the third.
def Grid.total (grid : Grid) : Nat := grid.x * grid.y % word64 * grid.z % word64

-- rem.u32 and div.u32 before the body.
def Grid.block (grid : Grid) (flat : Nat) : Block where
  x := flat % grid.x
  y := flat / grid.x % grid.y
  z := flat / grid.x / grid.y

inductive PtxExecutionKind where
  | static
  | blockStatic
  | dynamic
  | preemptive
  | sliced
deriving DecidableEq

structure Cta where
  worker : Nat
  workers : Nat
  y : Nat
  z : Nat
  sliceStart : Nat
  sliceCount : Nat
deriving DecidableEq

-- Where a thread stands. The claim is the index or claim register, `left` the
-- barriers that it has still to pass up to the one at the end of the body.
inductive Phase where
  | begin
  | claim
  | fetch
  | storeFlat (claim : Nat)
  | storeValue (claim : Nat)
  | ready
  | loadFlat
  | loadValue (flat : Nat)
  | body (claim left : Nat)
  | sync (claim left : Nat)
  | exited
deriving DecidableEq

-- The trace has the blocks whose body the thread has entered.
structure Thread where
  phase : Phase := .begin
  trace : List Block := []

structure Team where
  thread : Nat → Thread
  flat : Nat
  value : Nat

-- With the number of barriers that each thread meets in the body of a block.
structure Kernel where
  kind : PtxExecutionKind
  grid : Grid
  shape : Grid
  barriers : Nat → Nat

structure Device where
  ctas : List Cta
  team : Nat → Team
  counter : Nat
  retreat : Nat
  -- an index or stride addition has wrapped
  carried : Bool

namespace Kernel

variable (kernel : Kernel)

def threads : Nat := kernel.shape.x * kernel.shape.y * kernel.shape.z

def isShared : Bool := kernel.kind == .dynamic || kernel.kind == .preemptive

-- The or of the thread's three indices is not zero.
def isFollower (thread : Nat) : Bool :=
  ((kernel.shape.block thread).x ||| (kernel.shape.block thread).y ||| (kernel.shape.block thread).z) != 0

-- A static body has no barriers and its end has none.
def left (flat : Nat) : Nat :=
  match kernel.kind with
  | .static => 0
  | _ => kernel.barriers flat + 1

def coordinates (cta : Cta) (claim : Nat) : Block :=
  match kernel.kind with
  | .static => { x := claim, y := cta.y, z := cta.z }
  | _ => kernel.grid.block (claim % word32)

-- The first block of a CTA that takes its blocks by itself; none returns.
def start (cta : Cta) : Option Nat :=
  match kernel.kind with
  | .static => some cta.worker
  | .sliced =>
    if cta.sliceCount ≤ cta.worker then none
    else
      let claim := (cta.sliceStart + cta.worker) % word64
      if kernel.grid.total ≤ claim then none else some claim
  | _ => if kernel.grid.total ≤ cta.worker then none else some cta.worker

def startCarries (cta : Cta) : Bool :=
  match kernel.kind with
  | .sliced => decide (cta.worker < cta.sliceCount) && decide (word64 ≤ cta.sliceStart + cta.worker)
  | _ => false

-- The static remainder is tested before the addition, the claim after it.
def advance (cta : Cta) (claim : Nat) : Option Nat :=
  match kernel.kind with
  | .static =>
    let remaining := (kernel.grid.x + word32 - claim) % word32
    if remaining ≤ cta.workers then none else some ((claim + cta.workers) % word32)
  | .sliced => none
  | _ =>
    let next := (claim + cta.workers) % word64
    if kernel.grid.total ≤ next then none else some next

def advanceCarries (cta : Cta) (claim : Nat) : Bool :=
  match kernel.kind with
  | .static =>
    decide (cta.workers < (kernel.grid.x + word32 - claim) % word32) && decide (word32 ≤ claim + cta.workers)
  | .sliced => false
  | _ => decide (word64 ≤ claim + cta.workers)

def enter (cta : Cta) (claim : Nat) (trace : List Block) : Thread where
  phase := .body claim (kernel.left claim)
  trace := trace ++ [kernel.coordinates cta claim]

def enterOrExit (cta : Cta) (claim : Option Nat) (trace : List Block) : Thread :=
  match claim with
  | none => { phase := .exited, trace := trace }
  | some claim => kernel.enter cta claim trace

def finish (cta : Cta) (claim : Nat) (trace : List Block) : Thread :=
  if kernel.isShared then { phase := .claim, trace := trace }
  else kernel.enterOrExit cta (kernel.advance cta claim) trace

def finishCarries (cta : Cta) (claim : Nat) : Bool :=
  !kernel.isShared && kernel.advanceCarries cta claim

end Kernel

def Phase.waits : Phase → Bool
  | .ready | .sync _ _ => true
  | _ => false

namespace Team

def set (team : Team) (index : Nat) (thread : Thread) : Team :=
  { team with thread := Function.update team.thread index thread }

def setPhase (team : Team) (index : Nat) (phase : Phase) : Team :=
  team.set index { team.thread index with phase := phase }

end Team

namespace Device

def setTeam (device : Device) (index : Nat) (team : Team) : Device :=
  { device with team := Function.update device.team index team }

def carry (device : Device) (carries : Bool) : Device := { device with carried := device.carried || carries }

end Device

def idleTeam : Team where
  thread := fun _ => {}
  flat := 0
  value := 0

def emptyDevice : Device where
  ctas := []
  team := fun _ => idleTeam
  counter := 0
  retreat := 0
  carried := false

namespace Kernel

variable (kernel : Kernel)

-- One shared-memory or global access of a thread with the register instructions
-- around it, or the whole of a body up to its next barrier.
def stepThread (device : Device) (index : Nat) (cta : Cta) (thread : Nat) : Device :=
  let team := device.team index
  let here := team.thread thread
  match here.phase with
  | .begin =>
    if kernel.isShared then device.setTeam index (team.setPhase thread .claim)
    else
      (device.setTeam index (team.set thread (kernel.enterOrExit cta (kernel.start cta) here.trace))).carry
        (kernel.startCarries cta)
  | .claim =>
    if kernel.isFollower thread then device.setTeam index (team.setPhase thread .ready)
    else if kernel.kind = .preemptive ∧ device.retreat ≠ 0 then
      device.setTeam index (team.setPhase thread (.storeFlat kernel.grid.total))
    else device.setTeam index (team.setPhase thread .fetch)
  | .fetch =>
    { device.setTeam index (team.setPhase thread (.storeFlat device.counter)) with
      counter := (device.counter + 1) % word64 }
  | .storeFlat claim =>
    device.setTeam index { team.setPhase thread (.storeValue claim) with flat := claim % word32 }
  | .storeValue claim =>
    device.setTeam index
      { team.setPhase thread .ready with value := if kernel.grid.total ≤ claim then 1 else 0 }
  | .loadFlat => device.setTeam index (team.setPhase thread (.loadValue team.flat))
  | .loadValue flat =>
    if team.value ≠ 0 then device.setTeam index (team.setPhase thread .exited)
    else device.setTeam index (team.set thread (kernel.enter cta flat here.trace))
  | .body claim left =>
    if left = 0 then
      (device.setTeam index (team.set thread (kernel.finish cta claim here.trace))).carry
        (kernel.finishCarries cta claim)
    else device.setTeam index (team.setPhase thread (.sync claim left))
  | .ready | .sync _ _ | .exited => device

def released (cta : Cta) (thread : Thread) : Thread :=
  match thread.phase with
  | .ready => { thread with phase := .loadFlat }
  | .sync claim left =>
    if left ≤ 1 then kernel.finish cta claim thread.trace else { thread with phase := .body claim (left - 1) }
  | _ => thread

def releasedCarries (cta : Cta) (thread : Thread) : Bool :=
  match thread.phase with
  | .sync claim left => decide (left ≤ 1) && kernel.finishCarries cta claim
  | _ => false

def allWait (team : Team) : Bool :=
  (List.range kernel.threads).all (fun thread => (team.thread thread).phase.waits)

def release (device : Device) (index : Nat) (cta : Cta) : Device :=
  let team := device.team index
  (device.setTeam index { team with thread := fun thread => kernel.released cta (team.thread thread) }).carry
    ((List.range kernel.threads).any (fun thread => kernel.releasedCarries cta (team.thread thread)))

-- The CTAs of a launch. A static launch keeps the other two extents of the grid.
def launched (workers start count : Nat) : List Cta :=
  match kernel.kind with
  | .static =>
    (List.range kernel.grid.z).flatMap (fun z => (List.range kernel.grid.y).flatMap (fun y =>
      (List.range workers).map (fun worker =>
        { worker := worker, workers := workers, y := y, z := z, sliceStart := 0, sliceCount := 0 })))
  | _ =>
    (List.range workers).map (fun worker =>
      { worker := worker, workers := workers, y := 0, z := 0, sliceStart := start, sliceCount := count })

end Kernel

inductive DeviceEvent where
  | launch (workers start count : Nat)
  | setRetreat (value : Nat)
  | step (cta thread : Nat)
  | release (cta : Nat)
deriving DecidableEq

namespace Kernel

def next (kernel : Kernel) (device : Device) : DeviceEvent → Device
  | .launch workers start count => { device with ctas := device.ctas ++ kernel.launched workers start count }
  | .setRetreat value => { device with retreat := value }
  | .step index thread =>
    match device.ctas[index]? with
    | none => device
    | some cta => if thread < kernel.threads then kernel.stepThread device index cta thread else device
  | .release index =>
    match device.ctas[index]? with
    | none => device
    | some cta => if kernel.allWait (device.team index) then kernel.release device index cta else device

def run (kernel : Kernel) (device : Device) (schedule : List DeviceEvent) : Device := schedule.foldl kernel.next device

end Kernel

variable {grid : Grid}

-- Four billion blocks at most, so the product of the extents is exact.
def Grid.Sized (grid : Grid) : Prop := grid.x * grid.y * grid.z ≤ word32 - 1

theorem total_exact (sized : grid.Sized) : grid.total = grid.x * grid.y * grid.z := by
  have wide : grid.x * grid.y < word64 := by
    have bound : grid.x * grid.y < word32 * word32 := Nat.mul_lt_mul_of_lt_of_lt grid.counted.1 grid.counted.2.1
    exact bound
  rw [Grid.total, Nat.mod_eq_of_lt wide, Nat.mod_eq_of_lt]
  exact Nat.lt_of_le_of_lt sized (by decide)

theorem total_small (sized : grid.Sized) : grid.total < word32 := by
  rw [total_exact sized]
  exact Nat.lt_of_le_of_lt sized (by decide)

def Grid.Has (grid : Grid) (block : Block) : Prop := block.x < grid.x ∧ block.y < grid.y ∧ block.z < grid.z

def Grid.flat (grid : Grid) (block : Block) : Nat := block.x + grid.x * (block.y + grid.y * block.z)

theorem flat_block (flat : Nat) : grid.flat (grid.block flat) = flat := by
  simp [Grid.flat, Grid.block, Nat.mod_add_div]

theorem block_flat {block : Block} (inside : grid.Has block) : grid.block (grid.flat block) = block := by
  obtain ⟨x, y, z⟩ := block
  obtain ⟨inX, inY, _⟩ := inside
  have pastX : (x + grid.x * (y + grid.y * z)) / grid.x = y + grid.y * z := by
    rw [Nat.add_mul_div_left _ _ (Nat.zero_lt_of_lt inX), Nat.div_eq_of_lt inX, Nat.zero_add]
  have pastY : (y + grid.y * z) / grid.y = z := by
    rw [Nat.add_mul_div_left _ _ (Nat.zero_lt_of_lt inY), Nat.div_eq_of_lt inY, Nat.zero_add]
  simp [Grid.block, Grid.flat, pastX, pastY, Nat.add_mul_mod_self_left, Nat.mod_eq_of_lt inX, Nat.mod_eq_of_lt inY]

theorem flat_small {block : Block} (inside : grid.Has block) : grid.flat block < grid.x * grid.y * grid.z := by
  obtain ⟨x, y, z⟩ := block
  obtain ⟨inX, inY, inZ⟩ := inside
  have plane : y + grid.y * z < grid.y * grid.z := by
    calc y + grid.y * z < grid.y + grid.y * z := Nat.add_lt_add_right inY _
      _ = grid.y * (z + 1) := by rw [Nat.mul_succ, Nat.add_comm]
      _ ≤ grid.y * grid.z := Nat.mul_le_mul_left _ inZ
  calc x + grid.x * (y + grid.y * z) < grid.x + grid.x * (y + grid.y * z) := Nat.add_lt_add_right inX _
    _ = grid.x * (y + grid.y * z + 1) := by rw [Nat.mul_succ, Nat.add_comm]
    _ ≤ grid.x * (grid.y * grid.z) := Nat.mul_le_mul_left _ plane
    _ = grid.x * grid.y * grid.z := (Nat.mul_assoc _ _ _).symm

theorem block_has {flat : Nat} (within : flat < grid.x * grid.y * grid.z) : grid.Has (grid.block flat) := by
  have xPositive : 0 < grid.x := by
    rcases Nat.eq_zero_or_pos grid.x with none | some
    · simp [none] at within
    · exact some
  have yPositive : 0 < grid.y := by
    rcases Nat.eq_zero_or_pos grid.y with none | some
    · simp [none] at within
    · exact some
  refine ⟨Nat.mod_lt _ xPositive, Nat.mod_lt _ yPositive, ?_⟩
  rw [Nat.mul_assoc] at within
  exact Nat.div_lt_of_lt_mul (Nat.div_lt_of_lt_mul within)

theorem follower_iff (kernel : Kernel) (thread : Nat) : kernel.isFollower thread = false ↔ thread = 0 := by
  have first := @flat_block kernel.shape thread
  constructor
  · intro leads
    simp only [Kernel.isFollower, bne_eq_false_iff_eq, Nat.or_eq_zero_iff] at leads
    rw [← first, Grid.flat, leads.1.1, leads.1.2, leads.2]
    simp
  · rintro rfl
    simp [Kernel.isFollower, Grid.block]

open Kernel

-- The events that a thread can still take part in before its next block.
def Phase.cost : Phase → Nat
  | .begin => 9
  | .claim => 8
  | .fetch => 7
  | .storeFlat _ => 6
  | .storeValue _ => 5
  | .ready => 4
  | .loadFlat => 3
  | .loadValue _ => 2
  | .body _ left => 9 + 2 * left
  | .sync _ left => 8 + 2 * left
  | .exited => 0

namespace Kernel

def roundCost (kernel : Kernel) (flat : Nat) : Nat := 9 + 2 * kernel.left flat

-- The tickets are the blocks that the thread's CTA has taken or will take.
def threadCost (kernel : Kernel) (tickets : List Nat) (thread : Thread) : Nat :=
  thread.phase.cost + ((tickets.drop thread.trace.length).map kernel.roundCost).sum

end Kernel

structure Plan (kernel : Kernel) (cta : Cta) (plan : List Nat) : Prop where
  first : kernel.start cta = plan[0]?
  next : ∀ index claim, plan[index]? = some claim → kernel.advance cta claim = plan[index + 1]?
  startDry : kernel.startCarries cta = false
  advanceDry : ∀ claim ∈ plan, kernel.advanceCarries cta claim = false

inductive Following (kernel : Kernel) (cta : Cta) (plan : List Nat) (thread : Thread) : Prop
  | begin (phase : thread.phase = .begin) (trace : thread.trace = [])
  | inside (index claim left : Nat) (here : plan[index]? = some claim)
      (phase : thread.phase = .body claim left ∨ thread.phase = .sync claim left)
      (barriers : kernel.kind = .static → thread.phase = .body claim 0)
      (trace : thread.trace = (plan.take (index + 1)).map (kernel.coordinates cta))
  | exited (phase : thread.phase = .exited) (trace : thread.trace = plan.map (kernel.coordinates cta))

variable {kernel : Kernel} {cta : Cta} {plan : List Nat} {thread : Thread} {team : Team} {index claim number : Nat}

section Threads

theorem enter_or_exit_follows (index : Nat) (trace : thread.trace = (plan.take index).map (kernel.coordinates cta))
    (within : index ≤ plan.length) :
    Following kernel cta plan (kernel.enterOrExit cta plan[index]? thread.trace) ∧
      kernel.threadCost plan (kernel.enterOrExit cta plan[index]? thread.trace) ≤
        ((plan.drop index).map kernel.roundCost).sum := by
  cases here : plan[index]? with
  | none =>
    have ended : plan.length ≤ index := List.getElem?_eq_none_iff.mp here
    refine ⟨.exited rfl ?_, ?_⟩
    · simp only [enterOrExit]
      rw [trace, List.take_of_length_le ended]
    · have all : plan.drop thread.trace.length = [] := by
        rw [trace, List.length_map, List.length_take, Nat.min_eq_left within]
        exact List.drop_eq_nil_of_le ended
      simp [threadCost, enterOrExit, Phase.cost, all]
  | some claim =>
    obtain ⟨small, found⟩ := List.getElem?_eq_some_iff.mp here
    refine ⟨.inside index claim (kernel.left claim) here (.inl rfl) ?_ ?_, ?_⟩
    · intro static
      simp [enterOrExit, enter, left, static]
    · simp only [enterOrExit, enter]
      rw [trace, List.take_add_one, here, Option.toList_some, List.map_append, List.map_cons, List.map_nil]
    · have dropped : plan.drop index = claim :: plan.drop (index + 1) := by
        rw [← found]
        exact List.drop_eq_getElem_cons small
      have counted : (thread.trace ++ [kernel.coordinates cta claim]).length = index + 1 := by
        rw [List.length_append, trace, List.length_map, List.length_take, Nat.min_eq_left within]
        rfl
      simp [threadCost, enterOrExit, enter, Phase.cost, counted, dropped, List.map_cons, List.sum_cons, roundCost]

variable (here : plan[index]? = some claim) (trace : thread.trace = (plan.take (index + 1)).map (kernel.coordinates cta))
include here trace

theorem follows_inside_cost :
    kernel.threadCost plan thread = thread.phase.cost + ((plan.drop (index + 1)).map kernel.roundCost).sum := by
  have small := (List.getElem?_eq_some_iff.mp here).1
  have counted : thread.trace.length = index + 1 := by
    rw [trace, List.length_map, List.length_take, Nat.min_eq_left small]
  rw [threadCost, counted]

theorem finish_follows (alone : kernel.isShared = false) (planned : Plan kernel cta plan) :
    Following kernel cta plan (kernel.finish cta claim thread.trace) ∧
      kernel.threadCost plan (kernel.finish cta claim thread.trace) ≤
        ((plan.drop (index + 1)).map kernel.roundCost).sum ∧ kernel.finishCarries cta claim = false := by
  have small := (List.getElem?_eq_some_iff.mp here).1
  have shape : kernel.finish cta claim thread.trace = kernel.enterOrExit cta plan[index + 1]? thread.trace := by
    simp [finish, alone, Bool.false_eq_true, planned.next index claim here]
  obtain ⟨follows, cheap⟩ := enter_or_exit_follows (index + 1) trace small
  refine ⟨shape ▸ follows, shape ▸ cheap, ?_⟩
  rw [finishCarries, planned.advanceDry claim (List.mem_of_getElem? here), Bool.and_false]

end Threads

namespace Kernel

def ownStep (kernel : Kernel) (cta : Cta) (thread : Thread) : Thread :=
  match thread.phase with
  | .begin => kernel.enterOrExit cta (kernel.start cta) thread.trace
  | .body claim left =>
    if left = 0 then kernel.finish cta claim thread.trace else { thread with phase := .sync claim left }
  | _ => thread

end Kernel

def Phase.isStill : Phase → Bool
  | .ready | .sync _ _ | .exited => true
  | _ => false

theorem waits_still {phase : Phase} (waits : phase.waits = true) : phase.isStill = true := by
  cases phase with
  | ready | sync => rfl
  | _ => cases waits

section Steps

theorem carry_dry {device : Device} : device.carry false = device := by
  rw [Device.carry, Bool.or_false]

theorem set_same (device : Device) (index : Nat) (number : Nat) :
    device.setTeam index ((device.team index).set number ((device.team index).thread number)) = device := by
  simp [Device.setTeam, Team.set, Function.update_eq_self]

variable (alone : kernel.isShared = false) (planned : Plan kernel cta plan)
include alone planned

theorem own_step_step {device : Device} (follows : Following kernel cta plan ((device.team index).thread number)) :
    kernel.stepThread device index cta number =
      device.setTeam index
        ((device.team index).set number (kernel.ownStep cta ((device.team index).thread number))) := by
  cases follows with
  | begin phase trace =>
    simp [stepThread, ownStep, phase, alone, Bool.false_eq_true, planned.startDry, carry_dry]
  | inside place claim left here phase barriers trace =>
    rcases phase with body | sync
    · have dry := (finish_follows here trace alone planned).2.2
      simp only [stepThread, ownStep, body]
      split
      · rw [dry, carry_dry]
      · rfl
    · simp only [stepThread, ownStep, sync]
      exact (set_same device index number).symm
  | exited phase trace =>
    simp only [stepThread, ownStep, phase]
    exact (set_same device index number).symm

theorem own_step_follows (follows : Following kernel cta plan thread) :
    Following kernel cta plan (kernel.ownStep cta thread) ∧
      (thread.phase.isStill = false →
        kernel.threadCost plan (kernel.ownStep cta thread) < kernel.threadCost plan thread) := by
  cases follows with
  | begin phase trace =>
    obtain ⟨entered, cheap⟩ := @enter_or_exit_follows kernel cta plan thread 0
      (by simpa using trace) (Nat.zero_le _)
    have shape : kernel.ownStep cta thread = kernel.enterOrExit cta plan[0]? thread.trace := by
      simp [ownStep, phase, planned.first]
    refine ⟨shape ▸ entered, fun _ => ?_⟩
    rw [shape]
    refine Nat.lt_of_le_of_lt cheap ?_
    simp [threadCost, phase, trace, Phase.cost]
  | inside index claim left here phase barriers trace =>
    have cost := follows_inside_cost here trace
    rcases phase with body | sync
    · refine ⟨?_, fun _ => ?_⟩
      · simp only [ownStep, body]
        split
        · exact (finish_follows here trace alone planned).1
        · next waits =>
          refine .inside index claim left here (.inr rfl) (fun static => ?_) trace
          have level := body.symm.trans (barriers static)
          exact absurd (by simpa using level) waits
      · simp only [ownStep, body]
        split
        · next last =>
          have cheap := (finish_follows here trace alone planned).2.1
          rw [cost, body, Phase.cost]
          omega
        · rw [cost, body, follows_inside_cost here (by exact trace)]
          simp only [Phase.cost]
          omega
    · have shape : kernel.ownStep cta thread = thread := by simp [ownStep, sync]
      rw [shape]
      exact ⟨.inside index claim left here (.inr sync) barriers trace, by simp [sync, Phase.isStill]⟩
  | exited phase trace =>
    have shape : kernel.ownStep cta thread = thread := by simp [ownStep, phase]
    rw [shape]
    exact ⟨.exited phase trace, by simp [phase, Phase.isStill]⟩

theorem released_follows (follows : Following kernel cta plan thread) (waits : thread.phase.waits = true) :
    Following kernel cta plan (kernel.released cta thread) ∧ kernel.releasedCarries cta thread = false ∧
      kernel.threadCost plan (kernel.released cta thread) < kernel.threadCost plan thread := by
  cases follows with
  | begin phase trace | exited phase trace => simp [phase, Phase.waits] at waits
  | inside index claim left here phase barriers trace =>
    rcases phase with body | sync
    · simp [body, Phase.waits] at waits
    have cost := follows_inside_cost here trace
    obtain ⟨finished, cheap, dry⟩ := finish_follows here trace alone planned
    refine ⟨?_, by simp [releasedCarries, sync, dry, Bool.and_false], ?_⟩
    · simp only [released, sync]
      split
      · exact finished
      · refine .inside index claim (left - 1) here (.inl rfl) (fun static => ?_) trace
        have level := sync.symm.trans (barriers static)
        exact absurd level (by simp)
    · simp only [released, sync]
      split
      · rw [cost, sync, Phase.cost]
        omega
      · rw [cost, sync, follows_inside_cost here (by exact trace)]
        simp only [Phase.cost]
        omega

end Steps

-- Between two barriers all threads of a CTA have the same claim.
inductive Abreast (kernel : Kernel) (cta : Cta) (team : Team) : Prop
  | opening (claim : Nat) (start : kernel.start cta = some claim)
      (all : ∀ thread < kernel.threads, (team.thread thread).phase = .begin ∨
        (team.thread thread).phase = .body claim (kernel.left claim) ∨
        (team.thread thread).phase = .sync claim (kernel.left claim))
  | inside (claim left : Nat) (barred : 0 < left)
      (all : ∀ thread < kernel.threads,
        (team.thread thread).phase = .body claim left ∨ (team.thread thread).phase = .sync claim left)
  | closing (start : kernel.start cta = none)
      (all : ∀ thread < kernel.threads, (team.thread thread).phase = .begin ∨ (team.thread thread).phase = .exited)
  | closed (all : ∀ thread < kernel.threads, (team.thread thread).phase = .exited)

section Barriers

theorem left_positive (barred : kernel.kind ≠ .static) (claim : Nat) : 0 < kernel.left claim := by
  unfold left
  split
  · next static => exact absurd static barred
  · exact Nat.succ_pos _

theorem set_all (holds : Nat → Thread → Prop) (count number : Nat) (new : Thread)
    (all : ∀ thread < count, holds thread (team.thread thread)) (here : holds number new) :
    ∀ thread < count, holds thread ((team.set number new).thread thread) := by
  intro thread small
  by_cases same : thread = number
  · subst same
    simpa only [Team.set, Function.update_self] using here
  · simpa only [Team.set, Function.update_of_ne same] using all thread small

theorem abreast_step (barred : kernel.kind ≠ .static) (abreast : Abreast kernel cta team)
    (small : number < kernel.threads) :
    Abreast kernel cta (team.set number (kernel.ownStep cta (team.thread number))) := by
  cases abreast with
  | opening claim start all =>
    refine .opening claim start (set_all (fun _ thread => thread.phase = .begin ∨
      thread.phase = .body claim (kernel.left claim) ∨ thread.phase = .sync claim (kernel.left claim))
      _ _ _ all ?_)
    rcases all number small with begins | body | sync
    · simp [ownStep, begins, start, enterOrExit, enter]
    · have pos := left_positive barred claim
      simp [ownStep, body, Nat.pos_iff_ne_zero.mp pos]
    · simp [ownStep, sync]
  | inside claim left pos all =>
    refine .inside claim left pos (set_all (fun _ thread => thread.phase = .body claim left ∨
      thread.phase = .sync claim left) _ _ _ all ?_)
    rcases all number small with body | sync
    · simp [ownStep, body, Nat.pos_iff_ne_zero.mp pos]
    · simp [ownStep, sync]
  | closing start all =>
    refine .closing start (set_all (fun _ thread => thread.phase = .begin ∨ thread.phase = .exited)
      _ _ _ all ?_)
    rcases all number small with begins | exits
    · simp [ownStep, begins, start, enterOrExit]
    · simp [ownStep, exits]
  | closed all =>
    refine .closed (set_all (fun _ thread => thread.phase = .exited) _ _ _ all ?_)
    simp [ownStep, all number small]

theorem released_abreast (alone : kernel.isShared = false) (barred : kernel.kind ≠ .static) {left : Nat}
    (all : ∀ thread < kernel.threads, (team.thread thread).phase = .sync claim left) :
    Abreast kernel cta { team with thread := fun thread => kernel.released cta (team.thread thread) } := by
  by_cases last : left ≤ 1
  · have finished : ∀ thread < kernel.threads, (kernel.released cta (team.thread thread)) =
        kernel.enterOrExit cta (kernel.advance cta claim) (team.thread thread).trace := by
      intro thread small
      simp [released, all thread small, last, finish, alone, Bool.false_eq_true]
    cases next : kernel.advance cta claim with
    | none =>
      refine .closed (fun thread small => ?_)
      simp [finished thread small, next, enterOrExit]
    | some later =>
      refine .inside later (kernel.left later) (left_positive barred later) (fun thread small => .inl ?_)
      simp [finished thread small, next, enterOrExit, enter]
  · refine .inside claim (left - 1) (by omega) (fun thread small => .inl ?_)
    simp [released, all thread small, last]

theorem abreast_still (abreast : Abreast kernel cta team)
    (still : ∀ thread < kernel.threads, (team.thread thread).phase.isStill = true) :
    (∃ claim left, ∀ thread < kernel.threads, (team.thread thread).phase = .sync claim left) ∨
      ∀ thread < kernel.threads, (team.thread thread).phase = .exited := by
  cases abreast with
  | opening claim start all =>
    refine .inl ⟨claim, kernel.left claim, fun thread small => ?_⟩
    have stands := still thread small
    rcases all thread small with begins | body | sync
    · simp [begins, Phase.isStill] at stands
    · simp [body, Phase.isStill] at stands
    · exact sync
  | inside claim left pos all =>
    refine .inl ⟨claim, left, fun thread small => (all thread small).resolve_left fun body => ?_⟩
    simpa [body, Phase.isStill] using still thread small
  | closing start all =>
    refine .inr fun thread small => (all thread small).resolve_left fun begins => ?_
    simpa [begins, Phase.isStill] using still thread small
  | closed all => exact .inr all

end Barriers

structure TeamFollows (kernel : Kernel) (cta : Cta) (plan : List Nat) (team : Team) : Prop where
  threads : ∀ thread < kernel.threads, Following kernel cta plan (team.thread thread)
  abreast : kernel.kind ≠ .static → Abreast kernel cta team

theorem idle_follows : TeamFollows kernel cta plan idleTeam := by
  refine ⟨fun thread _ => .begin rfl rfl, fun _ => ?_⟩
  cases start : kernel.start cta with
  | none => exact .closing start (fun thread _ => .inl rfl)
  | some claim => exact .opening claim start (fun thread _ => .inl rfl)

theorem follows_live (follows : TeamFollows kernel cta plan team)
    (still : ∀ thread < kernel.threads, (team.thread thread).phase.isStill = true) :
    (∀ thread < kernel.threads, (team.thread thread).phase.waits = true) ∨
      (∀ thread < kernel.threads, (team.thread thread).phase = .exited) := by
  by_cases static : kernel.kind = .static
  · refine .inr (fun thread small => ?_)
    have stands := still thread small
    cases follows.threads thread small with
    | begin phase trace => simp [phase, Phase.isStill] at stands
    | inside index claim left here phase barriers trace => simp [barriers static, Phase.isStill] at stands
    | exited phase trace => exact phase
  · refine (abreast_still (follows.abreast static) still).imp_left ?_
    rintro ⟨claim, left, all⟩ thread small
    rw [all thread small]
    rfl

theorem follows_traces {thread : Thread} (follows : Following kernel cta plan thread) :
    thread.trace <+: plan.map (kernel.coordinates cta) ∧
      (thread.phase = .exited → thread.trace = plan.map (kernel.coordinates cta)) := by
  cases follows with
  | begin phase trace =>
    rw [trace]
    exact ⟨List.nil_prefix, fun exits => absurd (phase.symm.trans exits) (by simp)⟩
  | inside index claim left here phase barriers trace =>
    refine ⟨trace ▸ (List.take_prefix _ _).map _, fun exits => ?_⟩
    rcases phase with body | sync
    · cases body.symm.trans exits
    · cases sync.symm.trans exits
  | exited phase trace => exact ⟨trace ▸ List.prefix_refl _, fun _ => trace⟩

end Glimmer.Transform.Persistent
