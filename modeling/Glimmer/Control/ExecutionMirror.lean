import Glimmer.Control.ExecutionEndpoint
import Glimmer.Core.SchedulerRuns

namespace Glimmer.Control

open Lib Glimmer.Core Scheduler

namespace ExecutionLease

def kind (lease : ExecutionLease) : ExecutionKind :=
  if lease.nativeEpoch.isSome then .native else if lease.isCooperative then .cooperative else .legacy

-- A native lease counts as cooperative as well, and nobody is left reaping.
def WellFormed (lease : ExecutionLease) : Prop :=
  lease.reaping = false ∧ (lease.nativeEpoch.isSome → lease.isCooperative = true)

def Alike (first second : ExecutionLease) : Prop :=
  second.isCooperative = first.isCooperative ∧ second.nativeEpoch = first.nativeEpoch ∧ second.reaping = first.reaping

variable {first lease second : ExecutionLease}

theorem alike_refl (lease : ExecutionLease) : Alike lease lease := ⟨rfl, rfl, rfl⟩

theorem alike_trans {third : ExecutionLease} (one : Alike first second) (two : Alike second third) :
    Alike first third :=
  ⟨two.1.trans one.1, two.2.1.trans one.2.1, two.2.2.trans one.2.2⟩

theorem alike_kind (alike : Alike first second) : second.kind = first.kind := by
  simp [kind, alike.1, alike.2.1]

theorem alike_formed (alike : Alike first second) (formed : first.WellFormed) : second.WellFormed := by
  obtain ⟨calm, native⟩ := formed
  refine ⟨alike.2.2.trans calm, fun epoch => ?_⟩
  rw [alike.1]
  exact native (alike.2.1 ▸ epoch)

theorem legacy_of_plain (formed : lease.WellFormed) (plain : lease.isCooperative = false) : lease.kind = .legacy := by
  have domestic : lease.nativeEpoch.isSome ≠ true := fun epoch => by
    rw [formed.2 epoch] at plain
    cases plain
  simp [kind, domestic, plain]

theorem cooperative_of_steerable (steerable : lease.steerable = true) : lease.kind = .cooperative := by
  simp only [ExecutionLease.steerable, Bool.and_eq_true, Option.isNone_iff_eq_none] at steerable
  simp [kind, steerable]

theorem native_of_epoch (epoch : lease.nativeEpoch.isSome = true) : lease.kind = .native := by
  simp [kind, epoch]

end ExecutionLease

namespace ExecutionAdmissionState

def Leased (a : ExecutionAdmissionState) (id : TaskId) (lease : ExecutionLease) : Prop :=
  a.pendingLeases.lookup id = some lease ∨ a.activeLeases.lookup id = some lease

structure Mirrors (a : ExecutionAdmissionState) : Prop where
  tracked : a.tracksLeases = true
  invariant : Scheduler.Invariant a.scheduler
  waiting : ∀ id, (a.pendingLeases.lookup id).isSome ↔ a.scheduler.taskState id = some .queued
  running : ∀ id, (a.activeLeases.lookup id).isSome ↔ a.scheduler.taskState id = some .running
  formed : ∀ id lease, a.Leased id lease → lease.WellFormed
  unbound : a.options.bindLeasesToProcess = false → ∀ id lease, a.Leased id lease → lease.isCooperative = false

def slot (home state : TaskState) (lease : ExecutionLease) : Option ExecutionLease :=
  if state = home then some lease else none

-- One live task gets a new record, and its lease goes where the new state has it. A renewal leaves the record as it is.
structure Turned (a b : ExecutionAdmissionState) (id : TaskId) (task next : TaskRecord) (lease renewed : ExecutionLease) :
    Prop where
  options : b.options = a.options
  invariant : Scheduler.Invariant b.scheduler
  nextId : b.scheduler.nextTaskId = a.scheduler.nextTaskId
  found : a.scheduler.tasks.lookup id = some task
  tasks : ∀ other, b.scheduler.tasks.lookup other = if other = id then some next else a.scheduler.tasks.lookup other
  held : (task.state = .queued ∧ a.pendingLeases.lookup id = some lease) ∨
    (task.state = .running ∧ a.activeLeases.lookup id = some lease)
  pending : ∀ other, b.pendingLeases.lookup other =
    if other = id then slot .queued next.state renewed else a.pendingLeases.lookup other
  active : ∀ other, b.activeLeases.lookup other =
    if other = id then slot .running next.state renewed else a.activeLeases.lookup other
  alike : lease.Alike renewed
  owner : a.options.bindLeasesToProcess = true → renewed.owner = lease.owner

structure Arrived (a b : ExecutionAdmissionState) (task : TaskRecord) (lease : Option ExecutionLease) : Prop where
  options : b.options = a.options
  invariant : Scheduler.Invariant b.scheduler
  nextId : b.scheduler.nextTaskId = a.scheduler.nextTaskId + 1
  tasks : ∀ other, b.scheduler.tasks.lookup other =
    if other = a.scheduler.nextTaskId then some task else a.scheduler.tasks.lookup other
  pending : ∀ other, b.pendingLeases.lookup other =
    if other = a.scheduler.nextTaskId then lease else a.pendingLeases.lookup other
  active : ∀ other, b.activeLeases.lookup other = a.activeLeases.lookup other
  waiting : lease.isSome ↔ task.state = .queued
  resting : task.state ≠ .running
  formed : ∀ held ∈ lease, held.WellFormed
  unbound : a.options.bindLeasesToProcess = false → ∀ held ∈ lease, held.isCooperative = false

structure Erased (a b : ExecutionAdmissionState) (id : TaskId) : Prop where
  options : b.options = a.options
  invariant : Scheduler.Invariant b.scheduler
  nextId : b.scheduler.nextTaskId = a.scheduler.nextTaskId
  idle : a.scheduler.taskState id ≠ some .queued ∧ a.scheduler.taskState id ≠ some .running
  tasks : ∀ other, b.scheduler.tasks.lookup other = if other = id then none else a.scheduler.tasks.lookup other
  pending : b.pendingLeases = a.pendingLeases
  active : b.activeLeases = a.activeLeases

structure Still (a b : ExecutionAdmissionState) : Prop where
  options : b.options = a.options
  invariant : Scheduler.Invariant b.scheduler
  nextId : b.scheduler.nextTaskId = a.scheduler.nextTaskId
  tasks : b.scheduler.tasks = a.scheduler.tasks
  pending : b.pendingLeases = a.pendingLeases
  active : b.activeLeases = a.activeLeases

variable {a b : ExecutionAdmissionState} {id : TaskId}

section Covers
variable {s : Scheduler} {leases : KeyedMap TaskId ExecutionLease} {home : TaskState} {task : TaskRecord}
  {lease : ExecutionLease} (covers : ∀ id, (leases.lookup id).isSome ↔ s.taskState id = some home)
include covers

theorem covered_lease (found : s.tasks.lookup id = some task) (here : task.state = home) :
    ∃ lease, leases.lookup id = some lease := by
  refine Option.isSome_iff_exists.mp ((covers id).mpr ?_)
  rw [taskState, found, Option.map_some, here]

theorem covered_task (held : leases.lookup id = some lease) :
    ∃ task, s.tasks.lookup id = some task ∧ task.state = home :=
  Option.map_eq_some_iff.mp ((covers id).mp (by rw [held]; rfl))

theorem uncovered (away : s.taskState id ≠ some home) : leases.lookup id = none := by
  cases held : leases.lookup id with
  | none => rfl
  | some lease => exact absurd ((covers id).mp (by rw [held]; rfl)) away

end Covers

section Mirrors
variable (mirrors : Mirrors a)
include mirrors
variable {task : TaskRecord} {lease : ExecutionLease}

theorem waiting_inactive (found : a.scheduler.tasks.lookup id = some task) (queued : task.state = .queued) :
    a.activeLeases.lookup id = none :=
  uncovered mirrors.running (by simp [taskState, found, queued])

theorem running_unqueued (found : a.scheduler.tasks.lookup id = some task) (running : task.state = .running) :
    a.pendingLeases.lookup id = none :=
  uncovered mirrors.waiting (by simp [taskState, found, running])

theorem leased_task (held : a.Leased id lease) :
    ∃ task, a.scheduler.tasks.lookup id = some task ∧
      ((task.state = .queued ∧ a.pendingLeases.lookup id = some lease) ∨
        (task.state = .running ∧ a.activeLeases.lookup id = some lease)) := by
  rcases held with waits | runs
  · obtain ⟨task, found, queued⟩ := covered_task mirrors.waiting waits
    exact ⟨task, found, .inl ⟨queued, waits⟩⟩
  · obtain ⟨task, found, running⟩ := covered_task mirrors.running runs
    exact ⟨task, found, .inr ⟨running, runs⟩⟩

theorem leased_unique {other : ExecutionLease} (held : a.Leased id lease) (again : a.Leased id other) :
    lease = other := by
  obtain ⟨task, found, ⟨queued, waits⟩ | ⟨running, runs⟩⟩ := leased_task mirrors held
  · rcases again with here | there
    · exact Option.some.inj (waits.symm.trans here)
    · rw [waiting_inactive mirrors found queued] at there
      cases there
  · rcases again with here | there
    · rw [running_unqueued mirrors found running] at here
      cases here
    · exact Option.some.inj (runs.symm.trans there)

end Mirrors

theorem tracked_of_options (same : b.options = a.options) (mirrors : Mirrors a) : b.tracksLeases = true := by
  rw [tracksLeases, same]
  exact mirrors.tracked

variable {held : ExecutionLease} {other : TaskId} {task : TaskRecord} {lease : Option ExecutionLease}

theorem slot_some {home state : TaskState} {lease : ExecutionLease} (placed : slot home state lease = some held) :
    held = lease := by
  unfold slot at placed
  split at placed
  · exact (Option.some.inj placed).symm
  · cases placed

theorem slot_is_some {home state : TaskState} {lease : ExecutionLease} :
    (slot home state lease).isSome ↔ state = home := by
  unfold slot
  split <;> simp [*]

section Slots
variable {home state : TaskState} (leases : KeyedMap TaskId ExecutionLease) (lease : ExecutionLease)

theorem slot_absent (absent : leases.lookup id = none) (away : state ≠ home) (other : TaskId) :
    leases.lookup other = if other = id then slot home state lease else leases.lookup other := by
  split
  · next same => rw [slot, if_neg away, same, absent]
  · rfl

theorem slot_erased (away : state ≠ home) (other : TaskId) :
    (leases.erase id).lookup other = if other = id then slot home state lease else leases.lookup other := by
  rw [KeyedMap.lookup_erase_cases, slot, if_neg away]

theorem slot_inserted (here : state = home) (other : TaskId) :
    (leases.insert id lease).lookup other = if other = id then slot home state lease else leases.lookup other := by
  rw [KeyedMap.lookup_insert_cases, slot, if_pos here]

end Slots

section Turned
variable {task next : TaskRecord} {lease renewed : ExecutionLease} (turned : Turned a b id task next lease renewed)
include turned

theorem turned_leased (after : b.Leased other held) :
    (other = id ∧ held = renewed) ∨ (other ≠ id ∧ a.Leased other held) := by
  unfold Leased at after
  rw [turned.pending, turned.active] at after
  by_cases same : other = id
  · rw [if_pos same, if_pos same] at after
    rcases after with here | here <;> exact .inl ⟨same, slot_some here⟩
  · rw [if_neg same, if_neg same] at after
    exact .inr ⟨same, after⟩

theorem turned_held : a.Leased id lease := by
  rcases turned.held with ⟨_, here⟩ | ⟨_, here⟩
  · exact .inl here
  · exact .inr here

theorem turned_mirrors (mirrors : Mirrors a) : Mirrors b where
  tracked := tracked_of_options turned.options mirrors
  invariant := turned.invariant
  waiting other := by
    rw [turned.pending, taskState, turned.tasks]
    by_cases same : other = id
    · rw [if_pos same, if_pos same, slot_is_some]
      simp
    · rw [if_neg same, if_neg same]
      exact mirrors.waiting other
  running other := by
    rw [turned.active, taskState, turned.tasks]
    by_cases same : other = id
    · rw [if_pos same, if_pos same, slot_is_some]
      simp
    · rw [if_neg same, if_neg same]
      exact mirrors.running other
  formed other held after := by
    rcases turned_leased turned after with ⟨_, rfl⟩ | ⟨_, before⟩
    · exact ExecutionLease.alike_formed turned.alike (mirrors.formed id lease (turned_held turned))
    · exact mirrors.formed other held before
  unbound free other held after := by
    rw [turned.options] at free
    rcases turned_leased turned after with ⟨_, rfl⟩ | ⟨_, before⟩
    · rw [turned.alike.1]
      exact mirrors.unbound free id lease (turned_held turned)
    · exact mirrors.unbound free other held before

end Turned

variable (mirrors : Mirrors a)
include mirrors

theorem still_mirrors (still : Still a b) : Mirrors b where
  tracked := tracked_of_options still.options mirrors
  invariant := still.invariant
  waiting id := by
    rw [still.pending, taskState, still.tasks]
    exact mirrors.waiting id
  running id := by
    rw [still.active, taskState, still.tasks]
    exact mirrors.running id
  formed id lease held := by
    rw [Leased, still.pending, still.active] at held
    exact mirrors.formed id lease held
  unbound free id lease held := by
    rw [still.options] at free
    rw [Leased, still.pending, still.active] at held
    exact mirrors.unbound free id lease held

theorem erased_mirrors (erased : Erased a b id) : Mirrors b := by
  have idle := erased.idle
  refine ⟨tracked_of_options erased.options mirrors, erased.invariant, fun other => ?_, fun other => ?_,
    fun other lease held => ?_, fun free other lease held => ?_⟩
  · rw [erased.pending, mirrors.waiting, taskState, taskState, erased.tasks]
    by_cases same : other = id
    · subst same
      rw [if_pos rfl]
      exact ⟨fun queued => absurd queued idle.1, fun absent => by cases absent⟩
    · rw [if_neg same]
  · rw [erased.active, mirrors.running, taskState, taskState, erased.tasks]
    by_cases same : other = id
    · subst same
      rw [if_pos rfl]
      exact ⟨fun running => absurd running idle.2, fun absent => by cases absent⟩
    · rw [if_neg same]
  · rw [Leased, erased.pending, erased.active] at held
    exact mirrors.formed other lease held
  · rw [erased.options] at free
    rw [Leased, erased.pending, erased.active] at held
    exact mirrors.unbound free other lease held

theorem fresh_leases : a.pendingLeases.lookup a.scheduler.nextTaskId = none ∧
    a.activeLeases.lookup a.scheduler.nextTaskId = none := by
  have fresh := next_task_fresh mirrors.invariant.coherent
  exact ⟨uncovered mirrors.waiting (by simp [taskState, fresh]), uncovered mirrors.running (by simp [taskState, fresh])⟩

theorem arrived_leased (arrived : Arrived a b task lease) (after : b.Leased other held) :
    (other = a.scheduler.nextTaskId ∧ lease = some held) ∨ (other ≠ a.scheduler.nextTaskId ∧ a.Leased other held) := by
  unfold Leased at after
  rw [arrived.pending, arrived.active] at after
  by_cases same : other = a.scheduler.nextTaskId
  · rw [if_pos same, same, (fresh_leases mirrors).2] at after
    rcases after with here | here
    · exact .inl ⟨same, here⟩
    · cases here
  · rw [if_neg same] at after
    exact .inr ⟨same, after⟩

theorem arrived_mirrors (arrived : Arrived a b task lease) : Mirrors b where
  tracked := tracked_of_options arrived.options mirrors
  invariant := arrived.invariant
  waiting other := by
    rw [arrived.pending, taskState, arrived.tasks]
    by_cases same : other = a.scheduler.nextTaskId
    · rw [if_pos same, if_pos same, arrived.waiting]
      simp
    · rw [if_neg same, if_neg same]
      exact mirrors.waiting other
  running other := by
    rw [arrived.active, taskState, arrived.tasks]
    by_cases same : other = a.scheduler.nextTaskId
    · rw [if_pos same, same, (fresh_leases mirrors).2]
      simp [arrived.resting]
    · rw [if_neg same]
      exact mirrors.running other
  formed other held after := by
    rcases arrived_leased mirrors arrived after with ⟨_, here⟩ | ⟨_, before⟩
    · exact arrived.formed held here
    · exact mirrors.formed other held before
  unbound free other held after := by
    rw [arrived.options] at free
    rcases arrived_leased mirrors arrived after with ⟨_, here⟩ | ⟨_, before⟩
    · exact arrived.unbound free held here
    · exact mirrors.unbound free other held before

end ExecutionAdmissionState

end Glimmer.Control
