import Glimmer.Control.ExecutionArrivals

namespace Glimmer.Control

open Lib Glimmer.Core Scheduler ExecutionLease

variable {task : TaskRecord}

namespace ExecutionAdmissionState

variable {a b : ExecutionAdmissionState} {op : ExecutionOp} {id : TaskId}

structure Natured (a : ExecutionAdmissionState) (id : TaskId) (lease : ExecutionLease) : Prop where
  issued : id < a.scheduler.nextTaskId
  leases : ∀ held, a.Leased id held → lease.Alike held

variable {lease : ExecutionLease} {kind : ExecutionKind}

theorem leased_natured (mirrors : Mirrors a) (held : a.Leased id lease) : Natured a id lease := by
  obtain ⟨task, found, _⟩ := leased_task mirrors held
  refine ⟨(mirrors.invariant.coherent.issued id task found).2, fun other again => ?_⟩
  rw [leased_unique mirrors again held]
  exact alike_refl lease

theorem move_natured (mirrors : Mirrors a) (move : Move op a b) (natured : Natured a id lease) :
    Natured b id lease := by
  cases move with
  | still same | erased _ same =>
    refine ⟨same.nextId ▸ natured.issued, fun held after => natured.leases held ?_⟩
    rwa [Leased, same.pending, same.active] at after
  | turned other task next before renewed turn lawful =>
    refine ⟨turn.nextId ▸ natured.issued, fun held after => ?_⟩
    rcases turned_leased turn after with ⟨rfl, rfl⟩ | ⟨_, earlier⟩
    · exact alike_trans (natured.leases before (turned_held turn)) turn.alike
    · exact natured.leases held earlier
  | arrived task fresh new kindred own =>
    have issued := natured.issued
    refine ⟨?_, fun held after => ?_⟩
    · rw [new.nextId]
      exact Nat.lt_succ_of_lt issued
    · rcases arrived_leased mirrors new after with ⟨same, _⟩ | ⟨_, earlier⟩
      · exact absurd same (Nat.ne_of_lt issued)
      · exact natured.leases held earlier

theorem moves_natured (mirrors : Mirrors a) (moves : Moves op a b) (natured : Natured a id lease) :
    Natured b id lease := by
  induction moves with
  | refl => exact natured
  | tail earlier last ih => exact move_natured (moves_mirrors earlier mirrors) last ih

structure Retained (a : ExecutionAdmissionState) (id : TaskId) (task : TaskRecord) (lease : ExecutionLease) : Prop where
  found : a.scheduler.tasks.lookup id = some task
  running : task.state = .running
  held : ∃ renewed, a.activeLeases.lookup id = some renewed ∧ lease.Alike renewed ∧ renewed.owner = lease.owner

def Reports (op : ExecutionOp) (execution : TaskExecutionIdentity) (owner : TaskPeer) : Prop :=
  op.reports = true ∧ op.execution = some execution ∧ op.peer = some owner

theorem report_shape (reports : op.reports = true) :
    ∃ execution peer, op.execution = some execution ∧ op.peer = some peer := by
  cases op <;> simp_all [ExecutionOp.reports, ExecutionOp.execution, ExecutionOp.peer]

theorem move_retained (mirrors : Mirrors a) (bound : a.options.bindLeasesToProcess = true)
    (move : Move op a b) (kin : lease.kind ≠ .legacy) (silent : ¬ Reports op ⟨id, task.dispatchSequence⟩ lease.owner)
    (retained : Retained a id task lease) : Retained b id task lease := by
  obtain ⟨found, running, renewed, held, alike, owner⟩ := retained
  cases move with
  | still same => exact ⟨same.tasks ▸ found, running, renewed, same.active ▸ held, alike, owner⟩
  | turned other record next before again turn lawful =>
    by_cases same : other = id
    · subst same
      obtain rfl : record = task := Option.some.inj (turn.found.symm.trans found)
      obtain rfl : before = renewed := leased_unique mirrors (turned_held turn) (.inr held)
      have other : before.kind ≠ .legacy := by
        rw [alike_kind alike]
        exact kin
      rcases lawful.reported running other with rfl | reports
      · refine ⟨by rw [turn.tasks, if_pos rfl], running, again, ?_, alike_trans alike turn.alike,
          (turn.owner bound).trans owner⟩
        rw [turn.active, if_pos rfl, slot, if_pos running]
      · obtain ⟨execution, peer, named, caller⟩ := report_shape reports
        refine absurd ⟨reports, ?_, ?_⟩ silent
        · rw [named, lawful.execution execution named]
        · rw [caller, ← owner, lawful.owner bound peer caller]
    · have apart : id ≠ other := fun eq => same eq.symm
      refine ⟨by rw [turn.tasks, if_neg apart]; exact found, running, renewed, ?_, alike, owner⟩
      rw [turn.active, if_neg apart]
      exact held
  | arrived record fresh new kindred own =>
    have apart : id ≠ a.scheduler.nextTaskId := Nat.ne_of_lt (mirrors.invariant.coherent.issued id task found).2
    refine ⟨by rw [new.tasks, if_neg apart]; exact found, running, renewed, ?_, alike, owner⟩
    rw [new.active]
    exact held
  | erased other gone asked =>
    have apart : id ≠ other := by
      rintro rfl
      exact gone.idle.2 (by rw [taskState, found, Option.map_some, running])
    exact ⟨by rw [gone.tasks, if_neg apart]; exact found, running, renewed, gone.active ▸ held, alike, owner⟩

theorem move_options (move : Move op a b) : b.options = a.options := by
  cases move with
  | still change | turned _ _ _ _ _ change | arrived _ _ change | erased _ change => exact change.options

theorem moves_options (moves : Moves op a b) : b.options = a.options := by
  induction moves with
  | refl => rfl
  | tail _ last ih => exact (move_options last).trans ih

def Unchanged (a b : ExecutionAdmissionState) (id : TaskId) : Prop :=
  b.scheduler.tasks.lookup id = a.scheduler.tasks.lookup id ∧ b.pendingLeases.lookup id = a.pendingLeases.lookup id ∧
    b.activeLeases.lookup id = a.activeLeases.lookup id

-- The task has no lease, or one of another kind, or the operation names another dispatch.
def Unconcerned (op : ExecutionOp) (a : ExecutionAdmissionState) (id : TaskId) : Prop :=
  ∀ task lease, a.scheduler.tasks.lookup id = some task → a.Leased id lease → op.kind = some lease.kind →
    ∃ execution, op.execution = some execution ∧ execution ≠ ⟨id, task.dispatchSequence⟩

theorem move_issued (move : Move op a b) : a.scheduler.nextTaskId ≤ b.scheduler.nextTaskId := by
  cases move with
  | still change | turned _ _ _ _ _ change | erased _ change => exact change.nextId.ge
  | arrived _ _ new => exact new.nextId ▸ Nat.le_succ _

theorem moves_issued (moves : Moves op a b) : a.scheduler.nextTaskId ≤ b.scheduler.nextTaskId := by
  induction moves with
  | refl => exact Nat.le_refl _
  | tail _ last ih => exact ih.trans (move_issued last)

-- A task that exists stays as it is if the operation may turn none of its leases.
theorem moves_spared (moves : Moves op a b) (issued : id < a.scheduler.nextTaskId) (kept : op ≠ .forgetTerminal id)
    (spared : ∀ c task next lease, c.options = a.options → a.scheduler.tasks.lookup id = some task → a.Leased id lease →
      ¬ Lawful op c id task next lease) : Unchanged a b id := by
  induction moves with
  | refl => exact ⟨rfl, rfl, rfl⟩
  | @tail c _ earlier last ih =>
    obtain ⟨records, pending, active⟩ := ih
    rw [Unchanged, ← records, ← pending, ← active]
    cases last with
    | still same => exact ⟨by rw [same.tasks], by rw [same.pending], by rw [same.active]⟩
    | turned other task next lease renewed turn lawful =>
      have apart : id ≠ other := by
        rintro rfl
        have held := turned_held turn
        rw [Leased, pending, active] at held
        exact spared c task next lease (moves_options earlier) (records.symm.trans turn.found) held lawful
      exact ⟨by rw [turn.tasks, if_neg apart], by rw [turn.pending, if_neg apart], by rw [turn.active, if_neg apart]⟩
    | arrived task lease new =>
      have apart : id ≠ c.scheduler.nextTaskId := Nat.ne_of_lt (Nat.lt_of_lt_of_le issued (moves_issued earlier))
      exact ⟨by rw [new.tasks, if_neg apart], by rw [new.pending, if_neg apart], new.active id⟩
    | erased other gone asked =>
      have apart : id ≠ other := by
        rintro rfl
        exact kept asked
      exact ⟨by rw [gone.tasks, if_neg apart], by rw [gone.pending], by rw [gone.active]⟩

section
variable (protocol : op.kind = some kind) (moves : Moves op a b) (issued : id < a.scheduler.nextTaskId)
include protocol moves issued

theorem moves_unchanged (unconcerned : Unconcerned op a id) : Unchanged a b id := by
  refine moves_spared moves issued (by rintro rfl; cases protocol) fun c task next lease _ found held lawful => ?_
  obtain ⟨execution, named, foreign⟩ := unconcerned task lease found held (by rw [lawful.kind kind protocol, protocol])
  exact foreign (lawful.execution execution named)

end

theorem claim_native_granted (mirrors : Mirrors a) {claimant : TaskPeer} {allocated : Bool} {now : TimePoint}
    {grant : NativeEpochGrant} (granted : (a.claimNativeEpoch id claimant allocated now).1 = some grant) :
    ∃ lease, (a.claimNativeEpoch id claimant allocated now).2.activeLeases.lookup id = some lease ∧
      lease.nativeEpoch = some grant.extent ∧ grant.execution.taskId = id := by
  unfold claimNativeEpoch at granted ⊢
  split at granted
  · cases granted
  next vacant =>
  rw [if_neg vacant]
  split at granted
  · cases granted
  next waits =>
  rw [if_neg waits]
  obtain ⟨_, _, _, matched⟩ := native_pending waits
  rcases dispatch_lease_cases mirrors (fun _ => matched) allocated now with ⟨b, result, _⟩ |
      ⟨_, _, _, b, result, _⟩ | ⟨task, next, lease, renewed, b, result, _, running, _, turned⟩
  · simp only [result] at granted
    cases granted
  · simp only [result] at granted
    cases granted
  have active : b.activeLeases.lookup id = some renewed := by
    rw [turned.active, if_pos rfl, slot, if_pos running]
  simp only [result, active] at granted ⊢
  cases epoch : renewed.nativeEpoch with
  | none =>
    simp only [epoch] at granted
    cases granted
  | some extent =>
    simp only [epoch] at granted ⊢
    cases granted
    refine ⟨{ renewed with acceptanceDeadlineNanoseconds := acceptanceDeadline extent now }, ?_, epoch, rfl⟩
    rw [KeyedMap.lookup_insert_cases, if_pos rfl, epoch]

end ExecutionAdmissionState

namespace AuditedExecution

open ExecutionAdmissionState

-- The operations, section by section, with the clock and every allocation and registration as they went.
def run (s : AuditedExecution) (events : List Outside) : AuditedExecution :=
  events.foldl (fun state event => outside event state) s

def opened (limit : MemoryBytes) (settings : SchedulerOptions) (options : ExecutionOptions) : AuditedExecution :=
  { service := { options := options, scheduler := .new limit settings } }

variable {s : AuditedExecution}

theorem run_append (s : AuditedExecution) (first rest : List Outside) : s.run (first ++ rest) = (s.run first).run rest :=
  List.foldl_append

theorem opened_mirrors {limit : MemoryBytes} {settings : SchedulerOptions} {options : ExecutionOptions}
    (tracked : (opened limit settings options).service.tracksLeases = true) :
    Mirrors (opened limit settings options).service where
  tracked := tracked
  invariant := new_invariant limit settings
  waiting id := by simp [opened, new, taskState]
  running id := by simp [opened, new, taskState]
  formed id lease held := by
    rcases held with held | held <;> cases held
  unbound _ id lease held := by
    rcases held with held | held <;> cases held

theorem run_mirrors (mirrors : Mirrors s.service) (events : List Outside) : Mirrors (s.run events).service := by
  induction events generalizing s with
  | nil => exact mirrors
  | cons event rest ih => exact ih (moves_mirrors (serve_moves mirrors event.op event.input) mirrors)

variable {id : TaskId} {lease : ExecutionLease}

theorem run_natured (mirrors : Mirrors s.service)
    (natured : Natured s.service id lease) (events : List Outside) : Natured (s.run events).service id lease := by
  induction events generalizing s with
  | nil => exact natured
  | cons event rest ih =>
    have moves := serve_moves mirrors event.op event.input
    exact ih (moves_mirrors moves mirrors) (moves_natured mirrors moves natured)

theorem run_retained (mirrors : Mirrors s.service) (bound : s.service.options.bindLeasesToProcess = true)
    (kin : lease.kind ≠ .legacy) (retained : Retained s.service id task lease) {events : List Outside}
    (silent : ∀ event ∈ events, ¬ Reports event.op ⟨id, task.dispatchSequence⟩ lease.owner) :
    Retained (s.run events).service id task lease := by
  induction events generalizing s with
  | nil => exact retained
  | cons event rest ih =>
    have moves := serve_moves mirrors event.op event.input
    have stays : ∀ after, Moves event.op s.service after → Retained after id task lease := by
      intro after moves
      induction moves with
      | refl => exact retained
      | tail earlier last kept =>
        exact move_retained (moves_mirrors earlier mirrors) ((moves_options earlier).symm ▸ bound) last kin
          (silent event List.mem_cons_self) kept
    exact ih (moves_mirrors moves mirrors) ((moves_options moves).symm ▸ bound) (stays _ moves)
      (fun later mem => silent later (List.mem_cons_of_mem _ mem))

theorem run_options (s : AuditedExecution) (mirrors : Mirrors s.service) (events : List Outside) :
    (s.run events).service.options = s.service.options := by
  induction events generalizing s with
  | nil => rfl
  | cons event rest ih =>
    have moves := serve_moves mirrors event.op event.input
    exact (ih _ (moves_mirrors moves mirrors)).trans (moves_options moves)

-- A call whose dispatch, if it makes one, may find no memory.
structure Attempt extends Outside where
  allocates : Bool := true

def attempt (s : AuditedExecution) (event : Attempt) : AuditedExecution :=
  let i := event.input
  match event.op with
  | .claimNext peer => { s with service := (s.service.claimNext peer i.allocated i.now event.allocates).2 }
  | .claim id peer => { s with service := (s.service.claim id peer i.allocated i.now event.allocates).2 }
  | .waitAttempt id peer => { s with service := (s.service.waitAttempt id peer i.allocated i.now event.allocates).2 }
  | .claimExecution id peer =>
    { s with service := (s.service.claimExecution id peer i.allocated i.now event.allocates).2 }
  | .claimNativeEpoch id peer =>
    { s with service := (s.service.claimNativeEpoch id peer i.allocated i.now event.allocates).2 }
  | _ => outside event.toOutside s

def attempts (s : AuditedExecution) (events : List Attempt) : AuditedExecution := events.foldl attempt s

theorem attempts_run {events : List Attempt} (allocates : ∀ event ∈ events, event.allocates = true) :
    s.attempts events = s.run (events.map Attempt.toOutside) := by
  induction events generalizing s with
  | nil => rfl
  | cons event rest ih =>
    have same : s.attempt event = outside event.toOutside s := by
      obtain ⟨⟨op, input⟩, memory⟩ := event
      obtain rfl : memory = true := allocates _ List.mem_cons_self
      cases op <;> rfl
    rw [attempts, List.foldl_cons, same]
    exact ih fun event listed => allocates event (List.mem_cons_of_mem _ listed)

def launchingProcess : TaskPeerIdentity := { pid := 10, uid := 1, startTimeTicks := 100 }

def overdueHistory : List Outside :=
  [⟨.submitCooperative { tenantId := "tenant", memoryBytes := 64 } (some launchingProcess), { now := 1 }⟩,
    ⟨.claimExecution 1 (some launchingProcess), { now := 2 }⟩, ⟨.reapExpired [] [], { now := 1000000 }⟩]

def bindingOptions : ExecutionOptions := { leaseTimeout := 5, bindLeasesToProcess := true }

theorem running_work_outlasts_reaping (limit : MemoryBytes) (settings : SchedulerOptions) (options : ExecutionOptions)
    (bound : options.bindLeasesToProcess = true) (events : List Outside) :
    let before := (opened limit settings options).run events
    (∀ id task lease later, before.service.scheduler.tasks.lookup id = some task → task.state = .running →
        before.service.activeLeases.lookup id = some lease → lease.kind ≠ .legacy →
        (∀ event ∈ later, ¬ Reports event.op ⟨id, task.dispatchSequence⟩ lease.owner) →
        let after := (before.run later).service
        after.scheduler.tasks.lookup id = some task ∧ id ∈ after.scheduler.runningTaskIds ∧ id ∈ after.activeLeases ∧
          after.scheduler.ledger.allocatedBytes.toNat = KeyedMap.total allocatedWeight after.scheduler.tasks ∧
          allocatedWeight id task = task.spec.memoryBytes.toNat) ∧
      (∀ pendingOrder activeOrder execution owner, ¬ Reports (.reapExpired pendingOrder activeOrder) execution owner) ∧
      (∀ op input id kind, op.kind = some kind → id < before.service.scheduler.nextTaskId →
        ¬ Unchanged before.service (serve op input before).2.service id →
        ∃ task lease, before.service.scheduler.tasks.lookup id = some task ∧ before.service.Leased id lease ∧
          lease.kind = kind ∧ ∀ execution, op.execution = some execution → execution = ⟨id, task.dispatchSequence⟩) ∧
      ∀ first rest id claimant claimInput grant, events = first ++ ⟨.claimNativeEpoch id claimant, claimInput⟩ :: rest →
        (((opened limit settings options).run first).service.claimNativeEpoch id claimant claimInput.allocated
          claimInput.now).1 = some grant →
        ∀ calls hasFailed peer now, (before.service.finishNativeEpoch grant.execution calls hasFailed peer now).1 = true →
          calls ≤ grant.extent.maxCalls := by
  have tracked : (opened limit settings options).service.tracksLeases = true := by
    simp [opened, tracksLeases, bound]
  have fresh := opened_mirrors tracked
  have mirrors := run_mirrors fresh events
  have binding : ((opened limit settings options).run events).service.options.bindLeasesToProcess = true := by
    rw [run_options _ fresh]
    exact bound
  refine ⟨fun id task lease later found running held kin silent => ?_, fun _ _ _ _ reports => ?_,
    fun op input id kind protocol issued changed => ?_, fun first rest id claimant claimInput grant split granted => ?_⟩
  · have retained := run_retained mirrors binding kin
      ⟨found, running, lease, held, ExecutionLease.alike_refl lease, rfl⟩ silent
    have later_mirrors := run_mirrors mirrors later
    obtain ⟨renewed, active, _⟩ := retained.held
    refine ⟨retained.found, ?_, ?_, later_mirrors.invariant.quota.allocated, ?_⟩
    · exact (later_mirrors.invariant.coherent.runningExact id).mpr ⟨task, retained.found, running⟩
    · exact AList.lookup_isSome.mp (by rw [active]; rfl)
    · simp [allocatedWeight, running]
  · exact absurd reports.1 (by simp [ExecutionOp.reports])
  · by_contra nobody
    refine changed (moves_unchanged protocol (serve_moves mirrors op input) issued (fun task lease found held kin => ?_))
    by_contra every
    refine nobody ⟨task, lease, found, held, ?_, fun execution named => ?_⟩
    · rw [protocol] at kin
      exact (Option.some.inj kin).symm
    · by_contra foreign
      exact every ⟨execution, named, foreign⟩
  · intro calls hasFailed peer now ended
    have early := run_mirrors fresh first
    obtain ⟨lease, active, epoch, named⟩ := claim_native_granted early granted
    have moves := serve_moves early (.claimNativeEpoch id claimant) claimInput
    have natured := run_natured (moves_mirrors moves early)
      (leased_natured (moves_mirrors moves early) (.inr active)) rest
    unfold finishNativeEpoch at ended
    split at ended
    · cases ended
    next held holds =>
    obtain ⟨_, extent, _, _, _, running, current, _⟩ := held_native_spec holds
    split at ended
    · cases ended
    next within =>
    rw [current] at within
    rw [named] at running
    have whole : (opened limit settings options).run events =
        (outside ⟨.claimNativeEpoch id claimant, claimInput⟩ ((opened limit settings options).run first)).run rest := by
      rw [split, run_append]
      rfl
    rw [whole] at running
    have alike := natured.leases held (.inr running)
    have same : extent = grant.extent := Option.some.inj (current.symm.trans (alike.2.1.trans epoch))
    exact same ▸ UInt32.not_lt.mp within

theorem overdue_task_keeps_running : let before := (opened 1024 {} bindingOptions).run (overdueHistory.take 2)
    let after := (before.run [⟨.reapExpired [] [], { now := 1000000 }⟩]).service
    before.service.scheduler.taskState 1 = some .running ∧ 1 ∈ after.scheduler.runningTaskIds := by
  refine ⟨by decide +kernel, ?_⟩
  have survives := (running_work_outlasts_reaping 1024 {} bindingOptions rfl (overdueHistory.take 2)).1 1
  cases found : ((opened 1024 {} bindingOptions).run (overdueHistory.take 2)).service.scheduler.tasks.lookup 1 with
  | none => exact absurd found (by decide +kernel)
  | some task =>
    cases held : ((opened 1024 {} bindingOptions).run (overdueHistory.take 2)).service.activeLeases.lookup 1 with
    | none => exact absurd held (by decide +kernel)
    | some lease =>
      have facts : (((opened 1024 {} bindingOptions).run (overdueHistory.take 2)).service.scheduler.tasks.lookup 1).map
            TaskRecord.state = some .running ∧
          (((opened 1024 {} bindingOptions).run (overdueHistory.take 2)).service.activeLeases.lookup 1).map
            ExecutionLease.kind = some .cooperative := by decide +kernel
      rw [found, held] at facts
      refine (survives task lease [⟨.reapExpired [] [], { now := 1000000 }⟩] found
        (Option.some.inj facts.1) held ?_ ?_).2.1
      · rw [Option.some.inj facts.2]
        decide
      · rintro event mem reports
        rw [List.mem_singleton.mp mem] at reports
        exact absurd reports.1 (by decide)

end AuditedExecution

end Glimmer.Control
