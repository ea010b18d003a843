import Glimmer.Core.QuotaLedger
import Glimmer.Lib.KeyedMap
import Mathlib.Algebra.Order.BigOperators.Group.List
import Mathlib.Algebra.Order.Ring.Nat

namespace Glimmer.Core

open Lib

-- Task ids and dispatch sequences are 64-bit counters that the code stops
-- before they wrap, so they are naturals checked against maxU64.
abbrev TaskId := Nat
abbrev TenantId := String
abbrev TimePoint := Int

def maxU64 : Nat := 18446744073709551615

def wrapSucc (n : Nat) : Nat := if n = maxU64 then 0 else n + 1

def wrapPred (n : Nat) : Nat := if n = 0 then maxU64 else n - 1

def saturatingAdd (value accumulator : Nat) : Nat :=
  if accumulator > maxU64 - value then maxU64 else accumulator + value

-- duration_cast truncates toward zero and negative spans count as none.
def elapsedMicroseconds (start stop : TimePoint) : Nat := ((stop - start).tdiv 1000).toNat

inductive TaskState where
  | queued | running | completed | cancelled | failed
deriving DecidableEq

inductive SchedulingPolicy where
  | weightedRoundRobin | deficitRoundRobin | fifo | priority
deriving DecidableEq

inductive SubmitStatus where
  | accepted | invalidTask | quotaExceeded | queueFull | tenantWeightMismatch | internalError
deriving DecidableEq

structure TaskSpec where
  tenantId : TenantId
  memoryBytes : MemoryBytes := 0
  weight : UInt32 := 1
  workUnits : UInt32 := 1
  priority : UInt32 := 0
deriving DecidableEq

structure SubmitResult where
  status : SubmitStatus
  taskId : TaskId := 0

structure SchedulerOptions where
  maxRunningTasks : Nat := 1
  maxQueuedTasks : Nat := 0
  priorityReservedSlots : Nat := 0
  priorityReservationThreshold : UInt32 := 1
  schedulingPolicy : SchedulingPolicy := .weightedRoundRobin

structure TaskSnapshot where
  taskId : TaskId
  tenantId : TenantId
  memoryBytes : MemoryBytes
  weight : UInt32
  workUnits : UInt32
  priority : UInt32
  state : TaskState
  dispatchSequence : Nat

structure TaskRecord where
  spec : TaskSpec
  state : TaskState
  reservation : Option QuotaReservation
  queuedAt : TimePoint
  runningAt : TimePoint := 0
  dispatchSequence : Nat := 0
deriving DecidableEq

def TaskRecord.submitted (spec : TaskSpec) (reservation : QuotaReservation) (now : TimePoint) : TaskRecord where
  spec := spec
  state := .queued
  reservation := some reservation
  queuedAt := now

structure TenantQueue where
  weight : UInt32
  taskIds : List TaskId
  deficit : UInt64 := 0

structure Scheduler where
  ledger : QuotaLedger
  nextTaskId : Nat := 1
  nextDispatchSequence : Nat := 1
  tasks : KeyedMap TaskId TaskRecord := ∅
  tenantQueues : KeyedMap TenantId TenantQueue := ∅
  tenantOrder : List TenantId := []
  tenantCursor : Nat := 0
  tenantBudget : UInt32 := 0
  policy : SchedulingPolicy
  maxRunningTasks : Nat
  maxQueuedTasks : Nat
  priorityReservedSlots : Nat
  priorityReservationThreshold : UInt32
  runningTaskIds : List TaskId := []
  queuedTaskCount : Nat := 0
  totalQueueWaitMicroseconds : Nat := 0
  maxQueueWaitMicroseconds : Nat := 0
  totalServiceTimeMicroseconds : Nat := 0
  maxServiceTimeMicroseconds : Nat := 0

-- The task's record if it is still queued, as every selection loop tests.
def queuedRecord (tasks : KeyedMap TaskId TaskRecord) (id : TaskId) : Option TaskRecord :=
  (tasks.lookup id).filter fun task => task.state = .queued

-- The loops pop or skip entries that are no longer queued; what remains is
-- the first queued id, its record, and the entries behind it.
def frontQueued (tasks : KeyedMap TaskId TaskRecord) : List TaskId → Option (TaskId × TaskRecord × List TaskId)
  | [] => none
  | id :: rest =>
    match queuedRecord tasks id with
    | some task => some (id, task, rest)
    | none => frontQueued tasks rest

def snapshot (id : TaskId) (task : TaskRecord) : TaskSnapshot where
  taskId := id
  tenantId := task.spec.tenantId
  memoryBytes := task.spec.memoryBytes
  weight := task.spec.weight
  workUnits := task.spec.workUnits
  priority := task.spec.priority
  state := task.state
  dispatchSequence := task.dispatchSequence

def earlierTask (tasks : KeyedMap TaskId TaskRecord) (selected : Option TaskId) (id : TaskId) : Option TaskId :=
  match queuedRecord tasks id, selected with
  | none, _ => selected
  | some _, none => some id
  | some _, some best => if id < best then some id else selected

def preferredTask (tasks : KeyedMap TaskId TaskRecord) (selected : Option TaskId × UInt32) (id : TaskId) :
    Option TaskId × UInt32 :=
  match queuedRecord tasks id, selected with
  | none, _ => selected
  | some task, (none, _) => (some id, task.spec.priority)
  | some task, (some best, bestPriority) =>
    if task.spec.priority < bestPriority ∨ (task.spec.priority = bestPriority ∧ id > best) then selected
    else (some id, task.spec.priority)

namespace Scheduler

def new (memoryLimit : MemoryBytes) (options : SchedulerOptions) : Scheduler where
  ledger := { limitBytes := memoryLimit }
  policy := options.schedulingPolicy
  maxRunningTasks := max options.maxRunningTasks 1
  maxQueuedTasks := options.maxQueuedTasks
  priorityReservedSlots := min options.priorityReservedSlots (max options.maxRunningTasks 1)
  priorityReservationThreshold := options.priorityReservationThreshold

variable (s : Scheduler) (id : TaskId) (task : TaskRecord) (now : TimePoint)

def setTask : Scheduler :=
  { s with tasks := s.tasks.insert id task }

def setQueue (tenant : TenantId) (queue : TenantQueue) : Scheduler :=
  { s with tenantQueues := s.tenantQueues.insert tenant queue }

def decrementQueued : Scheduler := { s with queuedTaskCount := wrapPred s.queuedTaskCount }

def find : Option TaskSnapshot := (s.tasks.lookup id).map (snapshot id)

def taskState : Option TaskState := (s.tasks.lookup id).map TaskRecord.state

def advanceTenant : Scheduler :=
  { s with
    tenantBudget := 0
    tenantCursor := if s.tenantOrder = [] then 0 else (s.tenantCursor + 1) % s.tenantOrder.length }

def removeTaskFromTenantQueue (tenant : TenantId) (id : TaskId) : Scheduler :=
  match s.tenantQueues.lookup tenant with
  | none => s
  | some queue => s.setQueue tenant { queue with taskIds := queue.taskIds.erase id }

-- Indexing tenant_order_ is unchecked in the source; an index out of range is
-- read here as a missing queue, and cursor_in_range rules it out.
def queueAt (cursor : Nat) : Option (TenantId × TenantQueue) :=
  match s.tenantOrder[cursor]? with
  | none => none
  | some tenant => (s.tenantQueues.lookup tenant).map fun queue => (tenant, queue)

-- Every id in some tenant's deque, in the map's iteration order.
def dequeIds : List TaskId := s.tenantQueues.entries.flatMap fun entry => entry.2.taskIds

def peekFifoTask : Option TaskId := s.dequeIds.foldl (earlierTask s.tasks) none

def peekPriorityTask : Option TaskId := (s.dequeIds.foldl (preferredTask s.tasks) (none, 0)).1

-- The peek's local budget copy never reaches its result and is left out.
def peekWeightedFrom (s : Scheduler) : Nat → Nat → Option TaskId
  | 0, _ => none
  | attempts + 1, start =>
    let cursor := if start ≥ s.tenantOrder.length then 0 else start
    let next := (cursor + 1) % s.tenantOrder.length
    match s.queueAt cursor with
    | none => peekWeightedFrom s attempts next
    | some (_, queue) =>
      match frontQueued s.tasks queue.taskIds with
      | some (id, _, _) => some id
      | none => peekWeightedFrom s attempts next

def peekWeightedRoundRobinTask : Option TaskId :=
  s.peekWeightedFrom s.tenantOrder.length s.tenantCursor

def peekDeficitFrom (s : Scheduler) : Nat → Nat → Option TaskId
  | 0, _ => none
  | attempts + 1, cursor =>
    let next := (cursor + 1) % s.tenantOrder.length
    match s.queueAt cursor with
    | none => peekDeficitFrom s attempts next
    | some (_, queue) =>
      match frontQueued s.tasks queue.taskIds with
      | none => peekDeficitFrom s attempts next
      | some (id, task, _) =>
        if queue.deficit ≥ task.spec.workUnits.toUInt64 then some id
        else peekDeficitFrom s attempts next

def peekDeficitRoundRobinTask : Option TaskId :=
  s.peekDeficitFrom s.tenantOrder.length s.tenantCursor

def peekNextTask : Option TaskId :=
  match s.policy with
  | .fifo => s.peekFifoTask
  | .weightedRoundRobin => s.peekWeightedRoundRobinTask
  | .deficitRoundRobin => s.peekDeficitRoundRobinTask
  | .priority => s.peekPriorityTask

def retreatRequested : Bool :=
  match s.tasks.lookup id with
  | none => false
  | some task =>
    if s.policy ≠ .priority ∨ task.dispatchSequence = maxU64 ∨ task.state ≠ .running then false
    else match s.peekPriorityTask with
      | none => false
      | some next => match s.tasks.lookup next with
        | none => false
        | some waiting => waiting.spec.priority > task.spec.priority

def lowRunning : Nat :=
  s.runningTaskIds.countP fun id =>
    match s.tasks.lookup id with
    | none => false
    | some task => task.spec.priority < s.priorityReservationThreshold

def priorityReservationBlocksLowDispatch : Bool :=
  if s.policy ≠ .priority ∨ s.priorityReservedSlots = 0 then false
  else if s.lowRunning < s.maxRunningTasks - s.priorityReservedSlots then false
  else match s.peekNextTask with
    | none => false
    | some next => match queuedRecord s.tasks next with
      | none => false
      | some task => task.spec.priority < s.priorityReservationThreshold

-- The FIFO and priority selections share this tail: the peeked task leaves its tenant's deque.
def takePeekedTask : Option TaskId → Option TaskId × Scheduler
  | none => (none, s)
  | some id =>
    match queuedRecord s.tasks id with
    | none => (none, s)
    | some task =>
      (some id, (s.removeTaskFromTenantQueue task.spec.tenantId id).decrementQueued)

def selectFifoTask : Option TaskId × Scheduler := s.takePeekedTask s.peekFifoTask

def selectPriorityTask : Option TaskId × Scheduler := s.takePeekedTask s.peekPriorityTask

-- The served tenant keeps the cursor while it has budget and work left.
def chargeTenant (tenant : TenantId) (queue : TenantQueue) (rest : List TaskId) : Scheduler :=
  let budget := (if s.tenantBudget = 0 then queue.weight else s.tenantBudget) - 1
  let popped := { s.setQueue tenant { queue with taskIds := rest } with tenantBudget := budget }
  if budget = 0 ∨ rest = [] then popped.advanceTenant else popped

def selectWeightedFrom : Nat → Scheduler → Option TaskId × Scheduler
  | 0, s => (none, s)
  | attempts + 1, start =>
    let s := if start.tenantCursor ≥ start.tenantOrder.length then
        { start with tenantCursor := 0, tenantBudget := 0 } else start
    match s.queueAt s.tenantCursor with
    | none => selectWeightedFrom attempts s.advanceTenant
    | some (tenant, queue) =>
      match frontQueued s.tasks queue.taskIds with
      | none => selectWeightedFrom attempts (s.setQueue tenant { queue with taskIds := [] }).advanceTenant
      | some (id, _, rest) => (some id, (s.chargeTenant tenant queue rest).decrementQueued)

def selectWeightedRoundRobinTask : Option TaskId × Scheduler :=
  selectWeightedFrom s.tenantOrder.length s

def accrueDeficit (deficit quantum : UInt64) : UInt64 :=
  if deficit > maxBytes - quantum then maxBytes else deficit + quantum

-- One visit either adds the tenant's quantum or serves one task; the cursor moves on in both cases.
def selectDeficitFrom : Nat → Scheduler → Option TaskId × Scheduler
  | 0, s => (none, s)
  | attempts + 1, start =>
    let s := if start.tenantCursor ≥ start.tenantOrder.length then { start with tenantCursor := 0 } else start
    match s.queueAt s.tenantCursor with
    | none => selectDeficitFrom attempts s.advanceTenant
    | some (tenant, queue) =>
      match frontQueued s.tasks queue.taskIds with
      | none => selectDeficitFrom attempts (s.setQueue tenant { queue with taskIds := [] }).advanceTenant
      | some (id, task, rest) =>
        let cost := task.spec.workUnits.toUInt64
        if queue.deficit < cost then
          selectDeficitFrom attempts (s.setQueue tenant { queue with
            taskIds := id :: rest
            deficit := accrueDeficit queue.deficit queue.weight.toUInt64 }).advanceTenant
        else
          (some id, (s.setQueue tenant { queue with
            taskIds := rest
            deficit := queue.deficit - cost }).advanceTenant.decrementQueued)

def selectDeficitRoundRobinTask : Option TaskId × Scheduler :=
  selectDeficitFrom s.tenantOrder.length s

def selectNextTask : Option TaskId × Scheduler :=
  match s.policy with
  | .fifo => s.selectFifoTask
  | .weightedRoundRobin => s.selectWeightedRoundRobinTask
  | .deficitRoundRobin => s.selectDeficitRoundRobinTask
  | .priority => s.selectPriorityTask

def noteQueueWait (wait : Nat) : Scheduler :=
  { s with
    totalQueueWaitMicroseconds := saturatingAdd wait s.totalQueueWaitMicroseconds
    maxQueueWaitMicroseconds := max s.maxQueueWaitMicroseconds wait }

def noteServiceTime (service : Nat) : Scheduler :=
  { s with
    totalServiceTimeMicroseconds := saturatingAdd service s.totalServiceTimeMicroseconds
    maxServiceTimeMicroseconds := max s.maxServiceTimeMicroseconds service }

def startTask (running : TaskRecord) (ledger : QuotaLedger) : Scheduler :=
  let next := { s with
    ledger := ledger
    runningTaskIds := s.runningTaskIds ++ [id]
    nextDispatchSequence := if s.nextDispatchSequence = maxU64 then maxU64 else s.nextDispatchSequence + 1 }
  (next.setTask id running).noteQueueWait (elapsedMicroseconds running.queuedAt running.runningAt)

-- A task queued with a nonzero dispatch sequence is a suspended continuation whose bytes were committed by its first
-- dispatch. The snapshot and the list of running tasks may find no memory; the task is then lost.
def dispatchSelectedTask (allocates : Bool := true) : Option TaskSnapshot × Scheduler :=
  match queuedRecord s.tasks id with
  | none => (none, s)
  | some task =>
    match task.reservation with
    | none => (none, s.setTask id { task with state := .failed })
    | some reservation =>
      if !allocates then
        let (kept, ledger) := if task.dispatchSequence ≠ 0 then (reservation, (s.ledger.release task.spec.memoryBytes).2)
          else reservation.cancel s.ledger
        (none, { s with ledger := ledger }.setTask id { task with state := .failed, reservation := some kept })
      else
      let committed : Bool × QuotaReservation × QuotaLedger :=
        if task.dispatchSequence ≠ 0 then (true, reservation, s.ledger) else reservation.commit s.ledger
      match committed with
      | (false, kept, ledger) =>
        let (dropped, ledger) := kept.cancel ledger
        (none, { s with ledger := ledger }.setTask id { task with state := .failed, reservation := some dropped })
      | (true, kept, ledger) =>
        let running := { task with
          state := .running
          reservation := some kept
          dispatchSequence := s.nextDispatchSequence
          runningAt := now }
        (some (snapshot id running), s.startTask id running ledger)

def dispatchNext (allocates : Bool := true) : Option TaskSnapshot × Scheduler :=
  if s.runningTaskIds.length ≥ s.maxRunningTasks then (none, s)
  else if s.priorityReservationBlocksLowDispatch then (none, s)
  else match s.selectNextTask with
    | (none, next) => (none, next)
    | (some id, next) => next.dispatchSelectedTask id now allocates

def dispatchTask (allocates : Bool := true) : Option TaskSnapshot × Scheduler :=
  if id = 0 then (none, s)
  else if s.runningTaskIds.length ≥ s.maxRunningTasks then (none, s)
  else if s.priorityReservationBlocksLowDispatch then (none, s)
  else match queuedRecord s.tasks id with
    | none => (none, s)
    | some _ =>
      match s.peekNextTask with
      | none =>
        -- A round that only accrues quantum is committed, so repeated claims make progress.
        if s.policy = .deficitRoundRobin then (none, s.selectDeficitRoundRobinTask.2) else (none, s)
      | some next =>
        if next ≠ id then (none, s)
        else match s.selectNextTask with
          | (none, after) => (none, after)
          | (some selected, after) =>
            if selected ≠ id then (none, after) else after.dispatchSelectedTask id now allocates

def enqueueTask (ledger : QuotaLedger) : Scheduler :=
  let tenant := task.spec.tenantId
  let known := s.tenantQueues.lookup tenant
  let queue := known.getD { weight := task.spec.weight, taskIds := [] }
  { s with
    ledger := ledger
    tenantOrder := if known.isSome then s.tenantOrder else s.tenantOrder ++ [tenant]
    tasks := s.tasks.insert s.nextTaskId task
    tenantQueues := s.tenantQueues.insert tenant { queue with taskIds := queue.taskIds ++ [s.nextTaskId] }
    nextTaskId := s.nextTaskId + 1
    queuedTaskCount := wrapSucc s.queuedTaskCount }

def submit (spec : TaskSpec) (now : TimePoint) : SubmitResult × Scheduler :=
  if spec.tenantId = "" ∨ spec.memoryBytes = 0 ∨ spec.weight = 0 ∨ spec.workUnits = 0 then
    ({ status := .invalidTask }, s)
  else if s.nextTaskId = maxU64 then ({ status := .internalError }, s)
  else if s.maxQueuedTasks ≠ 0 ∧ s.queuedTaskCount ≥ s.maxQueuedTasks then ({ status := .queueFull }, s)
  else
    if (s.tenantQueues.lookup spec.tenantId).any fun queue =>
      queue.weight ≠ spec.weight then ({ status := .tenantWeightMismatch }, s)
    else match s.ledger.tryReserve spec.memoryBytes with
      | (none, _) => ({ status := .quotaExceeded }, s)
      | (some reservation, ledger) =>
        -- A refused emplace destroys the record, which cancels its reservation.
        if (s.tasks.lookup s.nextTaskId).isSome then
          ({ status := .internalError }, { s with ledger := (reservation.cancel ledger).2 })
        else
          ({ status := .accepted, taskId := s.nextTaskId }, s.enqueueTask (.submitted spec reservation now) ledger)

def requeueTask (queue : TenantQueue) (service : Nat) : Scheduler :=
  let queued := (s.setQueue task.spec.tenantId { queue with taskIds := id :: queue.taskIds }).setTask id task
  { queued.noteServiceTime service with
    runningTaskIds := s.runningTaskIds.erase id
    queuedTaskCount := wrapSucc s.queuedTaskCount }

def suspend : Bool × Scheduler :=
  match s.tasks.lookup id with
  | none => (false, s)
  | some task =>
    if task.state ≠ .running ∨ task.dispatchSequence = maxU64 ∨ id ∉ s.runningTaskIds then (false, s)
    else match s.tenantQueues.lookup task.spec.tenantId with
      | none => (false, s)
      | some queue =>
        (true, s.requeueTask id { task with state := .queued, queuedAt := now } queue
          (elapsedMicroseconds task.runningAt now))

def retireTask (ledger : QuotaLedger) (service : Nat) : Scheduler :=
  { (s.setTask id task).noteServiceTime service with
    ledger := ledger
    runningTaskIds := s.runningTaskIds.erase id }

def finishRunningTask (terminal : TaskState) (now : TimePoint) : Bool × Scheduler :=
  match s.tasks.lookup id with
  | none => (false, s)
  | some task =>
    if task.state ≠ .running ∨ id ∉ s.runningTaskIds then (false, s)
    else match s.ledger.release task.spec.memoryBytes with
      | (false, ledger) => (false, { s with ledger := ledger })
      | (true, ledger) =>
        (true, s.retireTask id { task with state := terminal } ledger (elapsedMicroseconds task.runningAt now))

def complete : Bool × Scheduler := s.finishRunningTask id .completed now

def fail : Bool × Scheduler := s.finishRunningTask id .failed now

def dropQueuedTask (reservation : QuotaReservation)
    (ledger : QuotaLedger) : Scheduler :=
  let dropped := { s with ledger := ledger }.setTask id
    { task with state := .cancelled, reservation := some reservation }
  dropped.decrementQueued.removeTaskFromTenantQueue task.spec.tenantId id

def cancelQueuedTask : Bool × Scheduler :=
  match task.reservation with
  | none => (false, s)
  | some reservation =>
    if task.dispatchSequence ≠ 0 then
      match s.ledger.release task.spec.memoryBytes with
      | (false, ledger) => (false, { s with ledger := ledger })
      | (true, ledger) => (true, s.dropQueuedTask id task reservation ledger)
    else if ¬ reservation.active then (false, s)
    else match reservation.cancel s.ledger with
      | (kept, ledger) =>
        if kept.active then (false, { s with ledger := ledger }.setTask id { task with reservation := some kept })
        else (true, s.dropQueuedTask id task kept ledger)

def cancel : Bool × Scheduler :=
  match s.tasks.lookup id with
  | none => (false, s)
  | some task =>
    match task.state with
    | .queued => s.cancelQueuedTask id task
    | .running => s.finishRunningTask id .cancelled now
    | _ => (false, s)

def cancelQueued : Bool × Scheduler :=
  match queuedRecord s.tasks id with
  | none => (false, s)
  | some task => s.cancelQueuedTask id task

-- Erasing a record runs the reservation's destructor, which cancels it.
def forget : Bool × Scheduler :=
  match s.tasks.lookup id with
  | none => (false, s)
  | some task =>
    if task.state = .queued ∨ task.state = .running then (false, s)
    else (true, { s with
      tasks := s.tasks.erase id
      ledger := match task.reservation with
        | none => s.ledger
        | some reservation => (reservation.cancel s.ledger).2 })

def setPriorityReservedSlots (slots : Nat) : Bool × Scheduler :=
  if s.policy ≠ .priority then (false, s)
  else (true, { s with priorityReservedSlots := min slots s.maxRunningTasks })

end Scheduler

inductive SchedulerOp where
  | submit (spec : TaskSpec) (now : TimePoint)
  | dispatchNext (now : TimePoint)
  | dispatchTask (id : TaskId) (now : TimePoint)
  | suspend (id : TaskId) (now : TimePoint)
  | complete (id : TaskId) (now : TimePoint)
  | fail (id : TaskId) (now : TimePoint)
  | cancel (id : TaskId) (now : TimePoint)
  | cancelQueued (id : TaskId)
  | forget (id : TaskId)
  | setPriorityReservedSlots (slots : Nat)

-- Each public operation runs under the scheduler's mutex, so a concurrent history is a sequence of these steps.
def Scheduler.apply (s : Scheduler) : SchedulerOp → Scheduler
  | .submit spec now => (s.submit spec now).2
  | .dispatchNext now => (s.dispatchNext now).2
  | .dispatchTask id now => (s.dispatchTask id now).2
  | .suspend id now => (s.suspend id now).2
  | .complete id now => (s.complete id now).2
  | .fail id now => (s.fail id now).2
  | .cancel id now => (s.cancel id now).2
  | .cancelQueued id => (s.cancelQueued id).2
  | .forget id => (s.forget id).2
  | .setPriorityReservedSlots slots => (s.setPriorityReservedSlots slots).2

def Scheduler.run (s : Scheduler) (ops : List SchedulerOp) : Scheduler := ops.foldl Scheduler.apply s

theorem queued_record_iff (tasks : KeyedMap TaskId TaskRecord) (id : TaskId) (task : TaskRecord) :
    queuedRecord tasks id = some task ↔ tasks.lookup id = some task ∧ task.state = .queued := by
  simp [queuedRecord, Option.filter_eq_some_iff]

def queuedWeight (_ : TaskId) (task : TaskRecord) : Nat := if task.state = .queued then 1 else 0

-- Bytes that the ledger must hold as reserved for a record: it waits for its first dispatch.
def reservedWeight (_ : TaskId) (task : TaskRecord) : Nat :=
  if task.state = .queued ∧ task.dispatchSequence = 0 then task.spec.memoryBytes.toNat else 0

-- Bytes that the ledger must hold as allocated: the task runs, or it was suspended after a dispatch.
def allocatedWeight (_ : TaskId) (task : TaskRecord) : Nat :=
  if task.state = .running ∨ (task.state = .queued ∧ task.dispatchSequence ≠ 0) then task.spec.memoryBytes.toNat else 0

namespace Scheduler

def dequeOf (s : Scheduler) (tenant : TenantId) : Option (List TaskId) :=
  (s.tenantQueues.lookup tenant).map TenantQueue.taskIds

-- The redundancy between the record map, the deques, the running list and the manual counter.
structure Coherent (s : Scheduler) : Prop where
  cursorInRange : s.tenantCursor < max s.tenantOrder.length 1
  orderNodup : s.tenantOrder.Nodup
  orderKeys : ∀ tenant, tenant ∈ s.tenantOrder ↔ tenant ∈ s.tenantQueues
  placed : ∀ id task, s.tasks.lookup id = some task → task.state = .queued →
    ∃ ids, s.dequeOf task.spec.tenantId = some ids ∧ id ∈ ids
  owned : ∀ tenant ids id, s.dequeOf tenant = some ids → id ∈ ids →
    ∃ task, s.tasks.lookup id = some task ∧ task.state = .queued ∧ task.spec.tenantId = tenant
  dequeNodup : ∀ tenant ids, s.dequeOf tenant = some ids → ids.Nodup
  tenantKnown : ∀ id task, s.tasks.lookup id = some task → task.spec.tenantId ∈ s.tenantQueues
  runningNodup : s.runningTaskIds.Nodup
  runningExact : ∀ id, id ∈ s.runningTaskIds ↔ ∃ task, s.tasks.lookup id = some task ∧ task.state = .running
  runningBound : s.runningTaskIds.length ≤ s.maxRunningTasks
  counted : s.queuedTaskCount = KeyedMap.total queuedWeight s.tasks
  issued : ∀ (id : Nat) task, s.tasks.lookup id = some task → 0 < id ∧ id < s.nextTaskId
  sizeBound : KeyedMap.total (fun _ _ => 1) s.tasks < s.nextTaskId
  idBound : s.nextTaskId ≤ maxU64

def ReservationFits (task : TaskRecord) : Prop :=
  if task.state = .queued ∧ task.dispatchSequence = 0 then task.reservation = some ⟨true, task.spec.memoryBytes⟩
  else ∃ reservation, task.reservation = some reservation ∧ reservation.active = false

structure QuotaExact (s : Scheduler) : Prop where
  reserved : s.ledger.reservedBytes.toNat = KeyedMap.total reservedWeight s.tasks
  allocated : s.ledger.allocatedBytes.toNat = KeyedMap.total allocatedWeight s.tasks
  bounded : s.ledger.Bounded
  reservations : ∀ id task, s.tasks.lookup id = some task → ReservationFits task
  dispatched : ∀ id task, s.tasks.lookup id = some task → task.state = .running → task.dispatchSequence ≠ 0
  sequence : 0 < s.nextDispatchSequence

structure Invariant (s : Scheduler) : Prop where
  coherent : Coherent s
  quota : QuotaExact s

structure SameConfiguration (s t : Scheduler) : Prop where
  policy : t.policy = s.policy
  maxRunning : t.maxRunningTasks = s.maxRunningTasks
  maxQueued : t.maxQueuedTasks = s.maxQueuedTasks
  threshold : t.priorityReservationThreshold = s.priorityReservationThreshold

theorem SameConfiguration.refl (s : Scheduler) : SameConfiguration s s := ⟨rfl, rfl, rfl, rfl⟩

theorem SameConfiguration.trans {s t u : Scheduler} (first : SameConfiguration s t) (second : SameConfiguration t u) :
    SameConfiguration s u :=
  ⟨second.policy.trans first.policy, second.maxRunning.trans first.maxRunning,
    second.maxQueued.trans first.maxQueued, second.threshold.trans first.threshold⟩

theorem mem_queues_iff (s : Scheduler) (tenant : TenantId) :
    tenant ∈ s.tenantQueues ↔ ∃ ids, s.dequeOf tenant = some ids := by
  rw [← AList.lookup_isSome, Option.isSome_iff_exists]
  constructor
  · rintro ⟨queue, found⟩
    exact ⟨queue.taskIds, by simp [dequeOf, found]⟩
  · rintro ⟨ids, found⟩
    obtain ⟨queue, lookup, _⟩ := Option.map_eq_some_iff.mp found
    exact ⟨queue, lookup⟩

theorem deque_of_set_queue {s : Scheduler} {tenant query : TenantId} {queue : TenantQueue} :
    (s.setQueue tenant queue).dequeOf query = if query = tenant then some queue.taskIds else s.dequeOf query := by
  simp only [dequeOf, setQueue, KeyedMap.lookup_insert_cases]
  split <;> rfl

end Scheduler

end Glimmer.Core
