import Glimmer.Core.SchedulerRuns

namespace Glimmer.Control

open Lib Glimmer.Core

abbrev ThreadId := Nat

structure LaunchGateOptions where
  maxConcurrentLaunches : Nat := 1
  priorityReservedSlots : Nat := 0
  priorityReservationThreshold : UInt32 := 1
  schedulingPolicy : SchedulingPolicy := .weightedRoundRobin
  tenantId : TenantId := "default"
  tenantWeight : UInt32 := 1
  taskPriority : UInt32 := 0

-- A thread inside acquire that released the lock to wait for its task; the
-- wait is bounded if the caller gave a positive timeout.
structure Waiter where
  taskId : TaskId
  bounded : Bool

-- The local mode of the gate, and the threads blocked on its condition.
structure LaunchGate where
  scheduler : Scheduler
  tenantId : TenantId
  tenantWeight : UInt32
  taskPriority : UInt32
  waiting : KeyedMap ThreadId Waiter := ∅

inductive AcquireResult where
  | refused | granted (id : TaskId) | expired | waiting
deriving DecidableEq

-- The loop of dispatch_next calls; the clock gives the reading of each call.
-- pump_locked_settled shows that the fuel of pump covers every iteration.
def pumpLocked (clock : Nat → TimePoint) : Nat → Scheduler → Scheduler
  | 0, s => s
  | rounds + 1, s =>
    match s.dispatchNext (clock rounds) with
    | (none, next) => next
    | (some _, next) => pumpLocked clock rounds next

def pump (clock : Nat → TimePoint) (s : Scheduler) : Scheduler := pumpLocked clock (s.maxRunningTasks + 1) s

namespace LaunchGate

def new (options : LaunchGateOptions) : LaunchGate where
  scheduler := .new maxBytes {
    maxRunningTasks := options.maxConcurrentLaunches
    priorityReservedSlots := options.priorityReservedSlots
    priorityReservationThreshold := options.priorityReservationThreshold
    schedulingPolicy := options.schedulingPolicy }
  tenantId := if options.tenantId = "" then "default" else options.tenantId
  tenantWeight := if options.tenantWeight = 0 then 1 else options.tenantWeight
  taskPriority := options.taskPriority

variable (g : LaunchGate) (id : TaskId) (now : TimePoint) (clock : Nat → TimePoint)

def launchSpec : TaskSpec where
  tenantId := g.tenantId
  memoryBytes := 1
  weight := g.tenantWeight
  priority := g.taskPriority

def admitted : Bool := g.scheduler.taskState id ≠ some .queued

-- The end of acquire, once the wait is over: a task that is not running is withdrawn and the freed capacity is pumped.
def settle : AcquireResult × LaunchGate :=
  if g.scheduler.taskState id = some .running then (.granted id, g)
  else
    let cancelled := if g.scheduler.taskState id = some .queued then (g.scheduler.cancelQueued id).2 else g.scheduler
    (.expired, { g with scheduler := pump clock (cancelled.forget id).2 })

-- The critical section in which acquire starts: up to the result, or to the point where the wait releases the lock.
def acquire (thread : ThreadId) (bounded : Bool) (now : TimePoint) (clock : Nat → TimePoint) :
    AcquireResult × LaunchGate :=
  match g.scheduler.submit g.launchSpec now with
  | (submission, next) =>
    if submission.status ≠ .accepted then (.refused, { g with scheduler := next })
    else
      let pumped := { g with scheduler := pump clock next }
      if pumped.admitted submission.taskId then pumped.settle submission.taskId clock
      else (.waiting, { pumped with waiting := pumped.waiting.insert thread ⟨submission.taskId, bounded⟩ })

def finishLocked (finish : Scheduler → TaskId → TimePoint → Bool × Scheduler)
    (now : TimePoint) (clock : Nat → TimePoint) : Bool × LaunchGate :=
  match finish g.scheduler id now with
  | (false, next) => (false, { g with scheduler := next })
  | (true, next) => (true, { g with scheduler := pump clock (next.forget id).2 })

def complete : Bool × LaunchGate :=
  g.finishLocked id Scheduler.complete now clock

def fail : Bool × LaunchGate :=
  g.finishLocked id Scheduler.fail now clock

-- A waiter that holds the lock again: it leaves if its task is no longer queued, or if its timeout has passed.
def wake (thread : ThreadId) (timedOut : Bool) (clock : Nat → TimePoint) : AcquireResult × LaunchGate :=
  match g.waiting.lookup thread with
  | none => (.refused, g)
  | some waiter =>
    if g.admitted waiter.taskId ∨ (timedOut ∧ waiter.bounded) then
      { g with waiting := g.waiting.erase thread }.settle waiter.taskId clock
    else (.waiting, g)

end LaunchGate

-- One critical section of some thread; between two of them the lock is free.
inductive GateOp where
  | acquire (thread : ThreadId) (bounded : Bool) (now : TimePoint) (clock : Nat → TimePoint)
  | wake (thread : ThreadId) (timedOut : Bool) (clock : Nat → TimePoint)
  | complete (id : TaskId) (now : TimePoint) (clock : Nat → TimePoint)
  | fail (id : TaskId) (now : TimePoint) (clock : Nat → TimePoint)

def LaunchGate.apply (g : LaunchGate) : GateOp → LaunchGate
  | .acquire thread bounded now clock =>
    if (g.waiting.lookup thread).isSome then g else (g.acquire thread bounded now clock).2
  | .wake thread timedOut clock => (g.wake thread timedOut clock).2
  | .complete id now clock => (g.complete id now clock).2
  | .fail id now clock => (g.fail id now clock).2

def LaunchGate.run (g : LaunchGate) (ops : List GateOp) : LaunchGate := ops.foldl LaunchGate.apply g

end Glimmer.Control
