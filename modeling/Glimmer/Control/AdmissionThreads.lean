import Glimmer.Control.Admission
import Glimmer.Control.LaunchGate
import Glimmer.Lib.GuardedWait

namespace Glimmer.Control

open Lib Glimmer.Core

structure WaitCall where
  taskId : TaskId
  deadline : Option TimePoint
  peer : TaskPeer
deriving DecidableEq

abbrev AdmissionThreads := Threads Admission WaitCall ThreadId

-- Every critical section of either mutex is one step; a step of a thread that is elsewhere in its call does nothing.
-- The clock readings of one section are one reading.
inductive AdmissionStep where
  | submit (thread : ThreadId) (request : TaskSpec) (kind : AdmissionKind) (registrar : Option (TaskId → Bool))
      (peer : TaskPeer) (allocated : Bool) (now : TimePoint)
  | cancel (thread : ThreadId) (id : TaskId) (now : TimePoint)
  | cancelQueued (thread : ThreadId) (id : TaskId) (peer : TaskPeer)
  | claimNext (thread : ThreadId) (peer : TaskPeer) (allocated : Bool) (now : TimePoint)
  | claim (thread : ThreadId) (id : TaskId) (peer : TaskPeer) (allocated : Bool) (now : TimePoint)
  | heartbeat (thread : ThreadId) (id : TaskId) (peer : TaskPeer) (now : TimePoint)
  | complete (thread : ThreadId) (id : TaskId) (peer : TaskPeer) (now : TimePoint)
  | fail (thread : ThreadId) (id : TaskId) (peer : TaskPeer) (now : TimePoint)
  | reapExpired (thread : ThreadId) (pendingOrder activeOrder : List TaskId) (now : TimePoint)
  | waitClaim (thread : ThreadId) (id : TaskId) (timeout : Int) (peer : TaskPeer) (now : TimePoint)
  | attempt (thread : ThreadId) (allocated : Bool) (now after : TimePoint)
  | recheck (thread : ThreadId)
  | wake (thread : ThreadId) (now : TimePoint)
  | observeCompletion (thread : ThreadId) (slots : Nat)
  | notify (thread : ThreadId)

namespace AdmissionThreads

def new (scheduler : Scheduler) (options : AdmissionOptions) : AdmissionThreads where
  shared := { options := options, scheduler := scheduler }
  phase := fun _ => .idle

variable (sys : AdmissionThreads)

-- A call that changed the scheduler leaves the admission lock before it announces the change.
def leave (thread : ThreadId) (owes : Bool) (shared : Admission) : AdmissionThreads :=
  sys.move thread (if owes then .notifying else .idle) shared

def waitClaim (thread : ThreadId) (id : TaskId) (timeout : Int) (peer : TaskPeer)
    (now : TimePoint) : AdmissionThreads :=
  let a := sys.shared
  if id = 0 ∨ timeout < 0 ∨ (a.options.bindLeasesToProcess ∧ ¬ validPeerIdentity peer) then sys
  else
    let deadline := if timeout = 0 then none else some (now + timeout)
    sys.move thread (.attempting ⟨id, deadline, peer⟩ a.stateGeneration) a

def passed (deadline : Option TimePoint) (now : TimePoint) : Bool := deadline.any fun limit => limit ≤ now

def attempt (thread : ThreadId) (allocated : Bool) (now after : TimePoint) : AdmissionThreads :=
  match sys.phase thread with
  | .attempting call observed =>
    match sys.shared.waitClaimAnswer call.taskId call.peer with
    | some _ => sys.move thread .idle sys.shared
    | none =>
      match sys.shared.dispatchLease call.taskId call.peer allocated now with
      | (some _, a) => sys.move thread .notifying a
      | (none, a) => sys.move thread (if passed call.deadline after then .idle else .rechecking call observed) a
  | _ => sys

-- The loop reads the generation again under the lock that compared it.
def recheck (thread : ThreadId) : AdmissionThreads :=
  match sys.phase thread with
  | .rechecking call observed =>
    let current := sys.shared.stateGeneration
    sys.move thread (if current ≠ observed then .attempting call current else .asleep call observed) sys.shared
  | _ => sys

def wake (thread : ThreadId) (now : TimePoint) : AdmissionThreads :=
  match sys.phase thread with
  | .asleep call observed =>
    let current := sys.shared.stateGeneration
    if current ≠ observed then sys.move thread (.attempting call current) sys.shared
    else if passed call.deadline now then sys.move thread .idle sys.shared
    else sys
  | _ => sys

-- A completion observer may retune the scheduler's reserved slots; it runs before the announcement.
def observeCompletion (thread : ThreadId) (slots : Nat) : AdmissionThreads :=
  let a := sys.shared
  match sys.phase thread with
  | .notifying =>
    if a.options.completionObserver then
      sys.move thread .notifying { a with scheduler := (a.scheduler.setPriorityReservedSlots slots).2 }
    else sys
  | _ => sys

def notify (thread : ThreadId) : AdmissionThreads :=
  match sys.phase thread with
  | .notifying => sys.move thread .idle sys.shared.notifyStateChange
  | _ => sys

def call (thread : ThreadId) (body : AdmissionThreads) : AdmissionThreads :=
  match sys.phase thread with
  | .idle => body
  | _ => sys

def step : AdmissionStep → AdmissionThreads
  | .submit thread request kind registrar peer allocated now =>
    sys.call thread (sys.leave thread false (sys.shared.submit request kind registrar peer allocated now).2)
  | .cancel thread id now => sys.call thread (sys.leave thread false (sys.shared.cancel id now).2)
  | .cancelQueued thread id peer => sys.call thread (sys.leave thread false (sys.shared.cancelQueued id peer).2)
  | .claimNext thread peer allocated now =>
    let (dispatched, a) := sys.shared.claimNext peer allocated now
    sys.call thread (sys.leave thread dispatched.isSome a)
  | .claim thread id peer allocated now =>
    match sys.shared.claimAnswer id peer with
    | some _ => sys
    | none =>
      let (dispatched, a) := sys.shared.dispatchLease id peer allocated now
      sys.call thread (sys.leave thread dispatched.isSome a)
  | .heartbeat thread id peer now => sys.call thread (sys.leave thread false (sys.shared.heartbeat id peer now).2)
  | .complete thread id peer now =>
    let (completed, a) := sys.shared.complete id peer now
    sys.call thread (sys.leave thread completed a)
  | .fail thread id peer now =>
    let (failed, a) := sys.shared.fail id peer now
    sys.call thread (sys.leave thread failed a)
  | .reapExpired thread pendingOrder activeOrder now =>
    let (reaped, a) := sys.shared.reapExpired pendingOrder activeOrder now
    sys.call thread (sys.leave thread reaped a)
  | .waitClaim thread id timeout peer now => sys.call thread (sys.waitClaim thread id timeout peer now)
  | .attempt thread allocated now after => sys.attempt thread allocated now after
  | .recheck thread => sys.recheck thread
  | .wake thread now => sys.wake thread now
  | .observeCompletion thread slots => sys.observeCompletion thread slots
  | .notify thread => sys.notify thread

def run (steps : List AdmissionStep) : AdmissionThreads := steps.foldl step sys

end AdmissionThreads

end Glimmer.Control
