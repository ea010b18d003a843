import Glimmer.Control.ExecutionProtocol
import Glimmer.Control.TaskEndpoint

namespace Glimmer.Control

open Lib Glimmer.Core

-- No deadline stands for the clock's maximal time point; a time point of zero for one that was never set.
structure ExecutionLease where
  deadline : Option TimePoint
  submittedAt : TimePoint := 0
  startedAt : TimePoint := 0
  reaping : Bool := false
  owner : TaskPeer
  isCooperative : Bool := false
  queuedAt : TimePoint := 0
  queueWaitMicroseconds : Nat := 0
  serviceTimeMicroseconds : Nat := 0
  nativeEpoch : Option NativeEpochExtent := none
  acceptanceDeadlineNanoseconds : Nat := 0

inductive ExecutionKind where
  | legacy | cooperative | native
deriving DecidableEq

structure ExecutionOptions where
  leaseTimeout : Nat := 0
  bindLeasesToProcess : Bool := false
  completionObserver : Bool := false
  nativeEpochPolicy : Option NativeEpochExtent := none

structure ExecutionAdmissionState where
  options : ExecutionOptions
  scheduler : Scheduler
  stateGeneration : Nat := 0
  activeLeases : KeyedMap TaskId ExecutionLease := ∅
  pendingLeases : KeyedMap TaskId ExecutionLease := ∅

def elapsedSince (start stop : TimePoint) : Nat :=
  if start = 0 ∨ stop ≤ start then 0 else ((stop - start).tdiv 1000).toNat

namespace ExecutionLease

def expired (lease : ExecutionLease) (now : TimePoint) : Bool :=
  !lease.reaping && lease.deadline.any fun deadline => deadline ≤ now

def stopTiming (lease : ExecutionLease) (now : TimePoint) : ExecutionLease :=
  { lease with
    serviceTimeMicroseconds := saturatingAdd (elapsedSince lease.startedAt now) lease.serviceTimeMicroseconds
    startedAt := 0
    queuedAt := now }

def steerable (lease : ExecutionLease) : Bool := lease.isCooperative && !lease.reaping && lease.nativeEpoch.isNone

end ExecutionLease

def emplaceExecution (leases : KeyedMap TaskId ExecutionLease) (id : TaskId) (lease : ExecutionLease) (allocated : Bool) :
    Option (KeyedMap TaskId ExecutionLease) :=
  if allocated ∧ (leases.lookup id).isNone then some (leases.insert id lease) else none

namespace ExecutionAdmissionState

variable (a : ExecutionAdmissionState) (id : TaskId) (peer : TaskPeer) (allocated : Bool) (now : TimePoint)

def notifyStateChange : ExecutionAdmissionState :=
  if a.stateGeneration ≠ maxU64 then { a with stateGeneration := a.stateGeneration + 1 } else a

def tracksLeases : Bool :=
  a.options.bindLeasesToProcess || a.options.leaseTimeout ≠ 0 || a.options.completionObserver

def leaseDeadline : Option TimePoint :=
  if a.options.leaseTimeout = 0 then none else some (now + a.options.leaseTimeout)

def ownerMatches (lease : ExecutionLease) (peer : TaskPeer) : Bool :=
  if !a.options.bindLeasesToProcess then true
  else validPeerIdentity peer && validPeerIdentity lease.owner && peer.getD {} = lease.owner.getD {}

def pendingOwnerMatches : Bool :=
  if !a.options.bindLeasesToProcess then true
  else (a.pendingLeases.lookup id).any fun lease => !lease.reaping && a.ownerMatches lease peer

def heldCooperatively : Bool :=
  (a.activeLeases.lookup id).any ExecutionLease.isCooperative ||
    (a.pendingLeases.lookup id).any ExecutionLease.isCooperative

def withdrawSubmission : SubmitResult × ExecutionAdmissionState :=
  ({ status := .internalError, taskId := id },
    { a with scheduler := (a.scheduler.cancel id now).2 }.notifyStateChange)

-- The pending lease is recorded before the resources are registered.
def recordSubmission (kind : ExecutionKind) (extent : Option NativeEpochExtent) (registered : Bool) (peer : TaskPeer)
    (allocated : Bool) (now : TimePoint) : SubmitResult × ExecutionAdmissionState :=
  let lease : ExecutionLease :=
    { deadline := a.leaseDeadline now, submittedAt := now, owner := peer, isCooperative := kind ≠ .legacy,
      nativeEpoch := extent }
  let recorded := if a.tracksLeases then emplaceExecution a.pendingLeases id lease allocated else some a.pendingLeases
  match recorded with
  | none => a.withdrawSubmission id now
  | some leases =>
    if registered then ({ status := .accepted, taskId := id }, { a with pendingLeases := leases })
    else withdrawSubmission { a with pendingLeases := leases.erase id } id now

-- The endpoint refuses to be built without a registrar, so there always is one.
def submitImpl (request : TaskSpec) (peer : TaskPeer) (extent : Option NativeEpochExtent) (kind : ExecutionKind)
    (registered allocated : Bool) (now : TimePoint) : SubmitResult × ExecutionAdmissionState :=
  if a.options.bindLeasesToProcess ∧ ¬ validPeerIdentity peer then ({ status := .invalidTask }, a)
  else if (kind ≠ .legacy ∧ (¬ a.options.bindLeasesToProcess ∨ ¬ validPeerIdentity peer)) ∨
      decide (kind = .native) ≠ extent.isSome then
    ({ status := .invalidTask }, a)
  else match a.scheduler.submit request now with
    | (admission, scheduler) =>
      if admission.status ≠ .accepted then (admission, { a with scheduler := scheduler })
      else recordSubmission { a with scheduler := scheduler } admission.taskId kind extent registered peer allocated now

def submit (request : TaskSpec) (peer : TaskPeer)
    (registered allocated : Bool) (now : TimePoint) : SubmitResult × ExecutionAdmissionState :=
  a.submitImpl request peer none .legacy registered allocated now

def submitCooperative (request : TaskSpec) (peer : TaskPeer)
    (registered allocated : Bool) (now : TimePoint) : SubmitResult × ExecutionAdmissionState :=
  a.submitImpl request peer none .cooperative registered allocated now

def withinPolicy (extent policy : NativeEpochExtent) : Bool :=
  extent.maxCalls ≤ policy.maxCalls && extent.callsPerPrefix ≤ policy.callsPerPrefix &&
    extent.maxPendingPrefixes ≤ policy.maxPendingPrefixes &&
    extent.acceptanceMicroseconds ≤ policy.acceptanceMicroseconds

def submitNativeEpoch (request : TaskSpec) (extent : NativeEpochExtent) (peer : TaskPeer) (registered allocated : Bool)
    (now : TimePoint) : SubmitResult × ExecutionAdmissionState :=
  if a.options.bindLeasesToProcess ∧ validNativeEpochExtent extent ∧ request.workUnits = extent.maxCalls ∧
      a.options.nativeEpochPolicy.any fun policy => validNativeEpochExtent policy && withinPolicy extent policy then
    a.submitImpl request peer (some extent) .native registered allocated now
  else ({ status := .invalidTask }, a)

def cancel : Bool × ExecutionAdmissionState :=
  if a.heldCooperatively id then (false, a)
  else match a.scheduler.cancel id now with
    | (false, scheduler) => (false, { a with scheduler := scheduler })
    | (true, scheduler) =>
      (true, notifyStateChange { a with
        scheduler := scheduler
        activeLeases := a.activeLeases.erase id
        pendingLeases := a.pendingLeases.erase id })

def forgetTerminal : Bool × ExecutionAdmissionState :=
  if (a.activeLeases.lookup id).isSome ∨ (a.pendingLeases.lookup id).isSome then (false, a)
  else ((a.scheduler.forget id).1, { a with scheduler := (a.scheduler.forget id).2 })

-- The announcement is the caller's: some make it under the admission lock, some after it.
def dropPending : Bool × ExecutionAdmissionState :=
  match a.scheduler.cancelQueued id with
  | (false, scheduler) => (false, { a with scheduler := scheduler })
  | (true, scheduler) => (true, { a with scheduler := scheduler, pendingLeases := a.pendingLeases.erase id })

def cancelQueued : Bool × ExecutionAdmissionState :=
  let pending := a.pendingLeases.lookup id
  if a.options.bindLeasesToProcess ∧ ¬ pending.any fun lease => a.ownerMatches lease peer then (false, a)
  else if pending.any ExecutionLease.isCooperative then (false, a)
  else match a.dropPending id with
    | (true, dropped) => (true, dropped.notifyStateChange)
    | (false, kept) => (false, kept)

def revokeDispatch : Option TaskSnapshot × ExecutionAdmissionState :=
  (none, { a with scheduler := (a.scheduler.fail id now).2 }.notifyStateChange)

def startLease (pending : Option ExecutionLease) (peer : TaskPeer) (now : TimePoint) : ExecutionLease :=
  let waiting := pending.getD { deadline := none, owner := none }
  let queuedAt := if waiting.queuedAt = 0 then waiting.submittedAt else waiting.queuedAt
  { deadline := a.leaseDeadline now
    submittedAt := waiting.submittedAt
    startedAt := now
    owner := peer
    isCooperative := waiting.isCooperative
    queueWaitMicroseconds := saturatingAdd (elapsedSince queuedAt now) waiting.queueWaitMicroseconds
    serviceTimeMicroseconds := waiting.serviceTimeMicroseconds
    nativeEpoch := waiting.nativeEpoch }

def recordLease (dispatched : Option TaskSnapshot) (peer : TaskPeer)
    (allocated : Bool) (now : TimePoint) : Option TaskSnapshot × ExecutionAdmissionState :=
  match dispatched with
  | none => (none, a)
  | some started =>
    if !a.tracksLeases then (some started, a)
    else
      let id := started.taskId
      let released := { a with pendingLeases := a.pendingLeases.erase id }
      if a.options.bindLeasesToProcess ∧ ¬ a.pendingOwnerMatches id peer then released.revokeDispatch id now
      else if ¬ a.options.bindLeasesToProcess ∧ (a.activeLeases.lookup id).isSome then (some started, released)
      else match emplaceExecution a.activeLeases id (a.startLease (a.pendingLeases.lookup id) peer now) allocated with
        | none => released.revokeDispatch id now
        | some leases => (some started, { released with activeLeases := leases })

def dispatchLease (allocates : Bool := true) : Option TaskSnapshot × ExecutionAdmissionState :=
  match a.scheduler.dispatchTask id now allocates with
  | (dispatched, scheduler) => recordLease { a with scheduler := scheduler } dispatched peer allocated now

def claimNext (allocates : Bool := true) : Option TaskSnapshot × ExecutionAdmissionState :=
  if a.options.bindLeasesToProcess then (none, a)
  else match a.scheduler.dispatchNext now allocates with
    | (dispatched, scheduler) => recordLease { a with scheduler := scheduler } dispatched peer allocated now

def heldClaim (existing : TaskSnapshot) (peer : TaskPeer) : Option TaskSnapshot :=
  if (¬ a.options.bindLeasesToProcess ∧ a.options.leaseTimeout = 0) ∨
      (a.activeLeases.lookup existing.taskId).any fun lease => a.ownerMatches lease peer then
    some existing
  else none

def claimAnswer : Option (Option TaskSnapshot) :=
  if id = 0 ∨ (a.options.bindLeasesToProcess ∧ ¬ validPeerIdentity peer) then some none
  else if a.heldCooperatively id then some none
  else match (a.scheduler.find id).filter fun existing => existing.state = .running with
    | some existing => some (a.heldClaim existing peer)
    | none => if a.pendingOwnerMatches id peer then none else some none

def waitAnswer : Option (Option TaskSnapshot) :=
  if id = 0 ∨ (a.options.bindLeasesToProcess ∧ ¬ validPeerIdentity peer) then some none
  else if a.heldCooperatively id then some none
  else match a.scheduler.find id with
    | none => some none
    | some existing =>
      if existing.state = .running then some (a.heldClaim existing peer)
      else if existing.state ≠ .queued then some none
      else if a.pendingOwnerMatches id peer then none
      else some none

def answerOrDispatch (answer : Option (Option TaskSnapshot)) (id : TaskId)
    (peer : TaskPeer) (allocated : Bool) (now : TimePoint) (allocates : Bool := true) :
    ClaimReply × ExecutionAdmissionState :=
  match answer with
  | some answer => (.answered answer, a)
  | none =>
    (.attempted (a.dispatchLease id peer allocated now allocates).1, (a.dispatchLease id peer allocated now allocates).2)

def claim (allocates : Bool := true) : ClaimReply × ExecutionAdmissionState :=
  a.answerOrDispatch (a.claimAnswer id peer) id peer allocated now allocates

def waitAttempt (allocates : Bool := true) : ClaimReply × ExecutionAdmissionState :=
  a.answerOrDispatch (a.waitAnswer id peer) id peer allocated now allocates

def heartbeat : Bool × ExecutionAdmissionState :=
  match (a.scheduler.find id).filter fun existing => existing.state = .running with
  | none => (false, a)
  | some _ =>
    if ¬ a.options.bindLeasesToProcess ∧ a.options.leaseTimeout = 0 then (true, a)
    else match a.activeLeases.lookup id with
      | none => (false, a)
      | some lease =>
        if lease.reaping ∨ lease.isCooperative ∨ ¬ a.ownerMatches lease peer then (false, a)
        else if a.options.leaseTimeout = 0 then (true, a)
        else (true, { a with activeLeases := a.activeLeases.insert id { lease with deadline := a.leaseDeadline now } })

-- Ends a running task and its lease; the announcement follows after the admission lock is released.
def endActive (finish : Scheduler → TaskId → TimePoint → Bool × Scheduler) (now : TimePoint) :
    Bool × ExecutionAdmissionState :=
  match finish a.scheduler id now with
  | (false, scheduler) => (false, { a with scheduler := scheduler })
  | (true, scheduler) => (true, { a with scheduler := scheduler, activeLeases := a.activeLeases.erase id })

def finishLease (finish : Scheduler → TaskId → TimePoint → Bool × Scheduler) (now : TimePoint) :
    Bool × ExecutionAdmissionState :=
  let lease := a.activeLeases.lookup id
  if a.options.bindLeasesToProcess ∧
      ¬ lease.any fun held => !held.isCooperative && a.ownerMatches held peer then (false, a)
  else a.endActive id finish now

def complete : Bool × ExecutionAdmissionState :=
  a.finishLease id peer Scheduler.complete now

def fail : Bool × ExecutionAdmissionState :=
  a.finishLease id peer Scheduler.fail now

section Cooperative

def claimExecution (allocates : Bool := true) : Option TaskSnapshot × ExecutionAdmissionState :=
  if !a.options.bindLeasesToProcess then (none, a)
  else if ¬ (a.pendingLeases.lookup id).any ExecutionLease.steerable then (none, a)
  else match a.scheduler.find id with
    | none => (none, a)
    | some current =>
      if current.state ≠ .queued ∨ ¬ a.pendingOwnerMatches id peer then (none, a)
      else match a.dispatchLease id peer allocated now allocates with
        | (none, after) => (none, after)
        | (some started, after) =>
          match after.activeLeases.lookup id with
          | none => (none, after)
          | some lease =>
            (some started,
              { after with activeLeases := after.activeLeases.insert id { lease with isCooperative := true } })

def cancelPendingCooperative : Bool × ExecutionAdmissionState :=
  match a.pendingLeases.lookup id, a.scheduler.find id with
  | some lease, some task =>
    if ¬ lease.steerable ∨ ¬ a.ownerMatches lease peer ∨ task.state ≠ .queued ∨
      task.dispatchSequence ≠ 0 then (false, a)
    else a.dropPending id
  | _, _ => (false, a)

def leasesOf (state : TaskState) : KeyedMap TaskId ExecutionLease :=
  if state = .running then a.activeLeases else a.pendingLeases

variable (execution : TaskExecutionIdentity) (peer : TaskPeer) (allocated : Bool) (now : TimePoint)

-- The check shared by the operations on one dispatch of a cooperative task.
def heldExecution (state : TaskState) : Option ExecutionLease :=
  if !a.options.bindLeasesToProcess ∨ execution.generation = 0 then none
  else match a.scheduler.find execution.taskId with
    | none => none
    | some current =>
      if current.state ≠ state ∨ current.dispatchSequence ≠ execution.generation then none
      else ((a.leasesOf state).lookup execution.taskId).filter fun lease => lease.steerable && a.ownerMatches lease peer

def retreatRequested : Option Bool :=
  (a.heldExecution execution peer .running).map fun _ => a.scheduler.retreatRequested execution.taskId

-- The pending lease is put in place before the scheduler suspends the task, and taken back if it does not.
def suspendExecution : Bool × ExecutionAdmissionState :=
  let id := execution.taskId
  match a.heldExecution execution peer .running with
  | none => (false, a)
  | some lease =>
    let waiting := { lease.stopTiming now with isCooperative := true, deadline := a.leaseDeadline now }
    match emplaceExecution a.pendingLeases id waiting allocated with
    | none => (false, a)
    | some leases =>
      match a.scheduler.suspend id now with
      | (false, scheduler) => (false, { a with scheduler := scheduler, pendingLeases := leases.erase id })
      | (true, scheduler) =>
        (true, { a with scheduler := scheduler, pendingLeases := leases, activeLeases := a.activeLeases.erase id })

def heartbeatExecution : Bool × ExecutionAdmissionState :=
  let id := execution.taskId
  let state := if a.scheduler.taskState id = some .running then TaskState.running else .queued
  match a.heldExecution execution peer state with
  | none => (false, a)
  | some lease =>
    if a.options.leaseTimeout = 0 then (true, a)
    else
      let renewed := { lease with deadline := a.leaseDeadline now }
      if state = .running then (true, { a with activeLeases := a.activeLeases.insert id renewed })
      else (true, { a with pendingLeases := a.pendingLeases.insert id renewed })

def completeExecution : Bool × ExecutionAdmissionState :=
  if (a.heldExecution execution peer .running).isNone then (false, a)
  else a.endActive execution.taskId Scheduler.complete now

def failExecution : Bool × ExecutionAdmissionState :=
  if (a.heldExecution execution peer .running).isNone then (false, a)
  else a.endActive execution.taskId Scheduler.fail now

def cancelExecution : Bool × ExecutionAdmissionState :=
  if (a.heldExecution execution peer .queued).isNone then (false, a) else a.dropPending execution.taskId

end Cooperative

section NativeEpoch

def acceptanceDeadline (extent : NativeEpochExtent) (now : TimePoint) : Nat :=
  saturatingAdd (extent.acceptanceMicroseconds.toNat * 1000) now.toNat

def claimNativeEpoch (allocates : Bool := true) : Option NativeEpochGrant × ExecutionAdmissionState :=
  -- A repeated claim cannot authorize issuing the same native work twice.
  if (a.activeLeases.lookup id).isSome then (none, a)
  else if ¬ (a.pendingLeases.lookup id).any (fun lease => lease.nativeEpoch.isSome) ∨ ¬ a.pendingOwnerMatches id peer then
    (none, a)
  else match a.dispatchLease id peer allocated now allocates with
    | (none, after) => (none, after)
    | (some started, after) =>
      match after.activeLeases.lookup id with
      | none => (none, after)
      | some lease =>
        match lease.nativeEpoch with
        | none => (none, after)
        | some extent =>
          let deadline := acceptanceDeadline extent now
          (some { execution := ⟨started.taskId, started.dispatchSequence⟩, extent := extent,
                  acceptanceDeadlineNanoseconds := deadline },
            { after with
              activeLeases := after.activeLeases.insert id { lease with acceptanceDeadlineNanoseconds := deadline } })

variable (execution : TaskExecutionIdentity)

def heldNativeEpoch (peer : TaskPeer) : Option ExecutionLease :=
  if !a.options.bindLeasesToProcess ∨ execution.generation = 0 then none
  else match a.scheduler.find execution.taskId with
    | none => none
    | some current =>
      if current.state ≠ .running ∨ current.dispatchSequence ≠ execution.generation then none
      else (a.activeLeases.lookup execution.taskId).filter fun lease =>
        lease.nativeEpoch.isSome && !lease.reaping && a.ownerMatches lease peer

def pendingNativeEpochExtent : Option NativeEpochExtent :=
  if a.scheduler.taskState id = some .queued ∧ a.pendingOwnerMatches id peer then
    (a.pendingLeases.lookup id).bind ExecutionLease.nativeEpoch
  else none

def nativeEpochRetreatRequested (peer : TaskPeer) (now : TimePoint) : Option Bool :=
  (a.heldNativeEpoch execution peer).map fun lease =>
    lease.acceptanceDeadlineNanoseconds ≤ now.toNat || a.scheduler.retreatRequested execution.taskId

-- A heartbeat acknowledges the identity; it renews nothing.
def heartbeatNativeEpoch (peer : TaskPeer) : Bool :=
  (a.heldNativeEpoch execution peer).isSome

def finishNativeEpoch (issuedCalls : UInt32)
    (hasFailed : Bool) (peer : TaskPeer) (now : TimePoint) : Bool × ExecutionAdmissionState :=
  match a.heldNativeEpoch execution peer with
  | none => (false, a)
  | some lease =>
    if issuedCalls > (lease.nativeEpoch.getD {}).maxCalls then (false, a)
    else a.endActive execution.taskId (if hasFailed then Scheduler.fail else Scheduler.complete) now

def cancelPendingNativeEpoch : Bool × ExecutionAdmissionState :=
  if ¬ (a.pendingLeases.lookup id).any (fun lease => lease.nativeEpoch.isSome) ∨ ¬ a.pendingOwnerMatches id peer then
    (false, a)
  else if ¬ (a.scheduler.find id).any (fun task => task.dispatchSequence = 0) then (false, a)
  else a.dropPending id

end NativeEpoch

def walk (leases : KeyedMap TaskId ExecutionLease) (order : List TaskId) : List TaskId :=
  order.filter (· ∈ leases.keys) ++ leases.keys.filter (· ∉ order)

def expiredPending (leases : KeyedMap TaskId ExecutionLease) (order : List TaskId) (now : TimePoint) :
    Option (TaskId × ExecutionLease) :=
  (walk leases order).findSome? fun id =>
    ((leases.lookup id).filter fun lease => lease.expired now).map fun lease => (id, lease)

-- A deadline cannot prove that a cooperative task stopped: met on the way, it is dropped and its task left alone.
def expiredActive (now : TimePoint) :
    List TaskId → KeyedMap TaskId ExecutionLease → Option (TaskId × ExecutionLease) × KeyedMap TaskId ExecutionLease
  | [], leases => (none, leases)
  | id :: rest, leases =>
    match (leases.lookup id).filter fun lease => lease.expired now with
    | none => expiredActive now rest leases
    | some lease =>
      if lease.isCooperative then expiredActive now rest (leases.insert id { lease with deadline := none })
      else (some (id, lease), leases)

-- The reaping mark is set and cleared under one lock. The result says whether an announcement is owed.
def reapPending (lease : ExecutionLease) (now : TimePoint) : Bool × ExecutionAdmissionState :=
  match a.dropPending id with
  | (true, dropped) => (true, dropped)
  | (false, kept) =>
    (false, { kept with pendingLeases := kept.pendingLeases.insert id { lease with deadline := a.leaseDeadline now } })

def reapActive (lease : ExecutionLease) (now : TimePoint) : Bool × ExecutionAdmissionState :=
  match a.scheduler.fail id now with
  | (failed, scheduler) =>
    if failed ∨ scheduler.taskState id ≠ some .running then
      (true, { a with scheduler := scheduler, activeLeases := a.activeLeases.erase id })
    else
      (false, { a with
        scheduler := scheduler
        activeLeases := a.activeLeases.insert id { lease with deadline := a.leaseDeadline now } })

def reapExpired (pendingOrder activeOrder : List TaskId) (now : TimePoint) : Bool × ExecutionAdmissionState :=
  if a.options.leaseTimeout = 0 then (false, a)
  else match expiredPending a.pendingLeases pendingOrder now with
    | some (id, lease) => a.reapPending id lease now
    | none =>
      match expiredActive now (walk a.activeLeases activeOrder) a.activeLeases with
      | (none, leases) => (false, { a with activeLeases := leases })
      | (some (id, lease), leases) => reapActive { a with activeLeases := leases } id lease now

end ExecutionAdmissionState

end Glimmer.Control
