import Glimmer.Core.Scheduler

namespace Glimmer.Control

open Lib Glimmer.Core

structure TaskPeerIdentity where
  pid : UInt32 := 0
  uid : UInt32 := 0
  startTimeTicks : UInt64 := 0
deriving DecidableEq

-- The pointer to a peer identity, null where the transport has none.
abbrev TaskPeer := Option TaskPeerIdentity

def validPeerIdentity (peer : TaskPeer) : Bool :=
  peer.any fun identity => identity.pid ≠ 0 ∧ identity.startTimeTicks ≠ 0

-- No deadline stands for the clock's maximal time point. The timing fields only feed the observers and are left out.
structure LeaseRecord where
  deadline : Option TimePoint
  reaping : Bool := false
  owner : TaskPeer
  isCooperative : Bool := false

-- Native epochs are left out.
inductive AdmissionKind where
  | legacy | cooperative
deriving DecidableEq

-- The two services share their text; only the execution service knows cooperative leases.
inductive AdmissionFlavour where
  | taskAdmissionService | executionAdmissionState
deriving DecidableEq

structure AdmissionOptions where
  flavour : AdmissionFlavour := .taskAdmissionService
  leaseTimeout : Nat := 0
  bindLeasesToProcess : Bool := false
  completionObserver : Bool := false

structure Admission where
  options : AdmissionOptions
  scheduler : Scheduler
  stateGeneration : Nat := 0
  activeLeases : KeyedMap TaskId LeaseRecord := ∅
  pendingLeases : KeyedMap TaskId LeaseRecord := ∅

def LeaseRecord.expired (lease : LeaseRecord) (now : TimePoint) : Bool :=
  !lease.reaping && lease.deadline.any fun deadline => deadline ≤ now

-- An insertion fails when the key is taken or its allocation throws.
def emplaceLease (leases : KeyedMap TaskId LeaseRecord) (id : TaskId) (lease : LeaseRecord) (allocated : Bool) :
    Option (KeyedMap TaskId LeaseRecord) :=
  if allocated ∧ (leases.lookup id).isNone then some (leases.insert id lease) else none

-- A hash map is walked in an order of its own: the given ids first, then whatever they leave out.
def walkOrder (leases : KeyedMap TaskId LeaseRecord) (order : List TaskId) : List TaskId :=
  order.filter (· ∈ leases.keys) ++ leases.keys.filter (· ∉ order)

namespace Admission

variable (a : Admission) (id : TaskId) (peer : TaskPeer) (allocated : Bool) (now : TimePoint)

def notifyStateChange : Admission :=
  if a.stateGeneration ≠ maxU64 then { a with stateGeneration := a.stateGeneration + 1 } else a

def tracksLeases : Bool :=
  a.options.bindLeasesToProcess || a.options.leaseTimeout ≠ 0 || a.options.completionObserver

def leaseDeadline : Option TimePoint :=
  if a.options.leaseTimeout = 0 then none else some (now + a.options.leaseTimeout)

def ownerMatches (lease : LeaseRecord) (peer : TaskPeer) : Bool :=
  if !a.options.bindLeasesToProcess then true
  else validPeerIdentity peer && validPeerIdentity lease.owner && peer.getD {} = lease.owner.getD {}

def pendingOwnerMatches : Bool :=
  if !a.options.bindLeasesToProcess then true
  else (a.pendingLeases.lookup id).any fun lease => !lease.reaping && a.ownerMatches lease peer

def cooperative (lease : Option LeaseRecord) : Bool :=
  a.options.flavour = .executionAdmissionState && lease.any LeaseRecord.isCooperative

def heldCooperatively : Bool :=
  a.cooperative (a.activeLeases.lookup id) || a.cooperative (a.pendingLeases.lookup id)

-- A submission that cannot be recorded or registered is withdrawn and announced before the admission lock is released.
def withdrawSubmission : SubmitResult × Admission :=
  ({ status := .internalError, taskId := id },
    { a with scheduler := (a.scheduler.cancel id now).2 }.notifyStateChange)

def recordSubmission (kind : AdmissionKind) (registrar : TaskId → Bool)
    (peer : TaskPeer) (allocated : Bool) (now : TimePoint) : SubmitResult × Admission :=
  let accepted : SubmitResult := { status := .accepted, taskId := id }
  let lease : LeaseRecord :=
    { deadline := a.leaseDeadline now, owner := peer, isCooperative := kind ≠ .legacy }
  let recorded := if a.tracksLeases then emplaceLease a.pendingLeases id lease allocated else some a.pendingLeases
  match a.options.flavour with
  | .taskAdmissionService =>
    if registrar id then
      match recorded with
      | none => a.withdrawSubmission id now
      | some leases => (accepted, { a with pendingLeases := leases })
    else a.withdrawSubmission id now
  | .executionAdmissionState =>
    match recorded with
    | none => a.withdrawSubmission id now
    | some leases =>
      if registrar id then (accepted, { a with pendingLeases := leases })
      else withdrawSubmission { a with pendingLeases := leases.erase id } id now

def submit (request : TaskSpec) (kind : AdmissionKind) (registrar : Option (TaskId → Bool))
    (peer : TaskPeer) (allocated : Bool) (now : TimePoint) : SubmitResult × Admission :=
  match registrar with
  | none => ({ status := .internalError }, a)
  | some registrar =>
    if a.options.bindLeasesToProcess ∧ ¬ validPeerIdentity peer then ({ status := .invalidTask }, a)
    else if kind ≠ .legacy ∧ (a.options.flavour = .taskAdmissionService ∨ ¬ a.options.bindLeasesToProcess ∨
        ¬ validPeerIdentity peer) then
      ({ status := .invalidTask }, a)
    else match a.scheduler.submit request now with
      | (admission, scheduler) =>
        if admission.status ≠ .accepted then (admission, { a with scheduler := scheduler })
        else recordSubmission { a with scheduler := scheduler } admission.taskId kind registrar peer allocated now

def cancel : Bool × Admission :=
  if a.heldCooperatively id then (false, a)
  else match a.scheduler.cancel id now with
    | (false, scheduler) => (false, { a with scheduler := scheduler })
    | (true, scheduler) =>
      (true, notifyStateChange { a with
        scheduler := scheduler
        activeLeases := a.activeLeases.erase id
        pendingLeases := a.pendingLeases.erase id })

-- Only the execution service authenticates the caller here.
def mayCancelQueued : Bool :=
  let pending := a.pendingLeases.lookup id
  match a.options.flavour with
  | .taskAdmissionService => true
  | .executionAdmissionState =>
    (!a.options.bindLeasesToProcess || pending.any fun lease => a.ownerMatches lease peer) &&
      !pending.any LeaseRecord.isCooperative

def cancelQueued : Bool × Admission :=
  if !a.mayCancelQueued id peer then (false, a)
  else match a.scheduler.cancelQueued id with
    | (false, scheduler) => (false, { a with scheduler := scheduler })
    | (true, scheduler) =>
      (true, notifyStateChange { a with scheduler := scheduler, pendingLeases := a.pendingLeases.erase id })

-- A dispatch whose lease cannot be recorded is failed and announced under the admission lock.
def revokeDispatch : Option TaskSnapshot × Admission :=
  (none, { a with scheduler := (a.scheduler.fail id now).2 }.notifyStateChange)

def recordLease (snapshot : Option TaskSnapshot) (peer : TaskPeer) (allocated : Bool)
    (now : TimePoint) : Option TaskSnapshot × Admission :=
  match snapshot with
  | none => (none, a)
  | some started =>
    if !a.tracksLeases then (some started, a)
    else
      let id := started.taskId
      let pending := a.pendingLeases.lookup id
      let released := { a with pendingLeases := a.pendingLeases.erase id }
      let lease : LeaseRecord :=
        { deadline := a.leaseDeadline now, owner := peer, isCooperative := pending.any LeaseRecord.isCooperative }
      if a.options.bindLeasesToProcess ∧ ¬ a.pendingOwnerMatches id peer then released.revokeDispatch id now
      else if ¬ a.options.bindLeasesToProcess ∧ (a.activeLeases.lookup id).isSome then (some started, released)
      else match emplaceLease a.activeLeases id lease allocated with
        | none => released.revokeDispatch id now
        | some leases => (some started, { released with activeLeases := leases })

def claimNext : Option TaskSnapshot × Admission :=
  if a.options.bindLeasesToProcess then (none, a)
  else match a.scheduler.dispatchNext now with
    | (dispatched, scheduler) => recordLease { a with scheduler := scheduler } dispatched peer allocated now

def heldClaim (existing : TaskSnapshot) (peer : TaskPeer) : Option TaskSnapshot :=
  if (¬ a.options.bindLeasesToProcess ∧ a.options.leaseTimeout = 0) ∨
      (a.activeLeases.lookup existing.taskId).any fun lease => a.ownerMatches lease peer then
    some existing
  else none

def claimAnswer : Option (Option TaskSnapshot) :=
  if id = 0 ∨ (a.options.bindLeasesToProcess ∧ ¬ validPeerIdentity peer) then some none
  else if a.heldCooperatively id then some none
  else match (a.scheduler.find id).filter fun existing => existing.state = .running with
    | some existing => some (a.heldClaim existing peer)
    | none => if a.pendingOwnerMatches id peer then none else some none

def waitClaimAnswer : Option (Option TaskSnapshot) :=
  if a.heldCooperatively id then some none
  else match a.scheduler.find id with
    | none => some none
    | some existing =>
      if existing.state = .running then some (a.heldClaim existing peer)
      else if existing.state ≠ .queued then some none
      else if a.pendingOwnerMatches id peer then none
      else some none

def dispatchLease : Option TaskSnapshot × Admission :=
  match a.scheduler.dispatchTask id now with
  | (dispatched, scheduler) => recordLease { a with scheduler := scheduler } dispatched peer allocated now

def heartbeat : Bool × Admission :=
  match (a.scheduler.find id).filter fun existing => existing.state = .running with
  | none => (false, a)
  | some _ =>
    if ¬ a.options.bindLeasesToProcess ∧ a.options.leaseTimeout = 0 then (true, a)
    else match a.activeLeases.lookup id with
      | none => (false, a)
      | some lease =>
        if lease.reaping ∨ a.cooperative (some lease) ∨ ¬ a.ownerMatches lease peer then (false, a)
        else if a.options.leaseTimeout = 0 then (true, a)
        else (true, { a with activeLeases := a.activeLeases.insert id { lease with deadline := a.leaseDeadline now } })

-- The shared body of complete and fail; the announcement follows after the admission lock is released.
def finishLease (finish : Scheduler → TaskId → TimePoint → Bool × Scheduler) (now : TimePoint) : Bool × Admission :=
  let lease := a.activeLeases.lookup id
  if a.options.bindLeasesToProcess ∧
      (a.cooperative lease ∨ ¬ lease.any fun held => a.ownerMatches held peer) then (false, a)
  else match finish a.scheduler id now with
    | (false, scheduler) => (false, { a with scheduler := scheduler })
    | (true, scheduler) => (true, { a with scheduler := scheduler, activeLeases := a.activeLeases.erase id })

def complete : Bool × Admission :=
  a.finishLease id peer Scheduler.complete now

def fail : Bool × Admission :=
  a.finishLease id peer Scheduler.fail now

def expiredLease (leases : KeyedMap TaskId LeaseRecord) (order : List TaskId) (now : TimePoint) :
    Option (TaskId × LeaseRecord) :=
  (walkOrder leases order).findSome? fun id =>
    ((leases.lookup id).filter fun lease => lease.expired now).map fun lease => (id, lease)

-- The execution service never reaps a cooperative lease: an expired one met on the way loses its deadline instead.
def expiredActive (a : Admission) (now : TimePoint) :
    List TaskId → KeyedMap TaskId LeaseRecord → Option (TaskId × LeaseRecord) × KeyedMap TaskId LeaseRecord
  | [], leases => (none, leases)
  | id :: rest, leases =>
    match (leases.lookup id).filter fun lease => lease.expired now with
    | none => expiredActive a now rest leases
    | some lease =>
      if a.cooperative (some lease) then expiredActive a now rest (leases.insert id { lease with deadline := none })
      else (some (id, lease), leases)

-- The reaping mark is set and cleared under one lock. The first result says whether an announcement is owed.
def reapPending (lease : LeaseRecord) (now : TimePoint) : Bool × Admission :=
  match a.scheduler.cancelQueued id with
  | (true, scheduler) => (true, { a with scheduler := scheduler, pendingLeases := a.pendingLeases.erase id })
  | (false, scheduler) =>
    (false, { a with
      scheduler := scheduler
      pendingLeases := a.pendingLeases.insert id { lease with deadline := a.leaseDeadline now } })

def reapActive (lease : LeaseRecord) (now : TimePoint) : Bool × Admission :=
  match a.scheduler.fail id now with
  | (failed, scheduler) =>
    if failed ∨ scheduler.taskState id ≠ some .running then
      (true, { a with scheduler := scheduler, activeLeases := a.activeLeases.erase id })
    else
      (false, { a with
        scheduler := scheduler
        activeLeases := a.activeLeases.insert id { lease with deadline := a.leaseDeadline now } })

def reapExpired (pendingOrder activeOrder : List TaskId) (now : TimePoint) : Bool × Admission :=
  if a.options.leaseTimeout = 0 then (false, a)
  else match expiredLease a.pendingLeases pendingOrder now with
    | some (id, lease) => a.reapPending id lease now
    | none =>
      match a.expiredActive now (walkOrder a.activeLeases activeOrder) a.activeLeases with
      | (none, leases) => (false, { a with activeLeases := leases })
      | (some (id, lease), leases) => reapActive { a with activeLeases := leases } id lease now

end Admission

end Glimmer.Control
