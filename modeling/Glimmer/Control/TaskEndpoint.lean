import Glimmer.Control.Admission
import Glimmer.Control.TaskProtocol
import Glimmer.Lib.CallTrees

namespace Glimmer.Control

open Lib Glimmer.Core

-- A claim answers from what it finds under the admission lock, or with the scheduler's dispatch.
inductive ClaimReply where
  | answered (snapshot : Option TaskSnapshot)
  | attempted (snapshot : Option TaskSnapshot)

namespace Admission

def claim (a : Admission) (id : TaskId) (peer : TaskPeer) (allocated : Bool) (now : TimePoint) :
    ClaimReply × Admission :=
  match a.claimAnswer id peer with
  | some answer => (.answered answer, a)
  | none => ((.attempted (a.dispatchLease id peer allocated now).1), (a.dispatchLease id peer allocated now).2)

-- One round of wait_claim; the arguments are checked before the loop.
def waitAttempt (a : Admission) (id : TaskId) (peer : TaskPeer) (allocated : Bool) (now : TimePoint) :
    ClaimReply × Admission :=
  if id = 0 ∨ (a.options.bindLeasesToProcess ∧ ¬ validPeerIdentity peer) then (.answered none, a)
  else match a.waitClaimAnswer id peer with
    | some answer => (.answered answer, a)
    | none => ((.attempted (a.dispatchLease id peer allocated now).1), (a.dispatchLease id peer allocated now).2)

def observeExternalDispatch (a : Admission) (id : TaskId) (dispatchObserver allocated : Bool) (now : TimePoint) :
    Option TaskSnapshot × Admission :=
  if id = 0 ∨ (¬ dispatchObserver ∧ ¬ a.options.completionObserver) then (none, a)
  else if (a.activeLeases.lookup id).isSome then (none, a)
  else match (a.scheduler.find id).filter fun existing => existing.state = .running with
    | none => (none, a)
    | some running =>
      if !a.options.bindLeasesToProcess then a.recordLease (some running) none allocated now
      else match (a.pendingLeases.lookup id).filter fun lease => !lease.reaping with
        | none => (none, a)
        | some lease => a.recordLease (some running) lease.owner allocated now

def observeExternalCompletion (a : Admission) (id : TaskId) (terminal : TaskState) : Bool × Admission :=
  if id = 0 ∨ ¬ a.options.completionObserver ∨ terminal = .queued ∨ terminal = .running then (false, a)
  else if a.scheduler.taskState id ≠ some terminal ∨ (a.activeLeases.lookup id).isNone then (false, a)
  else (true, { a with activeLeases := a.activeLeases.erase id })

end Admission

-- The critical sections of TaskAdmissionService. A service without a registrar refuses every submission.
inductive ServiceOp where
  | submit (request : TaskSpec) (registrar : Bool) (peer : TaskPeer)
  | cancel (id : TaskId)
  | cancelQueued (id : TaskId)
  | claimNext (peer : TaskPeer)
  | claim (id : TaskId) (peer : TaskPeer)
  | waitAttempt (id : TaskId) (peer : TaskPeer)
  | heartbeat (id : TaskId) (peer : TaskPeer)
  | complete (id : TaskId) (peer : TaskPeer)
  | fail (id : TaskId) (peer : TaskPeer)
  | find (id : TaskId)
  | stats
  | observeCompletion
  | notifyStateChange
  | reapExpired (pendingOrder activeOrder : List TaskId)
  | observeExternalDispatch (id : TaskId) (dispatchObserver : Bool)
  | observeExternalCompletion (id : TaskId) (terminal : TaskState)
deriving DecidableEq

abbrev ServiceOp.Reply : ServiceOp → Type
  | .submit _ _ _ => SubmitResult
  | .cancel _ | .cancelQueued _ | .heartbeat _ _ | .complete _ _ | .fail _ _ => Bool
  | .claimNext _ | .find _ | .observeExternalDispatch _ _ => Option TaskSnapshot
  | .claim _ _ | .waitAttempt _ _ => ClaimReply
  | .stats => TaskProtocolStats
  | .observeCompletion | .notifyStateChange => Unit
  | .reapExpired _ _ | .observeExternalCompletion _ _ => Bool

-- What a section takes from outside: the clock, whether its map insertion is allocated, the registrar's verdict, and
-- the reserved slots that a completion observer sets.
structure SectionInput where
  now : TimePoint := 0
  allocated : Bool := true
  registered : Bool := true
  reservedSlots : Nat := 0

-- The service together with a record of who submitted each task, which the code does not keep.
structure AuditedAdmission where
  service : Admission
  submitters : KeyedMap TaskId TaskPeerIdentity := ∅

namespace AuditedAdmission

def withService {α : Type} (s : AuditedAdmission) (outcome : α × Admission) : α × AuditedAdmission :=
  (outcome.1, { s with service := outcome.2 })

-- A submission that the scheduler accepted names its task even when it is withdrawn again.
def submit (s : AuditedAdmission) (request : TaskSpec) (registrar : Bool) (peer : TaskPeer)
    (input : SectionInput) : SubmitResult × AuditedAdmission :=
  let registrar := if registrar then some fun _ => input.registered else none
  let (result, service) := s.service.submit request .legacy registrar peer input.allocated input.now
  let submitters := match peer with
    | some owner => if result.taskId ≠ 0 then s.submitters.insert result.taskId owner else s.submitters
    | none => s.submitters
  (result, { service := service, submitters := submitters })

def serve : (op : ServiceOp) → SectionInput → AuditedAdmission → op.Reply × AuditedAdmission
  | .submit request registrar peer, input, s => s.submit request registrar peer input
  | .cancel id, input, s => s.withService (s.service.cancel id input.now)
  | .cancelQueued id, _, s => s.withService (s.service.cancelQueued id none)
  | .claimNext peer, input, s => s.withService (s.service.claimNext peer input.allocated input.now)
  | .claim id peer, input, s => s.withService (s.service.claim id peer input.allocated input.now)
  | .waitAttempt id peer, input, s => s.withService (s.service.waitAttempt id peer input.allocated input.now)
  | .heartbeat id peer, input, s => s.withService (s.service.heartbeat id peer input.now)
  | .complete id peer, input, s => s.withService (s.service.complete id peer input.now)
  | .fail id peer, input, s => s.withService (s.service.fail id peer input.now)
  | .find id, _, s => (s.service.scheduler.find id, s)
  | .stats, _, s => (protocolStats s.service.scheduler, s)
  | .observeCompletion, input, s =>
    s.withService ((), { s.service with
      scheduler := (s.service.scheduler.setPriorityReservedSlots input.reservedSlots).2 })
  | .notifyStateChange, _, s => s.withService ((), s.service.notifyStateChange)
  | .reapExpired pendingOrder activeOrder, input, s =>
    s.withService (s.service.reapExpired pendingOrder activeOrder input.now)
  | .observeExternalDispatch id dispatchObserver, input, s =>
    s.withService (s.service.observeExternalDispatch id dispatchObserver input.allocated input.now)
  | .observeExternalCompletion id terminal, _, s => s.withService (s.service.observeExternalCompletion id terminal)

-- The scheduler has other users than this service.
inductive Outside where
  | service (op : ServiceOp) (input : SectionInput)
  | scheduler (op : SchedulerOp)

def outside : Outside → AuditedAdmission → AuditedAdmission
  | .service op input, s => (serve op input s).2
  | .scheduler op, s => { s with service := { s.service with scheduler := s.service.scheduler.apply op } }

end AuditedAdmission

-- One request line of one peer. A wait always has a deadline; it is found to
-- have passed after a number of further rounds.
structure RequestCall where
  line : Bytes
  peer : TaskPeer
  registrar : Bool := true
  rounds : Nat := 0
deriving DecidableEq

namespace TaskControlEndpoint

open CallTree

abbrev Call := CallTree ServiceOp.Reply

def announced (started : TaskSnapshot) : Call (Option TaskSnapshot) := do
  let _ ← perform ServiceOp.notifyStateChange
  return some started

variable (id : TaskId) (peer : TaskPeer)

def claimNext : Call (Option TaskSnapshot) := do
  let reply : Option TaskSnapshot ← perform (ServiceOp.claimNext peer)
  match reply with
  | some started => announced started
  | none => return none

def claim : Call (Option TaskSnapshot) := do
  let reply : ClaimReply ← perform (ServiceOp.claim id peer)
  match reply with
  | .answered answer => return answer
  | .attempted (some started) => announced started
  | .attempted none => return none

-- The sections that only read the state generation are left out: the number of rounds stands for what they find.
def waitClaim (id : TaskId) (peer : TaskPeer) (rounds : Nat) : Call (Option TaskSnapshot) := do
  let reply : ClaimReply ← perform (ServiceOp.waitAttempt id peer)
  match reply with
  | .answered answer => return answer
  | .attempted (some started) => announced started
  | .attempted none =>
    match rounds with
    | 0 => return none
    | rounds + 1 => waitClaim id peer rounds

-- The completion observer runs before the announcement, outside the lock.
def concluded (ended : Bool) : Call Bool := do
  if ended then
    let _ ← perform ServiceOp.observeCompletion
    let _ ← perform ServiceOp.notifyStateChange
    return true
  else return false

def complete : Call Bool := do
  let ended : Bool ← perform (ServiceOp.complete id peer)
  concluded ended

def fail : Call Bool := do
  let ended : Bool ← perform (ServiceOp.fail id peer)
  concluded ended

def refused : Call TaskProtocolResponse := do
  let current : Option TaskSnapshot ← perform (ServiceOp.find id)
  return .error (if current.isNone then .unknownTask else .invalidRequest)

def answered (done : Bool) (state : TaskState) : Call TaskProtocolResponse := do
  if done then return .state id state else refused id

def submitted (request : RequestCall) (admission : TaskSpec) (rest : TaskId → Call TaskProtocolResponse) :
    Call TaskProtocolResponse := do
  let result : SubmitResult ← perform (ServiceOp.submit admission request.registrar request.peer)
  if result.status ≠ .accepted then return .error (admissionError result.status) else rest result.taskId

-- A new task is claimed at once if it can be; one that is neither granted nor queued is cancelled.
def acquired : Call TaskProtocolResponse := do
  match ← claim id peer with
  | some started => return leaseResponse started
  | none =>
    let current : Option TaskSnapshot ← perform (ServiceOp.find id)
    if current.any fun existing => existing.state = .queued then return .accepted id
    else
      let _ ← perform (ServiceOp.cancel id)
      return .error .internalError

def claimed : Call TaskProtocolResponse := do
  if id = 0 then
    match ← claimNext peer with
    | some started => return leaseResponse started
    | none => return .empty
  else
    match ← claim id peer with
    | some started => return leaseResponse started
    | none =>
      let current : Option TaskSnapshot ← perform (ServiceOp.find id)
      return if current.isNone then .error .unknownTask else .empty

def waited (rounds : Nat) : Call TaskProtocolResponse := do
  match ← waitClaim id peer rounds with
  | some started => return leaseResponse started
  | none =>
    let current : Option TaskSnapshot ← perform (ServiceOp.find id)
    match current with
    | none => return .error .unknownTask
    | some existing => return if existing.state ≠ .queued then .state existing.taskId existing.state else .empty

def dispatch (request : RequestCall) (parsed : TaskProtocolRequest) : Call TaskProtocolResponse := do
  let id := parsed.taskId
  match parsed.operation with
  | .submit => submitted request parsed.admission fun id => return .accepted id
  | .acquire => submitted request parsed.admission fun id => acquired id request.peer
  | .cancel =>
    let cancelled : Bool ← perform (ServiceOp.cancelQueued id)
    answered id cancelled .cancelled
  | .query =>
    let current : Option TaskSnapshot ← perform (ServiceOp.find id)
    match current with
    | none => return .error .unknownTask
    | some existing => return .state existing.taskId existing.state
  | .heartbeat =>
    let renewed : Bool ← perform (ServiceOp.heartbeat id request.peer)
    answered id renewed .running
  | .claim => claimed id request.peer
  | .wait => waited id request.peer request.rounds
  | .stats =>
    let stats : TaskProtocolStats ← perform ServiceOp.stats
    return .stats stats
  | .metrics =>
    let stats : TaskProtocolStats ← perform ServiceOp.stats
    return .metrics stats
  | .complete => answered id (← complete id request.peer) .completed
  | .fail => answered id (← fail id request.peer) .failed

def handle (request : RequestCall) : Call TaskProtocolResponse :=
  match parseTaskProtocolRequest request.line with
  | .error error => return .error (parseErrorCode error)
  | .ok parsed => dispatch request parsed

end TaskControlEndpoint

end Glimmer.Control
