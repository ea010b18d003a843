import Glimmer.Control.ExecutionAdmission

namespace Glimmer.Control

open Lib Glimmer.Core

-- The critical sections of TaskExecutionAdmissionService, the rollback callback, and the points at which a handler
-- depends on its environment.
inductive ExecutionOp where
  | submit (request : TaskSpec) (peer : TaskPeer)
  | submitCooperative (request : TaskSpec) (peer : TaskPeer)
  | submitNativeEpoch (request : TaskSpec) (extent : NativeEpochExtent) (peer : TaskPeer)
  | cancel (id : TaskId)
  | cancelQueued (id : TaskId) (peer : TaskPeer)
  | cancelPendingCooperative (id : TaskId) (peer : TaskPeer)
  | forgetTerminal (id : TaskId)
  | claimNext (peer : TaskPeer)
  | claim (id : TaskId) (peer : TaskPeer)
  | waitAttempt (id : TaskId) (peer : TaskPeer)
  | heartbeat (id : TaskId) (peer : TaskPeer)
  | complete (id : TaskId) (peer : TaskPeer)
  | fail (id : TaskId) (peer : TaskPeer)
  | claimExecution (id : TaskId) (peer : TaskPeer)
  | retreatRequested (execution : TaskExecutionIdentity) (peer : TaskPeer)
  | suspendExecution (execution : TaskExecutionIdentity) (peer : TaskPeer)
  | heartbeatExecution (execution : TaskExecutionIdentity) (peer : TaskPeer)
  | completeExecution (execution : TaskExecutionIdentity) (peer : TaskPeer)
  | failExecution (execution : TaskExecutionIdentity) (peer : TaskPeer)
  | cancelExecution (execution : TaskExecutionIdentity) (peer : TaskPeer)
  | claimNativeEpoch (id : TaskId) (peer : TaskPeer)
  | pendingNativeEpochExtent (id : TaskId) (peer : TaskPeer)
  | nativeEpochRetreatRequested (execution : TaskExecutionIdentity) (peer : TaskPeer)
  | heartbeatNativeEpoch (execution : TaskExecutionIdentity) (peer : TaskPeer)
  | finishNativeEpoch (execution : TaskExecutionIdentity) (issuedCalls : UInt32) (hasFailed : Bool)
      (peer : TaskPeer)
  | cancelPendingNativeEpoch (id : TaskId) (peer : TaskPeer)
  | find (id : TaskId)
  | stats
  | notifyStateChange
  | reapExpired (pendingOrder activeOrder : List TaskId)
  | rollback (id : TaskId)
  | builds
  | encodes
  | throws
deriving DecidableEq

abbrev ExecutionOp.Reply : ExecutionOp → Type
  | .submit _ _ | .submitCooperative _ _ | .submitNativeEpoch _ _ _ => SubmitResult
  | .claimNext _ | .claimExecution _ _ | .find _ => Option TaskSnapshot
  | .claim _ _ | .waitAttempt _ _ => ClaimReply
  | .retreatRequested _ _ | .nativeEpochRetreatRequested _ _ => Option Bool
  | .claimNativeEpoch _ _ => Option NativeEpochGrant
  | .pendingNativeEpochExtent _ _ => Option NativeEpochExtent
  | .stats => TaskProtocolStats
  | .notifyStateChange | .rollback _ => Unit
  | .cancel _ | .cancelQueued _ _ | .cancelPendingCooperative _ _ | .forgetTerminal _ | .heartbeat _ _ | .complete _ _
  | .fail _ _ | .suspendExecution _ _ | .heartbeatExecution _ _ | .completeExecution _ _ | .failExecution _ _
  | .cancelExecution _ _ | .heartbeatNativeEpoch _ _ | .finishNativeEpoch _ _ _ _ | .cancelPendingNativeEpoch _ _
  | .reapExpired _ _ | .builds | .encodes | .throws => Bool

structure ExecutionInput where
  now : TimePoint := 0
  allocated : Bool := true
  registered : Bool := true
  built : Bool := true
  encoded : Bool := true
  thrown : Bool := false

-- Who submitted each task and whose resources were rolled back is a record that the code does not keep.
structure AuditedExecution where
  service : ExecutionAdmissionState
  submitters : KeyedMap TaskId TaskPeerIdentity := ∅
  rolledBack : List TaskId := []

namespace AuditedExecution

def withService {α : Type} (s : AuditedExecution) (outcome : α × ExecutionAdmissionState) : α × AuditedExecution :=
  (outcome.1, { s with service := outcome.2 })

-- A submission that the scheduler accepted names its task even when it is withdrawn again.
def withSubmission (s : AuditedExecution) (peer : TaskPeer)
    (outcome : SubmitResult × ExecutionAdmissionState) : SubmitResult × AuditedExecution :=
  (outcome.1,
    { s with
      service := outcome.2
      submitters := match peer with
        | some owner => if outcome.1.taskId ≠ 0 then s.submitters.insert outcome.1.taskId owner else s.submitters
        | none => s.submitters })

def serve : (op : ExecutionOp) → ExecutionInput → AuditedExecution → op.Reply × AuditedExecution
  | .submit request peer, i, s => s.withSubmission peer (s.service.submit request peer i.registered i.allocated i.now)
  | .submitCooperative request peer, i, s =>
    s.withSubmission peer (s.service.submitCooperative request peer i.registered i.allocated i.now)
  | .submitNativeEpoch request extent peer, i, s =>
    s.withSubmission peer (s.service.submitNativeEpoch request extent peer i.registered i.allocated i.now)
  | .cancel id, i, s => s.withService (s.service.cancel id i.now)
  | .cancelQueued id peer, _, s => s.withService (s.service.cancelQueued id peer)
  | .cancelPendingCooperative id peer, _, s => s.withService (s.service.cancelPendingCooperative id peer)
  | .forgetTerminal id, _, s => s.withService (s.service.forgetTerminal id)
  | .claimNext peer, i, s => s.withService (s.service.claimNext peer i.allocated i.now)
  | .claim id peer, i, s => s.withService (s.service.claim id peer i.allocated i.now)
  | .waitAttempt id peer, i, s => s.withService (s.service.waitAttempt id peer i.allocated i.now)
  | .heartbeat id peer, i, s => s.withService (s.service.heartbeat id peer i.now)
  | .complete id peer, i, s => s.withService (s.service.complete id peer i.now)
  | .fail id peer, i, s => s.withService (s.service.fail id peer i.now)
  | .claimExecution id peer, i, s => s.withService (s.service.claimExecution id peer i.allocated i.now)
  | .retreatRequested execution peer, _, s => (s.service.retreatRequested execution peer, s)
  | .suspendExecution execution peer, i, s =>
    s.withService (s.service.suspendExecution execution peer i.allocated i.now)
  | .heartbeatExecution execution peer, i, s => s.withService (s.service.heartbeatExecution execution peer i.now)
  | .completeExecution execution peer, i, s => s.withService (s.service.completeExecution execution peer i.now)
  | .failExecution execution peer, i, s => s.withService (s.service.failExecution execution peer i.now)
  | .cancelExecution execution peer, _, s => s.withService (s.service.cancelExecution execution peer)
  | .claimNativeEpoch id peer, i, s => s.withService (s.service.claimNativeEpoch id peer i.allocated i.now)
  | .pendingNativeEpochExtent id peer, _, s => (s.service.pendingNativeEpochExtent id peer, s)
  | .nativeEpochRetreatRequested execution peer, i, s =>
    (s.service.nativeEpochRetreatRequested execution peer i.now, s)
  | .heartbeatNativeEpoch execution peer, _, s => (s.service.heartbeatNativeEpoch execution peer, s)
  | .finishNativeEpoch execution issuedCalls hasFailed peer, i, s =>
    s.withService (s.service.finishNativeEpoch execution issuedCalls hasFailed peer i.now)
  | .cancelPendingNativeEpoch id peer, _, s => s.withService (s.service.cancelPendingNativeEpoch id peer)
  | .find id, _, s => (s.service.scheduler.find id, s)
  | .stats, _, s => (protocolStats s.service.scheduler, s)
  | .notifyStateChange, _, s => s.withService ((), s.service.notifyStateChange)
  | .reapExpired pendingOrder activeOrder, i, s => s.withService (s.service.reapExpired pendingOrder activeOrder i.now)
  | .rollback id, _, s => ((), { s with rolledBack := s.rolledBack ++ [id] })
  | .builds, i, s => (i.built, s)
  | .encodes, i, s => (i.encoded, s)
  | .throws, i, s => (i.thrown, s)

-- The service is called by others than the endpoint: its reaper, and whoever forgets terminal tasks.
structure Outside where
  op : ExecutionOp
  input : ExecutionInput

def outside (event : Outside) (s : AuditedExecution) : AuditedExecution := (serve event.op event.input s).2

end AuditedExecution

inductive TaskExecutionProtocolResponse where
  | plain (response : TaskProtocolResponse)
  | executionLease (lease : TaskProtocolResponse) (generation : Nat)
  | retreat (execution : TaskExecutionIdentity) (shouldRetreat : Bool)
  | executionHandoff (completed : TaskExecutionIdentity) (next : TaskExecutionIdentity)
  | epochError (error : TaskProtocolErrorCode) (requestSequence : Nat)
  | epochPending (id : TaskId) (extent : NativeEpochExtent) (requestSequence : Nat)
  | epochGranted (grant : NativeEpochGrant) (requestSequence : Nat)
  | epochRetreat (execution : TaskExecutionIdentity) (shouldRetreat : Bool) (requestSequence : Nat)
  | epochAcknowledged (operation : NativeEpochOperation) (execution : TaskExecutionIdentity) (issuedCalls : UInt32)
      (requestSequence : Nat)

-- One request line of one peer. Whether the endpoint drains is read from the shutdown phase when the call passes the
-- gate. A wait is found to have passed its deadline after a number of further rounds.
structure ExecutionCall where
  line : Bytes
  peer : TaskPeer
  draining : Bool := false
  rounds : Nat := 0
deriving DecidableEq

inductive UnpublishedTask where
  | none
  | legacyPending (id : TaskId)
  | cooperativePending (id : TaskId)
  | cooperativeActive (execution : TaskExecutionIdentity)
  | nativePending (id : TaskId)
  | nativeActive (execution : TaskExecutionIdentity)

def UnpublishedTask.id : UnpublishedTask → TaskId
  | .none => 0
  | .legacyPending id | .cooperativePending id | .nativePending id => id
  | .cooperativeActive execution | .nativeActive execution => execution.taskId

namespace TaskExecutionEndpoint

open CallTree ExecutionOp

abbrev Call := CallTree ExecutionOp.Reply

abbrev Response := Option TaskExecutionProtocolResponse

section Service
variable (id : TaskId) (peer : TaskPeer)

def announced {α : Type} (result : α) (owed : Bool) : Call α := do
  if owed then
    let _ ← perform notifyStateChange
    return result
  else return result

def claimed (reply : ClaimReply) : Call (Option TaskSnapshot) :=
  match reply with
  | .answered answer => return answer
  | .attempted started => announced started started.isSome

def claimNext : Call (Option TaskSnapshot) := do
  let started : Option TaskSnapshot ← perform (ExecutionOp.claimNext peer)
  announced started started.isSome

def claim : Call (Option TaskSnapshot) := do
  let reply : ClaimReply ← perform (ExecutionOp.claim id peer)
  claimed reply

def waitClaim (id : TaskId) (peer : TaskPeer) : Nat → Call (Option TaskSnapshot)
  | 0 => do
      let reply : ClaimReply ← perform (waitAttempt id peer)
      claimed reply
  | rounds + 1 => do
      let reply : ClaimReply ← perform (waitAttempt id peer)
      match reply with
      | .attempted none => waitClaim id peer rounds
      | reply => claimed reply

-- Operations that announce their change after the admission lock is released.
def concluded (report : Call Bool) : Call Bool := do
  let ended ← report
  announced ended ended

def claimExecution : Call (Option TaskSnapshot) := do
  let started : Option TaskSnapshot ← perform (ExecutionOp.claimExecution id peer)
  announced started started.isSome

def claimNativeEpoch : Call (Option NativeEpochGrant) := do
  let granted : Option NativeEpochGrant ← perform (ExecutionOp.claimNativeEpoch id peer)
  announced granted granted.isSome

end Service

section Publication
variable (peer : TaskPeer)

def withdraw : UnpublishedTask → Call Bool
  | .none => return false
  | .legacyPending id => perform (cancelQueued id peer)
  | .cooperativePending id => concluded (perform (cancelPendingCooperative id peer))
  | .cooperativeActive execution => concluded (perform (failExecution execution peer))
  | .nativePending id => concluded (perform (cancelPendingNativeEpoch id peer))
  | .nativeActive execution => concluded (perform (finishNativeEpoch execution 0 true peer))

def retire (task : UnpublishedTask) : Call Bool := do
  let retired ← withdraw peer task
  if retired then
    let _ ← perform (rollback task.id)
    return true
  else return false

def encoded (response : TaskExecutionProtocolResponse) : Call Response := do
  let encoded : Bool ← perform encodes
  return if encoded then some response else none

-- A task is published with the response that names it, or retired.
def published (task : UnpublishedTask) (response : TaskExecutionProtocolResponse) : Call Response := do
  let encoded : Bool ← perform encodes
  if encoded then return some response
  else
    let _ ← retire peer task
    return none

-- A call that may throw before or after it does its work, while a task is unpublished.
def risking {α : Type} (task : UnpublishedTask) (caught : Call Response) (action : Call α) (rest : α → Call Response) :
    Call Response := do
  let early : Bool ← perform throws
  if early then
    let _ ← retire peer task
    caught
  else
    let result ← action
    let late : Bool ← perform throws
    if late then
      let _ ← retire peer task
      caught
    else rest result

end Publication

section Requests
variable (peer : TaskPeer)

def failure (error : TaskProtocolErrorCode) : Call Response := encoded (.plain (.error error))

-- A lease is announced with a copy of the tenant's name, which may throw.
def leased (task : UnpublishedTask) (response : TaskExecutionProtocolResponse) : Call Response := do
  let built : Bool ← perform builds
  if built then published peer task response
  else
    let _ ← retire peer task
    failure .internalError

def refused (id : TaskId) : Call Response := do
  let current : Option TaskSnapshot ← perform (find id)
  failure (if current.isNone then .unknownTask else .invalidRequest)

def answered (id : TaskId) (done : Bool) (state : TaskState) : Call Response :=
  if done then encoded (.plain (.state id state)) else refused id

def accepted (result : SubmitResult) (rest : TaskId → Call Response) : Call Response :=
  if result.status ≠ .accepted then failure (admissionError result.status) else rest result.taskId

def submit (legacy : Bool) (admission : TaskSpec) : Call Response := do
  let result : SubmitResult ←
    if legacy then perform (ExecutionOp.submit admission peer) else perform (submitCooperative admission peer)
  accepted result fun id =>
    published peer (if legacy then .legacyPending id else .cooperativePending id) (.plain (.accepted id))

def executionAcquire (admission : TaskSpec) : Call Response := do
  let result : SubmitResult ← perform (submitCooperative admission peer)
  accepted result fun id =>
    risking peer (.cooperativePending id) (failure .internalError) (claimExecution id peer) fun started =>
      match started with
      | none => published peer (.cooperativePending id) (.plain (.accepted id))
      | some started =>
        leased peer (.cooperativeActive ⟨id, started.dispatchSequence⟩)
          (.executionLease (leaseResponse started) started.dispatchSequence)

-- The completion stands even if the new admission is rejected.
def executionCompleteAcquire (execution : TaskExecutionIdentity) (admission : TaskSpec) : Call Response := do
  let completed : Bool ← concluded (perform (completeExecution execution peer))
  if !completed then failure .invalidRequest
  else
    let result : SubmitResult ← perform (submitCooperative admission peer)
    if result.status ≠ .accepted then published peer .none (.executionHandoff execution {})
    else
      let id := result.taskId
      risking peer (.cooperativePending id) (failure .internalError) (claimExecution id peer) fun started =>
        match started with
        | none => published peer (.cooperativePending id) (.executionHandoff execution ⟨id, 0⟩)
        | some started =>
          published peer (.cooperativeActive ⟨id, started.dispatchSequence⟩)
            (.executionHandoff execution ⟨id, started.dispatchSequence⟩)

-- A granted repeatable claim is not rolled back; a task neither granted nor queued stays unpublished.
def acquire (admission : TaskSpec) : Call Response := do
  let result : SubmitResult ← perform (ExecutionOp.submit admission peer)
  accepted result fun id =>
    risking peer (.legacyPending id) (failure .internalError) (claim id peer) fun started =>
      match started with
      | some started => leased peer .none (.plain (leaseResponse started))
      | none =>
        risking peer (.legacyPending id) (failure .internalError) (perform (find id)) fun current =>
          if current.any fun existing => existing.state = .queued then
            published peer (.legacyPending id) (.plain (.accepted id))
          else do
            let response ← failure .internalError
            let _ ← retire peer (.legacyPending id)
            return response

def cancel (legacy : Bool) (id : TaskId) : Call Response := do
  let before : Option TaskSnapshot ← perform (find id)
  -- A stopped continuation must use its authenticated generation.
  if before.any fun existing => existing.dispatchSequence ≠ 0 then failure .invalidRequest
  else
    let withdrawn : Bool ← if legacy then pure false else concluded (perform (cancelPendingCooperative id peer))
    if withdrawn then encoded (.plain (.state id .cancelled))
    else
      let cancelled : Bool ← perform (cancelQueued id peer)
      answered id cancelled .cancelled

def query (id : TaskId) : Call Response := do
  let current : Option TaskSnapshot ← perform (find id)
  match current with
  | none => failure .unknownTask
  | some existing => encoded (.plain (.state existing.taskId existing.state))

def executionClaim (id : TaskId) : Call Response := do
  let current : Option TaskSnapshot ← perform (find id)
  if current.isNone then failure .unknownTask
  else
    match ← claimExecution id peer with
    | none => encoded (.plain .empty)
    | some started =>
      leased peer (.cooperativeActive ⟨started.taskId, started.dispatchSequence⟩)
        (.executionLease (leaseResponse started) started.dispatchSequence)

def retreat (execution : TaskExecutionIdentity) : Call Response := do
  let requested : Option Bool ← perform (retreatRequested execution peer)
  match requested with
  | none => failure .invalidRequest
  | some requested => encoded (.retreat execution requested)

-- SUSPEND and the four reports on one dispatch end alike.
def reported (execution : TaskExecutionIdentity) (updated : Bool) : Call Response := do
  let current : Option TaskSnapshot ← perform (find execution.taskId)
  match current with
  | none => failure .invalidRequest
  | some existing =>
    if updated then encoded (.plain (.state existing.taskId existing.state)) else failure .invalidRequest

def claimById (id : TaskId) : Call Response := do
  if id = 0 then
    match ← claimNext peer with
    | some started => leased peer .none (.plain (leaseResponse started))
    | none => encoded (.plain .empty)
  else
    match ← claim id peer with
    | some started => leased peer .none (.plain (leaseResponse started))
    | none =>
      let current : Option TaskSnapshot ← perform (find id)
      if current.isNone then failure .unknownTask else encoded (.plain .empty)

def wait (id : TaskId) (rounds : Nat) : Call Response := do
  match ← waitClaim id peer rounds with
  | some started => leased peer .none (.plain (leaseResponse started))
  | none =>
    let current : Option TaskSnapshot ← perform (find id)
    match current with
    | none => failure .unknownTask
    | some existing =>
      if existing.state ≠ .queued then encoded (.plain (.state existing.taskId existing.state))
      else encoded (.plain .empty)

end Requests

section NativeEpoch
variable (peer : TaskPeer)

-- An exception in this handler ends the call without a response.
def nativeGrant (task : UnpublishedTask) (id : TaskId) (sequence : Nat) : Call Response :=
  risking peer task (return none) (claimNativeEpoch id peer) fun granted =>
    match granted with
    | some grant => published peer (.nativeActive grant.execution) (.epochGranted grant sequence)
    | none =>
      risking peer task (return none) (perform (pendingNativeEpochExtent id peer)) fun pending =>
        match (pending : Option NativeEpochExtent) with
        | some extent => published peer task (.epochPending id extent sequence)
        | none => published peer task (.epochError .invalidRequest sequence)

def acknowledged (request : NativeEpochRequest) (done : Bool) : Call Response :=
  encoded (if done then .epochAcknowledged request.operation request.execution request.issuedCalls request.requestSequence
    else .epochError .invalidRequest request.requestSequence)

def dispatchNative (request : NativeEpochRequest) : Call Response := do
  let sequence := request.requestSequence
  let execution := request.execution
  match request.operation with
  | .acquire =>
    let result : SubmitResult ← perform (submitNativeEpoch request.admission request.extent peer)
    if result.status ≠ .accepted then encoded (.epochError (admissionError result.status) sequence)
    else nativeGrant peer (.nativePending result.taskId) result.taskId sequence
  | .claim => nativeGrant peer .none execution.taskId sequence
  | .retreat =>
    let requested : Option Bool ← perform (nativeEpochRetreatRequested execution peer)
    match requested with
    | some requested => encoded (.epochRetreat execution requested sequence)
    | none => encoded (.epochError .invalidRequest sequence)
  | .heartbeat =>
    let known : Bool ← perform (heartbeatNativeEpoch execution peer)
    acknowledged request known
  | .complete => acknowledged request (← concluded (perform (finishNativeEpoch execution request.issuedCalls false peer)))
  | .fail => acknowledged request (← concluded (perform (finishNativeEpoch execution request.issuedCalls true peer)))
  | .cancelPending => acknowledged request (← concluded (perform (cancelPendingNativeEpoch execution.taskId peer)))

def handleNativeEpoch (call : ExecutionCall) : Call Response :=
  match parseNativeEpochRequest call.line with
  | none => encoded (.epochError .invalidRequest 0)
  | some request =>
    if call.draining ∧ (request.operation = .acquire ∨ request.operation = .claim) then
      encoded (.epochError .invalidRequest request.requestSequence)
    else dispatchNative call.peer request

end NativeEpoch

-- Cooperative execution is supported exactly if leases are bound to processes.
def dispatch (bound : Bool) (call : ExecutionCall) (legacy : Bool) (request : TaskExecutionProtocolRequest) :
    Call Response := do
  let peer := call.peer
  let id := request.taskId
  let execution : TaskExecutionIdentity := ⟨id, request.generation⟩
  match request.operation with
  | .submit => submit peer legacy request.admission
  | .acquire => acquire peer request.admission
  | .executionAcquire => if bound then executionAcquire peer request.admission else failure .invalidRequest
  | .executionCompleteAcquire =>
    if bound then executionCompleteAcquire peer execution request.admission else failure .invalidRequest
  | .cancel => cancel peer legacy id
  | .query => query id
  | .executionClaim => if bound then executionClaim peer id else failure .invalidRequest
  | .retreat => retreat peer execution
  | .suspend => reported execution (← concluded (perform (suspendExecution execution peer)))
  | .executionHeartbeat =>
    let renewed : Bool ← perform (heartbeatExecution execution peer)
    reported execution renewed
  | .executionComplete => reported execution (← concluded (perform (completeExecution execution peer)))
  | .executionFail => reported execution (← concluded (perform (failExecution execution peer)))
  | .executionCancel => reported execution (← concluded (perform (cancelExecution execution peer)))
  | .heartbeat =>
    let renewed : Bool ← perform (heartbeat id peer)
    answered id renewed .running
  | .claim => claimById peer id
  | .wait => wait peer id call.rounds
  | .stats =>
    let stats : TaskProtocolStats ← perform stats
    encoded (.plain (.stats stats))
  | .metrics =>
    let stats : TaskProtocolStats ← perform stats
    encoded (.plain (.metrics stats))
  | .complete => answered id (← concluded (perform (complete id peer))) .completed
  | .fail => answered id (← concluded (perform (fail id peer))) .failed

-- A legacy line is read as the request of the same name.
def parseEnvelope (line : Bytes) : Except TaskProtocolParseError (Bool × TaskExecutionProtocolRequest) :=
  if envelope line = kTaskExecutionProtocolVersion then (parseTaskExecutionProtocolRequest line).map (false, ·)
  else (parseTaskProtocolRequest line).map fun request =>
    (true, { operation := executionOperation request.operation, admission := request.admission, taskId := request.taskId,
             waitTimeoutMs := request.waitTimeoutMs })

def handle (bound : Bool) (call : ExecutionCall) : Call Response :=
  if envelope call.line = kNativeEpochProtocolVersion then handleNativeEpoch call
  else match parseEnvelope call.line with
    | .error error => failure (parseErrorCode error)
    | .ok (legacy, request) =>
      if call.draining ∧ createsOrDispatches request.operation then failure .invalidRequest
      else dispatch bound call legacy request

end TaskExecutionEndpoint

end Glimmer.Control
