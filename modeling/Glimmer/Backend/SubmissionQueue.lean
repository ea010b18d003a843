import Glimmer.Lib.Roster

namespace Glimmer.Backend

open Lib

def maxCounter : Nat := 2 ^ 64 - 1

structure ExecutionReceipt where
  owner : Option Nat
  sequence : Nat
deriving DecidableEq

structure ExecutionIssueToken where
  owner : Option Nat
  sequence : Nat
  generation : Nat
deriving DecidableEq

structure ExecutionSessionIdentity where
  clientId : Nat
  serverIncarnation : Nat
  firstSequence : Nat
  counted : firstSequence ≤ maxCounter

structure ExecutionSubmissionLimits where
  maxCommands : Nat
  maxParameterBytes : Nat
  maxRetainedHostBytes : Nat

-- The lifetime is the trusted lease of the request; a null one is absent.
structure ExecutionRequest where
  operation : Nat
  context : Nat
  stream : Nat
  parameters : List UInt8
  lifetime : Option Nat
  parameterCapacityBytes : Nat := 0

inductive ExecutionAcceptStatus where
  | accepted
  | invalid
  | wrongSequence
  | wrongProcess
  | full
  | closed
  | quarantined
  | outOfMemory
deriving DecidableEq

inductive ExecutionReplyOrigin where
  | nativeSdk
  | rejectedBeforeIssue
  | uncertainIssue
deriving DecidableEq

structure ExecutionHostReply where
  status : Int
  origin : ExecutionReplyOrigin
deriving DecidableEq

structure ExecutionIssue where
  receipt : ExecutionReceipt
  token : ExecutionIssueToken
  operation : Nat
  context : Nat
  stream : Nat
  parameters : List UInt8
deriving DecidableEq

inductive Phase where
  | queued
  | issuing
  | hostReturned
  | paused
  | resuming
deriving DecidableEq

structure Payload where
  parameters : List UInt8
  lifetime : Nat
deriving DecidableEq

structure Entry where
  sequence : Nat
  generation : Nat := 0
  operation : Nat
  context : Nat
  stream : Nat
  phase : Phase := .queued
  reply : Option ExecutionHostReply := none
  payload : Option Payload
  issueParameterBytes : Nat
  isAcknowledged : Bool := false
  isPhysicallyStopped : Bool := false
  isReleasingPayload : Bool := false
deriving DecidableEq

-- The thread whose lifetime the queue observes weakly.
structure Executor where
  thread : Nat
  isAlive : Bool
deriving DecidableEq

structure Queue where
  session : ExecutionSessionIdentity
  limits : ExecutionSubmissionLimits
  processId : Nat
  identity : Nat
  entries : List Entry := []
  executor : Option Executor := none
  nextSequence : Nat
  parameterBytes : Nat := 0
  hostBytes : Nat := 0
  hasSequenceSpace : Bool := true
  isClosing : Bool := false
  isQuarantined : Bool := false

structure Caller where
  process : Nat
  thread : Nat
deriving DecidableEq

def Payload.write (payload : Payload) (offset : Nat) (bytes : List UInt8) : Payload :=
  { payload with
    parameters :=
      payload.parameters.take offset ++ bytes ++ payload.parameters.drop (offset + bytes.length) }

def Entry.isIssuing (entry : Entry) : Bool := entry.phase == .issuing || entry.phase == .resuming

def Entry.isCollectable (entry : Entry) : Bool :=
  entry.isAcknowledged && entry.isPhysicallyStopped && !entry.isReleasingPayload

def construct (session : ExecutionSessionIdentity) (limits : ExecutionSubmissionLimits) (processId identity : Nat) :
    Option Queue :=
  if session.clientId == 0 || session.serverIncarnation == 0 || session.firstSequence == 0 ||
      limits.maxCommands == 0 || limits.maxParameterBytes == 0 || limits.maxRetainedHostBytes == 0 then none
  else
    some { session := session, limits := limits, processId := processId, identity := identity,
           nextSequence := session.firstSequence }

namespace Queue

variable (queue : Queue) (caller : Caller) (receipt : ExecutionReceipt) (token : ExecutionIssueToken)
  (failureStatus : Int)

def isExecutor : Bool :=
  queue.executor == some { thread := caller.thread, isAlive := true }

def executorExpired : Bool :=
  match queue.executor with
  | none => false
  | some executor => !executor.isAlive

def find (owner : Option Nat) (sequence : Nat) : Option Entry :=
  if owner ≠ some queue.identity || sequence == 0 then none
  else lookupKey Entry.sequence sequence queue.entries

def findReceipt : Option Entry :=
  queue.find receipt.owner receipt.sequence

def findIssue : Option Entry :=
  (queue.find token.owner token.sequence).filter
    (fun entry => entry.generation != 0 && entry.generation == token.generation)

def isIssuing : Bool := queue.entries.any Entry.isIssuing

def modifyEntry (sequence : Nat) (change : Entry → Entry) : Queue :=
  { queue with entries := amend Entry.sequence sequence change queue.entries }

def collect (sequence : Nat) : Queue :=
  match lookupKey Entry.sequence sequence queue.entries with
  | none => queue
  | some entry =>
    if entry.isCollectable then { queue with entries := strike Entry.sequence sequence queue.entries } else queue

def issue (entry : Entry) : ExecutionIssue where
  receipt := { owner := some queue.identity, sequence := entry.sequence }
  token := { owner := some queue.identity, sequence := entry.sequence, generation := entry.generation }
  operation := entry.operation
  context := entry.context
  stream := entry.stream
  parameters := (entry.payload.elim [] (fun payload => payload.parameters)).take entry.issueParameterBytes

def quarantine : Queue := { queue with isClosing := true, isQuarantined := true }

def close : Queue := { queue with isClosing := true }

def shutdown : Queue × Bool := (queue.close, queue.entries.isEmpty)

def bindExecutor : Queue × Bool :=
  if queue.isClosing && queue.entries.isEmpty then (queue, false)
  else
    match queue.executor with
    | some _ =>
      let queue := if queue.executorExpired then queue.quarantine else queue
      (queue, queue.isExecutor caller)
    | none => ({ queue with executor := some { thread := caller.thread, isAlive := true } }, true)

-- `allocates` says whether the memory for the new object can be allocated.
def allocateHostStorage (bytes : Nat) (allocates : Bool) : Queue × ExecutionAcceptStatus :=
  if !queue.isExecutor caller || bytes == 0 then (queue, .invalid)
  else if queue.isQuarantined then (queue, .quarantined)
  else if queue.isClosing then (queue, .closed)
  else if bytes > queue.limits.maxRetainedHostBytes then (queue, .outOfMemory)
  else if bytes > queue.limits.maxRetainedHostBytes - queue.hostBytes then (queue, .full)
  else if !allocates then (queue, .outOfMemory)
  else ({ queue with hostBytes := queue.hostBytes + bytes }, .accepted)

def requestCapacity (request : ExecutionRequest) : Nat :=
  if request.parameterCapacityBytes ≠ 0 then request.parameterCapacityBytes else request.parameters.length

-- The entry of an accepted request; its parameters are the request's, padded with zeros to the reserved capacity.
def freshEntry (sequence : Nat) (request : ExecutionRequest) (lifetime : Nat) : Entry where
  sequence := sequence
  operation := request.operation
  context := request.context
  stream := request.stream
  payload := some
    { parameters := request.parameters ++ List.replicate (requestCapacity request - request.parameters.length) 0
      lifetime := lifetime }
  issueParameterBytes := request.parameters.length

def append (entry : Entry) (capacity : Nat) : Queue :=
  { queue with
    entries := queue.entries ++ [entry]
    parameterBytes := queue.parameterBytes + capacity
    hasSequenceSpace := if entry.sequence == maxCounter then false else queue.hasSequenceSpace
    nextSequence := if entry.sequence == maxCounter then queue.nextSequence else queue.nextSequence + 1 }

def acceptChecked (sequence : Nat) (request : ExecutionRequest) (lifetime : Nat) (allocates : Bool) :
    Queue × ExecutionAcceptStatus :=
  if queue.isQuarantined then (queue, .quarantined)
  else if queue.isClosing then (queue, .closed)
  else if !queue.hasSequenceSpace || sequence ≠ queue.nextSequence then (queue, .wrongSequence)
  else if requestCapacity request > queue.limits.maxParameterBytes then (queue, .outOfMemory)
  else if queue.entries.length ≥ queue.limits.maxCommands ||
      requestCapacity request > queue.limits.maxParameterBytes - queue.parameterBytes then (queue, .full)
  else if !allocates then (queue, .outOfMemory)
  else (queue.append (freshEntry sequence request lifetime) (requestCapacity request), .accepted)

def accept (sequence : Nat) (request : ExecutionRequest) (allocates : Bool) : Queue × ExecutionAcceptStatus :=
  match request.lifetime with
  | none => (queue, .invalid)
  | some lifetime =>
    if sequence == 0 || request.operation == 0 || request.context == 0 ||
        requestCapacity request < request.parameters.length then (queue, .invalid)
    else
      let queue := if queue.executorExpired then queue.quarantine else queue
      queue.acceptChecked sequence request lifetime allocates

def selectable (receipt : Option ExecutionReceipt) (entry : Entry) : Bool :=
  entry.phase == .queued &&
    match receipt with
    | none => true
    | some receipt => queue.findReceipt receipt == some entry

def issueEntry (entry : Entry) : Entry := { entry with phase := .issuing, generation := 1 }

def takeNext (receipt : Option ExecutionReceipt) : Queue × Option ExecutionIssue :=
  if !queue.isExecutor caller || queue.isQuarantined || queue.isIssuing then (queue, none)
  else
    match queue.entries.find? (queue.selectable receipt) with
    | none => (queue, none)
    | some entry => (queue.modifyEntry entry.sequence issueEntry, some (queue.issue (issueEntry entry)))

def onEntry (found : Option Entry) (permits : Entry → Bool) (change : Entry → Entry) : Queue × Bool :=
  match found with
  | none => (queue, false)
  | some entry =>
    if queue.isExecutor caller && permits entry then (queue.modifyEntry entry.sequence change, true)
    else (queue, false)

def isPreparable (entry : Entry) : Bool :=
  !queue.isQuarantined && entry.payload.isSome && entry.phase == .queued && entry.generation == 0 &&
    entry.reply.isNone && !entry.isReleasingPayload

def limitUnissuedParameters (bytes : Nat) : Queue × Bool :=
  queue.onEntry caller (queue.findReceipt receipt)
    (fun entry => queue.isPreparable entry && bytes ≤ entry.issueParameterBytes)
    (fun entry => { entry with issueParameterBytes := bytes })

def copyUnissuedParameters (size : Nat) : Option (List UInt8) :=
  match queue.findReceipt receipt with
  | none => none
  | some entry =>
    if queue.isExecutor caller && queue.isPreparable entry && size == entry.issueParameterBytes then
      entry.payload.map (fun payload => payload.parameters.take size)
    else none

def replaceUnissuedParameters (input : List UInt8) : Queue × Bool :=
  queue.onEntry caller (queue.findReceipt receipt)
    (fun entry => queue.isPreparable entry && entry.payload.any (fun payload => input.length ≤ payload.parameters.length))
    (fun entry =>
      { entry with
        payload := entry.payload.map (fun payload => payload.write 0 input)
        issueParameterBytes := input.length })

def patchIssueParameters (offset : Nat) (bytes : List UInt8) : Queue × Bool :=
  if bytes.isEmpty then (queue, false)
  else
    queue.onEntry caller (queue.findIssue token)
      (fun entry => !queue.isQuarantined && entry.payload.isSome && entry.isIssuing &&
        offset ≤ entry.issueParameterBytes && bytes.length ≤ entry.issueParameterBytes - offset)
      (fun entry => { entry with payload := entry.payload.map (fun payload => payload.write offset bytes) })

def returned (status : Int) (origin : ExecutionReplyOrigin) (entry : Entry) : Entry :=
  { entry with reply := some { status := status, origin := origin }, phase := .hostReturned }

def retired (entry : Entry) : Entry := { entry with isPhysicallyStopped := true, isReleasingPayload := true }

def publishHostResult (nativeStatus : Int) : Queue × Bool :=
  queue.onEntry caller (queue.findIssue token) (fun entry => entry.phase == .issuing) (returned nativeStatus .nativeSdk)

def failUncertainIssue : Queue × Bool :=
  if failureStatus == 0 then (queue, false)
  else
    let (next, failed) := queue.onEntry caller (queue.findIssue token) Entry.isIssuing
      (fun entry =>
        if entry.phase == .issuing then returned failureStatus .uncertainIssue entry
        else { entry with phase := .hostReturned })
    if failed then (next.quarantine, true) else (queue, false)

def publishPreparationFailure : Queue × Bool :=
  if failureStatus == 0 then (queue, false)
  else
    queue.onEntry caller (queue.findIssue token) (fun entry => entry.phase == .issuing)
      (returned failureStatus .rejectedBeforeIssue)

def rejectUnissued : Queue × Bool :=
  if failureStatus == 0 then (queue, false)
  else
    queue.onEntry caller (queue.findReceipt receipt) (fun entry => entry.phase == .queued)
      (fun entry => retired (returned failureStatus .rejectedBeforeIssue entry))

def rejectBeforeNativeIssue : Queue × Bool :=
  if failureStatus == 0 then (queue, false)
  else
    queue.onEntry caller (queue.findIssue token) (fun entry => entry.phase == .issuing)
      (fun entry => retired (returned failureStatus .rejectedBeforeIssue entry))

def hostResult : Option ExecutionHostReply :=
  match queue.findReceipt receipt with
  | none => none
  | some entry => if entry.isAcknowledged then none else entry.reply

def acknowledgeResult : Queue × Bool :=
  match queue.findReceipt receipt with
  | none => (queue, false)
  | some entry =>
    if entry.reply.isNone || entry.isAcknowledged then (queue, false)
    else
      ((queue.modifyEntry entry.sequence (fun entry => { entry with isAcknowledged := true })).collect entry.sequence,
        true)

def completeAfterPhysicalStop : Queue × Bool :=
  queue.onEntry caller (queue.findIssue token)
    (fun entry => entry.phase == .hostReturned && !entry.isPhysicallyStopped) retired

def pauseAfterPhysicalStop : Queue × Bool :=
  queue.onEntry caller (queue.findIssue token)
    (fun entry => entry.phase == .hostReturned && !entry.isPhysicallyStopped &&
      entry.reply == some { status := 0, origin := .nativeSdk })
    (fun entry => { entry with phase := .paused })

def resumeEntry (entry : Entry) : Entry := { entry with generation := entry.generation + 1, phase := .resuming }

def resumeAfterPhysicalStop : Queue × Option ExecutionIssue :=
  match queue.findIssue token with
  | none => (queue, none)
  | some entry =>
    if !queue.isExecutor caller || queue.isQuarantined || entry.phase ≠ .paused || queue.isIssuing then (queue, none)
    else if entry.generation == maxCounter then (queue.quarantine, none)
    else (queue.modifyEntry entry.sequence resumeEntry, some (queue.issue (resumeEntry entry)))

def finishContinuationIssue : Queue × Bool :=
  queue.onEntry caller (queue.findIssue token) (fun entry => entry.phase == .resuming)
    (fun entry => { entry with phase := .hostReturned })

-- The two critical sections of a release; the payload is destroyed between them.
def movePayload (sequence : Nat) : Queue × Nat :=
  match lookupKey Entry.sequence sequence queue.entries with
  | none => (queue, 0)
  | some entry =>
    (queue.modifyEntry sequence (fun entry => { entry with payload := none }),
      entry.payload.elim 0 (fun payload => payload.parameters.length))

def finishRelease (sequence bytes : Nat) : Queue :=
  let queue := { queue with parameterBytes := queue.parameterBytes - bytes }
  (queue.modifyEntry sequence (fun entry => { entry with isReleasingPayload := false })).collect sequence

end Queue

inductive Call where
  | bindExecutor
  | allocateHostStorage (bytes : Nat) (allocates : Bool)
  | accept (sequence : Nat) (request : ExecutionRequest) (allocates : Bool)
  | takeNext (receipt : Option ExecutionReceipt)
  | limitUnissuedParameters (receipt : ExecutionReceipt) (bytes : Nat)
  | copyUnissuedParameters (receipt : ExecutionReceipt) (size : Nat)
  | replaceUnissuedParameters (receipt : ExecutionReceipt) (input : List UInt8)
  | patchIssueParameters (token : ExecutionIssueToken) (offset : Nat) (bytes : List UInt8)
  | publishHostResult (token : ExecutionIssueToken) (nativeStatus : Int)
  | publishPreparationFailure (token : ExecutionIssueToken) (failureStatus : Int)
  | failUncertainIssue (token : ExecutionIssueToken) (failureStatus : Int)
  | rejectUnissued (receipt : ExecutionReceipt) (failureStatus : Int)
  | rejectBeforeNativeIssue (token : ExecutionIssueToken) (failureStatus : Int)
  | hostResult (receipt : ExecutionReceipt)
  | acknowledgeResult (receipt : ExecutionReceipt)
  | completeAfterPhysicalStop (token : ExecutionIssueToken)
  | pauseAfterPhysicalStop (token : ExecutionIssueToken)
  | resumeAfterPhysicalStop (token : ExecutionIssueToken)
  | finishContinuationIssue (token : ExecutionIssueToken)
  | close
  | quarantine
  | shutdown

inductive Outcome where
  | flag (succeeded : Bool)
  | acceptance (status : ExecutionAcceptStatus) (receipt : Option ExecutionReceipt)
  | allocation (status : ExecutionAcceptStatus)
  | issue (issued : Option ExecutionIssue)
  | parameters (copied : Option (List UInt8))
  | reply (result : Option ExecutionHostReply)
  | none
deriving DecidableEq

-- What a call returns in a process that only inherited the queue.
def Call.wrongProcess : Call → Outcome
  | .allocateHostStorage _ _ => .allocation .wrongProcess
  | .accept _ _ _ => .acceptance .wrongProcess Option.none
  | .takeNext _ | .resumeAfterPhysicalStop _ => .issue Option.none
  | .copyUnissuedParameters _ _ => .parameters Option.none
  | .hostResult _ => .reply Option.none
  | .close | .quarantine => .none
  | _ => .flag false

def Queue.acceptance (queue : Queue) (sequence : Nat) (status : ExecutionAcceptStatus) : Outcome :=
  .acceptance status
    (if status = .accepted then some { owner := some queue.identity, sequence := sequence } else Option.none)

def Queue.perform (queue : Queue) (caller : Caller) : Call → Queue × Outcome
  | .bindExecutor => (queue.bindExecutor caller).map id .flag
  | .allocateHostStorage bytes allocates => (queue.allocateHostStorage caller bytes allocates).map id .allocation
  | .accept sequence request allocates =>
    (queue.accept sequence request allocates).map id (queue.acceptance sequence)
  | .takeNext receipt => (queue.takeNext caller receipt).map id .issue
  | .limitUnissuedParameters receipt bytes => (queue.limitUnissuedParameters caller receipt bytes).map id .flag
  | .copyUnissuedParameters receipt size => (queue, .parameters (queue.copyUnissuedParameters caller receipt size))
  | .replaceUnissuedParameters receipt input => (queue.replaceUnissuedParameters caller receipt input).map id .flag
  | .patchIssueParameters token offset bytes => (queue.patchIssueParameters caller token offset bytes).map id .flag
  | .publishHostResult token status => (queue.publishHostResult caller token status).map id .flag
  | .publishPreparationFailure token status => (queue.publishPreparationFailure caller token status).map id .flag
  | .failUncertainIssue token status => (queue.failUncertainIssue caller token status).map id .flag
  | .rejectUnissued receipt status => (queue.rejectUnissued caller receipt status).map id .flag
  | .rejectBeforeNativeIssue token status => (queue.rejectBeforeNativeIssue caller token status).map id .flag
  | .hostResult receipt => (queue, .reply (queue.hostResult receipt))
  | .acknowledgeResult receipt => (queue.acknowledgeResult receipt).map id .flag
  | .completeAfterPhysicalStop token => (queue.completeAfterPhysicalStop caller token).map id .flag
  | .pauseAfterPhysicalStop token => (queue.pauseAfterPhysicalStop caller token).map id .flag
  | .resumeAfterPhysicalStop token => (queue.resumeAfterPhysicalStop caller token).map id .issue
  | .finishContinuationIssue token => (queue.finishContinuationIssue caller token).map id .flag
  | .close => (queue.close, .none)
  | .quarantine => (queue.quarantine, .none)
  | .shutdown => queue.shutdown.map id .flag

def Call.releases : Call → Option Nat
  | .rejectUnissued receipt _ => some receipt.sequence
  | .rejectBeforeNativeIssue token _ => some token.sequence
  | .completeAfterPhysicalStop token => some token.sequence
  | _ => Option.none

-- A call that has marked its command; its payload is in its entry, or moved out with these bytes.
structure Release where
  thread : Nat
  sequence : Nat
  moved : Option Nat := Option.none

-- The calls in the middle of a release stand with the innermost call of each thread first.
structure System where
  queue : Queue
  releases : List Release := []
  storages : List Nat := []
  exited : List Nat := []

inductive Event where
  | call (caller : Caller) (call : Call)
  | movePayload (thread : Nat)
  | finishRelease (thread : Nat)
  | dropStorage (index : Nat)
  | exitThread (thread : Nat)

namespace System

variable (system : System)

def isReleasing (thread : Nat) : Bool :=
  system.releases.any (fun release => release.thread == thread)

-- Between marking a command and taking its payload; destroying that may call the queue again.
def isBusy (thread : Nat) : Bool :=
  match lookupKey Release.thread thread system.releases with
  | some release => release.moved.isNone
  | Option.none => false

def begun (thread : Nat) (call : Call) (outcome : Outcome) : List Release :=
  match call.releases with
  | some sequence =>
    if outcome = .flag true then { thread := thread, sequence := sequence } :: system.releases else system.releases
  | Option.none => system.releases

def allocated (call : Call) (outcome : Outcome) : List Nat :=
  match call with
  | .allocateHostStorage bytes _ =>
    if outcome = .allocation .accepted then system.storages ++ [bytes] else system.storages
  | _ => system.storages

def performCall (caller : Caller) (call : Call) : System × Outcome :=
  if caller.process ≠ system.queue.processId then (system, call.wrongProcess)
  else
    let (queue, outcome) := system.queue.perform caller call
    ({ system with
        queue := queue
        releases := system.begun caller.thread call outcome
        storages := system.allocated call outcome }, outcome)

def exitThread (thread : Nat) : System :=
  { system with
    exited := thread :: system.exited
    queue :=
      { system.queue with
        executor := system.queue.executor.map (fun executor =>
          if executor.thread = thread then { executor with isAlive := false } else executor) } }

-- One critical section, or one step of the environment. A call that releases a payload is answered by its first
-- section; the other two belong to the innermost release of the thread. An event that is not possible changes nothing.
def step : Event → System × Outcome
  | .call caller call =>
    if system.exited.contains caller.thread || system.isBusy caller.thread then (system, .none)
    else system.performCall caller call
  | .movePayload thread =>
    match lookupKey Release.thread thread system.releases with
    | some { sequence := sequence, moved := Option.none, .. } =>
      let (queue, bytes) := system.queue.movePayload sequence
      ({ system with
          queue := queue
          releases := amend Release.sequence sequence (fun release => { release with moved := some bytes })
            system.releases }, .none)
    | _ => (system, .none)
  | .finishRelease thread =>
    match lookupKey Release.thread thread system.releases with
    | some { sequence := sequence, moved := some bytes, .. } =>
      ({ system with
          queue := system.queue.finishRelease sequence bytes
          releases := strike Release.sequence sequence system.releases }, .none)
    | _ => (system, .none)
  | .dropStorage index =>
    match system.storages[index]? with
    | some bytes =>
      ({ system with
          storages := system.storages.eraseIdx index
          queue := { system.queue with hostBytes := system.queue.hostBytes - bytes } }, .none)
    | Option.none => (system, .none)
  | .exitThread thread =>
    if system.exited.contains thread || system.isReleasing thread then (system, .none)
    else (system.exitThread thread, .none)

end System

end Glimmer.Backend
