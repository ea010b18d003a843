import Glimmer.Control.Admission
import Glimmer.Control.TaskProtocol

namespace Glimmer.Control

open Glimmer.Core

structure TaskExecutionIdentity where
  taskId : TaskId := 0
  generation : Nat := 0
deriving DecidableEq

structure NativeEpochExtent where
  maxCalls : UInt32 := 0
  callsPerPrefix : UInt32 := 0
  maxPendingPrefixes : UInt32 := 0
  acceptanceMicroseconds : UInt32 := 0
deriving DecidableEq

structure NativeEpochGrant where
  execution : TaskExecutionIdentity
  extent : NativeEpochExtent
  acceptanceDeadlineNanoseconds : Nat := 0

def validNativeEpochExtent (extent : NativeEpochExtent) : Bool :=
  extent.maxCalls ≠ 0 && extent.maxCalls ≤ 65536 && extent.callsPerPrefix ≠ 0 &&
    extent.callsPerPrefix ≤ extent.maxCalls && extent.maxPendingPrefixes ≠ 0 && extent.maxPendingPrefixes ≤ 16 &&
    extent.acceptanceMicroseconds ≠ 0 && extent.acceptanceMicroseconds ≤ 1000000

def kTaskExecutionProtocolVersion : Bytes := ascii "GLIMMER_TASK_EXEC_V1"
def kNativeEpochProtocolVersion : Bytes := ascii "GLIMMER_EPOCH_V2"

inductive TaskExecutionProtocolOperation where
  | submit | acquire | cancel | query | claim | wait | heartbeat | complete | fail | stats | metrics
  | executionClaim | retreat | suspend | executionHeartbeat | executionComplete | executionFail | executionCancel
  | executionAcquire | executionCompleteAcquire
deriving DecidableEq

structure TaskExecutionProtocolRequest where
  operation : TaskExecutionProtocolOperation := .submit
  admission : TaskSpec := { tenantId := "" }
  taskId : TaskId := 0
  waitTimeoutMs : UInt32 := 0
  generation : Nat := 0

def kExecutionOperations : List (Bytes × TaskExecutionProtocolOperation) :=
  [(ascii "EXEC_CLAIM", .executionClaim), (ascii "RETREAT", .retreat), (ascii "SUSPEND", .suspend),
    (ascii "EXEC_HEARTBEAT", .executionHeartbeat), (ascii "EXEC_COMPLETE", .executionComplete),
    (ascii "EXEC_FAIL", .executionFail), (ascii "EXEC_CANCEL", .executionCancel)]

-- ID GENERATION TENANT MEMORY WEIGHT WORK [PRIORITY]. The admission is checked
-- for its shape and tenant before the identity; every later error is the same.
def parseHandoff : List Bytes → Except TaskProtocolParseError TaskExecutionProtocolRequest
  | token :: generation :: rest => do
      let admission ← parseAdmission rest
      match parsePositive64 token, parsePositive64 generation with
      | some id, some generation =>
        return { operation := .executionCompleteAcquire, admission := admission, taskId := id, generation := generation }
      | _, _ => throw .invalidValue
  | _ => throw .malformed

def parseExecution (operation : TaskExecutionProtocolOperation) :
    List Bytes → Except TaskProtocolParseError TaskExecutionProtocolRequest
  | [token] => do
      if operation ≠ .executionClaim then throw .malformed
      return { operation := operation, taskId := ← parseTaskId token }
  | [token, generation] => do
      if operation = .executionClaim then throw .malformed
      match parsePositive64 token, parsePositive64 generation with
      | some id, some generation => return { operation := operation, taskId := id, generation := generation }
      | _, _ => throw .invalidValue
  | _ => throw .malformed

def parseTaskExecutionProtocolRequest (line : Bytes) : Except TaskProtocolParseError TaskExecutionProtocolRequest := do
  let tokens ← requestTokens kTaskExecutionProtocolVersion line
  let verb := tokens.getD 1 []
  let arguments := tokens.drop 2
  if verb = ascii "EXEC_COMPLETE_ACQUIRE" then parseHandoff arguments
  else if verb = ascii "SUBMIT" ∨ verb = ascii "ACQUIRE" ∨ verb = ascii "EXEC_ACQUIRE" then
    let admission ← parseAdmission arguments
    let operation := if verb = ascii "SUBMIT" then .submit else if verb = ascii "ACQUIRE" then .acquire
      else .executionAcquire
    return { operation := operation, admission := admission }
  else if verb = ascii "CLAIM" then
    return { operation := .claim, taskId := ← parseClaim arguments }
  else if let some operation := kExecutionOperations.lookup verb then parseExecution operation arguments
  else if verb = ascii "WAIT" then
    let (id, timeout) ← parseWait arguments
    return { operation := .wait, taskId := id, waitTimeoutMs := timeout }
  else if verb = ascii "STATS" ∨ verb = ascii "METRICS" then
    if arguments ≠ [] then throw .malformed
    return { operation := if verb = ascii "STATS" then .stats else .metrics }
  else
    let id ← parseOneTask arguments
    if verb = ascii "CANCEL" then return { operation := .cancel, taskId := id }
    else if verb = ascii "QUERY" then return { operation := .query, taskId := id }
    else if verb = ascii "HEARTBEAT" then return { operation := .heartbeat, taskId := id }
    else if verb = ascii "COMPLETE" then return { operation := .complete, taskId := id }
    else if verb = ascii "FAIL" then return { operation := .fail, taskId := id }
    else throw .malformed

def executionOperation : TaskProtocolOperation → TaskExecutionProtocolOperation
  | .submit => .submit
  | .acquire => .acquire
  | .cancel => .cancel
  | .query => .query
  | .claim => .claim
  | .wait => .wait
  | .heartbeat => .heartbeat
  | .complete => .complete
  | .fail => .fail
  | .stats => .stats
  | .metrics => .metrics

def createsOrDispatches : TaskExecutionProtocolOperation → Bool
  | .submit | .acquire | .claim | .wait | .executionClaim | .executionAcquire | .executionCompleteAcquire => true
  | _ => false

inductive NativeEpochOperation where
  | acquire | claim | retreat | heartbeat | complete | fail | cancelPending
deriving DecidableEq

structure NativeEpochRequest where
  operation : NativeEpochOperation := .acquire
  admission : TaskSpec := { tenantId := "" }
  extent : NativeEpochExtent := {}
  execution : TaskExecutionIdentity := {}
  issuedCalls : UInt32 := 0
  requestSequence : Nat := 0

def kNativeOperations : List (Bytes × NativeEpochOperation) :=
  [(ascii "ACQUIRE", .acquire), (ascii "CLAIM", .claim), (ascii "RETREAT", .retreat), (ascii "HEARTBEAT", .heartbeat),
    (ascii "COMPLETE", .complete), (ascii "FAIL", .fail), (ascii "CANCEL_PENDING", .cancelPending)]

def tokenize (line : Bytes) : Option (List Bytes) :=
  if line = [] ∨ line.length > kTaskProtocolMaxLineBytes then none
  else
    let tokens := splitTokens (stripLineEnd line)
    if tokens.length > 16 ∨ tokens.length < 2 ∨ tokens.head? ≠ some kNativeEpochProtocolVersion then none
    else some tokens

def parseExtent : List Bytes → Option NativeEpochExtent
  | [calls, prefixCalls, prefixes, acceptance] => do
      let extent : NativeEpochExtent :=
        { maxCalls := ← parseUnsigned32 calls, callsPerPrefix := ← parseUnsigned32 prefixCalls,
          maxPendingPrefixes := ← parseUnsigned32 prefixes, acceptanceMicroseconds := ← parseUnsigned32 acceptance }
      if validNativeEpochExtent extent then some extent else none
  | _ => none

-- The ordinary admission validation is reused on a line put together from the five tokens before the extent.
def parseNativeAdmission (tokens : List Bytes) (extent : NativeEpochExtent) : Option TaskSpec :=
  let line := List.intercalate [32] (kTaskProtocolVersion :: ascii "SUBMIT" :: tokens)
  match parseTaskProtocolRequest line with
  | .error _ => none
  | .ok request => if request.admission.workUnits = extent.maxCalls then some request.admission else none

def parseNativeArguments (operation : NativeEpochOperation) (arguments : List Bytes) : Option NativeEpochRequest :=
  match operation, arguments with
  | .acquire, arguments => do
      if arguments.length ≠ 9 then none
      let extent ← parseExtent (arguments.drop 5)
      return { operation := .acquire, admission := ← parseNativeAdmission (arguments.take 5) extent, extent := extent }
  | .claim, [token] => do return { operation := .claim, execution := { taskId := ← parsePositive64 token } }
  | .cancelPending, [token] =>
    do return { operation := .cancelPending, execution := { taskId := ← parsePositive64 token } }
  | .retreat, [token, generation] => do
      return { operation := .retreat, execution := ⟨← parsePositive64 token, ← parsePositive64 generation⟩ }
  | .heartbeat, [token, generation] => do
      return { operation := .heartbeat, execution := ⟨← parsePositive64 token, ← parsePositive64 generation⟩ }
  | .complete, [token, generation, issued] => do
      let issuedCalls ← (parseUnsigned32 issued).filter (· ≤ 65536)
      return { operation := .complete, execution := ⟨← parsePositive64 token, ← parsePositive64 generation⟩
               issuedCalls := issuedCalls }
  | .fail, [token, generation, issued] => do
      let issuedCalls ← (parseUnsigned32 issued).filter (· ≤ 65536)
      return { operation := .fail, execution := ⟨← parsePositive64 token, ← parsePositive64 generation⟩
               issuedCalls := issuedCalls }
  | _, _ => none

def parseNativeEpochRequest (line : Bytes) : Option NativeEpochRequest := do
  let tokens ← tokenize line
  let operation ← kNativeOperations.lookup (tokens.getD 1 [])
  let last ← (tokens.drop 2).getLast?
  let sequence ← parsePositive64 last
  let request ← parseNativeArguments operation (tokens.drop 2).dropLast
  return { request with requestSequence := sequence }

-- The first word of a line decides which of the three parsers reads it.
def envelope (line : Bytes) : Bytes :=
  (line.dropWhile isSeparator).takeWhile fun value => !isSeparator value && value ≠ 13 && value ≠ 10

end Glimmer.Control
