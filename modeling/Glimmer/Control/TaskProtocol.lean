import Glimmer.Core.Scheduler

namespace Glimmer.Control

open Glimmer.Core

abbrev Bytes := List UInt8

def ascii (text : String) : Bytes := text.toList.map fun letter => UInt8.ofNat letter.toNat

def kTaskProtocolVersion : Bytes := ascii "GLIMMER_TASK_V1"
def kTaskProtocolMaxLineBytes : Nat := 256
def kTaskProtocolMaxTenantIdBytes : Nat := 96
def kMaxTokens : Nat := 24
def kMaxWaitTimeoutMs : UInt32 := 60000

inductive TaskProtocolParseError where
  | empty | lineTooLong | unsupportedVersion | malformed | invalidTenant | invalidValue
deriving DecidableEq

inductive TaskProtocolErrorCode where
  | invalidRequest | quotaExceeded | queueFull | unknownTask | internalError | unsupportedVersion
deriving DecidableEq

def isSeparator (value : UInt8) : Bool := value = 32 || value = 9

-- Runs of bytes that are not separators, without a bound on their number.
def splitTokens (line : Bytes) : List Bytes := (line.splitOnP isSeparator).filter (· ≠ [])

def removeSuffix (line : Bytes) (value : UInt8) : Bytes := if line.getLast? = some value then line.dropLast else line

def stripLineEnd (line : Bytes) : Bytes := removeSuffix (removeSuffix line 10) 13

def isDigit (value : UInt8) : Bool := 48 ≤ value && value ≤ 57

def isAsciiAlphanumeric (value : UInt8) : Bool :=
  (97 ≤ value && value ≤ 122) || (65 ≤ value && value ≤ 90) || isDigit value

def isValidTenantId (tenant : Bytes) : Bool :=
  tenant ≠ [] && tenant.length ≤ kTaskProtocolMaxTenantIdBytes &&
    tenant.all fun value => isAsciiAlphanumeric value || value = 46 || value = 95 || value = 45

variable (token : Bytes)

-- from_chars over an unsigned type takes digits only, all of the token here, and refuses what does not fit the type.
def fromChars (limit : Nat) : Option Nat :=
  if token = [] ∨ ¬ token.all isDigit then none
  else
    let parsed := token.foldl (fun value digit => value * 10 + (digit.toNat - 48)) 0
    if parsed ≤ limit then some parsed else none

def parseUnsigned64 : Option Nat := fromChars token maxU64

def parseUnsigned32 : Option UInt32 := (fromChars token 4294967295).map UInt32.ofNat

def parsePositive64 : Option Nat := (parseUnsigned64 token).filter (· ≠ 0)

def parsePositive32 : Option UInt32 := (parseUnsigned32 token).filter (· ≠ 0)

def textOf : String := String.ofList (token.map fun value => Char.ofNat value.toNat)

-- What every parser of a versioned line does first. A token list holds the version and the verb at least.
def requestTokens (version line : Bytes) : Except TaskProtocolParseError (List Bytes) :=
  if line.length > kTaskProtocolMaxLineBytes then .error .lineTooLong
  else
    let tokens := splitTokens (stripLineEnd line)
    if tokens = [] then .error .empty
    else if tokens.length > kMaxTokens then .error .malformed
    else if tokens.head? ≠ some version then .error .unsupportedVersion
    else if tokens.length < 2 then .error .malformed
    else .ok tokens

-- TENANT MEMORY WEIGHT WORK [PRIORITY]
def parseAdmission : List Bytes → Except TaskProtocolParseError TaskSpec
  | tenant :: memory :: weight :: work :: rest =>
    if rest.length > 1 then .error .malformed
    else if ¬ isValidTenantId tenant then .error .invalidTenant
    else
      let priority := match rest with
        | [] => some 0
        | token :: _ => parseUnsigned32 token
      match parsePositive64 memory, parsePositive32 weight, parsePositive32 work, priority with
      | some memoryBytes, some weight, some workUnits, some priority =>
        .ok { tenantId := textOf tenant, memoryBytes := UInt64.ofNat memoryBytes, weight := weight,
              workUnits := workUnits, priority := priority }
      | _, _, _, _ => .error .invalidValue
  | _ => .error .malformed

def parseTaskId : Except TaskProtocolParseError TaskId :=
  match parsePositive64 token with
  | some id => .ok id
  | none => .error .invalidValue

def parseClaim : List Bytes → Except TaskProtocolParseError TaskId
  | [] => .ok 0
  | [token] =>
    match parseUnsigned64 token with
    | none => .error .malformed
    | some id => if id = 0 then .error .invalidValue else .ok id
  | _ => .error .malformed

def parseWait : List Bytes → Except TaskProtocolParseError (TaskId × UInt32)
  | [token, timeout] =>
    match parsePositive64 token, parsePositive32 timeout with
    | some id, some timeout => if timeout > kMaxWaitTimeoutMs then .error .invalidValue else .ok (id, timeout)
    | _, _ => .error .invalidValue
  | _ => .error .malformed

def parseOneTask : List Bytes → Except TaskProtocolParseError TaskId
  | [token] => parseTaskId token
  | _ => .error .malformed

inductive TaskProtocolOperation where
  | submit | acquire | cancel | query | claim | wait | heartbeat | complete | fail | stats | metrics
deriving DecidableEq

structure TaskProtocolRequest where
  operation : TaskProtocolOperation := .submit
  admission : TaskSpec := { tenantId := "" }
  taskId : TaskId := 0
  waitTimeoutMs : UInt32 := 0

def parseTaskProtocolRequest (line : Bytes) : Except TaskProtocolParseError TaskProtocolRequest := do
  let tokens ← requestTokens kTaskProtocolVersion line
  let verb := tokens.getD 1 []
  let arguments := tokens.drop 2
  if verb = ascii "SUBMIT" ∨ verb = ascii "ACQUIRE" then
    let admission ← parseAdmission arguments
    return { operation := if verb = ascii "SUBMIT" then .submit else .acquire, admission := admission }
  else if verb = ascii "CLAIM" then
    return { operation := .claim, taskId := ← parseClaim arguments }
  else if verb = ascii "WAIT" then
    let (id, timeout) ← parseWait arguments
    return { operation := .wait, taskId := id, waitTimeoutMs := timeout }
  else if verb = ascii "STATS" ∨ verb = ascii "METRICS" then
    if arguments ≠ [] then throw .malformed
    return { operation := if verb = ascii "STATS" then .stats else .metrics }
  else
    let id ← parseOneTask arguments
    if verb = ascii "CANCEL" then return { operation := .cancel, taskId := id }
    else if verb = ascii "QUERY" then return { operation := .query, taskId := id }
    else if verb = ascii "HEARTBEAT" then return { operation := .heartbeat, taskId := id }
    else if verb = ascii "COMPLETE" then return { operation := .complete, taskId := id }
    else if verb = ascii "FAIL" then return { operation := .fail, taskId := id }
    else throw .malformed

structure TaskProtocolStats where
  totalTaskCount : Nat
  queuedTaskCount : Nat
  runningTaskCount : Nat
  completedTaskCount : Nat
  cancelledTaskCount : Nat
  failedTaskCount : Nat
  quotaLimitBytes : MemoryBytes
  quotaReservedBytes : MemoryBytes
  quotaAllocatedBytes : MemoryBytes
  maxRunningTasks : Nat
  maxQueuedTasks : Nat
  totalQueueWaitMicroseconds : Nat
  maxQueueWaitMicroseconds : Nat
  totalServiceTimeMicroseconds : Nat
  maxServiceTimeMicroseconds : Nat

inductive TaskProtocolResponse where
  | accepted (id : TaskId)
  | state (id : TaskId) (state : TaskState)
  | error (error : TaskProtocolErrorCode)
  | lease (id : TaskId) (tenant : TenantId) (memoryBytes : MemoryBytes) (weight workUnits : UInt32)
  | empty
  | stats (stats : TaskProtocolStats)
  | metrics (stats : TaskProtocolStats)

def stateCount (s : Scheduler) (state : TaskState) : Nat :=
  s.tasks.entries.countP fun entry => entry.2.state = state

-- Scheduler::stats as the endpoints report it.
def protocolStats (s : Scheduler) : TaskProtocolStats where
  totalTaskCount := s.tasks.entries.length
  queuedTaskCount := s.queuedTaskCount
  runningTaskCount := s.runningTaskIds.length
  completedTaskCount := stateCount s .completed
  cancelledTaskCount := stateCount s .cancelled
  failedTaskCount := stateCount s .failed
  quotaLimitBytes := s.ledger.limitBytes
  quotaReservedBytes := s.ledger.reservedBytes
  quotaAllocatedBytes := s.ledger.allocatedBytes
  maxRunningTasks := s.maxRunningTasks
  maxQueuedTasks := s.maxQueuedTasks
  totalQueueWaitMicroseconds := s.totalQueueWaitMicroseconds
  maxQueueWaitMicroseconds := s.maxQueueWaitMicroseconds
  totalServiceTimeMicroseconds := s.totalServiceTimeMicroseconds
  maxServiceTimeMicroseconds := s.maxServiceTimeMicroseconds

def leaseResponse (snapshot : TaskSnapshot) : TaskProtocolResponse :=
  .lease snapshot.taskId snapshot.tenantId snapshot.memoryBytes snapshot.weight snapshot.workUnits

def admissionError : SubmitStatus → TaskProtocolErrorCode
  | .invalidTask | .tenantWeightMismatch => .invalidRequest
  | .quotaExceeded => .quotaExceeded
  | .queueFull => .queueFull
  | .accepted | .internalError => .internalError

def parseErrorCode : TaskProtocolParseError → TaskProtocolErrorCode
  | .unsupportedVersion => .unsupportedVersion
  | .empty | .lineTooLong | .malformed | .invalidTenant | .invalidValue => .invalidRequest

end Glimmer.Control
