import Glimmer.Control.TaskProtocol

namespace Glimmer.Control

open Glimmer.Core

def kExecutionHeaderBytes : Nat := 48

def kExecutionMaxPayloadBytes : Nat := 16 * 1024 * 1024

def kExecutionSourceContinuationBytes : Nat := 64

def kExecutionSourceContinuationMagic : Nat := 0x314e4353

def kExecutionSourceContinuationCleanup : Nat := 1

def kExecutionLtMetadataRole : Nat := 0x314d544c

def kExecutionDnnMetadataRole : Nat := 0x314d4e44

def kExecutionPointerMetadataRole : Nat := 0x31444d50

def kExecutionProcessMemoryRole : Nat := 0x314d4d50

def kExecutionNcclRole : Nat := 0x314c434e

def maxU32 : Nat := 4294967295

-- The wire enumerations keep their declared width, so a code may be one that has no name.
structure ExecutionMessageKind where
  code : UInt16
deriving DecidableEq

namespace ExecutionMessageKind

def request : ExecutionMessageKind := ⟨1⟩
def reply : ExecutionMessageKind := ⟨2⟩

end ExecutionMessageKind

structure ExecutionOpcode where
  code : UInt32
deriving DecidableEq

namespace ExecutionOpcode

def hello : ExecutionOpcode := ⟨1⟩
def loadPtx : ExecutionOpcode := ⟨2⟩
def getFunction : ExecutionOpcode := ⟨3⟩
def close : ExecutionOpcode := ⟨14⟩
def loadBinary : ExecutionOpcode := ⟨18⟩
def importHostMemory : ExecutionOpcode := ⟨22⟩
def releaseHostMemory : ExecutionOpcode := ⟨24⟩
def loadModuleFile : ExecutionOpcode := ⟨46⟩
def ncclCall : ExecutionOpcode := ⟨131⟩
def sourceContinuation : ExecutionOpcode := ⟨132⟩
def enqueueHostFunction : ExecutionOpcode := ⟨134⟩
def queryHostFunction : ExecutionOpcode := ⟨135⟩
def finishHostFunction : ExecutionOpcode := ⟨136⟩
def sgemv : ExecutionOpcode := ⟨139⟩
def sgemmEx : ExecutionOpcode := ⟨140⟩
def unifiedCopy : ExecutionOpcode := ⟨141⟩
def loadModuleJit : ExecutionOpcode := ⟨142⟩
def ltAlgorithmCapability : ExecutionOpcode := ⟨143⟩
def processMemory : ExecutionOpcode := ⟨144⟩
def dnnLegacyMetadata : ExecutionOpcode := ⟨148⟩
def dnnLegacyControl : ExecutionOpcode := ⟨149⟩
def dnnLegacyCompute : ExecutionOpcode := ⟨150⟩

end ExecutionOpcode

structure ExecutionWireDisposition where
  code : UInt32
deriving DecidableEq

namespace ExecutionWireDisposition

def complete : ExecutionWireDisposition := ⟨1⟩
def rejected : ExecutionWireDisposition := ⟨2⟩
def computeReplacement : ExecutionWireDisposition := ⟨3⟩
def admissionAccepted : ExecutionWireDisposition := ⟨4⟩
def admissionBusy : ExecutionWireDisposition := ⟨5⟩

end ExecutionWireDisposition

inductive ExecutionBootstrapOwnership where
  | unproven
  | none
  | retained
  | metadataRetained
deriving DecidableEq

structure ExecutionWireHeader where
  kind : ExecutionMessageKind := .request
  operation : ExecutionOpcode := .hello
  payloadBytes : Nat := 0
  session : Nat := 0
  sequence : Nat := 0
  incarnation : Nat × Nat := (0, 0)

structure ExecutionWireMessage where
  header : ExecutionWireHeader
  payload : Bytes

structure ExecutionWireArgument where
  offset : Nat
  bytes : Nat
deriving DecidableEq

structure ExecutionWireReply where
  disposition : ExecutionWireDisposition := .rejected
  status : Int32 := 0
  originalStatus : Option Int32 := none
  id : Nat := 0
  address : Nat := 0
  parameterBytes : Nat := 0
  arguments : List ExecutionWireArgument := []
  data : Bytes := []
deriving DecidableEq

structure ExecutionSourceContinuation where
  flags : Nat := 0
  caller : Nat × Nat := (0, 0)
  group : Nat := 0
  ordinarySequence : Nat := 0
  originSource : Nat := 0
  cleanupParent : Nat := 0

structure ExecutionRequestView where
  operation : ExecutionOpcode := .hello
  payload : Bytes
  continuation : Option ExecutionSourceContinuation

-- Integers travel with their lowest byte first.
def readInteger (bytes : Bytes) : Nat := bytes.foldr (fun byte rest => byte.toNat + 256 * rest) 0

def appendInteger (value count : Nat) : Bytes :=
  (List.range count).map fun index => UInt8.ofNat (value >>> (index * 8))

def subspan (bytes : Bytes) (offset count : Nat) : Bytes := (bytes.drop offset).take count

-- The operations that a continuation may wrap although their codes are not below the first library call.
def kWrappedOperations : List ExecutionOpcode :=
  [.enqueueHostFunction, .sgemv, .sgemmEx, .unifiedCopy, .loadModuleJit, .ltAlgorithmCapability, .processMemory,
    .dnnLegacyMetadata, .dnnLegacyControl, .dnnLegacyCompute]

def normalizeExecutionRequest (outer : ExecutionOpcode) (payload : Bytes) (ordinaryLimit : Nat) :
    Option ExecutionRequestView :=
  if outer.code < ExecutionOpcode.hello.code ∨ ExecutionOpcode.dnnLegacyCompute.code < outer.code then none
  else if outer ≠ .sourceContinuation then
    if ordinaryLimit < payload.length then none else some ⟨outer, payload, none⟩
  else if payload.length < kExecutionSourceContinuationBytes ∨
      ordinaryLimit < payload.length - kExecutionSourceContinuationBytes ∨
      readInteger (payload.take 4) ≠ kExecutionSourceContinuationMagic then none
  else
    let scope : ExecutionSourceContinuation :=
      { flags := readInteger (subspan payload 4 4)
        caller := (readInteger (subspan payload 8 8), readInteger (subspan payload 16 8))
        group := readInteger (subspan payload 24 8)
        ordinarySequence := readInteger (subspan payload 32 8)
        originSource := readInteger (subspan payload 40 8)
        cleanupParent := readInteger (subspan payload 48 8) }
    let inner := readInteger (subspan payload 56 4)
    let bytes := readInteger (subspan payload 60 4)
    let effective : ExecutionOpcode := ⟨UInt32.ofNat inner⟩
    let body := payload.drop kExecutionSourceContinuationBytes
    if kExecutionSourceContinuationCleanup < scope.flags ∨ scope.caller.1 = 0 ∨ scope.caller.2 = 0 ∨
        scope.group = 0 ∨ scope.ordinarySequence = 0 ∨ (scope.flags = 0 ∧ scope.cleanupParent ≠ 0) ∨
        (scope.flags = kExecutionSourceContinuationCleanup ∧ scope.cleanupParent = 0) ∨
        effective.code < ExecutionOpcode.hello.code ∨
        (ExecutionOpcode.ncclCall.code ≤ effective.code ∧ effective ∉ kWrappedOperations) ∨
        bytes ≠ payload.length - kExecutionSourceContinuationBytes then none
    else if scope.flags = kExecutionSourceContinuationCleanup ∧
        (effective ≠ .releaseHostMemory ∨ body.length ≠ 8 ∨ readInteger body = 0) then none
    else if effective = .hello ∧ body.length = 8 ∧ readInteger (body.take 4) = kExecutionNcclRole then none
    else some ⟨effective, body, some scope⟩

def executionRequiresDescriptor (operation : ExecutionOpcode) : Bool :=
  operation = .importHostMemory || operation = .loadModuleFile || operation = .loadModuleJit

def executionUsesPreparationDeadline (operation : ExecutionOpcode) : Bool :=
  operation = .loadPtx || operation = .loadBinary || operation = .loadModuleFile || operation = .loadModuleJit ||
    operation = .getFunction

def kMagic : Nat := 0x31584547

def decodeExecutionHeader (bytes : Bytes) (maxPayload : Nat) : Option ExecutionWireHeader :=
  if bytes.length ≠ kExecutionHeaderBytes ∨ readInteger (bytes.take 4) ≠ kMagic ∨
      readInteger (subspan bytes 4 2) ≠ 1 then none
  else
    let kind := readInteger (subspan bytes 6 2)
    let operation := readInteger (subspan bytes 8 4)
    let payload := readInteger (subspan bytes 12 4)
    let overhead :=
      if kind = ExecutionMessageKind.request.code.toNat ∧ operation = ExecutionOpcode.sourceContinuation.code.toNat then
        kExecutionSourceContinuationBytes
      else 0
    if kind < 1 ∨ 2 < kind ∨ operation < 1 ∨ ExecutionOpcode.dnnLegacyCompute.code.toNat < operation ∨
        (maxPayload < payload ∧ overhead < payload - maxPayload) then none
    else some
      { kind := ⟨UInt16.ofNat kind⟩
        operation := ⟨UInt32.ofNat operation⟩
        payloadBytes := payload
        session := readInteger (subspan bytes 16 8)
        sequence := readInteger (subspan bytes 24 8)
        incarnation := (readInteger (subspan bytes 32 8), readInteger (subspan bytes 40 8)) }

def encodeExecutionMessage (message : ExecutionWireMessage) (maxPayload : Nat) : Option Bytes :=
  let overhead :=
    if message.header.kind = .request ∧ message.header.operation = .sourceContinuation then
      kExecutionSourceContinuationBytes
    else 0
  if (maxPayload < message.payload.length ∧ overhead < message.payload.length - maxPayload) ∨
      maxU32 < message.payload.length ∨ maxU64 - kExecutionHeaderBytes < message.payload.length then none
  else
    let result := appendInteger kMagic 4 ++ appendInteger 1 2 ++ appendInteger message.header.kind.code.toNat 2 ++
      appendInteger message.header.operation.code.toNat 4 ++ appendInteger message.payload.length 4 ++
      appendInteger message.header.session 8 ++ appendInteger message.header.sequence 8 ++
      appendInteger message.header.incarnation.1 8 ++ appendInteger message.header.incarnation.2 8
    if (decodeExecutionHeader result maxPayload).isNone then none else some (result ++ message.payload)

-- A writer holds what it has written so far; none of its writes goes beyond the limit.
def writeInteger (limit value count : Nat) (bytes : Bytes) : Option Bytes :=
  if limit < bytes.length ∨ limit - bytes.length < count then none else some (bytes ++ appendInteger value count)

def writeBlob (limit : Nat) (blob bytes : Bytes) : Option Bytes :=
  if maxU32 < blob.length ∨ limit < bytes.length ∨ limit - bytes.length < 4 ∨ limit - bytes.length - 4 < blob.length then
    none
  else some (bytes ++ appendInteger blob.length 4 ++ blob)

def encodeExecutionSourceContinuation (continuation : ExecutionSourceContinuation) (inner : ExecutionOpcode)
    (payload : Bytes) (ordinaryLimit : Nat) : Option Bytes :=
  if ordinaryLimit < payload.length ∨ maxU32 - kExecutionSourceContinuationBytes < ordinaryLimit then none
  else do
    let limit := ordinaryLimit + kExecutionSourceContinuationBytes
    let encoded ← writeInteger limit kExecutionSourceContinuationMagic 4 [] >>=
      writeInteger limit continuation.flags 4 >>=
      writeInteger limit continuation.caller.1 8 >>= writeInteger limit continuation.caller.2 8 >>=
      writeInteger limit continuation.group 8 >>= writeInteger limit continuation.ordinarySequence 8 >>=
      writeInteger limit continuation.originSource 8 >>= writeInteger limit continuation.cleanupParent 8 >>=
      writeInteger limit inner.code.toNat 4 >>= writeBlob limit payload
    guard (normalizeExecutionRequest .sourceContinuation encoded ordinaryLimit).isSome
    return encoded

-- A reader holds the bytes after its position.
abbrev ExecutionPayloadReader (α : Type) := StateT Bytes Option α

namespace ExecutionPayloadReader

def readBytes (count : Nat) : ExecutionPayloadReader Bytes := fun rest =>
  if rest.length < count then none else some (rest.take count, rest.drop count)

def readU32 : ExecutionPayloadReader Nat := readInteger <$> readBytes 4

def readU64 : ExecutionPayloadReader Nat := readInteger <$> readBytes 8

def readBlob : ExecutionPayloadReader Bytes := do readBytes (← readU32)

def empty : ExecutionPayloadReader Bool := List.isEmpty <$> get

def must (condition : Bool) : ExecutionPayloadReader Unit := fun rest => if condition then some ((), rest) else none

end ExecutionPayloadReader

open ExecutionPayloadReader

def validReplyArgument (argument : ExecutionWireArgument) (parameterBytes previousEnd : Nat) : Bool :=
  argument.bytes ≠ 0 && previousEnd ≤ argument.offset && argument.offset ≤ parameterBytes &&
    argument.bytes ≤ parameterBytes - argument.offset

def readReplyArguments (parameterBytes : Nat) : Nat → Nat → ExecutionPayloadReader (List ExecutionWireArgument)
  | 0, _ => pure []
  | count + 1, previousEnd => do
      let offset ← readU64
      let bytes ← readU64
      must (validReplyArgument ⟨offset, bytes⟩ parameterBytes previousEnd)
      let rest ← readReplyArguments parameterBytes count (offset + bytes)
      return ⟨offset, bytes⟩ :: rest

def readReply : ExecutionPayloadReader ExecutionWireReply := do
  let disposition ← readU32
  must (1 ≤ disposition && disposition ≤ 5)
  let status ← readU32
  let hasOriginal ← readU32
  must (hasOriginal ≤ 1)
  let original ← readU32
  must (hasOriginal ≠ 0 || original = 0)
  let id ← readU64
  let address ← readU64
  let parameterBytes ← readU64
  let count ← readU32
  must (count ≤ 4096)
  let decided : ExecutionWireDisposition := ⟨UInt32.ofNat disposition⟩
  must (decided ≠ .admissionBusy ||
    (status = 0 && hasOriginal = 0 && id = 0 && address = 0 && parameterBytes = 0 && count = 0))
  must (decided ≠ .computeReplacement || (hasOriginal = 0 && id ≠ 0))
  let arguments ← readReplyArguments parameterBytes count 0
  let data ← readBlob
  must (← empty)
  must (decided ≠ .admissionBusy || data.isEmpty)
  must (decided ≠ .admissionAccepted ||
    (status = 0 && hasOriginal = 0 && id ≠ 0 && address ≠ 0 && parameterBytes = 0 && arguments.isEmpty && data.isEmpty))
  return {
    disposition := decided
    status := (UInt32.ofNat status).toInt32
    originalStatus := if hasOriginal ≠ 0 then some (UInt32.ofNat original).toInt32 else none
    id := id
    address := address
    parameterBytes := parameterBytes
    arguments := arguments
    data := data }

def decodeExecutionReply (bytes : Bytes) : Option ExecutionWireReply := (readReply.run bytes).map Prod.fst

def kBootstrapOwnershipMagic : Nat := 0x314f4247

def decodeExecutionBootstrapOwnership (bytes : Bytes) : Option ExecutionBootstrapOwnership :=
  if bytes.length ≠ 8 ∨ readInteger (bytes.take 4) ≠ kBootstrapOwnershipMagic then none
  else match readInteger (subspan bytes 4 4) with
    | 0 => some .unproven
    | 1 => some .none
    | 2 => some .retained
    | 3 => some .metadataRetained
    | _ => Option.none

variable {value count size limit : Nat} {bytes out : Bytes}

@[simp] theorem append_integer_length : (appendInteger value count).length = count := by
  simp [appendInteger]

@[simp] theorem drop_append_integer (within : count ≤ size) : (appendInteger value count).drop size = [] :=
  List.drop_eq_nil_of_le (by simpa using within)

theorem append_integer_succ (value count : Nat) :
    appendInteger value (count + 1) = UInt8.ofNat value :: appendInteger (value / 256) count := by
  simp only [appendInteger, List.range_succ_eq_map, List.map_cons, List.map_map, Nat.zero_mul, Nat.shiftRight_zero]
  congr 1
  refine List.map_congr_left fun index _ => ?_
  rw [Function.comp_apply, Nat.succ_mul, Nat.add_comm, Nat.shiftRight_add, Nat.shiftRight_eq_div_pow value 8]

theorem read_append_integer (value count : Nat) : readInteger (appendInteger value count) = value % 256 ^ count := by
  induction count generalizing value with
  | zero => simp [readInteger, appendInteger, Nat.mod_one]
  | succ count ih =>
    have later := ih (value / 256)
    rw [append_integer_succ]
    simp only [readInteger, List.foldr_cons] at later ⊢
    rw [later, Nat.pow_succ', Nat.mod_mul]
    simp

theorem write_integer_iff :
    writeInteger limit value count bytes = some out ↔
      bytes.length + count ≤ limit ∧ bytes ++ appendInteger value count = out := by
  unfold writeInteger
  split
  · next full => simp only [reduceCtorEq, false_iff, not_and]; omega
  · next free => simp only [Option.some.injEq, iff_and_self]; omega

theorem write_blob_iff {blob : Bytes} :
    writeBlob limit blob bytes = some out ↔
      blob.length ≤ maxU32 ∧ bytes.length + 4 + blob.length ≤ limit ∧
        bytes ++ appendInteger blob.length 4 ++ blob = out := by
  unfold writeBlob
  split
  · next full => simp only [reduceCtorEq, false_iff, not_and]; omega
  · next free => simp only [Option.some.injEq]; constructor <;> intro same <;> grind

def ExecutionSourceContinuation.Fits (scope : ExecutionSourceContinuation) : Prop :=
  scope.flags < 2 ^ 32 ∧ (scope.caller.1 < 2 ^ 64 ∧ scope.caller.2 < 2 ^ 64) ∧ scope.group < 2 ^ 64 ∧
    scope.ordinarySequence < 2 ^ 64 ∧ scope.originSource < 2 ^ 64 ∧ scope.cleanupParent < 2 ^ 64

def ExecutionOpcode.forbidsContinuation (operation : ExecutionOpcode) : Prop :=
  ExecutionOpcode.ncclCall.code ≤ operation.code ∧ operation ∉ kWrappedOperations

-- What may travel under a continuation; a hello in the role of a library owner may not.
structure ExecutionRequestView.Wrappable (view : ExecutionRequestView) (limit : Nat) : Prop where
  small : view.payload.length ≤ limit
  allowed : ¬ view.operation.forbidsContinuation
  plain : ¬ (view.operation = .hello ∧ view.payload.length = 8 ∧ readInteger (view.payload.take 4) = kExecutionNcclRole)

def sourceScope (wrapped : Bytes) : ExecutionSourceContinuation where
  flags := readInteger (subspan wrapped 4 4)
  caller := (readInteger (subspan wrapped 8 8), readInteger (subspan wrapped 16 8))
  group := readInteger (subspan wrapped 24 8)
  ordinarySequence := readInteger (subspan wrapped 32 8)
  originSource := readInteger (subspan wrapped 40 8)
  cleanupParent := readInteger (subspan wrapped 48 8)

theorem unwrapped {wrapped : Bytes} {view : ExecutionRequestView}
    (accepted : normalizeExecutionRequest .sourceContinuation wrapped limit = some view) :
    view = ⟨⟨UInt32.ofNat (readInteger (subspan wrapped 56 4))⟩, wrapped.drop 64, some (sourceScope wrapped)⟩ ∧
      view.Wrappable limit := by
  unfold normalizeExecutionRequest at accepted
  rw [if_neg (by decide), if_neg (by decide)] at accepted
  split at accepted
  · cases accepted
  next sized =>
  dsimp only at accepted
  split at accepted
  · cases accepted
  next named =>
  split at accepted
  · cases accepted
  split at accepted
  · cases accepted
  next plain =>
  cases accepted
  simp only [not_or, Nat.not_lt] at sized named
  refine ⟨rfl, ?_, named.2.2.2.2.2.2.2.2.1, plain⟩
  rw [List.length_drop]
  exact sized.2.1

def continuationBytes (scope : ExecutionSourceContinuation) (inner : ExecutionOpcode) (payload : Bytes) : Bytes :=
  appendInteger kExecutionSourceContinuationMagic 4 ++ appendInteger scope.flags 4 ++ appendInteger scope.caller.1 8 ++
    appendInteger scope.caller.2 8 ++ appendInteger scope.group 8 ++ appendInteger scope.ordinarySequence 8 ++
    appendInteger scope.originSource 8 ++ appendInteger scope.cleanupParent 8 ++ appendInteger inner.code.toNat 4 ++
    appendInteger payload.length 4 ++ payload

section Wrapped
variable {scope : ExecutionSourceContinuation} (inner : ExecutionOpcode) (payload : Bytes)

theorem continuation_scope (fits : scope.Fits) : sourceScope (continuationBytes scope inner payload) = scope := by
  obtain ⟨flags, ⟨first, second⟩, group, ordinarySequence, originSource, cleanupParent⟩ := scope
  simpa [continuationBytes, subspan, sourceScope, List.drop_append, read_append_integer,
    ExecutionSourceContinuation.Fits] using fits

theorem continuation_inner :
    UInt32.ofNat (readInteger (subspan (continuationBytes scope inner payload) 56 4)) = inner.code := by
  simp [continuationBytes, subspan, List.drop_append, read_append_integer]

theorem continuation_payload : (continuationBytes scope inner payload).drop 64 = payload := by
  simp [continuationBytes, List.drop_append]

end Wrapped

theorem continuation_unwraps_exactly {scope : ExecutionSourceContinuation} (fits : scope.Fits) (limit : Nat) :
    (∀ inner payload wrapped, encodeExecutionSourceContinuation scope inner payload limit = some wrapped →
      normalizeExecutionRequest .sourceContinuation wrapped limit = some ⟨inner, payload, some scope⟩ ∧
        payload.length ≤ limit) ∧
    (∀ wrapped view, normalizeExecutionRequest .sourceContinuation wrapped limit = some view →
      view.operation ≠ .sourceContinuation ∧ view.Wrappable limit) ∧
    ∀ outer payload, outer ≠ .sourceContinuation → normalizeExecutionRequest outer payload limit =
      if 1 ≤ outer.code ∧ outer.code ≤ 150 ∧ payload.length ≤ limit then some ⟨outer, payload, none⟩ else none := by
  refine ⟨fun inner payload wrapped encoded => ?_, fun wrapped view accepted => ?_, fun outer payload ordinary => ?_⟩
  · unfold encodeExecutionSourceContinuation at encoded
    split at encoded
    · cases encoded
    next small =>
    simp [Option.bind_eq_some_iff, write_integer_iff, write_blob_iff, guard, -List.append_assoc,
      ← Option.isSome_iff_ne_none] at encoded
    obtain ⟨⟨_, _, _, same⟩, accepted⟩ := encoded
    change continuationBytes scope inner payload = wrapped at same
    subst same
    obtain ⟨view, accepted⟩ := Option.isSome_iff_exists.mp accepted
    obtain ⟨rfl, _⟩ := unwrapped accepted
    rw [accepted, continuation_scope inner payload fits, continuation_inner, continuation_payload]
    exact ⟨rfl, Nat.not_lt.mp (not_or.mp small).1⟩
  · obtain ⟨_, wrappable⟩ := unwrapped accepted
    exact ⟨fun nested => wrappable.allowed (nested ▸ ⟨by decide, by decide⟩), wrappable⟩
  · unfold normalizeExecutionRequest
    simp [ExecutionOpcode.hello, ExecutionOpcode.dnnLegacyCompute]
    grind

theorem cleanup_unwraps_exactly :
    let scope : ExecutionSourceContinuation :=
      { flags := 1, caller := (3, 4), group := 5, ordinarySequence := 6, cleanupParent := 7 }
    ∃ wrapped, encodeExecutionSourceContinuation scope .releaseHostMemory [1, 0, 0, 0, 0, 0, 0, 0] 8 = some wrapped ∧
      normalizeExecutionRequest .sourceContinuation wrapped 8 =
        some ⟨.releaseHostMemory, [1, 0, 0, 0, 0, 0, 0, 0], some scope⟩ := by
  refine ⟨_, rfl, ((continuation_unwraps_exactly ?_ 8).1 _ _ _ rfl).1⟩
  exact ⟨by decide, by decide, by decide, by decide, by decide, by decide⟩

end Glimmer.Control
