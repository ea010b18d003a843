import Glimmer.Control.WireProtocol

namespace Glimmer.Control

open ExecutionPayloadReader

def kExecutionMaxJitOptions : Nat := 34
def kExecutionMaxJitLogBytes : Nat := 65536
def kExecutionMaxJitNames : Nat := 32
def kExecutionMaxJitNameBytes : Nat := 1025

def kExecutionMaxJitNamesBytes : Nat := 4 + kExecutionMaxJitNames * (4 + kExecutionMaxJitNameBytes)

def kJitStorageBytes : Nat := 2 * kExecutionMaxJitLogBytes + 4 + 2 * kExecutionMaxJitNamesBytes

def kExecutionMaxJitWireBytes : Nat := 8 + kExecutionMaxJitOptions * 16 + kJitStorageBytes

def kJitMagic : Nat := 0x3154494a

structure ExecutionJitOption where
  option : UInt32 := 0
  value : UInt64 := 0
  data : Bytes := []

inductive ExecutionJitStorage where
  | unsupported
  | scalar
  | float
  | log
  | names
deriving DecidableEq

def executionJitStorage (option : UInt32) : ExecutionJitStorage :=
  if option = 2 then .float
  else if option = 3 ∨ option = 5 then .log
  else if option = 25 ∨ option = 27 then .names
  else if option ≤ 14 ∨ (20 ≤ option ∧ option ≤ 24) ∨ option = 26 ∨ option = 28 ∨
    (29 ≤ option ∧ option ≤ 33) then
    .scalar
  else .unsupported

def writeU32 (limit : Nat) (value : UInt32) : Bytes → Option Bytes := writeInteger limit value.toNat 4
def writeU64 (limit : Nat) (value : UInt64) : Bytes → Option Bytes := writeInteger limit value.toNat 8
def readWord32 : ExecutionPayloadReader UInt32 := UInt32.ofNat <$> readU32
def readWord64 : ExecutionPayloadReader UInt64 := UInt64.ofNat <$> readU64

def readNames : Nat → ExecutionPayloadReader Unit
  | 0 => pure ()
  | count + 1 => do
      let name ← readBlob
      must (!name.isEmpty && name.length ≤ kExecutionMaxJitNameBytes && name.getLast? = some 0 && 0 ∉ name.dropLast)
      readNames count

def referencedNameCount (option : ExecutionJitOption) : Option Nat :=
  if 1 < option.value ∨ kExecutionMaxJitNamesBytes < option.data.length then none
  else do
    let (count, _) ← StateT.run (do
      let count ← readU32
      must (count ≤ kExecutionMaxJitNames && (option.value ≠ 0 || count = 0))
      readNames count
      must (← empty)
      return count) option.data
    return count

def validRecord (option : ExecutionJitOption) : Bool :=
  match executionJitStorage option.option with
  | .scalar => option.data.isEmpty
  | .float => option.value = 0 && option.data.length = 4
  | .log => option.value = 0 && !option.data.isEmpty && option.data.length ≤ kExecutionMaxJitLogBytes
  | .names => (referencedNameCount option).isSome
  | .unsupported => false

-- The loop over the records, with the options it has seen and the bytes they hold.
def validRest : List UInt32 → Nat → List ExecutionJitOption → Bool
  | _, _, [] => true
  | seen, storageBytes, option :: rest =>
    option.option.toNat < kExecutionMaxJitOptions && option.option ∉ seen && validRecord option &&
      storageBytes + option.data.length ≤ kJitStorageBytes &&
      validRest (option.option :: seen) (storageBytes + option.data.length) rest

def validRecords (options : List ExecutionJitOption) : Bool :=
  options.length ≤ kExecutionMaxJitOptions && validRest [] 0 options

def writeOption (bytes : Bytes) (option : ExecutionJitOption) : Option Bytes :=
  let limit := kExecutionMaxJitWireBytes
  writeU32 limit option.option bytes >>= writeU64 limit option.value >>= writeBlob limit option.data

def encodeExecutionJitOptions (options : List ExecutionJitOption) : Option Bytes :=
  if validRecords options then do
    let limit := kExecutionMaxJitWireBytes
    let output ← writeInteger limit kJitMagic 4 [] >>= writeInteger limit options.length 4
    options.foldlM writeOption output
  else none

def readOption : ExecutionPayloadReader ExecutionJitOption := do
  let option : ExecutionJitOption := { option := ← readWord32, value := ← readWord64, data := ← readBlob }
  must (option.data.length ≤ kExecutionMaxJitLogBytes)
  return option

def readOptions : Nat → ExecutionPayloadReader (List ExecutionJitOption)
  | 0 => pure []
  | count + 1 => do return (← readOption) :: (← readOptions count)

def decodeExecutionJitOptions (bytes : Bytes) : Option (List ExecutionJitOption) :=
  if kExecutionMaxJitWireBytes < bytes.length then none
  else do
    let (options, _) ← StateT.run (do
      must ((← readU32) = kJitMagic)
      let count ← readU32
      must (count ≤ kExecutionMaxJitOptions)
      let options ← readOptions count
      must (← empty)
      must (validRecords options)
      return options) bytes
    return options

-- Each slot of the loop's arrays keeps the last record stored in it.
def lastOption (options : List ExecutionJitOption) (option : UInt32) : Option ExecutionJitOption :=
  options.reverse.find? fun record => record.option = option

def validExecutionJitInput (options : List ExecutionJitOption) : Bool :=
  validRecords options &&
  [(3, 4), (5, 6)].all (fun (log, size) =>
    let bytes := (lastOption options log).elim 0 fun record => record.data.length
    let capacity := lastOption options size
    (bytes ≠ 0) = capacity.isSome && capacity.all fun record => record.value.toNat = bytes) &&
  [(25, 26), (27, 28)].all fun (names, size) =>
    (lastOption options names).elim (some 0) referencedNameCount =
      some ((lastOption options size).elim 0 fun record => record.value.toNat)

def outputRecordMatches (requested actual : ExecutionJitOption) : Bool :=
  let isScalarOutput := requested.option = 1 || requested.option = 4 || requested.option = 6
  requested.option = actual.option && requested.data.length = actual.data.length &&
    (actual.value = requested.value || (isScalarOutput && actual.value.toNat ≤ maxU32)) &&
    (executionJitStorage requested.option ≠ .names || actual.data = requested.data)

def executionJitOutputMatches (input output : List ExecutionJitOption) : Bool :=
  validExecutionJitInput input && validRecords output && input.length = output.length &&
    (input.zip output).all fun (requested, actual) => outputRecordMatches requested actual

-- kBegin is 1, then kEnd, kState, kInstantiate, kDestroyGraph, kDestroyExecutable, kCaptureKernel, kCaptureMemory and
-- kInvalidate; the underlying type also holds codes without a name.
structure ExecutionGraphAction where
  code : UInt32

structure ExecutionGraphRequest where
  action : ExecutionGraphAction := ⟨3⟩
  hasOutput : Bool := false
  object : UInt64 := 0
  stream : UInt64 := 0
  caller : UInt64 := 0
  flags : UInt64 := 0
  outputSeed : UInt64 := 0
  payload : Bytes := []

structure ExecutionGraphObservation where
  outputWritten : Bool := false
  isQuarantined : Bool := false
  captureStatus : UInt32 := 0
  output : UInt64 := 0

structure ExecutionGraphLaunch where
  executable : UInt64 := 0
  stream : UInt64 := 0

def kExecutionGraphRequestBytes : Nat := 60

def ExecutionGraphRequest.valid (value : ExecutionGraphRequest) : Bool :=
  let idle := value.flags = 0 && !value.hasOutput
  let captures := value.object = 0 && value.caller ≠ 0
  let bare := value.stream = 0 && value.caller = 0
  let hasPayload := !value.payload.isEmpty
  (value.hasOutput || value.outputSeed = 0) &&
  value.payload.length ≤ kExecutionMaxPayloadBytes - kExecutionGraphRequestBytes &&
  match value.action.code with
  | 1 => captures && !value.hasOutput && !hasPayload
  | 2 => captures && value.flags = 0 && !hasPayload
  | 3 | 9 => captures && idle && !hasPayload
  | 4 => bare && !hasPayload
  | 5 | 6 => bare && idle && !hasPayload
  | 7 | 8 => captures && idle && hasPayload
  | _ => false

def ExecutionGraphObservation.valid (value : ExecutionGraphObservation) : Bool :=
  value.captureStatus ≤ 2 && (value.outputWritten || value.output = 0)

def reserveAdditionalCapacity (limit count : Nat) (bytes : Bytes) : Option Bytes :=
  if bytes.length + count ≤ limit then some bytes else none

def writeExecutionGraphRequest (limit : Nat) (value : ExecutionGraphRequest) (output : Bytes) : Option Bytes :=
  if value.valid then
    reserveAdditionalCapacity limit (kExecutionGraphRequestBytes + value.payload.length) output >>= writeU32 limit 1 >>=
      writeU32 limit value.action.code >>= writeU32 limit (if value.hasOutput then 1 else 0) >>= writeU32 limit 0 >>=
      writeU64 limit value.object >>= writeU64 limit value.stream >>= writeU64 limit value.caller >>=
      writeU64 limit value.flags >>= writeU64 limit value.outputSeed >>= writeBlob limit value.payload
  else none

def readExecutionGraphRequest : ExecutionPayloadReader ExecutionGraphRequest := do
  must ((← readWord32) = 1)
  let action ← readWord32
  let presence ← readWord32
  must (presence ≤ 1)
  must ((← readWord32) = 0)
  let decoded : ExecutionGraphRequest :=
    { action := ⟨action⟩, hasOutput := presence ≠ 0, object := ← readWord64, stream := ← readWord64
      caller := ← readWord64, flags := ← readWord64, outputSeed := ← readWord64, payload := ← readBlob }
  must decoded.valid
  return decoded

def writeExecutionGraphObservation (limit : Nat) (value : ExecutionGraphObservation) (output : Bytes) : Option Bytes :=
  if value.valid then
    reserveAdditionalCapacity limit 24 output >>= writeU32 limit 1 >>=
      writeU32 limit ((if value.outputWritten then 1 else 0) ||| (if value.isQuarantined then 2 else 0)) >>=
      writeU32 limit value.captureStatus >>= writeU32 limit 0 >>= writeU64 limit value.output
  else none

def readExecutionGraphObservation : ExecutionPayloadReader ExecutionGraphObservation := do
  must ((← readWord32) = 1)
  let flags ← readU32
  must (flags ≤ 3)
  let captureStatus ← readWord32
  must ((← readWord32) = 0)
  let decoded : ExecutionGraphObservation :=
    { outputWritten := flags &&& 1 ≠ 0, isQuarantined := flags &&& 2 ≠ 0, captureStatus := captureStatus
      output := ← readWord64 }
  must decoded.valid
  return decoded

def writeExecutionGraphLaunch (limit : Nat) (value : ExecutionGraphLaunch) (output : Bytes) : Option Bytes :=
  reserveAdditionalCapacity limit 16 output >>= writeU64 limit value.executable >>= writeU64 limit value.stream

def readExecutionGraphLaunch : ExecutionPayloadReader ExecutionGraphLaunch := do
  return ⟨← readWord64, ← readWord64⟩

-- Whatever stands before and after it, a written value is read back and its bytes are the ones consumed.
def Lossless {α : Type} (write : Nat → α → Bytes → Option Bytes) (read : ExecutionPayloadReader α) : Prop :=
  ∀ limit value output after, write limit value output = some after →
    ∃ written, after = output ++ written ∧ ∀ rest, read.run (written ++ rest) = some (value, rest)

def storageBytes (options : List ExecutionJitOption) : Nat := (options.map fun record => record.data.length).sum

structure JitLimits (options : List ExecutionJitOption) : Prop where
  count : options.length ≤ kExecutionMaxJitOptions
  distinct : (options.map ExecutionJitOption.option).Nodup
  supported : ∀ record ∈ options, record.option.toNat < kExecutionMaxJitOptions ∧ validRecord record = true
  storage : storageBytes options ≤ kJitStorageBytes

section Bytes
variable {value limit : Nat} {blob output after : Bytes} (rest : Bytes)

@[simp] theorem must_run (condition : Bool) :
    (must condition).run rest = if condition then some ((), rest) else none := rfl

@[simp] theorem empty_run : empty.run rest = some (rest.isEmpty, rest) := rfl

theorem read_bytes_run {count : Nat} (size : blob.length = count) :
    (readBytes count).run (blob ++ rest) = some (blob, rest) := by
  subst size
  simp [StateT.run, readBytes]

@[simp] theorem read_u32_run : readU32.run (appendInteger value 4 ++ rest) = some (value % 2 ^ 32, rest) := by
  simp [readU32, read_bytes_run rest append_integer_length, read_append_integer]

@[simp] theorem read_word32_run : readWord32.run (appendInteger value 4 ++ rest) = some (UInt32.ofNat value, rest) := by
  simpa [readWord32] using UInt32.ofNat_mod_size

@[simp] theorem read_word64_run : readWord64.run (appendInteger value 8 ++ rest) = some (UInt64.ofNat value, rest) := by
  simpa [readWord64, readU64, read_bytes_run rest append_integer_length, read_append_integer]
    using UInt64.ofNat_mod_size

theorem read_blob_run (small : blob.length ≤ maxU32) :
    readBlob.run (appendInteger blob.length 4 ++ (blob ++ rest)) = some (blob, rest) := by
  have size : blob.length % 2 ^ 32 = blob.length := Nat.mod_eq_of_lt (Nat.lt_succ_of_le small)
  simp only [readBlob, StateT.run_bind, read_u32_run, size]
  exact read_bytes_run rest rfl

theorem bind_run {α β : Type} {bytes : Bytes} {read : ExecutionPayloadReader α} {next : α → ExecutionPayloadReader β}
    {value : α} (reads : read.run bytes = some (value, rest)) : (read >>= next).run bytes = (next value).run rest := by
  rw [StateT.run_bind, reads]
  rfl

theorem must_bind {α : Type} {condition : Bool} {next : Unit → ExecutionPayloadReader α} (holds : condition = true) :
    (must condition >>= next).run rest = (next ()).run rest :=
  bind_run rest (if_pos holds)

end Bytes

theorem graph_launch_lossless : Lossless writeExecutionGraphLaunch readExecutionGraphLaunch := by
  intro limit value output after wrote
  simp [writeExecutionGraphLaunch, writeU64, Option.bind_eq_some_iff, reserveAdditionalCapacity, write_integer_iff]
    at wrote
  obtain ⟨_, _, _, rfl⟩ := wrote
  exact ⟨_, rfl, fun rest => by simp [readExecutionGraphLaunch]⟩

theorem graph_observation_lossless : Lossless writeExecutionGraphObservation readExecutionGraphObservation := by
  intro limit value output after wrote
  obtain ⟨written, quarantined, captureStatus, result⟩ := value
  simp [writeExecutionGraphObservation, writeU32, writeU64, Option.bind_eq_some_iff, reserveAdditionalCapacity,
    write_integer_iff] at wrote
  obtain ⟨valid, _, _, rfl⟩ := wrote
  refine ⟨_, rfl, fun rest => ?_⟩
  cases written <;> cases quarantined <;> simp [readExecutionGraphObservation, valid]

theorem graph_request_lossless : Lossless writeExecutionGraphRequest readExecutionGraphRequest := by
  intro limit value output after wrote
  simp [writeExecutionGraphRequest, writeU32, writeU64, Option.bind_eq_some_iff, reserveAdditionalCapacity,
    write_integer_iff, write_blob_iff] at wrote
  obtain ⟨valid, _, small, _, rfl⟩ := wrote
  refine ⟨_, rfl, fun rest => ?_⟩
  obtain ⟨action, hasOutput, object, stream, caller, flags, outputSeed, payload⟩ := value
  have presence : (if hasOutput then 1 else 0 : UInt32) ≤ 1 ∧
      decide ((if hasOutput then 1 else 0 : UInt32) ≠ 0) = hasOutput := by cases hasOutput <;> decide
  simp only [List.append_assoc]
  unfold readExecutionGraphRequest
  -- One read at a time, outermost first: simplifying under the later reads would repeat their work.
  simp only [↓bind_run _ (read_word32_run _), ↓bind_run _ (read_word64_run _), ↓bind_run _ (read_blob_run _ small),
    ↓must_bind, UInt64.ofNat_toNat, UInt32.ofNat_toNat, UInt32.reduceOfNat, decide_true, presence, valid]
  rfl

section Options
variable {options : List ExecutionJitOption}

theorem valid_record_bounded {record : ExecutionJitOption} (valid : validRecord record = true) :
    record.data.length ≤ kExecutionMaxJitLogBytes := by
  unfold validRecord at valid
  split at valid
  · simp [List.isEmpty_iff.mp valid]
  · simp only [Bool.and_eq_true, decide_eq_true_eq] at valid
    rw [valid.2]
    decide
  · simp only [Bool.and_eq_true, decide_eq_true_eq] at valid
    exact valid.2
  · unfold referencedNameCount at valid
    split at valid
    · cases valid
    next small => exact (Nat.not_lt.mp (not_or.mp small).2).trans (by decide)
  · cases valid

theorem valid_rest_limits {seen : List UInt32} {held : Nat} (valid : validRest seen held options = true)
    (within : held ≤ kJitStorageBytes) :
    (options.map ExecutionJitOption.option).Nodup ∧ (∀ record ∈ options, record.option ∉ seen) ∧
      (∀ record ∈ options, record.option.toNat < kExecutionMaxJitOptions ∧ validRecord record = true) ∧
      held + storageBytes options ≤ kJitStorageBytes := by
  induction options generalizing seen held with
  | nil => simpa [storageBytes] using within
  | cons record rest ih =>
    simp only [validRest, Bool.and_eq_true, decide_eq_true_eq] at valid
    obtain ⟨⟨⟨⟨known, fresh⟩, formed⟩, fits⟩, later⟩ := valid
    obtain ⟨distinct, unseen, supported, storage⟩ := ih later fits
    refine ⟨?_, ?_, ?_, ?_⟩
    · refine List.nodup_cons.mpr ⟨fun again => ?_, distinct⟩
      obtain ⟨other, mem, same⟩ := List.mem_map.mp again
      exact unseen other mem (same ▸ List.mem_cons_self)
    · refine List.forall_mem_cons.mpr ⟨fresh, fun other mem listed => ?_⟩
      exact unseen other mem (List.mem_cons_of_mem _ listed)
    · exact List.forall_mem_cons.mpr ⟨⟨known, formed⟩, supported⟩
    · simp only [storageBytes, List.map_cons, List.sum_cons] at storage ⊢
      omega

theorem valid_limits (valid : validRecords options = true) : JitLimits options := by
  simp only [validRecords, Bool.and_eq_true, decide_eq_true_eq] at valid
  obtain ⟨distinct, _, supported, storage⟩ := valid_rest_limits valid.2 (Nat.zero_le _)
  exact ⟨valid.1, distinct, supported, by omega⟩

theorem option_lossless {output : Bytes} {record : ExecutionJitOption} (valid : validRecord record = true)
    (fits : output.length + 16 + record.data.length ≤ kExecutionMaxJitWireBytes) :
    ∃ written, writeOption output record = some (output ++ written) ∧ written.length = 16 + record.data.length ∧
      ∀ rest, readOption.run (written ++ rest) = some (record, rest) := by
  have short := valid_record_bounded valid
  have small : record.data.length ≤ maxU32 := short.trans (by decide)
  refine ⟨appendInteger record.option.toNat 4 ++ (appendInteger record.value.toNat 8 ++
    (appendInteger record.data.length 4 ++ record.data)), ?_, ?_, fun rest => ?_⟩
  · simp [writeOption, writeU32, writeU64, Option.bind_eq_some_iff, write_integer_iff, write_blob_iff]
    omega
  · simp only [List.length_append, append_integer_length]
    omega
  · simp [readOption, read_blob_run _ small, short]

theorem options_lossless {output : Bytes} (valid : ∀ record ∈ options, validRecord record = true)
    (fits : output.length + 16 * options.length + storageBytes options ≤ kExecutionMaxJitWireBytes) :
    ∃ written, options.foldlM writeOption output = some (output ++ written) ∧
      output.length + written.length ≤ kExecutionMaxJitWireBytes ∧
      ∀ rest, (readOptions options.length).run (written ++ rest) = some (options, rest) := by
  induction options generalizing output with
  | nil => exact ⟨[], by simp, by simpa [storageBytes] using fits, fun _ => rfl⟩
  | cons record later ih =>
    obtain ⟨here, others⟩ := List.forall_mem_cons.mp valid
    simp only [storageBytes, List.length_cons, List.map_cons, List.sum_cons] at fits ih
    obtain ⟨first, wrote, size, reads⟩ := @option_lossless output record here (by omega)
    have joined : (output ++ first).length = output.length + first.length := List.length_append
    obtain ⟨written, follows, within, readsLater⟩ := @ih (output ++ first) others (by omega)
    refine ⟨first ++ written, ?_, by rw [List.length_append]; omega, fun rest => ?_⟩
    · rw [List.foldlM_cons, wrote, ← List.append_assoc]
      exact follows
    · simp [readOptions, reads, readsLater]

theorem valid_lossless (valid : validRecords options = true) :
    ∃ encoded, encodeExecutionJitOptions options = some encoded ∧ encoded.length ≤ kExecutionMaxJitWireBytes ∧
      decodeExecutionJitOptions encoded = some options := by
  obtain ⟨count, _, supported, storage⟩ := valid_limits valid
  obtain ⟨written, wrote, within, reads⟩ := @options_lossless options
    (appendInteger kJitMagic 4 ++ appendInteger options.length 4) (fun record mem => (supported record mem).2) (by
      simp only [List.length_append, append_integer_length, kExecutionMaxJitWireBytes]
      omega)
  have small : options.length % 4294967296 = options.length := Nat.mod_eq_of_lt (Nat.lt_of_le_of_lt count (by decide))
  refine ⟨_, ?_, (List.length_append ..).trans_le within, ?_⟩
  · rw [encodeExecutionJitOptions, if_pos valid]
    exact wrote
  · have all := reads []
    rw [List.append_nil] at all
    simp only [decodeExecutionJitOptions]
    rw [if_neg (Nat.not_lt.mpr ((List.length_append ..).trans_le within))]
    simp [kJitMagic, small, all, count, valid]

end Options

theorem codecs_lossless :
    (∀ options encoded, encodeExecutionJitOptions options = some encoded →
      decodeExecutionJitOptions encoded = some options ∧ JitLimits options ∧
        encoded.length ≤ kExecutionMaxJitWireBytes) ∧
    (∀ bytes input output, decodeExecutionJitOptions bytes = some input →
      executionJitOutputMatches input output = true →
      ∃ encoded, encodeExecutionJitOptions output = some encoded ∧ decodeExecutionJitOptions encoded = some output) ∧
    Lossless writeExecutionGraphRequest readExecutionGraphRequest ∧
    Lossless writeExecutionGraphObservation readExecutionGraphObservation ∧
    Lossless writeExecutionGraphLaunch readExecutionGraphLaunch := by
  refine ⟨fun options encoded encodes => ?_, fun bytes input output _ agrees => ?_,
    graph_request_lossless, graph_observation_lossless, graph_launch_lossless⟩
  · by_cases valid : validRecords options = true
    · obtain ⟨_, same, within, decodes⟩ := valid_lossless valid
      cases encodes.symm.trans same
      exact ⟨decodes, valid_limits valid, within⟩
    · rw [encodeExecutionJitOptions, if_neg valid] at encodes
      cases encodes
  · simp only [executionJitOutputMatches, Bool.and_eq_true] at agrees
    obtain ⟨encoded, encodes, _, decodes⟩ := valid_lossless agrees.1.1.2
    exact ⟨encoded, encodes, decodes⟩

end Glimmer.Control
