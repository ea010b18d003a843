import Glimmer.Control.WireProtocol
import Glimmer.Control.Admission
import Glimmer.Lib.Roster
import Glimmer.Lib.Transcripts

namespace Glimmer.Control

structure ChannelFrame where
  bytes : Bytes
  descriptor : Option Nat := none

inductive SendOutcome where
  | interrupted
  | blocked
  | failed
  | sent (count : Nat)
deriving DecidableEq

inductive AncillaryItem where
  | rights (descriptors : List Nat) (wellFormed : Bool)
  | credentials (pid uid : UInt32)
  | other

structure Ancillary where
  truncated : Bool := false
  items : List AncillaryItem := []
  alive : Bool := true

-- What one receive call reports. A call that reads nothing has met the end of the stream.
inductive ReceiveOutcome where
  | interrupted
  | blocked
  | failed
  | data (bytes : Bytes) (ancillary : Ancillary)

def kReceiveAttempts : Nat := 8

def kSendAttempts : Nat := 8

def kReceiveBytes : Nat := 16384

structure WireChannel where
  connected : Bool := false
  identity : TaskPeerIdentity := {}
  input : Bytes := []
  output : List ChannelFrame := []
  inputDescriptor : Option Nat := none
  header : Option ExecutionWireHeader := none
  outputOffset : Nat := 0
  isReady : Bool := false
  permitsDescriptor : Bool := false

namespace WireChannel

variable (c : WireChannel)

-- One control item: whether a credential was seen, whether something was invalid, and the descriptor kept.
def credentialsItem : Bool × Bool × Option Nat → AncillaryItem → Bool × Bool × Option Nat
  | (seen, invalid, kept), .rights descriptors wellFormed =>
    let refused := invalid || !wellFormed || !c.permitsDescriptor || !c.input.isEmpty || kept.isSome ||
      descriptors.length ≠ 1
    descriptors.foldl (fun (taken : Bool × Bool × Option Nat) descriptor =>
      if !taken.2.1 && taken.2.2.isNone then (taken.1, false, some descriptor) else (taken.1, true, taken.2.2))
      (seen, refused, kept)
  | (seen, invalid, kept), .credentials pid uid =>
    (true, invalid || seen || pid ≠ c.identity.pid || uid ≠ c.identity.uid, kept)
  | (seen, _, kept), .other => (seen, true, kept)

def credentialsValid (message : Ancillary) : Bool × WireChannel :=
  let (seen, invalid, kept) := message.items.foldl c.credentialsItem (false, message.truncated, c.inputDescriptor)
  (seen && !invalid && message.alive, { c with inputDescriptor := kept })

-- A complete frame must carry a descriptor exactly when its request needs one.
def descriptorMatches (header : ExecutionWireHeader) (limit : Nat) : Bool :=
  if c.permitsDescriptor ∧ header.kind = .request then
    match normalizeExecutionRequest header.operation (c.input.drop kExecutionHeaderBytes) limit with
    | none => false
    | some request => executionRequiresDescriptor request.operation = c.inputDescriptor.isSome
  else !c.inputDescriptor.isSome

def frameBytes : Nat :=
  match c.header with
  | some header => kExecutionHeaderBytes + header.payloadBytes
  | none => kExecutionHeaderBytes

-- The frame as far as it has come in; none when its header is refused.
def withHeader (limit : Nat) : Option WireChannel :=
  if c.header.isNone ∧ c.input.length = kExecutionHeaderBytes then
    (decodeExecutionHeader c.input limit).map fun header => { c with header := some header }
  else some c

def receiveAttempts (limit : Nat) : Nat → WireChannel → List ReceiveOutcome → Bool × WireChannel
  | 0, c, _ => (true, c)
  | _ + 1, c, [] => (true, c)
  | _ + 1, c, .blocked :: _ => (true, c)
  | _ + 1, c, .failed :: _ => (false, c)
  | attempts + 1, c, .interrupted :: rest => receiveAttempts limit attempts c rest
  | attempts + 1, c, .data bytes ancillary :: rest =>
    let chunk := bytes.take (min kReceiveBytes (c.frameBytes - c.input.length))
    if chunk = [] then (false, c)
    else match c.credentialsValid ancillary with
      | (false, c) => (false, c)
      | (true, c) =>
        let c := { c with input := c.input ++ chunk }
        match c.withHeader limit with
        | none => (false, c)
        | some c =>
          match c.header with
          | none => receiveAttempts limit attempts c rest
          | some header =>
            if c.input.length = kExecutionHeaderBytes + header.payloadBytes then
              let c := { c with isReady := true }
              (c.descriptorMatches header limit, c)
            else receiveAttempts limit attempts c rest

def receive (limit : Nat) (outcomes : List ReceiveOutcome) : Bool × WireChannel :=
  if c.isReady then (true, c) else receiveAttempts limit kReceiveAttempts c outcomes

-- Interrupted calls are repeated a bounded number of times.
def settledSend (outcomes : List SendOutcome) : SendOutcome :=
  ((outcomes.take kSendAttempts).find? fun outcome => outcome ≠ .interrupted).getD .interrupted

def sendPending (outcomes : List SendOutcome) : Bool × WireChannel :=
  match c.output with
  | [] => (true, c)
  | frame :: rest =>
    match settledSend outcomes with
    | .interrupted => (true, c)
    | .blocked => (true, c)
    | .failed => (false, c)
    | .sent count =>
      if count = 0 then (false, c)
      else
        let offset := c.outputOffset + min count (frame.bytes.length - c.outputOffset)
        if offset = frame.bytes.length then (true, { c with output := rest, outputOffset := 0 })
        else (true, { c with output := { frame with descriptor := none } :: rest, outputOffset := offset })

def take : Option (ExecutionWireMessage × WireChannel) :=
  c.header.map fun header =>
    (⟨header, c.input.drop kExecutionHeaderBytes⟩, { c with input := [], header := none, isReady := false })

end WireChannel

open Glimmer.Core Lib

def kExecutionMaxPreparationTimeoutMs : Nat := 600000

structure ExecutionSocketClientConfig where
  expectedServer : TaskPeerIdentity
  timeoutMs : Nat := 30000
  maxPayloadBytes : Nat := kExecutionMaxPayloadBytes
  maxPendingRequests : Nat := 8
  preparationTimeoutMs : Option Nat := none

inductive ExecutionSocketSubmitStatus where
  | accepted
  | full
  | unavailable
  | invalid
deriving DecidableEq

structure ExecutionSocketSubmission where
  status : ExecutionSocketSubmitStatus := .unavailable
  sequence : Nat := 0

structure ExecutionSocketExpiry where
  operation : ExecutionOpcode
  effectiveOperation : ExecutionOpcode
  sequence : Nat
  session : Nat
  timeoutMs : Nat

structure PendingRequest where
  operation : ExecutionOpcode
  effectiveOperation : ExecutionOpcode
  sequence : Nat
  deadline : Int
  reply : Option ExecutionWireReply := none
  isMetadataBootstrap : Bool := false

-- A reply that was attached: the frame's header, the request as it stood, and the time.
structure VerifiedReply where
  header : ExecutionWireHeader
  request : PendingRequest
  reply : ExecutionWireReply
  time : Int

-- Nothing reads the list of verified replies.
structure ExecutionSocketClient where
  config : ExecutionSocketClientConfig
  channel : WireChannel := {}
  session : Nat := 0
  nextSequence : Nat := 1
  incarnation : Nat × Nat := (0, 0)
  pending : List PendingRequest := []
  expiry : Option ExecutionSocketExpiry := none
  hasAttempted : Bool := false
  isPoisoned : Bool := false
  isClosing : Bool := false
  hasSequenceSpace : Bool := true
  verified : List VerifiedReply := []

structure SubmitInput where
  inProcess : Bool := true
  allocated : Bool := true
  encoded : Bool := true
  duplicated : Option Nat := none
  queued : Bool := true
  now : Int := 0
  observed : Int := 0
  sends : List SendOutcome := []

structure PollInput where
  inProcess : Bool := true
  now : Int := 0
  alive : Bool := true
  failed : Bool := false
  writable : Bool := false
  readable : Bool := false
  hangup : Bool := false
  sends : List SendOutcome := []
  receives : List ReceiveOutcome := []
  allocated : Bool := true
  received : Int := 0
  finished : Int := 0

inductive ConnectOutcome where
  | unaddressed
  | unconnected
  | connected
deriving DecidableEq

namespace ExecutionSocketClientConfig

def accepted (config : ExecutionSocketClientConfig) : Bool :=
  config.expectedServer.pid ≠ 0 && config.expectedServer.startTimeTicks ≠ 0 && config.timeoutMs ≠ 0 &&
    config.maxPayloadBytes ≠ 0 && config.maxPendingRequests ≠ 0 &&
    (config.preparationTimeoutMs.all fun timeout => timeout ≠ 0 && timeout ≤ kExecutionMaxPreparationTimeoutMs) &&
    config.maxPendingRequests ≤ 64 && config.maxPayloadBytes ≤ maxU32 - kExecutionSourceContinuationBytes

def effectiveTimeoutMs (config : ExecutionSocketClientConfig) (operation : ExecutionOpcode) : Nat :=
  match config.preparationTimeoutMs with
  | some timeout => if executionUsesPreparationDeadline operation then timeout else config.timeoutMs
  | none => config.timeoutMs

def deadline (config : ExecutionSocketClientConfig) (operation : ExecutionOpcode) (now : Int) : Int :=
  now + config.effectiveTimeoutMs operation * 1000000

end ExecutionSocketClientConfig

def metadataBootstrap (request : ExecutionRequestView) : Bool :=
  request.operation = .hello &&
    match (do
      let role ← ExecutionPayloadReader.readU32
      ExecutionPayloadReader.must (role = kExecutionLtMetadataRole || role = kExecutionDnnMetadataRole ||
        role = kExecutionPointerMetadataRole || role = kExecutionProcessMemoryRole)
      let flags ← ExecutionPayloadReader.readU32
      ExecutionPayloadReader.must (flags = 0)
      ExecutionPayloadReader.empty : ExecutionPayloadReader Bool).run request.payload with
    | some (complete, _) => complete
    | none => false

def hostFunctionObservation (operation : ExecutionOpcode) : Bool :=
  operation = .queryHostFunction || operation = .finishHostFunction

namespace ExecutionSocketClient

def construct (config : ExecutionSocketClientConfig) : Option ExecutionSocketClient :=
  if config.accepted then some { config := config } else none

variable (c : ExecutionSocketClient) (i : SubmitInput) (operation : ExecutionOpcode) (payload : Bytes)

def poison : ExecutionSocketClient :=
  { c with
    isPoisoned := true
    channel := { c.channel with connected := false, output := [], inputDescriptor := none } }

def earliestExpired (now : Int) (pending : List PendingRequest) : Option PendingRequest :=
  pending.foldl (fun earliest request =>
    if request.reply.isNone ∧ request.deadline ≤ now ∧ earliest.all fun other => request.deadline < other.deadline then
      some request
    else earliest) none

def observeExpiry (now : Int) : Bool × ExecutionSocketClient :=
  match earliestExpired now c.pending with
  | none => (false, c)
  | some earliest =>
    (true, if c.expiry.isSome then c else
      { c with
        expiry := some
          { operation := earliest.operation
            effectiveOperation := earliest.effectiveOperation
            sequence := earliest.sequence
            session := c.session
            timeoutMs := c.config.effectiveTimeoutMs earliest.effectiveOperation } })

-- The request is queued and its number consumed before anything is sent.
def admitted (request : PendingRequest) (frame : ChannelFrame) : ExecutionSocketClient :=
  let queued := { c with
    pending := c.pending ++ [request]
    channel := { c.channel with output := c.channel.output ++ [frame] }
    nextSequence := if c.nextSequence = maxU64 then c.nextSequence else c.nextSequence + 1
    hasSequenceSpace := c.nextSequence ≠ maxU64
    isClosing := c.isClosing || request.effectiveOperation = .close }
  if queued.channel.output.length = 1 then
    match queued.channel.sendPending i.sends with
    | (true, channel) => { queued with channel := channel }
    | (false, channel) => { queued with channel := channel }.poison
  else queued

def submitImpl (borrowedDescriptor : Int) : (ExecutionSocketSubmission × Nat) × ExecutionSocketClient :=
  if !i.inProcess ∨ c.isPoisoned ∨ (c.isClosing ∧ !hostFunctionObservation operation) ∨ !c.hasSequenceSpace ∨
      !c.channel.connected then (({}, 0), c)
  else match normalizeExecutionRequest operation payload c.config.maxPayloadBytes with
    | none => (({ status := .invalid }, 0), c)
    | some request =>
      if borrowedDescriptor < -1 ∨ executionRequiresDescriptor request.operation ≠ decide (0 ≤ borrowedDescriptor) then
        (({ status := .invalid }, 0), c)
      else if c.pending.length = c.config.maxPendingRequests ∨
          (request.operation = .close ∧ c.pending ≠ []) then (({ status := .full }, 0), c)
      else if !i.allocated then (({}, 0), c)
      else
        let header : ExecutionWireHeader :=
          { kind := .request, operation := operation, session := c.session, sequence := c.nextSequence,
            incarnation := c.incarnation }
        match encodeExecutionMessage ⟨header, payload⟩ c.config.maxPayloadBytes with
        | none => (({ status := .invalid }, 0), c)
        | some bytes =>
          if !i.encoded ∨ (0 ≤ borrowedDescriptor ∧ i.duplicated = none) then (({ status := .invalid }, 0), c)
          else if !i.queued then (({}, 0), c)
          else
            let pending : PendingRequest :=
              { operation := operation
                effectiveOperation := request.operation
                sequence := c.nextSequence
                deadline := c.config.deadline request.operation i.now
                isMetadataBootstrap := metadataBootstrap request }
            let descriptor := if 0 ≤ borrowedDescriptor then i.duplicated else none
            (({ status := .accepted, sequence := c.nextSequence }, i.observed.toNat),
              c.admitted i pending ⟨bytes, descriptor⟩)

-- The frame that opens the connection; none when its scope cannot be wrapped.
def openingRequest (bootstrap : Bytes) :
    Option ExecutionSourceContinuation → Option (ExecutionOpcode × Bytes)
  | none => some (.hello, bootstrap)
  | some scope =>
    (encodeExecutionSourceContinuation scope .hello bootstrap c.config.maxPayloadBytes).map (.sourceContinuation, ·)

def submitOpen (connect : ConnectOutcome) (bootstrap : Bytes)
    (continuation : Option ExecutionSourceContinuation) : ExecutionSocketSubmission × ExecutionSocketClient :=
  if !i.inProcess ∨ c.hasAttempted then ({}, c)
  else match c.openingRequest bootstrap continuation with
    | none => ({ status := .invalid }, { c with hasAttempted := true })
    | some (operation, payload) =>
      match connect with
      | .unaddressed => ({}, { c with hasAttempted := true })
      | .unconnected => ({}, { c with hasAttempted := true }.poison)
      | .connected =>
        let channel := { c.channel with connected := true, identity := c.config.expectedServer }
        let answer := { c with hasAttempted := true, channel := channel }.submitImpl i operation payload (-1)
        (answer.1.1, answer.2)

def submit (borrowedDescriptor : Int) : (ExecutionSocketSubmission × Nat) × ExecutionSocketClient :=
  if !i.inProcess ∨ c.session = 0 then (({}, 0), c)
  else match normalizeExecutionRequest operation payload c.config.maxPayloadBytes with
    | none => (({ status := .invalid }, 0), c)
    | some request =>
      if request.operation = .hello then (({}, 0), c) else c.submitImpl i operation payload borrowedDescriptor

-- Also tells whether the accepted frame has been handed to the socket completely.
def submitObserved (borrowedDescriptor : Int) : (ExecutionSocketSubmission × Nat × Bool) × ExecutionSocketClient :=
  let answer := c.submit i operation payload borrowedDescriptor
  ((answer.1.1, answer.1.2,
      answer.1.1.status = .accepted && !answer.2.isPoisoned && answer.2.channel.output.isEmpty), answer.2)

-- What a bootstrap's reply must say about ownership, if it says anything.
def bootstrapAccepted (request : PendingRequest) (reply : ExecutionWireReply) : Bool :=
  if request.effectiveOperation = .hello ∧ (reply.data ≠ [] ∨ request.isMetadataBootstrap) then
    match decodeExecutionBootstrapOwnership reply.data with
    | none => false
    | some ownership =>
      let expected := if request.isMetadataBootstrap then .metadataRetained else .retained
      !(reply.status = 0 && reply.disposition = .complete && ownership ≠ expected)
  else true

def failedBootstrap (request : PendingRequest) (reply : ExecutionWireReply) : Bool :=
  request.effectiveOperation = .hello && (reply.disposition ≠ .complete || reply.status ≠ 0)

def attach (header : ExecutionWireHeader) (request : PendingRequest)
    (reply : ExecutionWireReply) (now : Int) : ExecutionSocketClient :=
  let settled := { c with
    session := header.session
    incarnation := header.incarnation
    pending := amend PendingRequest.sequence request.sequence (fun r => { r with reply := some reply }) c.pending
    verified := c.verified ++ [⟨header, request, reply, now⟩] }
  if request.effectiveOperation = .close ∨ failedBootstrap request reply then settled.poison else settled

def receiveReply (now : Int) : Bool × ExecutionSocketClient :=
  if !c.channel.isReady then (true, c)
  else match c.channel.take with
    | none => (false, c)
    | some (message, channel) =>
      let c := { c with channel := channel }
      match lookupKey PendingRequest.sequence message.header.sequence c.pending with
      | none => (false, c)
      | some found =>
        if found.reply.isSome then (false, c)
        else if found.deadline ≤ now then (false, (c.observeExpiry now).2)
        else if message.header.kind ≠ .reply ∨ message.header.operation ≠ found.operation ∨
            message.header.session = 0 ∨ message.header.incarnation = (0, 0) ∨
            (c.session ≠ 0 ∧
              (message.header.session ≠ c.session ∨ message.header.incarnation ≠ c.incarnation)) then (false, c)
        else match decodeExecutionReply message.payload with
          | none => (false, c)
          | some reply =>
            if bootstrapAccepted found reply then (true, c.attach message.header found reply now) else (false, c)

def orPoison (stage : Bool × ExecutionSocketClient) (rest : ExecutionSocketClient → Bool × ExecutionSocketClient) :
    Bool × ExecutionSocketClient :=
  if stage.1 then rest stage.2 else (false, stage.2.poison)

def pollFor (i : PollInput) : Bool × ExecutionSocketClient :=
  if !i.inProcess ∨ c.isPoisoned ∨ !c.channel.connected then (false, c)
  else
    let expired := c.observeExpiry i.now
    orPoison (!expired.1 && i.alive && !i.failed, expired.2) fun c =>
      let sent := c.channel.sendPending i.sends
      orPoison (if i.writable then (sent.1, { c with channel := sent.2 }) else (true, c)) fun c =>
        let read := c.channel.receive c.config.maxPayloadBytes i.receives
        orPoison (if i.readable then (read.1, { c with channel := read.2 }) else (true, c)) fun c =>
          orPoison (if i.allocated then c.receiveReply i.received else (false, c)) fun c =>
            if i.hangup then (false, c.poison)
            else
              let late := c.observeExpiry i.finished
              orPoison (!late.1, late.2) fun c => (true, c)

def takeReply (inProcess : Bool) (sequence : Nat) : Option ExecutionWireReply × ExecutionSocketClient :=
  if !inProcess then (none, c)
  else match lookupKey PendingRequest.sequence sequence c.pending with
    | none => (none, c)
    | some found =>
      match found.reply with
      | none => (none, c)
      | some reply => (some reply, { c with pending := strike PendingRequest.sequence sequence c.pending })

end ExecutionSocketClient

inductive ClientEvent where
  | submitOpen (i : SubmitInput) (connect : ConnectOutcome) (bootstrap : Bytes)
      (continuation : Option ExecutionSourceContinuation)
  | submit (i : SubmitInput) (operation : ExecutionOpcode) (payload : Bytes) (borrowedDescriptor : Int)
  | submitObserved (i : SubmitInput) (operation : ExecutionOpcode) (payload : Bytes) (borrowedDescriptor : Int)
  | pollFor (i : PollInput)
  | takeReply (inProcess : Bool) (sequence : Nat)

inductive ClientAnswer where
  | opened (submission : ExecutionSocketSubmission)
  | submitted (submission : ExecutionSocketSubmission) (queuedNs : Nat)
  | observed (submission : ExecutionSocketSubmission) (queuedNs : Nat) (fullyFlushed : Bool)
  | polled (alive : Bool)
  | took (reply : Option ExecutionWireReply)

abbrev ClientExchange := ClientEvent × ClientAnswer

namespace ExecutionSocketClient

def step (c : ExecutionSocketClient) : ClientEvent → ClientAnswer × ExecutionSocketClient
  | .submitOpen i connect bootstrap continuation =>
    let answer := c.submitOpen i connect bootstrap continuation
    (.opened answer.1, answer.2)
  | .submit i operation payload borrowedDescriptor =>
    let answer := c.submit i operation payload borrowedDescriptor
    (.submitted answer.1.1 answer.1.2, answer.2)
  | .submitObserved i operation payload borrowedDescriptor =>
    let answer := c.submitObserved i operation payload borrowedDescriptor
    (.observed answer.1.1 answer.1.2.1 answer.1.2.2, answer.2)
  | .pollFor i =>
    let answer := c.pollFor i
    (.polled answer.1, answer.2)
  | .takeReply inProcess sequence =>
    let answer := c.takeReply inProcess sequence
    (.took answer.1, answer.2)

def run (c : ExecutionSocketClient) (events : List ClientEvent) : ExecutionSocketClient := stateAfter step c events

def trace (c : ExecutionSocketClient) (events : List ClientEvent) : List ClientExchange := transcript step c events

end ExecutionSocketClient

end Glimmer.Control
