import Glimmer.Control.TaskProtocol

namespace Glimmer.Control

open Glimmer.Core

abbrev ServiceIncarnation := Nat × Nat

inductive SharedControlMode where
  | v2
  | replyHintV3
deriving DecidableEq

inductive SharedControlPublication where
  | rejected
  | published
  | ambiguous
deriving DecidableEq

inductive SharedControlReadStatus where
  | line
  | idle
  | error
deriving DecidableEq

inductive HintStatus where
  | healthy
  | closed
  | malformed
deriving DecidableEq

def maxSequence : Nat := 4294967295

structure MessageSlot where
  sequence : Nat := 0
  length : Nat := 0
  bytes : Nat → UInt8 := fun _ => 0
  incarnation : ServiceIncarnation := (0, 0)

namespace MessageSlot

variable (slot : MessageSlot)

def storeByte (index : Nat) (value : UInt8) : MessageSlot :=
  { slot with bytes := Function.update slot.bytes index value }

def storeLength (length : Nat) : MessageSlot := { slot with length := length }

def storeSequence (sequence : Nat) : MessageSlot := { slot with sequence := sequence }

def storeLine (slot : MessageSlot) : Nat → Bytes → MessageSlot
  | _, [] => slot
  | index, value :: rest => (slot.storeByte index value).storeLine (index + 1) rest

def writeMessage (sequence : Nat) (line : Bytes) : MessageSlot :=
  ((slot.storeLine 0 line).storeLength line.length).storeSequence sequence

end MessageSlot

-- Exactly one newline, at the end, and no zero byte.
def validLine (line : Bytes) : Bool :=
  line ≠ [] && line.length ≤ kTaskProtocolMaxLineBytes && line.getLast? = some 10 && line.idxOf 10 = line.length - 1 &&
    !line.contains 0

-- What a nonblocking read of up to three bytes finds.
inductive HintRead where
  | blocked
  | closed
  | data (bytes : Bytes)

def kReplyHint : UInt8 := 82

-- The number of hints received moves only when the bytes are good.
def drainReplyHints (publishedSequence receivedCount : Nat) : HintRead → HintStatus × Nat
  | .blocked => (.healthy, receivedCount)
  | .closed => (.closed, receivedCount)
  | .data bytes =>
    if bytes = [] then (.closed, receivedCount)
    else if 2 < bytes.length ∨ publishedSequence < receivedCount ∨
        publishedSequence - receivedCount < bytes.length then (.malformed, receivedCount)
    else if bytes.any (· ≠ kReplyHint) then (.malformed, receivedCount)
    else (.healthy, receivedCount + bytes.length)

-- An endpoint's own side: no peer can touch it.
structure SharedControlChannel where
  mapped : Bool := false
  sequence : Nat := 0
  isServer : Bool := false
  isPending : Bool := false
  incarnation : ServiceIncarnation := (0, 0)
  mode : SharedControlMode := .v2
  negotiatedSocket : Option Nat := none
  receivedHints : Nat := 0
  hasTransportError : Bool := false

namespace SharedControlChannel

def reset (_ : SharedControlChannel) : SharedControlChannel := {}

variable (c : SharedControlChannel)

def sendsReplyHints : Bool := c.mode = .replyHintV3

def refusesRequest (inProcess : Bool) (socket : Option Nat) (line : Bytes) : Bool :=
  !(c.mapped && inProcess) || !c.sendsReplyHints || c.isServer || c.isPending || c.hasTransportError ||
    socket ≠ c.negotiatedSocket || !validLine line || c.sequence = maxSequence

def refusesPoll (inProcess : Bool) (socket : Option Nat) : Bool :=
  !(c.mapped && inProcess) || !c.sendsReplyHints || c.isServer || !c.isPending || c.hasTransportError ||
    socket ≠ c.negotiatedSocket

def withError : SharedControlChannel := { c with hasTransportError := true }

def advanced : SharedControlChannel := { c with isPending := true, sequence := c.sequence + 1 }

def settled (isHealthy : Bool) : SharedControlChannel :=
  { c with isPending := false, hasTransportError := !isHealthy }

def drained (read : HintRead) : HintStatus × SharedControlChannel :=
  let (status, received) := drainReplyHints c.sequence c.receivedHints read
  (status, { c with receivedHints := received })

def beginRequest (slot : MessageSlot) (inProcess : Bool) (socket : Option Nat) (line : Bytes)
    (hints : HintRead) (isHealthy notified : Bool) : SharedControlPublication × SharedControlChannel × MessageSlot :=
  if c.refusesRequest inProcess socket line then (.rejected, c, slot)
  else match c.drained hints with
    | (.healthy, c) =>
      if !isHealthy then (.rejected, c.withError, slot)
      else if !notified then (.ambiguous, c.advanced.withError, slot.writeMessage c.advanced.sequence line)
      else (.published, c.advanced, slot.writeMessage c.advanced.sequence line)
    | (_, c) => (.rejected, c.withError, slot)

-- The sequence and incarnation first seen, and the line read when it was due, if it was good.
structure ResponseView where
  sequence : Nat := 0
  incarnation : ServiceIncarnation := (0, 0)
  line : Option Bytes := none

-- The slot is looked at after the hints and the socket.
def observeResponse (isHealthy : Bool) (view : ResponseView) : SharedControlReadStatus × Bytes × SharedControlChannel :=
  if view.incarnation ≠ c.incarnation ∨ (view.sequence ≠ c.sequence ∧ view.sequence ≠ c.sequence - 1) then
    (.error, [], c.withError)
  else if view.sequence = c.sequence then
    match view.line with
    | none => (.error, [], c.withError)
    | some line => (.line, line, c.settled isHealthy)
  else if !isHealthy then (.error, [], c.withError)
  else (.idle, [], c)

def pollResponse (inProcess : Bool) (socket : Option Nat) (hints : HintRead)
    (socketHealthy : Bool) (view : ResponseView) : SharedControlReadStatus × Bytes × SharedControlChannel :=
  if c.refusesPoll inProcess socket then (.error, [], c)
  else match c.drained hints with
    | (.malformed, c) => (.error, [], c.withError)
    | (.healthy, c) => c.observeResponse socketHealthy view
    | (.closed, c) => c.observeResponse false view

end SharedControlChannel

-- Where an endpoint stands in a call, before its next atomic step.
inductive LinkPlace where
  | idle
  -- begin_request: read the hints, look at the socket.
  | draining (line : Bytes)
  | checking (line : Bytes)
  -- write_message: the bytes and then the length, the sequence, the notification.
  | storing (line : Bytes) (index : Nat)
  | committing (line : Bytes)
  | notifying
  | hinting
  -- wait_message, with the second look after the socket was found dead.
  | awaiting
  | rechecking
  -- poll_response: read the hints, look at the socket, look at the slot.
  | pollDraining
  | pollChecking
  | looking (isHealthy : Bool)
  -- read_message: the length, the bytes, the sequence again.
  | measuring (isHealthy : Bool)
  | loading (isHealthy : Bool) (remaining : Nat) (read : Bytes)
deriving DecidableEq

-- One endpoint, the slot it writes, and the numbered lines it has put there and has read from the other's. A V2
-- response whose notification failed is not published again: there are no retries.
structure LinkParty where
  channel : SharedControlChannel
  slot : MessageSlot := {}
  place : LinkPlace := .idle
  sent : List (Nat × Bytes) := []
  got : List (Nat × Bytes) := []
  refused : Bool := false

-- The hints on their way to the client, and what has really gone wrong.
structure LinkWire where
  hints : Bytes := []
  failed : Bool := false
  unheard : Bool := false

-- What the world decides at a step: how many hints a read returns, whether the socket breaks now, whether a
-- notification succeeds, whether a wait is over or cannot sleep.
structure LinkInput where
  count : Nat := 3
  broken : Bool := false
  notified : Bool := true
  expired : Bool := false

namespace LinkWire

-- A read returns at least one byte when there is one.
def receive (wire : LinkWire) (i : LinkInput) : HintRead × LinkWire :=
  if i.broken then (.closed, { wire with failed := true })
  else if wire.hints = [] then (.blocked, wire)
  else
    let count := max 1 (min 3 i.count)
    (.data (wire.hints.take count), { wire with hints := wire.hints.drop count })

def check (wire : LinkWire) (i : LinkInput) : LinkWire := { wire with failed := wire.failed || i.broken }

def notify (wire : LinkWire) (i : LinkInput) : LinkWire := { wire with unheard := wire.unheard || !i.notified }

def send (wire : LinkWire) (i : LinkInput) : LinkWire :=
  if i.broken then { wire with failed := true } else { wire with hints := wire.hints ++ [kReplyHint] }

end LinkWire

namespace LinkParty

variable (me : LinkParty)

def expected : Nat := if me.channel.isServer then me.channel.sequence + 1 else me.channel.sequence

def rest : LinkParty := { me with place := .idle }

def erring : LinkParty := { me with channel := me.channel.withError, place := .idle }

-- A message that cannot be read is an error of the transport to a V3 client only.
def readFailed : LinkParty :=
  if !me.channel.isServer ∧ me.channel.sendsReplyHints then me.erring else me.rest

def readDone (isHealthy : Bool) (line : Bytes) : LinkParty :=
  let channel :=
    if me.channel.isServer then me.channel.advanced
    else if me.channel.sendsReplyHints then me.channel.settled isHealthy
    else { me.channel with isPending := false }
  { me with channel := channel, place := .idle, got := me.got ++ [(me.expected, line)] }

def notifyDone (notified : Bool) : LinkParty :=
  match me.channel.mode, me.channel.isServer, notified with
  | .v2, false, _ => me.rest
  | .v2, true, true => { me with channel := { me.channel with isPending := false }, place := .idle }
  | .v2, true, false => { me with place := .idle, refused := true }
  | .replyHintV3, false, true => me.rest
  | .replyHintV3, true, true => { me with place := .hinting }
  | .replyHintV3, _, false => me.erring

-- One atomic step; the other endpoint is only seen through its slot.
def advance (slot : MessageSlot) (wire : LinkWire) (i : LinkInput) : LinkParty × LinkWire :=
  match me.place with
  | .idle => (me, wire)
  | .draining line =>
    let (read, wire) := wire.receive i
    match me.channel.drained read with
    | (.healthy, channel) => ({ me with channel := channel, place := .checking line }, wire)
    | (_, channel) => ({ me with channel := channel }.erring, wire)
  | .checking line =>
    if i.broken then (me.erring, wire.check i)
    else ({ me with channel := me.channel.advanced, place := .storing line 0 }, wire)
  | .storing line index =>
    match (line)[index]? with
    | some value => ({ me with slot := me.slot.storeByte index value, place := .storing line (index + 1) }, wire)
    | none => ({ me with slot := me.slot.storeLength line.length, place := .committing line }, wire)
  | .committing line =>
    ({ me with
      slot := me.slot.storeSequence me.channel.sequence
      place := .notifying
      sent := me.sent ++ [(me.channel.sequence, line)] }, wire)
  | .notifying => (me.notifyDone i.notified, wire.notify i)
  | .hinting =>
    if i.broken then (me.erring, wire.send i)
    else ({ me with channel := { me.channel with isPending := false }, place := .idle }, wire.send i)
  | .awaiting =>
    if slot.sequence = me.expected then ({ me with place := .measuring true }, wire)
    else if slot.sequence ≠ me.expected - 1 then (me.rest, wire)
    else if i.expired then (me.rest, wire)
    else if i.broken then ({ me with place := .rechecking }, wire.check i)
    else (me, wire)
  | .rechecking =>
    if slot.sequence = me.expected then ({ me with place := .measuring true }, wire) else (me.rest, wire)
  | .pollDraining =>
    let (read, wire) := wire.receive i
    match me.channel.drained read with
    | (.malformed, channel) => ({ me with channel := channel }.erring, wire)
    | (.healthy, channel) => ({ me with channel := channel, place := .pollChecking }, wire)
    | (.closed, channel) => ({ me with channel := channel, place := .looking false }, wire)
  | .pollChecking => ({ me with place := .looking !i.broken }, wire.check i)
  | .looking isHealthy =>
    if slot.incarnation ≠ me.channel.incarnation ∨
        (slot.sequence ≠ me.channel.sequence ∧ slot.sequence ≠ me.channel.sequence - 1) then (me.erring, wire)
    else if slot.sequence = me.channel.sequence then ({ me with place := .measuring isHealthy }, wire)
    else if !isHealthy then (me.erring, wire)
    else (me.rest, wire)
  | .measuring isHealthy =>
    if slot.length = 0 ∨ kTaskProtocolMaxLineBytes < slot.length then (me.readFailed, wire)
    else ({ me with place := .loading isHealthy slot.length [] }, wire)
  | .loading isHealthy (remaining + 1) read =>
    ({ me with place := .loading isHealthy remaining (read ++ [slot.bytes read.length]) }, wire)
  | .loading isHealthy 0 read =>
    if slot.sequence = me.expected ∧ validLine read then (me.readDone isHealthy read, wire)
    else (me.readFailed, wire)

end LinkParty

inductive ClientCall where
  | publishRequest (line : Bytes)
  | receiveResponse
  | beginRequest (line : Bytes)
  | pollResponse

inductive ServerCall where
  | receiveRequest
  | publishResponse (line : Bytes)
  | publishResponseWithHint (line : Bytes)

def LinkParty.beginClient (me : LinkParty) : ClientCall → LinkParty
  | .publishRequest line =>
    if me.channel.sendsReplyHints ∨ !me.channel.mapped ∨ me.channel.isServer ∨ me.channel.isPending ∨
        me.channel.negotiatedSocket = none ∨ me.channel.sequence = maxSequence then me
    else if validLine line then { me with channel := me.channel.advanced, place := .storing line 0 }
    else { me with channel := me.channel.advanced }
  | .receiveResponse =>
    if me.channel.sendsReplyHints ∨ !me.channel.mapped ∨ me.channel.isServer ∨ !me.channel.isPending then me
    else { me with place := .awaiting }
  | .beginRequest line =>
    if me.channel.refusesRequest true me.channel.negotiatedSocket line then me else { me with place := .draining line }
  | .pollResponse =>
    if me.channel.refusesPoll true me.channel.negotiatedSocket then me else { me with place := .pollDraining }

def LinkParty.beginServer (me : LinkParty) : ServerCall → LinkParty
  | .receiveRequest =>
    if !me.channel.mapped ∨ !me.channel.isServer ∨ me.channel.isPending ∨
        (me.channel.sendsReplyHints ∧ me.channel.hasTransportError) ∨ me.channel.sequence = maxSequence then me
    else { me with place := .awaiting }
  | .publishResponse line =>
    if me.channel.sendsReplyHints ∨ !me.channel.mapped ∨ !me.channel.isServer ∨ !me.channel.isPending ∨
        me.channel.negotiatedSocket = none ∨ me.refused then me
    else if validLine line then { me with place := .storing line 0 }
    else me
  | .publishResponseWithHint line =>
    if !me.channel.mapped ∨ !me.channel.sendsReplyHints ∨ !me.channel.isServer ∨ !me.channel.isPending ∨
        me.channel.hasTransportError then me
    else if validLine line then { me with place := .storing line 0 }
    else me.erring

inductive LinkEvent where
  | clientCall (call : ClientCall)
  | serverCall (call : ServerCall)
  | clientStep (i : LinkInput)
  | serverStep (i : LinkInput)

structure ControlLink where
  client : LinkParty
  server : LinkParty
  wire : LinkWire := {}

namespace ControlLink

def step (link : ControlLink) : LinkEvent → ControlLink
  | .clientCall call =>
    if link.client.place = .idle then { link with client := link.client.beginClient call } else link
  | .serverCall call =>
    if link.server.place = .idle then { link with server := link.server.beginServer call } else link
  | .clientStep i =>
    let (client, wire) := link.client.advance link.server.slot link.wire i
    { link with client := client, wire := wire }
  | .serverStep i =>
    let (server, wire) := link.server.advance link.client.slot link.wire i
    { link with server := server, wire := wire }

def run (link : ControlLink) (events : List LinkEvent) : ControlLink := events.foldl step link

def new (mode : SharedControlMode) (incarnation : ServiceIncarnation) (socket : Nat) : ControlLink :=
  { client := { channel := { mapped := true, incarnation := incarnation, mode := mode, negotiatedSocket := some socket } }
    server :=
      { channel :=
          { mapped := true, isServer := true, incarnation := incarnation, mode := mode, negotiatedSocket := some socket }
        slot := { incarnation := incarnation } } }

end ControlLink

end Glimmer.Control
