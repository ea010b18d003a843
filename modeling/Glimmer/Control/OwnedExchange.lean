import Glimmer.Control.SharedChannel
import Glimmer.Lib.CallTrees

namespace Glimmer.Control

open Glimmer.Core Lib CallTree

-- The binding's two words, zero while they are free.
abbrev BindingWords := Nat × Nat

-- One atomic step on a word; the reply is the value it found. An exchange expects a free word.
inductive BindingOp where
  | loadFirst
  | loadSecond
  | claimFirst (desired : Nat)
  | claimSecond (desired : Nat)

abbrev BindingReply (_ : BindingOp) : Type := Nat

abbrev BindingCall := CallTree BindingReply

def BindingOp.serve : BindingOp → Unit → BindingWords → Nat × BindingWords
  | .loadFirst, _, words => (words.1, words)
  | .loadSecond, _, words => (words.2, words)
  | .claimFirst desired, _, words => (words.1, if words.1 = 0 then (desired, words.2) else words)
  | .claimSecond desired, _, words => (words.2, if words.2 = 0 then (words.1, desired) else words)

namespace ServiceIncarnationBinding

def nonzeroWords (incarnation : ServiceIncarnation) : Bool := incarnation.1 ≠ 0 && incarnation.2 ≠ 0

def agrees (incarnation : ServiceIncarnation) : BindingCall Bool :=
  if !nonzeroWords incarnation then pure false
  else perform .loadFirst >>= fun (first : Nat) =>
    if first ≠ incarnation.1 then pure false
    else perform .loadSecond >>= fun (second : Nat) => pure (second = incarnation.2)

def bind (incarnation : ServiceIncarnation) : BindingCall Bool :=
  if !nonzeroWords incarnation then pure false
  else perform (.claimFirst incarnation.1) >>= fun (first : Nat) =>
    if first ≠ 0 ∧ first ≠ incarnation.1 then pure false
    else perform (.claimSecond incarnation.2) >>= fun (second : Nat) =>
      if second ≠ 0 ∧ second ≠ incarnation.2 then pure false else agrees incarnation

def isBound : BindingCall Bool :=
  perform .loadFirst >>= fun (first : Nat) =>
    if first ≠ 0 then pure true else perform .loadSecond >>= fun (second : Nat) => pure (second ≠ 0)

end ServiceIncarnationBinding

-- The retained identity tells endpoints apart, whatever their addresses.
structure OwnedExchangeTicket where
  identity : Nat
  generation : Nat

inductive OwnedExchangeColdStatus where
  | ready
  | unsupported
  | rejected
deriving DecidableEq

inductive OwnedExchangeProgress where
  | rejected
  | pending
  | response
  | uncertain
deriving DecidableEq

structure OwnedExchangePublication where
  status : SharedControlPublication := .rejected
  ticket : Option OwnedExchangeTicket := none

inductive OwnedExchangeState where
  | disconnected
  | ready
  | pending
  | uncertain
deriving DecidableEq

-- Times are nanoseconds, up to what a time point can hold.
def kMaxTimePoint : Int := 9223372036854775807

def kSocketPathBytes : Nat := 108

-- The request slot is the one mapped last. Nothing reads the list of written
-- messages, each under the ticket it was written for.
structure OwnedControlExchange where
  identity : Nat
  channel : SharedControlChannel := {}
  slot : MessageSlot := {}
  socket : Option Nat := none
  state : OwnedExchangeState := .disconnected
  ioTimeout : Int := 0
  deadline : Int := 0
  lastObservation : Int := 0
  generation : Nat := 0
  hasCleanupError : Bool := false
  written : List (Nat × Bytes) := []

inductive ColdOutcome where
  | failed
  | unsupported
  | offered (incarnation : ServiceIncarnation) (slot : MessageSlot) (timely stillInProcess : Bool)

structure ColdInput where
  inProcess : Bool := true
  socketPath : Bytes
  ioTimeoutMs : Int := 1000
  startup : Int := 0
  socket : Option Nat := some 0
  outcome : ColdOutcome
  closes : Bool := true

structure BeginInput where
  inProcess : Bool := true
  line : Bytes
  now : Int := 0
  hints : HintRead := .blocked
  isHealthy : Bool := true
  notified : Bool := true
  closes : Bool := true

structure ExchangePollInput where
  inProcess : Bool := true
  ticket : OwnedExchangeTicket
  now : Int := 0
  hints : HintRead := .blocked
  isHealthy : Bool := true
  view : SharedControlChannel.ResponseView := {}
  closes : Bool := true

namespace OwnedControlExchange

open ServiceIncarnationBinding

variable (e : OwnedControlExchange)

def closeTransport (closes : Bool) : OwnedControlExchange :=
  { e with
    channel := e.channel.reset
    socket := none
    hasCleanupError := e.hasCleanupError || (e.socket.isSome && !closes) }

def quarantine (closes : Bool) : OwnedControlExchange :=
  { e with state := .uncertain }.closeTransport closes

def coldEnd (status : OwnedExchangeColdStatus) (closes : Bool) : OwnedExchangeColdStatus × OwnedControlExchange :=
  let closed := e.closeTransport closes
  (if closed.hasCleanupError then .rejected else status, closed)

-- A fresh mapping, refused unless its slot is unused and its service is named.
def receiveOffer (socket : Nat) (incarnation : ServiceIncarnation) (slot : MessageSlot) : Option SharedControlChannel :=
  if slot.sequence ≠ 0 ∨ !nonzeroWords incarnation then none
  else some { mapped := true, incarnation := incarnation, mode := .replyHintV3, negotiatedSocket := some socket }

def initializeEndpoint (i : ColdInput) : BindingCall (OwnedExchangeColdStatus × OwnedControlExchange) :=
  if e.state ≠ .disconnected ∨ !i.inProcess ∨ e.hasCleanupError ∨ i.socketPath = [] ∨
      kSocketPathBytes ≤ i.socketPath.length ∨ i.socketPath.contains 0 ∨ i.ioTimeoutMs ≤ 0 ∨ 60000 < i.ioTimeoutMs ∨
      kMaxTimePoint - i.ioTimeoutMs * 1000000 < i.startup then pure (.rejected, e)
  else match i.socket with
    | none => pure (.rejected, e)
    | some socket =>
      let e := { e with socket := some socket }
      match i.outcome with
      | .failed => pure (e.coldEnd .rejected i.closes)
      | .unsupported =>
        isBound >>= fun bound => pure (e.coldEnd (if bound then .rejected else .unsupported) i.closes)
      | .offered incarnation slot timely stillInProcess =>
        match receiveOffer socket incarnation slot with
        | none => pure (e.coldEnd .rejected i.closes)
        | some channel =>
          if !timely ∨ !stillInProcess then pure (e.coldEnd .rejected i.closes)
          else bind channel.incarnation >>= fun bound =>
            if bound then
              pure (.ready, { e with
                channel := channel
                slot := slot
                ioTimeout := i.ioTimeoutMs * 1000000
                lastObservation := 0
                state := .ready })
            else pure (e.coldEnd .rejected i.closes)

-- The request is given a ticket as soon as it may have been published.
def publish (i : BeginInput) (bound : Bool) : OwnedExchangePublication × OwnedControlExchange :=
  if !bound ∨ !validLine i.line ∨ i.now < e.lastObservation ∨ kMaxTimePoint - e.ioTimeout < i.now ∨
      e.generation = maxU64 then ({}, e)
  else match e.channel.beginRequest e.slot i.inProcess e.socket i.line i.hints i.isHealthy i.notified with
    | (.rejected, channel, slot) =>
      ({}, { e with channel := channel, slot := slot, state := .disconnected }.closeTransport i.closes)
    | (status, channel, slot) =>
      let pending := { e with
        channel := channel
        slot := slot
        generation := e.generation + 1
        lastObservation := i.now
        deadline := i.now + e.ioTimeout
        state := .pending
        written := e.written ++ [(e.generation + 1, i.line)] }
      ({ status := status, ticket := some ⟨e.identity, e.generation + 1⟩ },
        if status = .ambiguous then pending.quarantine i.closes else pending)

def begin (i : BeginInput) : BindingCall (OwnedExchangePublication × OwnedControlExchange) :=
  if e.state ≠ .ready ∨ !i.inProcess ∨ e.hasCleanupError then pure ({}, e)
  else agrees e.channel.incarnation >>= fun bound => pure (e.publish i bound)

def owns (ticket : OwnedExchangeTicket) : Bool :=
  ticket.identity = e.identity && ticket.generation ≠ 0 && ticket.generation = e.generation

def poll (i : ExchangePollInput) : OwnedExchangeProgress × Bytes × OwnedControlExchange :=
  if !e.owns i.ticket ∨ !i.inProcess then (.rejected, [], e)
  else match e.state with
    | .uncertain => (.uncertain, [], e)
    | .disconnected => (.rejected, [], e)
    | .ready => (.rejected, [], e)
    | .pending =>
      if i.now < e.lastObservation then (.uncertain, [], e.quarantine i.closes)
      else
        match e.channel.pollResponse i.inProcess e.socket i.hints i.isHealthy i.view with
        | (.line, line, channel) =>
          (.response, line, { e with channel := channel, lastObservation := i.now, state := .ready })
        | (.idle, _, channel) =>
          let observed := { e with channel := channel, lastObservation := i.now }
          if i.now < e.deadline then (.pending, [], observed) else (.uncertain, [], observed.quarantine i.closes)
        | (.error, _, channel) =>
          (.uncertain, [], { e with channel := channel, lastObservation := i.now }.quarantine i.closes)

def abandon (inProcess : Bool) (ticket : OwnedExchangeTicket) (closes : Bool) : Bool × OwnedControlExchange :=
  if !e.owns ticket ∨ e.state ≠ .pending ∨ !inProcess then (false, e) else (true, e.quarantine closes)

def closeIdle (closes : Bool) : Bool × OwnedControlExchange :=
  if e.state ≠ .ready ∧ e.state ≠ .disconnected then (false, e)
  else
    let closed := { e with state := .disconnected }.closeTransport closes
    (!closed.hasCleanupError, closed)

end OwnedControlExchange

inductive ExchangeCall where
  | initializeEndpoint (i : ColdInput)
  | begin (i : BeginInput)
  | poll (i : ExchangePollInput)
  | abandon (inProcess : Bool) (ticket : OwnedExchangeTicket) (closes : Bool)
  | closeIdle (closes : Bool)

inductive ExchangeResult where
  | cold (status : OwnedExchangeColdStatus)
  | publication (publication : OwnedExchangePublication)
  | progress (progress : OwnedExchangeProgress) (line : Bytes)
  | done (accepted : Bool)

def OwnedControlExchange.call (e : OwnedControlExchange) :
    ExchangeCall → BindingCall (ExchangeResult × OwnedControlExchange)
  | .initializeEndpoint i => e.initializeEndpoint i >>= fun answer => pure (.cold answer.1, answer.2)
  | .begin i => e.begin i >>= fun answer => pure (.publication answer.1, answer.2)
  | .poll i => pure (.progress (e.poll i).1 (e.poll i).2.1, (e.poll i).2.2)
  | .abandon inProcess ticket closes =>
    pure (.done (e.abandon inProcess ticket closes).1, (e.abandon inProcess ticket closes).2)
  | .closeIdle closes => pure (.done (e.closeIdle closes).1, (e.closeIdle closes).2)

-- Exchanges that share one binding, each used by one caller at a time.
structure ExchangeSession where
  words : BindingWords := (0, 0)
  exchanges : Nat → OwnedControlExchange := fun identity => { identity := identity }
  calls : Nat → Option (ExchangeCall × BindingCall (ExchangeResult × OwnedControlExchange)) := fun _ => none
  history : Nat → List (ExchangeCall × ExchangeResult) := fun _ => []

inductive SessionEvent where
  | start (exchange : Nat) (call : ExchangeCall)
  | advance (exchange : Nat)

namespace ExchangeSession

def step (s : ExchangeSession) : SessionEvent → ExchangeSession
  | .start exchange call =>
    match s.calls exchange with
    | some _ => s
    | none =>
      { s with calls := Function.update s.calls exchange (some (call, (s.exchanges exchange).call call)) }
  | .advance exchange =>
    match s.calls exchange with
    | none => s
    | some (call, .enter op next) =>
      { s with
        words := (op.serve () s.words).2
        calls := Function.update s.calls exchange (some (call, next (op.serve () s.words).1)) }
    | some (call, .done (result, after)) =>
      { s with
        exchanges := Function.update s.exchanges exchange after
        calls := Function.update s.calls exchange none
        history := Function.update s.history exchange (s.history exchange ++ [(call, result)]) }

def run (s : ExchangeSession) (events : List SessionEvent) : ExchangeSession := events.foldl step s

end ExchangeSession

namespace ExchangeResult

def ticket : ExchangeResult → Option OwnedExchangeTicket
  | .publication given => given.ticket
  | _ => none

end ExchangeResult

def answeredBy : ExchangeCall × ExchangeResult → Option OwnedExchangeTicket
  | (.poll i, .progress .response _) => some i.ticket
  | _ => none

def doubtedBy : ExchangeCall × ExchangeResult → Option OwnedExchangeTicket
  | (.poll i, .progress .uncertain _) => some i.ticket
  | _ => none

namespace OwnedControlExchange

structure Same (e after : OwnedControlExchange) : Prop where
  identity : after.identity = e.identity
  generation : after.generation = e.generation
  written : after.written = e.written

def Idle (state : OwnedExchangeState) : Prop := state = .disconnected ∨ state = .ready

def Drifts (before after : OwnedExchangeState) : Prop :=
  after = before ∨ (Idle before ∧ Idle after) ∨ (before = .pending ∧ after = .uncertain)

inductive ExchangeMove (e : OwnedControlExchange) : ExchangeCall × ExchangeResult → OwnedControlExchange → Prop where
  | quiet {said : ExchangeCall × ExchangeResult} {after : OwnedControlExchange} (unticketed : said.2.ticket = none)
      (unanswered : answeredBy said = none) (undoubted : doubtedBy said = none) (same : Same e after)
      (drifts : Drifts e.state after.state) : ExchangeMove e said after
  | begun {i : BeginInput} {status : SharedControlPublication} {after : OwnedControlExchange} (ready : e.state = .ready)
      (identity : after.identity = e.identity) (generation : after.generation = e.generation + 1)
      (written : after.written = e.written ++ [(e.generation + 1, i.line)])
      (state : after.state = .pending ∨ after.state = .uncertain) :
      ExchangeMove e (.begin i, .publication ⟨status, some ⟨e.identity, e.generation + 1⟩⟩) after
  | responded {i : ExchangePollInput} {line : Bytes} {after : OwnedControlExchange} (owned : e.owns i.ticket = true)
      (pending : e.state = .pending) (same : Same e after) (state : after.state = .ready) :
      ExchangeMove e (.poll i, .progress .response line) after
  | doubted {i : ExchangePollInput} {line : Bytes} {after : OwnedControlExchange} (owned : e.owns i.ticket = true)
      (unsettled : e.state = .pending ∨ e.state = .uncertain) (same : Same e after) (state : after.state = .uncertain) :
      ExchangeMove e (.poll i, .progress .uncertain line) after

variable {e : OwnedControlExchange}

theorem Same.refl (e : OwnedControlExchange) : Same e e := ⟨rfl, rfl, rfl⟩

theorem quiet_still {said : ExchangeCall × ExchangeResult} (unticketed : said.2.ticket = none)
    (unanswered : answeredBy said = none) (undoubted : doubtedBy said = none) : ExchangeMove e said e :=
  .quiet unticketed unanswered undoubted (Same.refl e) (.inl rfl)

theorem initialize_endpoint_moves {i : ColdInput}
    {answer : OwnedExchangeColdStatus × OwnedControlExchange} (returns : (e.initializeEndpoint i).Returns answer) :
    ExchangeMove e (.initializeEndpoint i, .cold answer.1) answer.2 := by
  unfold initializeEndpoint at returns
  split at returns
  · rw [returns_done returns]
    exact quiet_still rfl rfl rfl
  next fresh =>
  have idle : e.state = .disconnected := not_not.mp (not_or.mp fresh).1
  have cold : ∀ socket status,
      ExchangeMove e (.initializeEndpoint i, .cold ({ e with socket := socket }.coldEnd status i.closes).1)
        ({ e with socket := socket }.coldEnd status i.closes).2 := fun socket status =>
    .quiet rfl rfl rfl ⟨rfl, rfl, rfl⟩ (.inl rfl)
  split at returns
  · rw [returns_done returns]
    exact quiet_still rfl rfl rfl
  next socket _ =>
  split at returns
  · rw [returns_done returns]
    exact cold _ _
  · obtain ⟨bound, _, rest⟩ := returns_bind returns
    rw [returns_done rest]
    exact cold _ _
  split at returns
  · rw [returns_done returns]
    exact cold _ _
  split at returns
  · rw [returns_done returns]
    exact cold _ _
  obtain ⟨bound, _, rest⟩ := returns_bind returns
  cases bound with
  | false =>
    rw [returns_done rest]
    exact cold _ _
  | true =>
    rw [returns_done rest]
    exact .quiet rfl rfl rfl ⟨rfl, rfl, rfl⟩ (.inr (.inl ⟨.inl idle, .inr rfl⟩))

theorem publish_moves (i : BeginInput) (bound : Bool) (ready : e.state = .ready) :
    ExchangeMove e (.begin i, .publication (e.publish i bound).1) (e.publish i bound).2 ∧
      ((e.publish i bound).1.ticket = none → (e.publish i bound).2.slot = e.slot) := by
  unfold publish
  split
  · exact ⟨quiet_still rfl rfl rfl, fun _ => rfl⟩
  split
  · next channel slot refused =>
    refine ⟨.quiet rfl rfl rfl ⟨rfl, rfl, rfl⟩ (.inr (.inl ⟨.inr ready, .inl rfl⟩)), fun _ => ?_⟩
    unfold SharedControlChannel.beginRequest at refused
    split at refused
    · cases refused
      rfl
    split at refused
    · split at refused
      · cases refused
        rfl
      · split at refused <;> cases refused
    · cases refused
      rfl
  · next status channel slot _ =>
    refine ⟨?_, nofun⟩
    split
    · exact .begun ready rfl rfl rfl (.inr rfl)
    · exact .begun ready rfl rfl rfl (.inl rfl)

theorem begin_moves {i : BeginInput}
    {answer : OwnedExchangePublication × OwnedControlExchange} (returns : (e.begin i).Returns answer) :
    ExchangeMove e (.begin i, .publication answer.1) answer.2 ∧ (answer.1.ticket = none → answer.2.slot = e.slot) := by
  unfold begin at returns
  split at returns
  · rw [returns_done returns]
    exact ⟨quiet_still rfl rfl rfl, fun _ => rfl⟩
  next usable =>
  have ready : e.state = .ready := not_not.mp (not_or.mp usable).1
  obtain ⟨bound, _, rest⟩ := returns_bind returns
  rw [returns_done rest]
  exact publish_moves i bound ready

theorem poll_moves (e : OwnedControlExchange) (i : ExchangePollInput) :
    ExchangeMove e (.poll i, .progress (e.poll i).1 (e.poll i).2.1) (e.poll i).2.2 := by
  unfold poll
  split
  · exact quiet_still rfl rfl rfl
  next usable =>
  have owned : e.owns i.ticket = true := by simpa using (not_or.mp usable).1
  split
  · next uncertain => exact .doubted owned (.inr uncertain) (Same.refl e) uncertain
  · exact quiet_still rfl rfl rfl
  · exact quiet_still rfl rfl rfl
  next pending =>
  split
  · exact .doubted owned (.inl pending) ⟨rfl, rfl, rfl⟩ rfl
  split
  · exact .responded owned pending ⟨rfl, rfl, rfl⟩ rfl
  · simp only
    split
    · exact .quiet rfl rfl rfl ⟨rfl, rfl, rfl⟩ (.inl rfl)
    · exact .doubted owned (.inl pending) ⟨rfl, rfl, rfl⟩ rfl
  · exact .doubted owned (.inl pending) ⟨rfl, rfl, rfl⟩ rfl

theorem close_idle_moves (e : OwnedControlExchange) (closes : Bool) :
    ExchangeMove e (.closeIdle closes, .done (e.closeIdle closes).1) (e.closeIdle closes).2 := by
  unfold closeIdle
  split
  · exact quiet_still rfl rfl rfl
  next idle =>
  refine .quiet rfl rfl rfl ⟨rfl, rfl, rfl⟩ (.inr (.inl ⟨?_, .inl rfl⟩))
  cases state : e.state with
  | disconnected => exact .inl rfl
  | ready => exact .inr rfl
  | pending | uncertain => exact absurd ⟨by rw [state]; nofun, by rw [state]; nofun⟩ idle

variable {call : ExchangeCall} {answer : ExchangeResult × OwnedControlExchange}

theorem call_moves (returns : (e.call call).Returns answer) : ExchangeMove e (call, answer.1) answer.2 := by
  cases call with
  | initializeEndpoint i =>
    obtain ⟨cold, first, rest⟩ := returns_bind returns
    rw [returns_done rest]
    exact initialize_endpoint_moves first
  | begin i =>
    obtain ⟨publication, first, rest⟩ := returns_bind returns
    rw [returns_done rest]
    exact (begin_moves first).1
  | poll i =>
    rw [returns_done returns]
    exact poll_moves e i
  | abandon inProcess ticket closes =>
    rw [returns_done returns]
    unfold abandon
    split
    · exact quiet_still rfl rfl rfl
    · next usable =>
      have pending : e.state = .pending := not_not.mp (not_or.mp (not_or.mp usable).2).1
      exact .quiet rfl rfl rfl ⟨rfl, rfl, rfl⟩ (.inr (.inr ⟨pending, rfl⟩))
  | closeIdle closes =>
    rw [returns_done returns]
    exact close_idle_moves e closes

theorem call_uncertain (uncertain : e.state = .uncertain) (returns : (e.call call).Returns answer) :
    answer.2 = e ∧ ∀ i, call = .poll i → e.owns i.ticket = true → i.inProcess = true →
      answer.1 = .progress .uncertain [] := by
  cases call with
  | initializeEndpoint i =>
    refine ⟨?_, nofun⟩
    obtain ⟨cold, first, rest⟩ := returns_bind returns
    rw [initializeEndpoint, if_pos (.inl (by rw [uncertain]; nofun))] at first
    rw [returns_done rest, returns_done first]
  | begin i =>
    refine ⟨?_, nofun⟩
    obtain ⟨publication, first, rest⟩ := returns_bind returns
    rw [begin, if_pos (.inl (by rw [uncertain]; nofun))] at first
    rw [returns_done rest, returns_done first]
  | poll i =>
    rw [returns_done returns]
    refine ⟨?_, fun j same owned inside => ?_⟩
    · simp only [poll, uncertain]
      split <;> rfl
    · cases same
      simp [poll, uncertain, owned, inside]
  | abandon inProcess ticket closes =>
    refine ⟨?_, nofun⟩
    rw [returns_done returns, abandon, if_pos (.inr (.inl (by rw [uncertain]; nofun)))]
  | closeIdle closes =>
    refine ⟨?_, nofun⟩
    rw [returns_done returns, closeIdle, if_pos ⟨by rw [uncertain]; nofun, by rw [uncertain]; nofun⟩]

end OwnedControlExchange

end Glimmer.Control
