import Glimmer.Control.SocketClient

namespace Glimmer.Control

open Glimmer.Core Lib

-- What an accepted submission promises; the operation on the wire may stand for another.
structure AdmittedRequest where
  sequence : Nat
  operation : ExecutionOpcode
  effectiveOperation : ExecutionOpcode
  deadline : Int

def PendingRequest.admission (request : PendingRequest) : AdmittedRequest :=
  ⟨request.sequence, request.operation, request.effectiveOperation, request.deadline⟩

namespace ExecutionSocketClient

def admissionOf (c : ExecutionSocketClient) (i : SubmitInput) (operation : ExecutionOpcode) (payload : Bytes)
    (submission : ExecutionSocketSubmission) : Option AdmittedRequest :=
  if submission.status = .accepted then
    (normalizeExecutionRequest operation payload c.config.maxPayloadBytes).map fun request =>
      ⟨submission.sequence, operation, request.operation, c.config.deadline request.operation i.now⟩
  else none

def admittedBy (c : ExecutionSocketClient) : ClientExchange → Option AdmittedRequest
  | ⟨.submitOpen i _ bootstrap continuation, .opened submission⟩ =>
    (c.openingRequest bootstrap continuation).bind fun request => c.admissionOf i request.1 request.2 submission
  | ⟨.submit i operation payload _, .submitted submission _⟩ => c.admissionOf i operation payload submission
  | ⟨.submitObserved i operation payload _, .observed submission _ _⟩ => c.admissionOf i operation payload submission
  | _ => none

def takenBy : ClientExchange → Option (Nat × ExecutionWireReply)
  | ⟨.takeReply _ sequence, .took (some reply)⟩ => some (sequence, reply)
  | _ => none

-- Only the channel, the expiry and the flags of a finished connection may differ.
structure Steady (c after : ExecutionSocketClient) : Prop where
  config : after.config = c.config
  session : after.session = c.session
  incarnation : after.incarnation = c.incarnation
  nextSequence : after.nextSequence = c.nextSequence
  hasSequenceSpace : after.hasSequenceSpace = c.hasSequenceSpace
  isClosing : after.isClosing = c.isClosing
  pending : after.pending = c.pending
  verified : after.verified = c.verified
  poisoned : c.isPoisoned = true → after.isPoisoned = true

structure Admits (c : ExecutionSocketClient) (request : PendingRequest) (after : ExecutionSocketClient) : Prop where
  config : after.config = c.config
  session : after.session = c.session
  incarnation : after.incarnation = c.incarnation
  verified : after.verified = c.verified
  pending : after.pending = c.pending ++ [request]
  nextSequence : after.nextSequence = if c.nextSequence = maxU64 then c.nextSequence else c.nextSequence + 1
  hasSequenceSpace : after.hasSequenceSpace = decide (c.nextSequence ≠ maxU64)
  isClosing : after.isClosing = (c.isClosing || decide (request.effectiveOperation = .close))
  healthy : c.isPoisoned = false
  permitted : c.isClosing = true → hostFunctionObservation request.operation = true
  space : c.hasSequenceSpace = true
  room : c.pending.length ≠ c.config.maxPendingRequests
  number : request.sequence = c.nextSequence
  unanswered : request.reply = none

structure Attaches (c : ExecutionSocketClient) (reply : VerifiedReply) (after : ExecutionSocketClient) : Prop where
  config : after.config = c.config
  nextSequence : after.nextSequence = c.nextSequence
  hasSequenceSpace : after.hasSequenceSpace = c.hasSequenceSpace
  isClosing : after.isClosing = c.isClosing
  session : after.session = reply.header.session
  incarnation : after.incarnation = reply.header.incarnation
  pending : after.pending = amend PendingRequest.sequence reply.request.sequence
    (fun request => { request with reply := some reply.reply }) c.pending
  verified : after.verified = c.verified ++ [reply]
  healthy : c.isPoisoned = false
  outstanding : reply.request ∈ c.pending
  unanswered : reply.request.reply = none
  timely : reply.time < reply.request.deadline
  kind : reply.header.kind = .reply
  sequence : reply.header.sequence = reply.request.sequence
  operation : reply.header.operation = reply.request.operation
  identified : reply.header.session ≠ 0
  fixed : c.session ≠ 0 → reply.header.session = c.session ∧ reply.header.incarnation = c.incarnation

structure Takes (c : ExecutionSocketClient) (request : PendingRequest) (reply : ExecutionWireReply)
    (after : ExecutionSocketClient) : Prop where
  outstanding : request ∈ c.pending
  answered : request.reply = some reply
  struck : after = { c with pending := strike PendingRequest.sequence request.sequence c.pending }

inductive ClientMove (c : ExecutionSocketClient) : ClientExchange → ExecutionSocketClient → Prop where
  | steady {exchange : ClientExchange} {after : ExecutionSocketClient} (quiet : c.admittedBy exchange = none)
      (nothing : takenBy exchange = none) (steady : Steady c after) : ClientMove c exchange after
  | admits {exchange : ClientExchange} {after : ExecutionSocketClient} {request : PendingRequest}
      (logged : c.admittedBy exchange = some request.admission) (nothing : takenBy exchange = none)
      (admits : Admits c request after) : ClientMove c exchange after
  | attaches {exchange : ClientExchange} {after : ExecutionSocketClient} {reply : VerifiedReply}
      (quiet : c.admittedBy exchange = none) (nothing : takenBy exchange = none) (attaches : Attaches c reply after) :
      ClientMove c exchange after
  | takes {exchange : ClientExchange} {after : ExecutionSocketClient} {request : PendingRequest}
      {reply : ExecutionWireReply} (quiet : c.admittedBy exchange = none)
      (logged : takenBy exchange = some (request.sequence, reply)) (takes : Takes c request reply after) :
      ClientMove c exchange after

theorem Steady.refl (c : ExecutionSocketClient) : Steady c c := ⟨rfl, rfl, rfl, rfl, rfl, rfl, rfl, rfl, id⟩

variable {c mid after : ExecutionSocketClient} {request : PendingRequest}

theorem Steady.trans (first : Steady c mid) (second : Steady mid after) : Steady c after where
  config := second.config.trans first.config
  session := second.session.trans first.session
  incarnation := second.incarnation.trans first.incarnation
  nextSequence := second.nextSequence.trans first.nextSequence
  hasSequenceSpace := second.hasSequenceSpace.trans first.hasSequenceSpace
  isClosing := second.isClosing.trans first.isClosing
  pending := second.pending.trans first.pending
  verified := second.verified.trans first.verified
  poisoned poisoned := second.poisoned (first.poisoned poisoned)

section
variable (c : ExecutionSocketClient)

theorem poison_steady : Steady c c.poison :=
  ⟨rfl, rfl, rfl, rfl, rfl, rfl, rfl, rfl, fun _ => rfl⟩

theorem channel_steady (channel : WireChannel) : Steady c { c with channel := channel } :=
  ⟨rfl, rfl, rfl, rfl, rfl, rfl, rfl, rfl, id⟩

theorem observe_expiry_steady (now : Int) : Steady c (c.observeExpiry now).2 := by
  unfold observeExpiry
  split
  · exact Steady.refl c
  split
  · exact Steady.refl c
  · exact ⟨rfl, rfl, rfl, rfl, rfl, rfl, rfl, rfl, id⟩

end

theorem observe_expiry_healthy (now : Int) : (c.observeExpiry now).2.isPoisoned = c.isPoisoned := by
  unfold observeExpiry
  split
  · rfl
  · simp only
    split <;> rfl

section Submissions
variable {c : ExecutionSocketClient}

theorem admit_admits {i : SubmitInput} {frame : ChannelFrame} (healthy : c.isPoisoned = false)
    (permitted : c.isClosing = true → hostFunctionObservation request.operation = true)
    (space : c.hasSequenceSpace = true) (room : c.pending.length ≠ c.config.maxPendingRequests)
    (number : request.sequence = c.nextSequence) (unanswered : request.reply = none) :
    Admits c request (c.admitted i request frame) := by
  unfold admitted
  simp only
  split
  · split <;> exact ⟨rfl, rfl, rfl, rfl, rfl, rfl, rfl, rfl, healthy, permitted, space, room, number, unanswered⟩
  · exact ⟨rfl, rfl, rfl, rfl, rfl, rfl, rfl, rfl, healthy, permitted, space, room, number, unanswered⟩

-- A submission is refused and changes nothing, or is admitted under the number it answers with.
def Submits (c : ExecutionSocketClient) (i : SubmitInput) (operation : ExecutionOpcode) (payload : Bytes)
    (submission : ExecutionSocketSubmission) (after : ExecutionSocketClient) : Prop :=
  (submission.status ≠ .accepted ∧ after = c) ∨
    ∃ request, c.admissionOf i operation payload submission = some request.admission ∧ Admits c request after

variable (i : SubmitInput) (operation : ExecutionOpcode) (payload : Bytes) (descriptor : Int)

theorem submit_impl_cases : Submits c i operation payload (c.submitImpl i operation payload descriptor).1.1
    (c.submitImpl i operation payload descriptor).2 := by
  unfold submitImpl
  split
  · exact .inl ⟨nofun, rfl⟩
  next ready =>
  simp only [not_or, Bool.not_eq_true', Bool.not_eq_false, Bool.not_eq_true, not_and] at ready
  obtain ⟨_, healthy, sealed, space, _⟩ := ready
  split
  · exact .inl ⟨nofun, rfl⟩
  next request normal =>
  split
  · exact .inl ⟨nofun, rfl⟩
  split
  · exact .inl ⟨nofun, rfl⟩
  next fits =>
  split
  · exact .inl ⟨nofun, rfl⟩
  simp only
  split
  · exact .inl ⟨nofun, rfl⟩
  split
  · exact .inl ⟨nofun, rfl⟩
  split
  · exact .inl ⟨nofun, rfl⟩
  refine .inr ⟨_, ?_, admit_admits healthy ?_ space (not_or.mp fits).1 rfl rfl⟩
  · simp only [admissionOf, normal, if_true, Option.map_some]
    rfl
  · exact sealed

theorem admission_refused {i : SubmitInput} {operation : ExecutionOpcode} {payload : Bytes}
    {submission : ExecutionSocketSubmission} (refused : submission.status ≠ .accepted) :
    c.admissionOf i operation payload submission = none := if_neg refused

theorem submit_cases : Submits c i operation payload (c.submit i operation payload descriptor).1.1
    (c.submit i operation payload descriptor).2 := by
  unfold submit
  split
  · exact .inl ⟨nofun, rfl⟩
  split
  · exact .inl ⟨nofun, rfl⟩
  · split
    · exact .inl ⟨nofun, rfl⟩
    · exact submit_impl_cases i operation payload descriptor

theorem submit_open_moves (i : SubmitInput) (connect : ConnectOutcome) (bootstrap : Bytes)
    (continuation : Option ExecutionSourceContinuation) :
    ClientMove c ⟨.submitOpen i connect bootstrap continuation, .opened (c.submitOpen i connect bootstrap continuation).1⟩
      (c.submitOpen i connect bootstrap continuation).2 := by
  have quiet : ∀ submission : ExecutionSocketSubmission, submission.status ≠ .accepted →
      c.admittedBy ⟨.submitOpen i connect bootstrap continuation, .opened submission⟩ = none := by
    intro submission refused
    simp [admittedBy, admission_refused refused, Option.bind_fun_none]
  unfold submitOpen
  split
  · exact .steady (quiet _ nofun) rfl (Steady.refl c)
  split
  · exact .steady (quiet _ nofun) rfl ⟨rfl, rfl, rfl, rfl, rfl, rfl, rfl, rfl, id⟩
  next operation payload opening =>
  split
  · exact .steady (quiet _ nofun) rfl ⟨rfl, rfl, rfl, rfl, rfl, rfl, rfl, rfl, id⟩
  · exact .steady (quiet _ nofun) rfl ⟨rfl, rfl, rfl, rfl, rfl, rfl, rfl, rfl, fun _ => rfl⟩
  simp only
  generalize named : ({ c with
    hasAttempted := true
    channel := { c.channel with connected := true, identity := c.config.expectedServer } } :
      ExecutionSocketClient) = connected
  have same : Steady c connected := by
    rw [← named]
    exact ⟨rfl, rfl, rfl, rfl, rfl, rfl, rfl, rfl, id⟩
  have healthy : connected.isPoisoned = c.isPoisoned := by rw [← named]
  rcases submit_impl_cases (c := connected) i operation payload (-1) with ⟨refused, unchanged⟩ | ⟨request, logged, admits⟩
  · rw [unchanged]
    exact .steady (quiet _ refused) rfl same
  refine .admits ?_ rfl ⟨admits.config.trans same.config, admits.session.trans same.session,
    admits.incarnation.trans same.incarnation, admits.verified.trans same.verified,
    same.pending ▸ admits.pending, same.nextSequence ▸ admits.nextSequence,
    same.nextSequence ▸ admits.hasSequenceSpace, same.isClosing ▸ admits.isClosing,
    healthy ▸ admits.healthy, same.isClosing ▸ admits.permitted, same.hasSequenceSpace ▸ admits.space,
    same.pending ▸ same.config ▸ admits.room, same.nextSequence ▸ admits.number, admits.unanswered⟩
  simp only [admittedBy, opening, Option.bind_some]
  rw [← logged]
  simp [admissionOf, same.config]

end Submissions

section Polling

def Polled (c after : ExecutionSocketClient) : Prop := Steady c after ∨ ∃ reply, Attaches c reply after

theorem Polled.followed (polled : Polled c mid) (same : Steady mid after) : Polled c after := by
  rcases polled with steady | ⟨reply, attaches⟩
  · exact .inl (steady.trans same)
  exact .inr ⟨reply, same.config.trans attaches.config, same.nextSequence.trans attaches.nextSequence,
    same.hasSequenceSpace.trans attaches.hasSequenceSpace, same.isClosing.trans attaches.isClosing,
    same.session.trans attaches.session, same.incarnation.trans attaches.incarnation,
    same.pending.trans attaches.pending, same.verified.trans attaches.verified, attaches.healthy, attaches.outstanding,
    attaches.unanswered, attaches.timely, attaches.kind, attaches.sequence, attaches.operation, attaches.identified,
    attaches.fixed⟩

theorem Polled.preceded (same : Steady c mid)
    (healthy : mid.isPoisoned = c.isPoisoned) (polled : Polled mid after) : Polled c after := by
  rcases polled with steady | ⟨reply, attaches⟩
  · exact .inl (same.trans steady)
  exact .inr ⟨reply, attaches.config.trans same.config, attaches.nextSequence.trans same.nextSequence,
    attaches.hasSequenceSpace.trans same.hasSequenceSpace, attaches.isClosing.trans same.isClosing, attaches.session,
    attaches.incarnation, same.pending ▸ attaches.pending, same.verified ▸ attaches.verified,
    healthy ▸ attaches.healthy, same.pending ▸ attaches.outstanding, attaches.unanswered, attaches.timely,
    attaches.kind, attaches.sequence, attaches.operation, attaches.identified,
    same.session ▸ same.incarnation ▸ attaches.fixed⟩

theorem or_poison_polled {stage : Bool × ExecutionSocketClient}
    {rest : ExecutionSocketClient → Bool × ExecutionSocketClient} (before : Polled c stage.2)
    (after : Polled c (rest stage.2).2) : Polled c (orPoison stage rest).2 := by
  unfold orPoison
  split
  · exact after
  · exact before.followed (poison_steady _)

theorem receive_reply_polled (now : Int) (healthy : c.isPoisoned = false) : Polled c (c.receiveReply now).2 := by
  unfold receiveReply
  split
  · exact .inl (Steady.refl c)
  split
  · exact .inl (Steady.refl c)
  next message channel _ =>
  have emptied := channel_steady c channel
  refine Polled.preceded emptied rfl ?_
  simp only
  split
  · exact .inl (Steady.refl _)
  next found lookup =>
  obtain ⟨outstanding, number⟩ := lookup_key_some lookup
  split
  · exact .inl (Steady.refl _)
  next unanswered =>
  split
  · exact .inl (observe_expiry_steady _ now)
  next late =>
  split
  · exact .inl (Steady.refl _)
  next genuine =>
  simp only [not_or, not_not, not_and] at genuine
  obtain ⟨kind, operation, identified, _, fixed⟩ := genuine
  split
  · exact .inl (Steady.refl _)
  next reply _ =>
  split
  · have unread : found.reply = none := by simpa using unanswered
    have timely : now < found.deadline := by omega
    unfold attach
    split <;> exact .inr ⟨_, rfl, rfl, rfl, rfl, rfl, rfl, rfl, rfl, healthy, outstanding, unread, timely, kind,
      number.symm, operation, identified, fixed⟩
  · exact .inl (Steady.refl _)

theorem poll_for_polled (c : ExecutionSocketClient) (i : PollInput) : Polled c (c.pollFor i).2 := by
  unfold pollFor
  split
  · exact .inl (Steady.refl c)
  next ready =>
  simp only [not_or, Bool.not_eq_true', Bool.not_eq_true, Bool.not_eq_false] at ready
  obtain ⟨_, healthy, _⟩ := ready
  have observed := observe_expiry_steady c i.now
  have alive := (observe_expiry_healthy (c := c) i.now).trans healthy
  refine or_poison_polled (.inl observed) ?_
  generalize (c.observeExpiry i.now).2 = first at observed alive ⊢
  have sent : ∃ second : ExecutionSocketClient, (if i.writable then ((first.channel.sendPending i.sends).1,
      { first with channel := (first.channel.sendPending i.sends).2 }) else (true, first)).2 = second ∧
      Steady first second ∧ second.isPoisoned = false := by
    cases i.writable
    · exact ⟨_, rfl, Steady.refl first, alive⟩
    · exact ⟨_, rfl, channel_steady first _, alive⟩
  obtain ⟨second, here, kept, awake⟩ := sent
  have reached := observed.trans kept
  refine or_poison_polled (by rw [here]; exact .inl reached) ?_
  rw [here]
  have read : ∃ third : ExecutionSocketClient, (if i.readable then
      ((second.channel.receive second.config.maxPayloadBytes i.receives).1,
        { second with channel := (second.channel.receive second.config.maxPayloadBytes i.receives).2 })
      else (true, second)).2 = third ∧ Steady second third ∧ third.isPoisoned = false := by
    cases i.readable
    · exact ⟨_, rfl, Steady.refl second, awake⟩
    · exact ⟨_, rfl, channel_steady second _, awake⟩
  obtain ⟨third, there, holds, ready⟩ := read
  have arrived := reached.trans holds
  refine or_poison_polled (by rw [there]; exact .inl arrived) ?_
  rw [there]
  have answered : Polled c (if i.allocated then third.receiveReply i.received else (false, third)).2 := by
    split
    · exact Polled.preceded arrived (ready.trans healthy.symm) (receive_reply_polled i.received ready)
    · exact .inl arrived
  refine or_poison_polled answered ?_
  generalize (if i.allocated then third.receiveReply i.received else (false, third)).2 = fourth at answered ⊢
  split
  · exact answered.followed (poison_steady fourth)
  · have late := answered.followed (observe_expiry_steady fourth i.finished)
    exact or_poison_polled late late

end Polling

theorem take_reply_moves (c : ExecutionSocketClient) (inProcess : Bool) (sequence : Nat) :
    ClientMove c ⟨.takeReply inProcess sequence, .took (c.takeReply inProcess sequence).1⟩
      (c.takeReply inProcess sequence).2 := by
  unfold takeReply
  split
  · exact .steady rfl rfl (Steady.refl c)
  split
  · exact .steady rfl rfl (Steady.refl c)
  next found lookup =>
  obtain ⟨outstanding, number⟩ := lookup_key_some lookup
  subst number
  split
  · exact .steady rfl rfl (Steady.refl c)
  · next reply answered => exact .takes rfl rfl ⟨outstanding, answered, rfl⟩

theorem step_moves (c : ExecutionSocketClient) (event : ClientEvent) :
    ClientMove c ⟨event, (c.step event).1⟩ (c.step event).2 := by
  cases event with
  | submitOpen i connect bootstrap continuation => exact submit_open_moves i connect bootstrap continuation
  | submit i operation payload descriptor | submitObserved i operation payload descriptor =>
    rcases submit_cases (c := c) i operation payload descriptor with ⟨refused, same⟩ | ⟨request, logged, admits⟩
    · exact .steady (admission_refused refused) rfl (same.symm ▸ Steady.refl c)
    · exact .admits logged rfl admits
  | pollFor i =>
    rcases poll_for_polled c i with steady | ⟨reply, attaches⟩
    · exact .steady rfl rfl steady
    · exact .attaches rfl rfl attaches
  | takeReply inProcess sequence => exact take_reply_moves c inProcess sequence

end ExecutionSocketClient

end Glimmer.Control
