import Glimmer.Control.SocketMoves

namespace Glimmer.Control

open Glimmer.Core Lib

namespace ExecutionSocketClient

-- The number the next submission would get, had they no end.
def upcomingSequence (c : ExecutionSocketClient) : Nat :=
  if c.hasSequenceSpace then c.nextSequence else c.nextSequence + 1

structure Tracked (c : ExecutionSocketClient) (admitted : List AdmittedRequest)
    (taken : List (Nat × ExecutionWireReply)) : Prop where
  counted : 1 ≤ c.nextSequence ∧ c.nextSequence ≤ maxU64
  numbers : admitted.map AdmittedRequest.sequence = List.range' 1 (c.upcomingSequence - 1)
  bounded : c.pending.length ≤ c.config.maxPendingRequests
  distinct : (c.pending.map PendingRequest.sequence).Nodup
  listed : ∀ request ∈ c.pending, request.admission ∈ admitted
  genuine : ∀ reply ∈ c.verified, reply.request.admission ∈ admitted ∧ reply.time < reply.request.deadline ∧
    reply.header.kind = .reply ∧ reply.header.sequence = reply.request.sequence ∧
    reply.header.operation = reply.request.operation ∧ c.session ≠ 0 ∧ reply.header.session = c.session ∧
    reply.header.incarnation = c.incarnation
  once : (c.verified.map fun reply => reply.request.sequence).Nodup
  unanswered : ∀ request ∈ c.pending, request.reply = none →
    ∀ reply ∈ c.verified, reply.request.sequence ≠ request.sequence
  answered : ∀ request ∈ c.pending, ∀ data, request.reply = some data →
    ∃ reply ∈ c.verified, reply.request.sequence = request.sequence ∧ reply.reply = data
  kept : ∀ reply ∈ c.verified, (reply.request.sequence, reply.reply) ∈ taken ∨
    ∃ request ∈ c.pending, request.sequence = reply.request.sequence ∧ request.reply = some reply.reply
  takenOnce : (taken.map Prod.fst).Nodup
  takenGenuine : ∀ took ∈ taken, ∃ reply ∈ c.verified, reply.request.sequence = took.1 ∧ reply.reply = took.2
  gone : ∀ took ∈ taken, ∀ request ∈ c.pending, request.sequence ≠ took.1

section Steps
variable {c after : ExecutionSocketClient} {admitted : List AdmittedRequest} {taken : List (Nat × ExecutionWireReply)}
  (tracked : Tracked c admitted taken)

include tracked

theorem tracked_steady (steady : Steady c after) : Tracked after admitted taken := by
  have upcoming : after.upcomingSequence = c.upcomingSequence := by
    rw [upcomingSequence, upcomingSequence, steady.hasSequenceSpace, steady.nextSequence]
  refine ⟨steady.nextSequence ▸ tracked.counted, upcoming ▸ tracked.numbers, ?_, ?_, ?_, ?_, ?_, ?_, ?_, ?_,
    tracked.takenOnce, ?_, ?_⟩ <;>
    simp only [steady.pending, steady.config, steady.verified, steady.session, steady.incarnation]
  · exact tracked.bounded
  · exact tracked.distinct
  · exact tracked.listed
  · exact tracked.genuine
  · exact tracked.once
  · exact tracked.unanswered
  · exact tracked.answered
  · exact tracked.kept
  · exact tracked.takenGenuine
  · exact tracked.gone

theorem admitted_number {request : AdmittedRequest} (mem : request ∈ admitted) :
    request.sequence < c.upcomingSequence := by
  have number := List.mem_map_of_mem (f := AdmittedRequest.sequence) mem
  rw [tracked.numbers, List.mem_range'_1] at number
  omega

theorem tracked_admits {request : PendingRequest} (admits : Admits c request after) :
    Tracked after (admitted ++ [request.admission]) taken := by
  have now : c.upcomingSequence = request.sequence := by
    rw [upcomingSequence, admits.space, if_pos rfl, admits.number]
  have pos := tracked.counted
  have upcoming : after.upcomingSequence = request.sequence + 1 := by
    rw [upcomingSequence, admits.hasSequenceSpace, admits.nextSequence, admits.number]
    by_cases last : c.nextSequence = maxU64 <;> simp [last]
  have older : ∀ reply ∈ c.verified, reply.request.sequence ≠ request.sequence := by
    intro reply mem same
    have below := admitted_number tracked (tracked.genuine reply mem).1
    rw [now, ← same] at below
    exact Nat.lt_irrefl _ below
  refine ⟨?_, ?_, ?_, ?_, ?_, ?_, ?_, ?_, ?_, ?_, tracked.takenOnce, ?_, ?_⟩ <;>
    simp only [admits.nextSequence, upcoming, admits.pending, admits.config, admits.verified, admits.session,
      admits.incarnation]
  · split <;> omega
  · rw [List.map_append, tracked.numbers, now]
    have number := admits.number
    have counted : request.sequence + 1 - 1 = request.sequence - 1 + 1 := by omega
    rw [counted, List.range'_1_concat]
    have last : 1 + (request.sequence - 1) = request.sequence := by omega
    rw [last]
    rfl
  · have room := admits.room
    have bounded := tracked.bounded
    rw [List.length_append, List.length_singleton]
    omega
  · rw [List.map_append]
    refine nodup_snoc tracked.distinct fun old => ?_
    obtain ⟨earlier, mem, same⟩ := List.mem_map.mp old
    have below := admitted_number tracked (tracked.listed earlier mem)
    rw [now] at below
    exact Nat.lt_irrefl _ (Nat.lt_of_lt_of_eq below same.symm)
  · intro other mem
    rcases mem_snoc.mp mem with old | rfl
    · exact List.mem_append_left _ (tracked.listed other old)
    · exact mem_snoc.mpr (.inr rfl)
  · intro reply mem
    obtain ⟨logged, rest⟩ := tracked.genuine reply mem
    exact ⟨List.mem_append_left _ logged, rest⟩
  · exact tracked.once
  · intro other mem waiting reply listed
    rcases mem_snoc.mp mem with old | rfl
    · exact tracked.unanswered other old waiting reply listed
    · exact older reply listed
  · intro other mem data replied
    rcases mem_snoc.mp mem with old | rfl
    · exact tracked.answered other old data replied
    · cases admits.unanswered.symm.trans replied
  · intro reply mem
    rcases tracked.kept reply mem with gone | ⟨owner, there, rest⟩
    · exact .inl gone
    · exact .inr ⟨owner, List.mem_append_left _ there, rest⟩
  · exact tracked.takenGenuine
  · intro took mem other listed
    rcases mem_snoc.mp listed with old | rfl
    · exact tracked.gone took mem other old
    · obtain ⟨reply, known, same, _⟩ := tracked.takenGenuine took mem
      rw [← same]
      exact Ne.symm (older reply known)

theorem tracked_attaches {reply : VerifiedReply} (attaches : Attaches c reply after) : Tracked after admitted taken := by
  have upcoming : after.upcomingSequence = c.upcomingSequence := by
    rw [upcomingSequence, upcomingSequence, attaches.hasSequenceSpace, attaches.nextSequence]
  have first := tracked.unanswered reply.request attaches.outstanding attaches.unanswered
  have verified : ∀ {other}, other ∈ after.verified ↔ other ∈ c.verified ∨ other = reply := by
    rw [attaches.verified]
    exact mem_snoc
  have amended : ∀ request ∈ after.pending, (request ∈ c.pending ∧ request.sequence ≠ reply.request.sequence) ∨
        (request = { reply.request with reply := some reply.reply }) := by
    rw [attaches.pending]
    intro request mem
    rcases amend_mem mem with ⟨old, other⟩ | ⟨old, listed, here, rfl⟩
    · exact .inl ⟨old, other⟩
    · rw [List.inj_on_of_nodup_map tracked.distinct listed attaches.outstanding here]
      exact .inr rfl
  have settled : { reply.request with reply := some reply.reply } ∈ after.pending := by
    rw [attaches.pending]
    exact mem_amend_hit attaches.outstanding rfl
  refine ⟨attaches.nextSequence ▸ tracked.counted, upcoming ▸ tracked.numbers, ?_, ?_, ?_, ?_, ?_, ?_, ?_, ?_,
    tracked.takenOnce, ?_, ?_⟩
  · rw [attaches.pending, attaches.config, amend_length]
    exact tracked.bounded
  · rw [attaches.pending, amend_keys (by exact fun _ => rfl)]
    exact tracked.distinct
  · intro request mem
    rcases amended request mem with ⟨old, _⟩ | rfl
    · exact tracked.listed request old
    · exact tracked.listed reply.request attaches.outstanding
  · rw [attaches.session, attaches.incarnation]
    intro other mem
    rcases verified.mp mem with old | rfl
    · obtain ⟨logged, timely, kind, number, operation, known, session, incarnation⟩ := tracked.genuine other old
      obtain ⟨sameSession, sameIncarnation⟩ := attaches.fixed known
      exact ⟨logged, timely, kind, number, operation, attaches.identified, session.trans sameSession.symm,
        incarnation.trans sameIncarnation.symm⟩
    · exact ⟨tracked.listed other.request attaches.outstanding, attaches.timely, attaches.kind, attaches.sequence,
        attaches.operation, attaches.identified, rfl, rfl⟩
  · rw [attaches.verified, List.map_append]
    refine nodup_snoc tracked.once fun old => ?_
    obtain ⟨earlier, mem, same⟩ := List.mem_map.mp old
    exact first earlier mem same
  · intro request mem waiting other listed
    rcases amended request mem with ⟨old, apart⟩ | rfl
    · rcases verified.mp listed with before | rfl
      · exact tracked.unanswered request old waiting other before
      · exact Ne.symm apart
    · cases waiting
  · intro request mem data replied
    rcases amended request mem with ⟨old, _⟩ | rfl
    · obtain ⟨other, listed, rest⟩ := tracked.answered request old data replied
      exact ⟨other, verified.mpr (.inl listed), rest⟩
    · exact ⟨reply, verified.mpr (.inr rfl), rfl, Option.some.inj replied⟩
  · intro other listed
    rcases verified.mp listed with before | rfl
    · rcases tracked.kept other before with gone | ⟨owner, there, same, replied⟩
      · exact .inl gone
      · refine .inr ⟨owner, ?_, same, replied⟩
        rw [attaches.pending]
        refine mem_amend_other there fun equal => ?_
        exact first other before (same.symm.trans equal)
    · exact .inr ⟨_, settled, rfl, rfl⟩
  · intro took mem
    obtain ⟨other, listed, rest⟩ := tracked.takenGenuine took mem
    exact ⟨other, verified.mpr (.inl listed), rest⟩
  · intro took mem request listed
    rcases amended request listed with ⟨old, _⟩ | rfl
    · exact tracked.gone took mem request old
    · exact tracked.gone took mem reply.request attaches.outstanding

theorem tracked_takes {request : PendingRequest} {reply : ExecutionWireReply} (takes : Takes c request reply after) :
    Tracked after admitted (taken ++ [(request.sequence, reply)]) := by
  have struck := takes.struck
  subst struck
  have remains : ∀ other, other ∈ strike PendingRequest.sequence request.sequence c.pending ↔
      other ∈ c.pending ∧ other.sequence ≠ request.sequence := fun other => strike_mem
  refine ⟨tracked.counted, tracked.numbers, strike_length_le.trans tracked.bounded, strike_distinct tracked.distinct,
    fun other mem => tracked.listed other ((remains other).mp mem).1, tracked.genuine, tracked.once,
    fun other mem => tracked.unanswered other ((remains other).mp mem).1,
    fun other mem => tracked.answered other ((remains other).mp mem).1, fun known listed => ?_, ?_,
    fun took mem => ?_, fun took mem other listed => ?_⟩
  · rcases tracked.kept known listed with gone | ⟨owner, there, same, replied⟩
    · exact .inl (List.mem_append_left _ gone)
    · by_cases here : owner.sequence = request.sequence
      · left
        have equal := List.inj_on_of_nodup_map tracked.distinct there takes.outstanding here
        rw [equal, takes.answered] at replied
        rw [← same, here, ← Option.some.inj replied]
        exact mem_snoc.mpr (.inr rfl)
      · exact .inr ⟨owner, (remains owner).mpr ⟨there, here⟩, same, replied⟩
  · rw [List.map_append]
    refine nodup_snoc tracked.takenOnce fun old => ?_
    obtain ⟨earlier, mem, same⟩ := List.mem_map.mp old
    exact tracked.gone earlier mem request takes.outstanding same.symm
  · rcases mem_snoc.mp mem with old | rfl
    · exact tracked.takenGenuine took old
    · exact tracked.answered request takes.outstanding reply takes.answered
  · obtain ⟨there, apart⟩ := (remains other).mp listed
    rcases mem_snoc.mp mem with old | rfl
    · exact tracked.gone took old other there
    · exact apart

end Steps

section Moves
variable {c after : ExecutionSocketClient} {exchange : ClientExchange} (move : ClientMove c exchange after)
include move

theorem move_tracked {admitted : List AdmittedRequest} {taken : List (Nat × ExecutionWireReply)}
    (tracked : Tracked c admitted taken) :
    Tracked after (admitted ++ (c.admittedBy exchange).toList) (taken ++ (takenBy exchange).toList) := by
  cases move with
  | steady quiet nothing steady =>
    rw [quiet, nothing, Option.toList_none, Option.toList_none, List.append_nil, List.append_nil]
    exact tracked_steady tracked steady
  | admits logged nothing admits =>
    rw [logged, nothing, Option.toList_none, Option.toList_some, List.append_nil]
    exact tracked_admits tracked admits
  | attaches quiet nothing attaches =>
    rw [quiet, nothing, Option.toList_none, Option.toList_none, List.append_nil, List.append_nil]
    exact tracked_attaches tracked attaches
  | takes quiet logged takes =>
    rw [quiet, logged, Option.toList_none, Option.toList_some, List.append_nil]
    exact tracked_takes tracked takes

theorem move_config : after.config = c.config := by
  cases move with
  | steady _ _ moved | admits _ _ moved | attaches _ _ moved => exact moved.config
  | takes _ _ takes => rw [takes.struck]

theorem move_poisoned (poisoned : c.isPoisoned = true) : after.isPoisoned = true ∧ c.admittedBy exchange = none := by
  cases move with
  | steady quiet _ steady => exact ⟨steady.poisoned poisoned, quiet⟩
  | admits _ _ moved | attaches _ _ moved => exact absurd (poisoned.symm.trans moved.healthy) nofun
  | takes quiet _ takes =>
    rw [takes.struck]
    exact ⟨poisoned, quiet⟩

theorem move_closing (closing : c.isClosing = true) : after.isClosing = true ∧
    ∀ admission, c.admittedBy exchange = some admission → hostFunctionObservation admission.operation = true := by
  cases move with
  | steady quiet _ same | attaches quiet _ same =>
    refine ⟨same.isClosing.trans closing, fun admission logged => ?_⟩
    rw [quiet] at logged
    cases logged
  | admits logs _ admits =>
    refine ⟨by rw [admits.isClosing, closing, Bool.true_or], fun admission logged => ?_⟩
    rw [logs] at logged
    cases logged
    exact admits.permitted closing
  | takes quiet _ takes =>
    rw [takes.struck]
    refine ⟨closing, fun admission logged => ?_⟩
    rw [quiet] at logged
    cases logged

theorem move_closes {admission : AdmittedRequest} (logged : c.admittedBy exchange = some admission)
    (closes : admission.effectiveOperation = .close) : after.isClosing = true := by
  cases move with
  | steady quiet | attaches quiet | takes quiet => exact absurd (quiet.symm.trans logged) nofun
  | admits logs _ admits =>
    rw [logs] at logged
    cases logged
    have close : decide (_ = ExecutionOpcode.close) = true := decide_eq_true closes
    rw [admits.isClosing]
    exact (congrArg (c.isClosing || ·) close).trans (Bool.or_true _)

theorem move_verified : after.verified = c.verified ∨ ∃ reply, after.verified = c.verified ++ [reply] ∧
    reply.request ∈ c.pending ∧ reply.request.reply = none := by
  cases move with
  | steady _ _ moved | admits _ _ moved => exact .inl moved.verified
  | attaches _ _ attaches => exact .inr ⟨_, attaches.verified, attaches.outstanding, attaches.unanswered⟩
  | takes _ _ takes => exact .inl (by rw [takes.struck])

end Moves

theorem admitted_by_config {c start : ExecutionSocketClient} (same : c.config = start.config) :
    c.admittedBy = start.admittedBy := by
  have opening : c.openingRequest = start.openingRequest := by
    funext bootstrap continuation
    cases continuation with
    | none => rfl
    | some scope => rw [openingRequest, openingRequest, same]
  have admission : c.admissionOf = start.admissionOf := by
    funext i operation payload submission
    rw [admissionOf, admissionOf, same]
  funext exchange
  simp [admittedBy, opening, admission]

section Runs
variable {start c : ExecutionSocketClient} (same : c.config = start.config)
include same

theorem run_poisoned (poisoned : c.isPoisoned = true) (events : List ClientEvent) :
    (c.trace events).filterMap start.admittedBy = [] := by
  refine (transcript_invariant step (fun now past => now.config = start.config ∧ now.isPoisoned = true ∧
    past.filterMap start.admittedBy = []) (fun now past event ⟨kept, dead, silent⟩ => ?_) []
    ⟨same, poisoned, rfl⟩ events).2.2
  have move := step_moves now event
  obtain ⟨still, refused⟩ := move_poisoned move dead
  rw [admitted_by_config kept] at refused
  rw [filter_map_snoc, silent, refused]
  exact ⟨(move_config move).trans kept, still, rfl⟩

theorem run_closing (closing : c.isClosing = true) (events : List ClientEvent) :
    ∀ admission ∈ (c.trace events).filterMap start.admittedBy, hostFunctionObservation admission.operation = true := by
  refine (transcript_invariant step (fun now past => now.config = start.config ∧ now.isClosing = true ∧
    ∀ admission ∈ past.filterMap start.admittedBy, hostFunctionObservation admission.operation = true)
    (fun now past event ⟨kept, ending, only⟩ => ?_) [] ⟨same, closing, fun _ listed => nomatch listed⟩ events).2.2
  have move := step_moves now event
  obtain ⟨still, permitted⟩ := move_closing move ending
  refine ⟨(move_config move).trans kept, still, fun admission listed => ?_⟩
  rw [filter_map_snoc] at listed
  rcases List.mem_append.mp listed with old | new
  · exact only admission old
  · rw [← admitted_by_config kept] at new
    exact permitted admission (Option.mem_toList.mp new)

end Runs

structure RepliesMatched (c after : ExecutionSocketClient) (history : List ClientExchange) : Prop where
  consecutive : ∃ count ≤ maxU64, (history.filterMap c.admittedBy).map AdmittedRequest.sequence = List.range' 1 count
  bounded : after.pending.length ≤ c.config.maxPendingRequests
  matched : ∀ reply ∈ after.verified, reply.request.admission ∈ history.filterMap c.admittedBy ∧
    reply.header.kind = .reply ∧ reply.header.sequence = reply.request.sequence ∧
    reply.header.operation = reply.request.operation ∧ reply.time < reply.request.deadline
  fixed : ∀ one ∈ after.verified, ∀ two ∈ after.verified,
    one.header.session = two.header.session ∧ one.header.incarnation = two.header.incarnation
  once : (after.verified.map fun reply => reply.request.sequence).Nodup
  takenOnce : ((history.filterMap takenBy).map Prod.fst).Nodup
  takenMatched : ∀ took ∈ history.filterMap takenBy,
    ∃ reply ∈ after.verified, reply.request.sequence = took.1 ∧ reply.reply = took.2
  survives : ∀ reply ∈ after.verified, reply.request.sequence ∉ (history.filterMap takenBy).map Prod.fst →
    (after.takeReply true reply.request.sequence).1 = some reply.reply

theorem construct_tracked {config : ExecutionSocketClientConfig} {c : ExecutionSocketClient}
    (constructed : construct config = some c) : Tracked c [] [] := by
  unfold construct at constructed
  split at constructed
  · cases constructed
    refine ⟨⟨Nat.le_refl 1, show 1 ≤ maxU64 by decide⟩, rfl, Nat.zero_le _, List.nodup_nil, ?_, ?_, List.nodup_nil,
      ?_, ?_, ?_, List.nodup_nil, ?_, ?_⟩
    all_goals intro _ mem; cases mem
  · cases constructed

theorem tracked_matched {c after : ExecutionSocketClient} {history : List ClientExchange}
    (same : after.config = c.config)
    (tracked : Tracked after (history.filterMap c.admittedBy) (history.filterMap takenBy)) :
    RepliesMatched c after history := by
  refine ⟨⟨after.upcomingSequence - 1, ?_, tracked.numbers⟩, same ▸ tracked.bounded, fun reply mem => ?_,
    fun one first two second => ?_, tracked.once, tracked.takenOnce, tracked.takenGenuine, fun reply mem fresh => ?_⟩
  · have counted := tracked.counted
    rw [upcomingSequence]
    split <;> omega
  · obtain ⟨logged, timely, kind, number, operation, _⟩ := tracked.genuine reply mem
    exact ⟨logged, kind, number, operation, timely⟩
  · obtain ⟨_, _, _, _, _, _, session, incarnation⟩ := tracked.genuine one first
    obtain ⟨_, _, _, _, _, _, other, also⟩ := tracked.genuine two second
    exact ⟨session.trans other.symm, incarnation.trans also.symm⟩
  · rcases tracked.kept reply mem with gone | ⟨request, listed, number, answered⟩
    · exact absurd (List.mem_map_of_mem gone) fresh
    · have lookup := lookup_key_mem tracked.distinct listed
      rw [number] at lookup
      simp [takeReply, lookup, answered]

theorem replies_match_exactly_once (config : ExecutionSocketClientConfig) (c : ExecutionSocketClient)
    (constructed : construct config = some c) (events : List ClientEvent) :
    RepliesMatched c (c.run events) (c.trace events) ∧
      (∀ event, ((c.run events).step event).2.verified = (c.run events).verified ∨
        ∃ reply, ((c.run events).step event).2.verified = (c.run events).verified ++ [reply] ∧
          reply.request ∈ (c.run events).pending ∧ reply.request.reply = none) ∧
      ((c.run events).isPoisoned = true → ∀ later, ((c.run events).trace later).filterMap c.admittedBy = []) ∧
      (∀ event admission, c.admittedBy ⟨event, ((c.run events).step event).1⟩ = some admission →
        admission.effectiveOperation = .close → ∀ later,
          ∀ next ∈ (((c.run events).step event).2.trace later).filterMap c.admittedBy,
            hostFunctionObservation next.operation = true) := by
  have tracking := transcript_invariant step (fun now past => Tracked now (past.filterMap c.admittedBy)
    (past.filterMap takenBy) ∧ now.config = c.config)
  obtain ⟨tracked, same⟩ := tracking (by
    intro now past event ⟨tracks, kept⟩
    have move := step_moves now event
    have next := move_tracked move tracks
    rw [admitted_by_config kept, ← filter_map_snoc, ← filter_map_snoc] at next
    exact ⟨next, (move_config move).trans kept⟩) [] ⟨construct_tracked constructed, rfl⟩ events
  refine ⟨tracked_matched same tracked, fun event => move_verified (step_moves _ event),
    fun poisoned later => run_poisoned same poisoned later, fun event admission logged closes later => ?_⟩
  have move := step_moves (c.run events) event
  rw [← admitted_by_config same] at logged
  exact run_closing ((move_config move).trans same) (move_closes move logged closes) later

def greeting : List ClientEvent :=
  let header : ExecutionWireHeader :=
    { kind := .reply, operation := .hello, session := 5, sequence := 1, incarnation := (3, 0) }
  let frame := (encodeExecutionMessage ⟨header, 1 :: List.replicate 47 0⟩ kExecutionMaxPayloadBytes).getD []
  [.submitOpen {} .connected [] none,
    .pollFor { readable := true, receives := [.data (frame.take 48) { items := [.credentials 7 0] },
      .data (frame.drop 48) { items := [.credentials 7 0] }] },
    .takeReply true 1]

theorem greeting_matched : ∃ c, construct { expectedServer := ⟨7, 0, 1⟩ } = some c ∧
    (c.trace greeting).filterMap takenBy = [(1, { disposition := .complete })] ∧
    RepliesMatched c (c.run greeting) (c.trace greeting) :=
  ⟨_, rfl, by decide +kernel, (replies_match_exactly_once { expectedServer := ⟨7, 0, 1⟩ } _ rfl greeting).1⟩

end ExecutionSocketClient

end Glimmer.Control
