import Glimmer.Control.RecoveryHistory

namespace Glimmer.Control

open Lib Glimmer.Core SlotTable

namespace TaskRecoveryJournal

structure Grown (j after : TaskRecoveryJournal) : Prop where
  limits : after.limits = j.limits
  counter : j.upcomingId ≤ after.upcomingId
  slots : ∀ slot, Holds after.sessions slot → j.upcomingId ≤ slot.session.id ∨
    ∃ before, Holds j.sessions before ∧ before.session = slot.session ∧
      before.acknowledgedThrough ≤ slot.acknowledgedThrough

variable {j : TaskRecoveryJournal}

theorem Grown.refl (j : TaskRecoveryJournal) : Grown j j :=
  ⟨rfl, Nat.le_refl _, fun slot held => .inr ⟨slot, held, rfl, Nat.le_refl _⟩⟩

theorem Grown.trans {mid after : TaskRecoveryJournal} (first : Grown j mid) (second : Grown mid after) :
    Grown j after := by
  refine ⟨second.limits.trans first.limits, first.counter.trans second.counter, fun slot held => ?_⟩
  rcases second.slots slot held with fresh | ⟨middle, there, same, reached⟩
  · exact .inl (first.counter.trans fresh)
  · rcases first.slots middle there with fresh | ⟨before, earlier, also, passed⟩
    · exact .inl (same ▸ fresh)
    · exact .inr ⟨before, earlier, also.trans same, passed.trans reached⟩

def Attended (j : TaskRecoveryJournal) (v : HistoryView) : Prop :=
  ∀ id operation, operation ∈ v.executed id → v.committed id operation = [] →
    ∃ slot, Holds j.sessions slot ∧ slot.session.id = id ∧ slot.inProgress = true ∧
      operation = slot.completedThrough + 1

variable {session : RecoverySession} {operation through : Nat} {request result : Bytes} {history : List JournalExchange}

section Steps
variable {v : HistoryView} (kept : Kept j v)
include kept
variable {next slot : SessionSlot} {after : TaskRecoveryJournal}

theorem write_grown (entries : SlotTable JournalEntry) (held : Holds j.sessions slot)
    (same : next.session = slot.session) (reached : slot.acknowledgedThrough ≤ next.acknowledgedThrough) :
    Grown j ({ j with entries := entries }.writeSession next) := by
  refine ⟨rfl, Nat.le_refl _, fun other mem => .inr ?_⟩
  rcases (holds_write kept next held same other).mp mem with rfl | ⟨before, _⟩
  · exact ⟨slot, held, same.symm, reached⟩
  · exact ⟨other, before, rfl, Nat.le_refl _⟩

theorem acknowledge_grown (held : Holds j.sessions slot)
    (moved : j.acknowledgeLocked slot through = some (next, after)) : Grown j after := by
  obtain ⟨rfl, above, entries, rfl⟩ := acknowledge_locked_moves moved
  exact write_grown kept entries held rfl above

theorem change_grown {exchange : JournalExchange} (change : Change j exchange after) : Grown j after := by
  cases change with
  | still quiet | reopened held => exact Grown.refl j
  | opened room numbered number shape placed filled entries limits counter =>
    have now : j.upcomingId = j.nextSessionId := by rw [upcomingId, room]; rfl
    refine ⟨limits, by rw [counter, now]; exact Nat.le_succ _, fun slot mem => ?_⟩
    rw [filled, holds_place placed] at mem
    rcases mem with rfl | before
    · left
      rw [shape, now]
      exact Nat.le_of_eq number.symm
    · exact .inr ⟨slot, before, rfl, Nat.le_refl _⟩
  | poisoned quiet held => exact write_grown kept j.entries held rfl (Nat.le_refl _)
  | acknowledged quiet held moved => exact acknowledge_grown kept held moved
  | executed held named idle room turn moved placed shape advanced =>
    obtain ⟨keeps, there, _⟩ := kept_acknowledge kept held moved
    refine (acknowledge_grown kept held moved).trans (write_grown keeps _ there ?_ ?_)
    · rw [shape]
    · rw [shape]
  | committed held named busy found shape => exact write_grown kept _ held rfl (Nat.le_refl _)
  | closed held named idle drained =>
    subst named
    refine ⟨rfl, Nat.le_refl _, fun slot mem => .inr ⟨slot, ?_, rfl, Nat.le_refl _⟩⟩
    exact ((holds_close kept held slot).mp mem).1

variable (attended : Attended j v)
include attended

theorem write_attended (entries : SlotTable JournalEntry) (held : Holds j.sessions slot)
    (same : next.session = slot.session) (busy : next.inProgress = slot.inProgress)
    (progress : next.completedThrough = slot.completedThrough) :
    Attended ({ j with entries := entries }.writeSession next) v := by
  intro id operation executed pending
  obtain ⟨owner, there, named, waiting, turn⟩ := attended id operation executed pending
  have written := holds_write kept next held same
  by_cases mine : owner.session.id = slot.session.id
  · obtain rfl := keyed_unique kept.sessionKeys there held mine
    exact ⟨next, (written next).mpr (.inl rfl), by rw [same, named], busy.trans waiting, by rw [progress, turn]⟩
  · exact ⟨owner, (written owner).mpr (.inr ⟨there, mine⟩), named, waiting, turn⟩

theorem acknowledge_attended (held : Holds j.sessions slot)
    (moved : j.acknowledgeLocked slot through = some (next, after)) : Attended after v := by
  obtain ⟨rfl, _, entries, rfl⟩ := acknowledge_locked_moves moved
  exact write_attended kept attended entries held rfl rfl rfl

section
variable (entries : SlotTable JournalEntry) (held : Holds j.sessions slot) (named : slot.session = session)
include held named

theorem execute_attended (idle : slot.inProgress = false) (room : slot.operationsExhausted = false)
    (turn : operation = slot.nextOperation) (same : next.session = slot.session) (busy : next.inProgress = true)
    (progress : next.completedThrough = slot.completedThrough) :
    Attended ({ j with entries := entries }.writeSession next)
      (v.add ⟨.beginOperation session operation through request, .begun .execute⟩) := by
  subst named
  have counted := (kept.slots slot held).progress
  rw [upcoming, room, idle, if_neg Bool.false_ne_true, Bool.toNat_false] at counted
  have written := holds_write kept next held same
  intro id number executed pending
  simp only [HistoryView.add, executedBy, committedBy, Option.toList_none, List.append_nil] at executed pending
  rcases List.mem_append.mp executed with old | new
  · obtain ⟨owner, there, mine, waiting, due⟩ := attended id number old pending
    refine ⟨owner, (written owner).mpr (.inr ⟨there, fun equal => ?_⟩), mine, waiting, due⟩
    rw [keyed_unique kept.sessionKeys there held equal, idle] at waiting
    cases waiting
  · split at new
    · next mine =>
      rw [Option.toList_some, List.mem_singleton] at new
      refine ⟨next, (written next).mpr (.inl rfl), by rw [same, mine], busy, ?_⟩
      omega
    · cases new

theorem commit_attended {entry : JournalEntry}
    (found : j.entries.seek (JournalEntry.awaits session.id operation) = some entry) :
    Attended ({ j with entries := entries }.writeSession { slot with completedThrough := operation, inProgress := false })
      (v.add ⟨.commit session operation result, .done true⟩) := by
  subst named
  have own := kept.slots slot held
  obtain ⟨mem, passes⟩ := seek_some found
  simp only [JournalEntry.awaits, Bool.and_eq_true, decide_eq_true_eq, Bool.not_eq_true'] at passes
  obtain ⟨⟨mine, number⟩, unsettled⟩ := passes
  have written := holds_write kept { slot with completedThrough := operation, inProgress := false } held rfl
  intro id other executed pending
  simp only [HistoryView.add, executedBy, committedBy, Option.toList_none, List.append_nil, List.append_eq_nil_iff]
    at executed pending
  obtain ⟨owner, there, names, waiting, due⟩ := attended id other executed pending.1
  refine ⟨owner, (written owner).mpr (.inr ⟨there, fun equal => ?_⟩), names, waiting, due⟩
  obtain rfl := keyed_unique kept.sessionKeys there held equal
  -- The operation in progress is the one being committed, so it is no longer pending.
  have counted := own.progress
  have range := (own.live operation).mp ⟨entry, mem, mine, number⟩
  have later : ¬ operation ≤ owner.completedThrough := by
    rw [← number, ← own.settled entry mem mine, unsettled]
    exact Bool.false_ne_true
  rw [waiting, Bool.toNat_true] at counted
  have turn : operation = other := by omega
  have done := pending.2
  rw [if_pos ⟨names, turn⟩] at done
  cases done

end

theorem change_attended {exchange : JournalExchange} (change : Change j exchange after) :
    Attended after (v.add exchange) := by
  cases change with
  | still quiet => exact (view_quiet quiet v).symm ▸ attended
  | reopened held =>
    intro id operation executed pending
    simp only [HistoryView.add, executedBy, committedBy, Option.toList_none, List.append_nil] at executed pending
    exact attended id operation executed pending
  | opened room numbered number shape placed filled entries limits counter =>
    intro id operation executed pending
    simp only [HistoryView.add, executedBy, committedBy, Option.toList_none, List.append_nil] at executed pending
    obtain ⟨owner, there, rest⟩ := attended id operation executed pending
    exact ⟨owner, by rw [filled]; exact (holds_place placed owner).mpr (.inr there), rest⟩
  | poisoned quiet held => exact (view_quiet quiet v).symm ▸ write_attended kept attended j.entries held rfl rfl rfl
  | acknowledged quiet held moved => exact (view_quiet quiet v).symm ▸ acknowledge_attended kept attended held moved
  | executed held named idle room turn moved placed shape advanced =>
    obtain ⟨keeps, there, same⟩ := kept_acknowledge kept held moved
    subst same
    exact execute_attended keeps (acknowledge_attended kept attended held moved) _ there named idle room turn
      (by rw [shape]) (by rw [shape]) (by rw [shape])
  | committed held named busy found shape => exact commit_attended kept attended _ held named found
  | closed held named idle drained =>
    subst named
    rw [view_quiet ⟨fun _ => rfl, fun _ _ => rfl, fun _ _ => rfl, rfl⟩]
    intro id operation executed pending
    obtain ⟨owner, there, names, waiting, due⟩ := attended id operation executed pending
    refine ⟨owner, (holds_close kept held owner).mpr ⟨there, fun equal => ?_⟩, names, waiting, due⟩
    rw [keyed_unique kept.sessionKeys there held equal, idle] at waiting
    cases waiting

end Steps

theorem new_kept (incarnation : Token) (limits : JournalLimits) : Kept (new incarnation limits) (view []) := by
  refine ⟨keyed_replicate, keyed_replicate, fun _ held => absurd held (not_holds_replicate),
    fun _ held => absurd held (not_holds_replicate), fun _ held => absurd held (not_holds_replicate),
    fun _ => ⟨0, rfl⟩, fun _ _ => ⟨rfl, fun _ => ⟨rfl, rfl⟩⟩, fun _ listed => ?_, fun _ listed => ?_⟩
  · cases listed
  · cases listed

theorem run_kept (kept : Kept j (view history)) (attended : Attended j (view history)) (calls : List JournalCall) :
    Kept (j.run calls) (view (history ++ j.trace calls)) ∧ Attended (j.run calls) (view (history ++ j.trace calls)) ∧
      Grown j (j.run calls) := by
  refine transcript_invariant serve (fun now past => Kept now (view past) ∧ Attended now (view past) ∧ Grown j now)
    (fun now past call ⟨keeps, attends, grown⟩ => ?_) history ⟨kept, attended, Grown.refl j⟩ calls
  have change := serve_changes call (j := now)
  rw [view_append]
  exact ⟨change_kept keeps change, change_attended keeps attends change, grown.trans (change_grown keeps change)⟩

section Refusals
variable {after : TaskRecoveryJournal} (grown : Grown j after)
include grown

variable (issued : session.id < j.upcomingId)
  (gone : ∀ slot, Holds j.sessions slot → slot.session.id ≠ session.id)

include issued gone

theorem gone_later {slot : SessionSlot} (held : Holds after.sessions slot) : slot.session.id ≠ session.id := by
  intro equal
  rcases grown.slots slot held with fresh | ⟨before, earlier, also, _⟩
  · omega
  · exact gone before earlier (by rw [also, equal])

theorem find_gone : after.findSession session = none := by
  cases found : after.findSession session with
  | none => rfl
  | some slot =>
    obtain ⟨held, same⟩ := find_session_some found
    exact absurd (congrArg RecoverySession.id same) (gone_later grown issued gone held)

theorem never_reopened {nonce : Token} {peer : TaskPeerIdentity} {opened : RecoverySession}
    (answer : (after.openSession nonce peer).1 = some opened) : opened.id ≠ session.id := by
  have change := open_changes nonce peer (j := after)
  rw [answer] at change
  generalize (after.openSession nonce peer).2 = last at change
  cases change with
  | still quiet | poisoned quiet | acknowledged quiet => exact absurd quiet.opened nofun
  | reopened held => exact gone_later grown issued gone held
  | opened room numbered number =>
    have counter := grown.counter
    have now : after.upcomingId = after.nextSessionId := by rw [upcomingId, room]; rfl
    omega

end Refusals

section Answers
variable {v : HistoryView} (kept : Kept j v)
include kept

theorem replay_faithful (answer : (j.beginOperation session operation through request).1 = .replay result) :
    v.reserved session.id operation = [request] ∧ v.committed session.id operation = [result] := by
  unfold beginOperation at answer
  split at answer
  · cases answer
  split at answer
  · cases answer
  split at answer
  · cases answer
  split at answer
  · next entry found =>
    obtain ⟨mem, passes⟩ := seek_some found
    simp only [Bool.and_eq_true, decide_eq_true_eq] at passes
    obtain ⟨mine, number⟩ := passes
    obtain ⟨reserved, committed⟩ := kept.entries entry mem
    rw [mine, number] at reserved committed
    split at answer
    · cases answer
    next same =>
    split at answer
    · cases answer
    simp only at answer
    split at answer
    · next settled =>
      rw [reserved, committed, settled, if_pos rfl, not_not.mp same]
      cases answer
      exact ⟨rfl, rfl⟩
    · cases answer
  · split at answer
    · cases answer
    · split at answer
      · cases answer
      · split at answer <;> cases answer

theorem close_gone (closed : (j.close session).1 = true) :
    session.id < (j.close session).2.upcomingId ∧
      ∀ slot, Holds (j.close session).2.sessions slot → slot.session.id ≠ session.id := by
  unfold close at closed ⊢
  split at closed
  · cases closed
  next usable =>
  rw [if_neg usable]
  split at closed
  · cases closed
  next slot found =>
  obtain ⟨held, same⟩ := find_session_some found
  subst same
  split at closed
  · cases closed
  · next ready =>
    rw [if_neg ready]
    exact ⟨(kept.slots slot held).issued, fun other mem => ((holds_close kept held other).mp mem).2⟩

end Answers

structure AtMostOnce (first : Nat) (j : TaskRecoveryJournal) (history : List JournalExchange) : Prop where
  ordered : ∀ id, ∃ count, (view history).executed id = List.range' first count
  single : ∀ id one two, one ∈ (view history).executed id → two ∈ (view history).executed id →
    (view history).committed id one = [] → (view history).committed id two = [] → one = two
  replayed : ∀ session operation through request result,
    (j.beginOperation session operation through request).1 = .replay result →
      (view history).reserved session.id operation = [request] ∧ (view history).committed session.id operation = [result]
  identified : ∀ one ∈ (view history).opened, ∀ two ∈ (view history).opened, one.id = two.id → one = two
  live : ∀ slot, Holds j.sessions slot → ∀ operation,
    (∃ entry, Holds j.entries entry ∧ entry.sessionId = slot.session.id ∧ entry.operation = operation) ↔
      (slot.acknowledgedThrough < operation ∧ operation ≤ slot.completedThrough) ∨
        (slot.inProgress = true ∧ operation = slot.completedThrough + 1)
  distinct : Keyed entryKey j.entries
  owned : ∀ entry, Holds j.entries entry → ∃ slot, Holds j.sessions slot ∧ slot.session.id = entry.sessionId

structure Retired (session : RecoverySession) (j : TaskRecoveryJournal) : Prop where
  begin : ∀ operation through request, j.beginOperation session operation through request = (.rejected, j)
  commit : ∀ operation result, j.commit session operation result = (false, j)
  acknowledge : ∀ through, j.acknowledge session through = (false, j)
  close : j.close session = (false, j)
  opened : ∀ nonce peer another, (j.openSession nonce peer).1 = some another → another.id ≠ session.id

theorem kept_at_most_once {first : Nat} (kept : Kept j (view history)) (attended : Attended j (view history))
    (limits : j.limits.firstOperationId = first) : AtMostOnce first j history := by
  refine ⟨limits ▸ kept.consecutive, fun id one two began also waits delays => ?_,
    fun session operation through request result answer => replay_faithful kept answer, kept.distinct,
    fun slot held operation => ?_, kept.entryKeys, kept.owned⟩
  · obtain ⟨slot, held, named, _, turn⟩ := attended id one began waits
    obtain ⟨other, there, mine, _, due⟩ := attended id two also delays
    rw [turn, due, keyed_unique kept.sessionKeys held there (named.trans mine.symm)]
  · have own := kept.slots slot held
    rw [own.live operation, ← own.progress]
    have bounds := own.acknowledged
    cases slot.inProgress <;> grind

theorem operations_execute_at_most_once (incarnation : Token) (limits : JournalLimits) (calls : List JournalCall) :
    AtMostOnce limits.firstOperationId ((new incarnation limits).run calls) ((new incarnation limits).trace calls) ∧
      (∀ slot, Holds ((new incarnation limits).run calls).sessions slot → ∀ later session operation through request,
        session.id = slot.session.id → operation ≤ slot.acknowledgedThrough →
          (((new incarnation limits).run calls).run later).beginOperation session operation through request =
            (.rejected, ((new incarnation limits).run calls).run later)) ∧
      (∀ session, (((new incarnation limits).run calls).close session).1 = true → ∀ later,
        Retired session ((((new incarnation limits).run calls).close session).2.run later)) := by
  obtain ⟨kept, attended, grown⟩ := run_kept (new_kept incarnation limits) (fun _ _ executed => nomatch executed) calls
  generalize (new incarnation limits).trace calls = history at kept attended ⊢
  have first := congrArg JournalLimits.firstOperationId grown.limits
  generalize (new incarnation limits).run calls = j at kept attended first ⊢
  refine ⟨kept_at_most_once kept attended first, fun slot held later session operation through request named low => ?_,
    fun session closed later => ?_⟩
  · obtain ⟨_, _, grows⟩ := run_kept kept attended later
    unfold beginOperation
    split
    · rfl
    split
    · rfl
    next other found =>
    obtain ⟨also, same⟩ := find_session_some found
    subst same
    have issued := (kept.slots slot held).issued
    have reached : operation ≤ other.acknowledgedThrough := by
      rcases grows.slots other also with fresh | ⟨before, earlier, equal, further⟩
      · omega
      · rw [keyed_unique kept.sessionKeys earlier held ((congrArg _ equal).trans named)] at further
        omega
    rw [if_pos (.inl reached)]
  · have change := close_changes session (j := j)
    have step := view_append history ⟨.close session, .done (j.close session).1⟩
    obtain ⟨_, _, grows⟩ := run_kept (step ▸ change_kept kept change) (step ▸ change_attended kept attended change) later
    obtain ⟨issued, gone⟩ := close_gone kept closed
    have absent := find_gone grows issued gone
    refine ⟨?_, ?_, ?_, ?_, fun nonce peer another answer => never_reopened grows issued gone answer⟩
    all_goals
      generalize (j.close session).2.run later = last at absent ⊢
      simp [beginOperation, commit, acknowledge, close, absent]

-- A client that lost an answer repeats the operation: it gets the same answer, or learns that the work still runs.
def AnswersRetries (j : TaskRecoveryJournal) (history : List JournalExchange) : Prop :=
  j.valid = true → ∀ slot, Holds j.sessions slot → ∀ operation through, slot.acknowledgedThrough ≤ through →
    through < operation →
    operation ≤ slot.completedThrough ∨ (slot.inProgress = true ∧ operation = slot.completedThrough + 1) →
    ∃ request, (view history).reserved slot.session.id operation = [request] ∧
      ∀ repeated, repeated ≠ [] → repeated.length ≤ kMaxMessageBytes →
        (j.beginOperation slot.session operation through repeated).1 =
          if repeated ≠ request then .rejected
          else match (view history).committed slot.session.id operation with
            | [] => .inProgress
            | result :: _ => .replay result

section Retries
variable {v : HistoryView} (kept : Kept j v) {slot : SessionSlot} (held : Holds j.sessions slot)
  (reached : slot.acknowledgedThrough ≤ through) (done : through ≤ slot.completedThrough)
include kept held reached done

theorem acknowledge_succeeds : ∃ after, j.acknowledgeLocked slot through = some after := by
  have committed : ¬ (j.entries.seek fun entry =>
      (entry.sessionId = slot.session.id && entry.operation ≤ through) && !entry.committed).isSome = true := by
    intro waiting
    obtain ⟨entry, seen⟩ := Option.isSome_iff_exists.mp waiting
    obtain ⟨there, covered⟩ := seek_some seen
    simp only [Bool.and_eq_true, decide_eq_true_eq, Bool.not_eq_true'] at covered
    have settled := ((kept.slots slot held).settled entry there covered.1.1).mpr (covered.1.2.trans done)
    cases covered.2.symm.trans settled
  exact ⟨_, by rw [acknowledgeLocked, if_neg (by omega), if_neg committed]⟩

theorem retry_answered (usable : j.valid = true) {entry : JournalEntry} (there : Holds j.entries entry)
    (mine : entry.sessionId = slot.session.id) (above : through < entry.operation) {repeated : Bytes}
    (some : repeated ≠ []) (short : repeated.length ≤ kMaxMessageBytes) :
    (j.beginOperation slot.session entry.operation through repeated).1 =
      if repeated ≠ entry.request then .rejected
      else if entry.committed then .replay entry.result else .inProgress := by
  obtain ⟨after, moved⟩ := acknowledge_succeeds kept held reached done
  have session : j.findSession slot.session = .some slot :=
    seek_unique kept.sessionKeys held (by simp) fun _ hit => session_key_eq hit
  have found : j.findEntry slot.session.id entry.operation = .some entry :=
    seek_unique kept.entryKeys there (by simp [mine]) fun other hit => by simpa [entryKey, mine] using hit
  have read : ¬ ((!j.valid) = true ∨ entry.operation = 0 ∨ repeated = [] ∨ kMaxMessageBytes < repeated.length) := by
    simp [usable, some, short, Nat.ne_zero_of_lt above]
  rw [beginOperation, if_neg read, session]
  simp only [found, moved]
  rw [if_neg (by omega)]
  by_cases same : repeated = entry.request
  · simp [same]
  · simp [same, Ne.symm same]

end Retries

theorem retries_answered_alike (incarnation : Token) (limits : JournalLimits) (calls : List JournalCall) :
    AnswersRetries ((new incarnation limits).run calls) ((new incarnation limits).trace calls) := by
  obtain ⟨kept, _⟩ := run_kept (new_kept incarnation limits) (fun _ _ executed => nomatch executed) calls
  rw [List.nil_append] at kept
  intro usable slot held operation through reached above live
  have own := kept.slots slot held
  have within : slot.acknowledgedThrough < operation ∧ operation < upcoming slot := by
    rw [← own.progress]
    cases busy : slot.inProgress <;> simp [busy] at live ⊢ <;> omega
  obtain ⟨entry, there, mine, rfl⟩ := (own.live operation).mpr within
  obtain ⟨reserved, committed⟩ := kept.entries entry there
  rw [mine] at reserved committed
  refine ⟨entry.request, reserved, fun repeated some short => ?_⟩
  rw [retry_answered kept held reached (by omega) usable there mine above some short, committed]
  cases entry.committed <;> rfl

-- The answer to the first operation is lost; the second still runs.
def lostAnswer : RecoverySession × List JournalCall :=
  let session : RecoverySession := ⟨(1, 0), (7, 0), ⟨4, 0, 9⟩, 1⟩
  (session, [.openSession (7, 0) ⟨4, 0, 9⟩, .beginOperation session 1 0 [5], .commit session 1 [6],
    .beginOperation session 2 0 [8]])

theorem lost_answer_replayed :
    let j := (new (1, 0) { sessions := 2, entries := 2 }).run lostAnswer.2
    (j.beginOperation lostAnswer.1 1 0 [5]).1 = .replay [6] ∧ (j.beginOperation lostAnswer.1 1 0 [7]).1 = .rejected ∧
      (j.beginOperation lostAnswer.1 2 0 [8]).1 = .inProgress := by
  intro j
  have held : Holds j.sessions ⟨false, true, false, lostAnswer.1, 3, 1, 0⟩ := .head _
  have retries := retries_answered_alike (1, 0) { sessions := 2, entries := 2 } lostAnswer.2 rfl _ held
  obtain ⟨request, reserved, answered⟩ := retries 1 0 (by decide) (by decide) (.inl (by decide))
  obtain ⟨other, pending, waits⟩ := retries 2 0 (by decide) (by decide) (.inr (by decide))
  cases reserved
  cases pending
  exact ⟨answered [5] (by decide) (by decide), answered [7] (by decide) (by decide), waits [8] (by decide) (by decide)⟩

end TaskRecoveryJournal

end Glimmer.Control
