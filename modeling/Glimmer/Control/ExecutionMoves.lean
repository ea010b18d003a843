import Glimmer.Control.ExecutionTurns

namespace Glimmer.Control

open Lib Glimmer.Core ExecutionLease Scheduler

namespace ExecutionAdmissionState

variable {a b : ExecutionAdmissionState} {op : ExecutionOp} {id : TaskId} {peer : TaskPeer}

theorem find_record {snap : TaskSnapshot} (found : a.scheduler.find id = some snap) :
    ∃ task, a.scheduler.tasks.lookup id = some task ∧ snap.state = task.state ∧
      snap.dispatchSequence = task.dispatchSequence := by
  obtain ⟨task, known, rfl⟩ := Option.map_eq_some_iff.mp found
  exact ⟨task, known, rfl, rfl⟩

variable {task next : TaskRecord} {finish : Scheduler → TaskId → TimePoint → Bool × Scheduler} {now : TimePoint}
  {lease : ExecutionLease} {kind : ExecutionKind}

structure Unnamed (op : ExecutionOp) (kind : ExecutionKind) : Prop where
  kind : op.kind = some kind
  execution : op.execution = none
  calls : op.issuedCalls = none

theorem unnamed_lawful (unnamed : Unnamed op kind) (kin : lease.kind = kind)
    (own : a.options.bindLeasesToProcess = true → ∀ peer, op.peer = some peer → lease.owner = peer)
    (reported : task.state = .running → lease.kind ≠ .legacy → next = task ∨ op.reports = true) :
    Lawful op a id task next lease :=
  ⟨by simp [unnamed.kind, kin], by simp [unnamed.execution], own, reported, by simp [unnamed.calls]⟩

section Legacy

theorem plain_pending (plain : a.heldCooperatively id = false)
    (held : a.pendingLeases.lookup id = some lease) : lease.isCooperative = false := by
  simp only [heldCooperatively, held, Option.any_some, Bool.or_eq_false_iff] at plain
  exact plain.2

theorem plain_active (plain : a.heldCooperatively id = false)
    (held : a.activeLeases.lookup id = some lease) : lease.isCooperative = false := by
  simp only [heldCooperatively, held, Option.any_some, Bool.or_eq_false_iff] at plain
  exact plain.1

theorem claim_unanswered (unanswered : a.claimAnswer id peer = none) :
    a.heldCooperatively id = false ∧ a.pendingOwnerMatches id peer = true := by
  unfold claimAnswer at unanswered
  split at unanswered
  · cases unanswered
  split at unanswered
  · cases unanswered
  next plain =>
  split at unanswered
  · cases unanswered
  · split at unanswered
    · next matched => exact ⟨by simpa using plain, matched⟩
    · cases unanswered

theorem wait_unanswered (unanswered : a.waitAnswer id peer = none) :
    a.heldCooperatively id = false ∧ a.pendingOwnerMatches id peer = true := by
  unfold waitAnswer at unanswered
  split at unanswered
  · cases unanswered
  split at unanswered
  · cases unanswered
  next plain =>
  split at unanswered
  · cases unanswered
  split at unanswered
  · cases unanswered
  split at unanswered
  · cases unanswered
  · split at unanswered
    · next matched => exact ⟨by simpa using plain, matched⟩
    · cases unanswered

variable (mirrors : Mirrors a)
include mirrors

section
variable (allocated : Bool) (now : TimePoint)

theorem legacy_lawful (held : a.Leased id lease) (unnamed : Unnamed op .legacy) (plain : lease.isCooperative = false)
    (own : a.options.bindLeasesToProcess = true → ∀ peer, op.peer = some peer → lease.owner = peer) :
    Lawful op a id task next lease := by
  have kin := legacy_of_plain (mirrors.formed id lease held) plain
  exact unnamed_lawful unnamed kin own (fun _ other => absurd kin other)

theorem legacy_cleared_waiting (unnamed : Unnamed op .legacy)
    (plain : ∀ lease, a.pendingLeases.lookup id = some lease → lease.isCooperative = false)
    (own : a.options.bindLeasesToProcess = true → ∀ lease, a.pendingLeases.lookup id = some lease →
      ∀ peer, op.peer = some peer → lease.owner = peer) : ClearedWaiting op a id := by
  intro task lease next _ _ held
  exact legacy_lawful mirrors (.inl held) unnamed (plain lease held) (fun bound => own bound lease held)

theorem answer_or_dispatch_moves {answer : Option (Option TaskSnapshot)} (unnamed : Unnamed op .legacy)
    (caller : op.peer = some peer)
    (unanswered : answer = none → a.heldCooperatively id = false ∧ a.pendingOwnerMatches id peer = true)
    (allocated : Bool) (now : TimePoint) : Moves op a (a.answerOrDispatch answer id peer allocated now).2 := by
  cases answer with
  | some answer => exact .refl
  | none =>
    obtain ⟨plain, matched⟩ := unanswered rfl
    refine dispatch_lease_moves mirrors (fun _ => matched) ?_ allocated now
    refine legacy_cleared_waiting mirrors unnamed (fun lease held => plain_pending plain held) ?_
    intro bound lease held
    simp [caller, pending_owner_eq bound held matched]

theorem claim_moves : Moves (.claim id peer) a (a.claim id peer allocated now).2 :=
  answer_or_dispatch_moves mirrors ⟨rfl, rfl, rfl⟩ rfl claim_unanswered allocated now

theorem wait_attempt_moves : Moves (.waitAttempt id peer) a (a.waitAttempt id peer allocated now).2 :=
  answer_or_dispatch_moves mirrors ⟨rfl, rfl, rfl⟩ rfl wait_unanswered allocated now

theorem claim_next_moves : Moves (.claimNext peer) a (a.claimNext peer allocated now).2 := by
  unfold claimNext
  split
  · exact .refl
  next free =>
  rcases dispatch_next_cases mirrors.invariant now with
    ⟨t, result, retuned, _⟩ | ⟨id, task, next, t, result, started, ready, _⟩
  · rw [result]
    exact .single (.still ⟨rfl, retuned_invariant retuned mirrors.invariant, retuned.nextId, retuned.tasks, rfl, rfl⟩)
  rw [result]
  have cleared : ClearedWaiting (.claimNext peer) a id :=
    legacy_cleared_waiting mirrors ⟨rfl, rfl, rfl⟩
      (fun lease held => mirrors.unbound (by simpa using free) id lease (.inl held)) (fun bound => absurd bound free)
  obtain ⟨lease, held, ⟨final, b, recorded, turned⟩ | ⟨renewed, b, recorded, turned⟩⟩ :=
    record_lease_cases mirrors started ready.slot
      (show a.options.bindLeasesToProcess = true → a.pendingOwnerMatches id peer = true from
        fun bound => absurd bound free) allocated now
  · simp only [recorded]
    exact moves_notify mirrors (.single (.turned id task final lease lease turned
      (cleared task lease final turned.found started.queued held)))
  · simp only [recorded]
    exact .single (.turned id task next lease renewed turned
      (cleared task lease next turned.found started.queued held))

theorem cancel_moves : Moves (.cancel id) a (a.cancel id now).2 := by
  unfold cancel
  split
  · exact .refl
  next plain =>
  rcases cancel_cases mirrors.invariant id now with ⟨result, _⟩ | ⟨task, next, t, result, finished, _⟩
  · rw [result]
  rw [result]
  have free : a.heldCooperatively id = false := by simpa using plain
  obtain ⟨lease, held, plainLease⟩ : ∃ lease, ((task.state = .queued ∧ a.pendingLeases.lookup id = some lease) ∨
      (task.state = .running ∧ a.activeLeases.lookup id = some lease)) ∧ lease.isCooperative = false := by
    rcases finished.live with queued | running
    · obtain ⟨lease, held⟩ := covered_lease mirrors.waiting finished.moved.found queued
      exact ⟨lease, .inl ⟨queued, held⟩, plain_pending free held⟩
    · obtain ⟨lease, held⟩ := covered_lease mirrors.running finished.moved.found running
      exact ⟨lease, .inr ⟨running, held⟩, plain_active free held⟩
  have turned := turned_cancelled mirrors finished held
  exact moves_notify mirrors (.single (.turned id task next lease lease turned
    (legacy_lawful mirrors (turned_held turned) ⟨rfl, rfl, rfl⟩ plainLease (fun _ peer named => by cases named))))

theorem cancel_queued_moves : Moves (.cancelQueued id peer) a (a.cancelQueued id peer).2 := by
  unfold cancelQueued
  simp only
  split
  · exact .refl
  next owned =>
  split
  · exact .refl
  next plain =>
  have cleared : ClearedWaiting (.cancelQueued id peer) a id := by
    refine legacy_cleared_waiting mirrors ⟨rfl, rfl, rfl⟩ (fun lease held => ?_) (fun bound lease held name same => ?_)
    · simpa [held] using plain
    · cases same
      refine owner_matches_eq bound ?_
      by_contra foreign
      exact owned ⟨bound, by simpa [held] using foreign⟩
  have dropped := drop_pending_moves mirrors cleared
  split
  · next after result =>
    rw [result] at dropped
    exact moves_notify mirrors dropped
  · next after result =>
    rw [result] at dropped
    exact dropped

theorem heartbeat_moves : Moves (.heartbeat id peer) a (a.heartbeat id peer now).2 := by
  unfold heartbeat
  split
  · exact .refl
  split
  · exact .refl
  split
  · exact .refl
  next lease held =>
  split
  · exact .refl
  next own =>
  split
  · exact .refl
  obtain ⟨task, found, running⟩ := covered_task mirrors.running held
  have plain : lease.isCooperative = false := by simp_all
  have matched : a.ownerMatches lease peer = true := by simp_all
  refine .single (.turned id task task lease _
    (turned_renew_active mirrors ⟨rfl, rfl, rfl⟩ rfl found running held)
    (legacy_lawful mirrors (.inr held) ⟨rfl, rfl, rfl⟩ plain (fun bound name same => ?_)))
  cases same
  exact owner_matches_eq bound matched

end

theorem finish_lease_moves (finisher : Finisher finish) (unnamed : Unnamed op .legacy) (caller : op.peer = some peer) :
    Moves op a (a.finishLease id peer finish now).2 := by
  unfold finishLease
  simp only
  split
  · exact .refl
  next own =>
  refine end_active_moves mirrors finisher (fun task lease next _ _ held => ?_)
  refine legacy_lawful mirrors (.inr held) unnamed ?_ (fun bound name named => ?_)
  · cases bound : a.options.bindLeasesToProcess with
    | false => exact mirrors.unbound bound id lease (.inr held)
    | true =>
      by_contra other
      refine own ⟨bound, ?_⟩
      simp [held, show lease.isCooperative = true by simpa using other]
  · cases caller.symm.trans named
    refine owner_matches_eq bound ?_
    by_contra foreign
    refine own ⟨bound, ?_⟩
    simp [held, show a.ownerMatches lease peer = false by simpa using foreign]

theorem complete_moves (now : TimePoint) : Moves (.complete id peer) a (a.complete id peer now).2 :=
  finish_lease_moves mirrors .complete ⟨rfl, rfl, rfl⟩ rfl

theorem fail_moves (now : TimePoint) : Moves (.fail id peer) a (a.fail id peer now).2 :=
  finish_lease_moves mirrors .fail ⟨rfl, rfl, rfl⟩ rfl

theorem forget_terminal_moves : Moves (.forgetTerminal id) a (a.forgetTerminal id).2 := by
  unfold forgetTerminal
  split
  · exact .refl
  rcases forget_cases mirrors.invariant id with result | ⟨task, t, result, gone⟩
  · rw [result]
  rw [result]
  refine .single (.erased id ⟨rfl, forgotten_invariant gone mirrors.invariant, gone.nextId, ?_,
    forgotten_lookup gone, rfl, rfl⟩ rfl)
  have known := gone.found
  constructor
  · rw [taskState, known]
    exact fun queued => gone.notQueued (Option.some.inj queued)
  · rw [taskState, known]
    exact fun running => gone.notRunning (Option.some.inj running)

end Legacy

section Cooperative
variable {execution : TaskExecutionIdentity}

theorem held_execution_spec {state : TaskState} (held : a.heldExecution execution peer state = some lease) :
    ∃ task, a.scheduler.tasks.lookup execution.taskId = some task ∧ task.state = state ∧
      task.dispatchSequence = execution.generation ∧ (a.leasesOf state).lookup execution.taskId = some lease ∧
      lease.kind = .cooperative ∧ lease.owner = peer := by
  unfold heldExecution at held
  split at held
  · cases held
  next named =>
  split at held
  · cases held
  next current known =>
  split at held
  · cases held
  next unchanged =>
  have bound : a.options.bindLeasesToProcess = true := by simpa using (not_or.mp named).1
  obtain ⟨state, generation⟩ := not_or.mp unchanged
  obtain ⟨found, checked⟩ := Option.filter_eq_some_iff.mp held
  obtain ⟨task, lookup, stateEq, sequenceEq⟩ := find_record known
  rw [Bool.and_eq_true] at checked
  exact ⟨task, lookup, stateEq ▸ not_not.mp state, sequenceEq ▸ not_not.mp generation, found,
    cooperative_of_steerable checked.1, owner_matches_eq bound checked.2⟩

theorem suspend_execution_cases (inv : Invariant a.scheduler) (execution : TaskExecutionIdentity)
    (peer : TaskPeer) (allocated : Bool) (now : TimePoint) :
    a.suspendExecution execution peer allocated now = (false, a) ∨
      ∃ lease task next t, a.heldExecution execution peer .running = some lease ∧
        Suspended a.scheduler t execution.taskId task next ∧
        a.suspendExecution execution peer allocated now = (true, { a with
          scheduler := t
          pendingLeases := a.pendingLeases.insert execution.taskId
            { lease.stopTiming now with isCooperative := true, deadline := a.leaseDeadline now }
          activeLeases := a.activeLeases.erase execution.taskId }) := by
  unfold suspendExecution
  cases held : a.heldExecution execution peer .running with
  | none => exact .inl rfl
  | some lease =>
    unfold emplaceExecution
    by_cases free : allocated = true ∧ (a.pendingLeases.lookup execution.taskId).isNone = true
    · simp only [if_pos free]
      rcases suspend_cases inv execution.taskId now with result | ⟨task, next, t, result, stopped, _⟩
      · left
        simp only [result]
        rw [KeyedMap.erase_insert_fresh _ (Option.isNone_iff_eq_none.mp free.2)]
      · right
        refine ⟨lease, task, next, t, rfl, stopped, ?_⟩
        simp [result]
    · left
      simp only [if_neg free]

theorem cooperative_lawful
    (cooperative : op.kind = some .cooperative) (named : op.execution = some execution) (caller : op.peer = some peer)
    (quiet : op.issuedCalls = none) (kin : lease.kind = .cooperative) (owner : lease.owner = peer)
    (current : task.dispatchSequence = execution.generation)
    (reported : task.state = .running → next = task ∨ op.reports = true) : Lawful op a execution.taskId task next lease :=
  ⟨by simp [cooperative, kin], by simp [named, current], by simp [caller, owner], fun running _ => reported running,
    by simp [quiet]⟩

theorem cleared_pending (held : a.pendingLeases.lookup id = some lease) (kin : lease.kind = kind)
    (unnamed : Unnamed op kind)
    (caller : op.peer = some peer) (matched : a.pendingOwnerMatches id peer = true) : ClearedWaiting op a id := by
  intro task other next _ queued leased
  obtain rfl : other = lease := Option.some.inj (leased.symm.trans held)
  exact unnamed_lawful unnamed kin (fun bound => by simp [caller, pending_owner_eq bound held matched])
    (fun running => absurd (queued.symm.trans running) (by simp))

variable (mirrors : Mirrors a)
include mirrors

theorem suspend_execution_moves (execution : TaskExecutionIdentity) (allocated : Bool) (now : TimePoint) :
    Moves (.suspendExecution execution peer) a (a.suspendExecution execution peer allocated now).2 := by
  rcases suspend_execution_cases mirrors.invariant execution peer allocated now with
    result | ⟨lease, task, next, t, held, stopped, result⟩
  · rw [result]
  rw [result]
  obtain ⟨record, found, _, current, active, kin, owner⟩ := held_execution_spec held
  have activeHeld : a.activeLeases.lookup execution.taskId = some lease := by simpa [leasesOf] using active
  obtain rfl : record = task := Option.some.inj (found.symm.trans stopped.moved.found)
  have cooperative : lease.isCooperative = true := by
    by_contra plain
    rw [legacy_of_plain (mirrors.formed _ lease (.inr activeHeld)) (by simpa using plain)] at kin
    cases kin
  exact .single (.turned _ record next lease _
    (turned_paused mirrors ⟨cooperative.symm, rfl, rfl⟩ rfl stopped activeHeld)
    (cooperative_lawful rfl rfl rfl rfl kin owner current (fun _ => .inr rfl)))

theorem heartbeat_execution_moves (execution : TaskExecutionIdentity) (now : TimePoint) :
    Moves (.heartbeatExecution execution peer) a (a.heartbeatExecution execution peer now).2 := by
  unfold heartbeatExecution
  simp only
  split
  · exact .refl
  next lease held =>
  obtain ⟨task, found, state, current, kept, kin, owner⟩ := held_execution_spec held
  have lawful : ∀ next, next = task → Lawful (.heartbeatExecution execution peer) a execution.taskId task next lease :=
    fun next same => cooperative_lawful rfl rfl rfl rfl kin owner current (fun _ => .inl same)
  split
  · exact .refl
  split
  · next running =>
    rw [running] at state kept
    exact .single (.turned _ task task lease _ (turned_renew_active mirrors ⟨rfl, rfl, rfl⟩ rfl found state
      (by simpa [leasesOf] using kept)) (lawful task rfl))
  next waiting =>
  have queued : task.state = .queued := by
    rw [state]
    split
    · next runs => simp [runs] at waiting
    · rfl
  have held : a.pendingLeases.lookup execution.taskId = some lease := by
    rw [state] at queued
    rw [queued] at kept
    exact kept
  exact .single (.turned _ task task lease _ (turned_renew_pending mirrors ⟨rfl, rfl, rfl⟩ rfl found queued held)
    (lawful task rfl))

theorem finish_execution_moves (finisher : Finisher finish) (cooperative : op.kind = some .cooperative)
    (named : op.execution = some execution) (caller : op.peer = some peer) (quiet : op.issuedCalls = none)
    (reports : op.reports = true) (held : a.heldExecution execution peer .running = some lease) :
    Moves op a (a.endActive execution.taskId finish now).2 := by
  obtain ⟨task, found, running, current, active, kin, owner⟩ := held_execution_spec held
  refine end_active_moves mirrors finisher (fun record other next known _ leased => ?_)
  obtain rfl : record = task := Option.some.inj (known.symm.trans found)
  obtain rfl : other = lease := Option.some.inj (leased.symm.trans (by simpa [leasesOf] using active))
  exact cooperative_lawful cooperative named caller quiet kin owner current (fun _ => .inr reports)

variable (execution : TaskExecutionIdentity) (allocated : Bool) (now : TimePoint)

theorem complete_execution_moves :
    Moves (.completeExecution execution peer) a (a.completeExecution execution peer now).2 := by
  unfold completeExecution
  cases held : a.heldExecution execution peer .running with
  | none => exact .refl
  | some lease => exact finish_execution_moves mirrors .complete rfl rfl rfl rfl rfl held

theorem fail_execution_moves : Moves (.failExecution execution peer) a (a.failExecution execution peer now).2 := by
  unfold failExecution
  cases held : a.heldExecution execution peer .running with
  | none => exact .refl
  | some lease => exact finish_execution_moves mirrors .fail rfl rfl rfl rfl rfl held

theorem cancel_execution_moves : Moves (.cancelExecution execution peer) a (a.cancelExecution execution peer).2 := by
  unfold cancelExecution
  cases held : a.heldExecution execution peer .queued with
  | none => exact .refl
  | some lease =>
    obtain ⟨task, found, queued, current, kept, kin, owner⟩ := held_execution_spec held
    refine drop_pending_moves mirrors (fun record other next known _ leased => ?_)
    obtain rfl : record = task := Option.some.inj (known.symm.trans found)
    obtain rfl : other = lease := Option.some.inj (leased.symm.trans (by simpa [leasesOf] using kept))
    exact cooperative_lawful rfl rfl rfl rfl kin owner current (fun running => by rw [queued] at running; cases running)

theorem cancel_pending_cooperative_moves :
    Moves (.cancelPendingCooperative id peer) a (a.cancelPendingCooperative id peer).2 := by
  unfold cancelPendingCooperative
  split
  · next lease task held _ =>
    split
    · exact .refl
    next passed =>
    refine drop_pending_moves mirrors (fun record other next _ queued leased => ?_)
    obtain rfl : other = lease := Option.some.inj (leased.symm.trans held)
    have steerable : other.steerable = true := by
      by_contra rigid
      exact passed (.inl rigid)
    have matched : a.ownerMatches other peer = true := by
      by_contra foreign
      exact passed (.inr (.inl foreign))
    refine unnamed_lawful ⟨rfl, rfl, rfl⟩ (cooperative_of_steerable steerable) (fun bound name same => ?_)
      (fun running => absurd (queued.symm.trans running) (by simp))
    cases same
    exact owner_matches_eq bound matched
  · exact .refl

theorem marked_moves {renewed marked : ExecutionLease}
    (turned : Turned a b id task next lease renewed) (running : next.state = .running)
    (kin : lease.kind = kind) (unnamed : Unnamed op kind) (caller : op.peer = some peer)
    (owner : a.options.bindLeasesToProcess = true → lease.owner = peer)
    (lawful : Lawful op a id task next lease) (alike : renewed.Alike marked) (kept : marked.owner = renewed.owner) :
    Moves op a { b with activeLeases := b.activeLeases.insert id marked } := by
  have mirrored := turned_mirrors turned mirrors
  have found : b.scheduler.tasks.lookup id = some next := by rw [turned.tasks, if_pos rfl]
  have held : b.activeLeases.lookup id = some renewed := by rw [turned.active, if_pos rfl, slot, if_pos running]
  refine Relation.ReflTransGen.tail (.single (.turned id task next lease renewed turned lawful))
    (.turned id next next renewed marked (turned_renew_active mirrored alike kept found running held) ?_)
  refine unnamed_lawful unnamed ((alike_kind turned.alike).trans kin) (fun bound => ?_) (fun _ _ => .inl rfl)
  rw [turned.options] at bound
  simp [caller, turned.owner bound, owner bound]

-- A held task is dispatched with its active lease in place, which its claim may still mark.
theorem dispatch_held_cases (op : ExecutionOp) (held : a.pendingLeases.lookup id = some lease)
    (kin : lease.kind = kind) (unnamed : Unnamed op kind) (caller : op.peer = some peer)
    (matched : a.pendingOwnerMatches id peer = true) (allocated : Bool) (now : TimePoint) :
    (∃ b, a.dispatchLease id peer allocated now = (none, b) ∧ Moves op a b) ∨
      ∃ started renewed b, a.dispatchLease id peer allocated now = (some started, b) ∧ Moves op a b ∧
        b.activeLeases.lookup id = some renewed ∧ lease.Alike renewed ∧
        ∀ marked, renewed.Alike marked → marked.owner = renewed.owner →
          Moves op a { b with activeLeases := b.activeLeases.insert id marked } := by
  have cleared : ClearedWaiting op a id := cleared_pending held kin unnamed caller matched
  rcases dispatch_lease_cases mirrors (fun _ => matched) allocated now with ⟨b, result, still⟩ |
      ⟨task, final, other, b, result, queued, turned⟩ |
      ⟨task, next, other, renewed, b, result, queued, running, _, turned⟩
  · exact .inl ⟨b, result, .single (.still still)⟩
  · exact .inl ⟨_, result, moves_notify mirrors (.single (.turned id task final other other turned
      (cleared task other final turned.found queued (turned_waiting_lease turned queued))))⟩
  have otherHeld := turned_waiting_lease turned queued
  obtain rfl : other = lease := Option.some.inj (otherHeld.symm.trans held)
  have lawful := cleared task other next turned.found queued otherHeld
  refine .inr ⟨_, renewed, b, result, .single (.turned id task next other renewed turned lawful), ?_, turned.alike, ?_⟩
  · rw [turned.active, if_pos rfl, slot, if_pos running]
  · exact fun marked => marked_moves mirrors turned running kin unnamed caller
      (fun bound => pending_owner_eq bound held matched) lawful

theorem claim_execution_moves : Moves (.claimExecution id peer) a (a.claimExecution id peer allocated now).2 := by
  unfold claimExecution
  split
  · exact .refl
  split
  · exact .refl
  next steerable =>
  split
  · exact .refl
  next current _ =>
  split
  · exact .refl
  next passed =>
  have matched : a.pendingOwnerMatches id peer = true := by
    by_contra foreign
    exact passed (.inr foreign)
  obtain ⟨lease, held, steer⟩ : ∃ lease, a.pendingLeases.lookup id = some lease ∧ lease.steerable = true := by
    cases held : a.pendingLeases.lookup id with
    | none => simp [held] at steerable
    | some lease => exact ⟨lease, rfl, by simpa [held] using steerable⟩
  rcases dispatch_held_cases mirrors (.claimExecution id peer) held
      (ExecutionLease.cooperative_of_steerable steer) ⟨rfl, rfl, rfl⟩ rfl matched allocated now with
    ⟨b, result, moves⟩ | ⟨started, renewed, b, result, _, active, alike, marked⟩
  · simp only [result]
    exact moves
  · simp only [result, active]
    refine marked _ ⟨?_, rfl, rfl⟩ rfl
    simp only [ExecutionLease.steerable, Bool.and_eq_true] at steer
    rw [alike.1, steer.1.1]

end Cooperative

section NativeEpoch

theorem held_native_spec {execution : TaskExecutionIdentity} (held : a.heldNativeEpoch execution peer = some lease) :
    ∃ task extent, a.scheduler.tasks.lookup execution.taskId = some task ∧ task.state = .running ∧
      task.dispatchSequence = execution.generation ∧ a.activeLeases.lookup execution.taskId = some lease ∧
      lease.nativeEpoch = some extent ∧ lease.owner = peer := by
  unfold heldNativeEpoch at held
  split at held
  · cases held
  next named =>
  split at held
  · cases held
  next current known =>
  split at held
  · cases held
  next unchanged =>
  have bound : a.options.bindLeasesToProcess = true := by simpa using (not_or.mp named).1
  obtain ⟨state, generation⟩ := not_or.mp unchanged
  obtain ⟨found, checked⟩ := Option.filter_eq_some_iff.mp held
  obtain ⟨task, lookup, stateEq, sequenceEq⟩ := find_record known
  simp only [Bool.and_eq_true] at checked
  obtain ⟨extent, epoch⟩ := Option.isSome_iff_exists.mp checked.1.1
  exact ⟨task, extent, lookup, stateEq ▸ not_not.mp state, sequenceEq ▸ not_not.mp generation, found, epoch,
    owner_matches_eq bound checked.2⟩

theorem native_pending {id : TaskId}
    (waits : ¬ (¬ (a.pendingLeases.lookup id).any (fun lease => lease.nativeEpoch.isSome) = true ∨
      ¬ a.pendingOwnerMatches id peer = true)) :
    ∃ lease, a.pendingLeases.lookup id = some lease ∧ lease.kind = .native ∧ a.pendingOwnerMatches id peer = true := by
  obtain ⟨epoch, matched⟩ := not_or.mp waits
  cases held : a.pendingLeases.lookup id with
  | none => simp [held] at epoch
  | some lease => exact ⟨lease, rfl, native_of_epoch (by simpa [held, Option.isSome_iff_ne_none] using epoch),
    not_not.mp matched⟩

variable (mirrors : Mirrors a)
include mirrors

theorem finish_native_moves (execution : TaskExecutionIdentity) (issuedCalls : UInt32) (hasFailed : Bool)
    (now : TimePoint) :
    Moves (.finishNativeEpoch execution issuedCalls hasFailed peer) a
      (a.finishNativeEpoch execution issuedCalls hasFailed peer now).2 := by
  unfold finishNativeEpoch
  split
  · exact .refl
  next lease held =>
  obtain ⟨task, extent, found, running, current, active, epoch, owner⟩ := held_native_spec held
  split
  · exact .refl
  next within =>
  have cleared : ClearedRunning (.finishNativeEpoch execution issuedCalls hasFailed peer) a execution.taskId := by
    intro record other next known _ leased
    obtain rfl : record = task := Option.some.inj (known.symm.trans found)
    obtain rfl : other = lease := Option.some.inj (leased.symm.trans active)
    refine ⟨fun kind same => ?_, fun name same => ?_, fun _ name same => ?_, fun _ _ => .inr rfl,
      fun calls same => ⟨extent, epoch, ?_⟩⟩
    · cases same
      exact native_of_epoch (by rw [epoch]; rfl)
    · cases same
      rw [current]
    · cases same
      exact owner
    · cases same
      rw [epoch] at within
      exact UInt32.not_lt.mp within
  cases hasFailed with
  | true => exact end_active_moves mirrors .fail cleared
  | false => exact end_active_moves mirrors .complete cleared

theorem claim_native_moves (allocated : Bool) (now : TimePoint) :
    Moves (.claimNativeEpoch id peer) a (a.claimNativeEpoch id peer allocated now).2 := by
  unfold claimNativeEpoch
  split
  · exact .refl
  split
  · exact .refl
  next waits =>
  obtain ⟨lease, held, kin, matched⟩ := native_pending waits
  rcases dispatch_held_cases mirrors (.claimNativeEpoch id peer) held kin ⟨rfl, rfl, rfl⟩ rfl matched allocated now with
    ⟨b, result, moves⟩ | ⟨started, renewed, b, result, moves, active, _, marked⟩
  · simp only [result]
    exact moves
  · simp only [result, active]
    split
    · exact moves
    · exact marked _ ⟨rfl, rfl, rfl⟩ rfl

theorem cancel_pending_native_moves :
    Moves (.cancelPendingNativeEpoch id peer) a (a.cancelPendingNativeEpoch id peer).2 := by
  unfold cancelPendingNativeEpoch
  split
  · exact .refl
  next waits =>
  obtain ⟨lease, held, kin, matched⟩ := native_pending waits
  split
  · exact .refl
  · exact drop_pending_moves mirrors (cleared_pending held kin ⟨rfl, rfl, rfl⟩ rfl matched)

end NativeEpoch

-- The reaper belongs to nobody and names no dispatch. It may change a task unless the task is another kind's and runs.
theorem reaper_lawful {pendingOrder activeOrder : List TaskId}
    (spared : task.state = .running → lease.kind ≠ .legacy → next = task) :
    Lawful (.reapExpired pendingOrder activeOrder) a id task next lease where
  kind _ known := by cases known
  execution _ named := by cases named
  owner _ _ named := by cases named
  reported running other := .inl (spared running other)
  calls _ known := by cases known

variable (pendingOrder activeOrder : List TaskId) (mirrors : Mirrors a) (now : TimePoint)
include mirrors

-- The walk renews each cooperative lease without a deadline; the first other expired one ends it.
theorem expired_active_moves (ids : List TaskId) :
    Moves (.reapExpired pendingOrder activeOrder) a { a with activeLeases := (expiredActive now ids a.activeLeases).2 } ∧
      ∀ id lease, (expiredActive now ids a.activeLeases).1 = some (id, lease) →
        (expiredActive now ids a.activeLeases).2.lookup id = some lease ∧ lease.isCooperative = false := by
  induction ids generalizing a with
  | nil => exact ⟨.refl, nofun⟩
  | cons first rest ih =>
    unfold expiredActive
    split
    · exact ih mirrors
    next lease kept =>
    have held : a.activeLeases.lookup first = some lease := (Option.filter_eq_some_iff.mp kept).1
    obtain ⟨task, found, running⟩ := covered_task mirrors.running held
    split
    · have turned : Turned a { a with activeLeases := a.activeLeases.insert first { lease with deadline := none } } first
          task task lease { lease with deadline := none } :=
        turned_renew_active mirrors ⟨rfl, rfl, rfl⟩ rfl found running held
      obtain ⟨onward, met⟩ := ih (turned_mirrors turned mirrors)
      refine ⟨Relation.ReflTransGen.head
        (.turned first task task lease _ turned (reaper_lawful fun _ _ => rfl)) onward, met⟩
    · next plain =>
      refine ⟨.refl, fun id other same => ?_⟩
      cases same
      exact ⟨held, by simpa using plain⟩

theorem reap_pending_moves (held : a.pendingLeases.lookup id = some lease) :
    Moves (.reapExpired pendingOrder activeOrder) a (a.reapPending id lease now).2 := by
  obtain ⟨task, found, queued⟩ := covered_task mirrors.waiting held
  have cleared : ClearedWaiting (.reapExpired pendingOrder activeOrder) a id :=
    fun record other next _ waits _ => reaper_lawful (fun running => by rw [waits] at running; cases running)
  have dropped := drop_pending_moves mirrors cleared
  have ended : (a.dropPending id).1 = true := by
    rcases cancel_queued_cases mirrors.invariant id with ⟨_, idle⟩ | ⟨_, _, t, result, _⟩
    · exact absurd (by rw [taskState, found, Option.map_some, queued]) idle
    · rw [dropPending, result]
  unfold reapPending
  split
  · next after result =>
    rw [result] at dropped
    exact dropped
  · next after result =>
    rw [result] at ended
    cases ended

theorem reap_active_moves (held : a.activeLeases.lookup id = some lease) (plain : lease.isCooperative = false) :
    Moves (.reapExpired pendingOrder activeOrder) a (a.reapActive id lease now).2 := by
  obtain ⟨task, found, running⟩ := covered_task mirrors.running held
  unfold reapActive
  rcases finisher_cases mirrors.invariant .fail id now with
    ⟨_, idle⟩ | ⟨record, next, t, result, finished, _, runs⟩
  · exact absurd (by rw [Scheduler.taskState, found, Option.map_some, running]) idle
  · rw [result]
    have kin := legacy_of_plain (mirrors.formed id lease (.inr held)) plain
    exact .single (.turned id record next lease lease (turned_ended mirrors finished runs held)
      (reaper_lawful fun _ other => absurd kin other))

theorem reap_expired_moves :
    Moves (.reapExpired pendingOrder activeOrder) a (a.reapExpired pendingOrder activeOrder now).2 := by
  unfold reapExpired
  split
  · exact .refl
  split
  · next id lease expired =>
    obtain ⟨_, _, shape⟩ := List.exists_of_findSome?_eq_some expired
    obtain ⟨_, kept, ⟨⟩⟩ := Option.map_eq_some_iff.mp shape
    exact reap_pending_moves _ _ mirrors now (Option.filter_eq_some_iff.mp kept).1
  obtain ⟨walked, met⟩ := expired_active_moves pendingOrder activeOrder mirrors now (walk a.activeLeases activeOrder)
  split
  · next leases result =>
    rw [result] at walked
    exact walked
  · next id lease leases result =>
    rw [result] at walked met
    obtain ⟨held, plain⟩ := met id lease rfl
    exact walked.trans (reap_active_moves _ _ (moves_mirrors walked mirrors) now held plain)

end ExecutionAdmissionState

end Glimmer.Control
