import Glimmer.Control.ExecutionMoves

namespace Glimmer.Core.Scheduler

open Lib

theorem cancel_state {s t : Scheduler} {id : TaskId} {now : TimePoint} (inv : Invariant s)
    (result : s.cancel id now = (true, t)) : t.taskState id = some .cancelled := by
  unfold cancel at result
  split at result
  · cases result
  next task found =>
  split at result
  · next queued =>
    obtain ⟨reservation, ledger, dropped, _⟩ := cancel_queued_ledger inv.quota found queued
    rw [dropped] at result
    cases result
    have kept : ∀ (t : Scheduler) (tenant : TenantId), (t.removeTaskFromTenantQueue tenant id).tasks = t.tasks := by
      intro t tenant
      unfold removeTaskFromTenantQueue
      split <;> rfl
    rw [taskState, dropQueuedTask, kept]
    simp [decrementQueued, setTask, Option.map_some]
  · unfold finishRunningTask at result
    simp only [found] at result
    split at result
    · cases result
    split at result
    · cases result
    · cases result
      simp [taskState, retireTask, noteServiceTime, setTask, Option.map_some]
  · cases result

end Glimmer.Core.Scheduler

namespace Glimmer.Control

open Lib Glimmer.Core

namespace ExecutionAdmissionState

variable {a b : ExecutionAdmissionState} {op : ExecutionOp} {id : TaskId} {peer : TaskPeer}

def submittedLease (a : ExecutionAdmissionState) (peer : TaskPeer) (kind : ExecutionKind)
    (extent : Option NativeEpochExtent) (now : TimePoint) : ExecutionLease :=
  { deadline := a.leaseDeadline now, submittedAt := now, owner := peer, isCooperative := kind ≠ .legacy,
    nativeEpoch := extent }

section Submission
variable (request : TaskSpec) (peer : TaskPeer) (extent : Option NativeEpochExtent) (kind : ExecutionKind)

-- A submission that the scheduler takes leaves a waiting task, or only a cancelled one.
structure Submitted (a b : ExecutionAdmissionState) (now : TimePoint) (t : Scheduler) (task : TaskRecord) : Prop where
  accepted : Scheduler.Accepted a.scheduler t request task
  bound : kind ≠ .legacy → a.options.bindLeasesToProcess = true
  native : kind = .native ↔ extent.isSome
  state : b = { a with
    scheduler := t
    pendingLeases := if a.tracksLeases then a.pendingLeases.insert a.scheduler.nextTaskId
      (a.submittedLease peer kind extent now)
      else a.pendingLeases }

structure Withdrawn (a b : ExecutionAdmissionState) (t u : Scheduler) (task final : TaskRecord) : Prop where
  accepted : Scheduler.Accepted a.scheduler t request task
  finished : Scheduler.Finished t u a.scheduler.nextTaskId task final
  cancelled : u.taskState a.scheduler.nextTaskId = some .cancelled
  state : b = { a with scheduler := u }.notifyStateChange

variable (inv : Scheduler.Invariant a.scheduler)
include inv

theorem withdraw_submission_cases {t : Scheduler} {task : TaskRecord}
    (accepted : Scheduler.Accepted a.scheduler t request task) (now : TimePoint) :
    ∃ u final b, withdrawSubmission { a with scheduler := t } a.scheduler.nextTaskId now =
      ({ status := .internalError, taskId := a.scheduler.nextTaskId }, b) ∧ Withdrawn request a b t u task final := by
  have grown : Scheduler.Invariant t :=
    ⟨Scheduler.accepted_coherent accepted inv.coherent,
      Scheduler.accepted_quota accepted inv.coherent inv.quota⟩
  have found : t.tasks.lookup a.scheduler.nextTaskId = some task := by rw [Scheduler.accepted_lookup accepted, if_pos rfl]
  rcases Scheduler.cancel_cases grown a.scheduler.nextTaskId now with
    ⟨_, idle, _⟩ | ⟨record, final, u, result, finished, _⟩
  · exact absurd (by rw [Scheduler.taskState, found, Option.map_some, accepted.queued]) idle
  obtain rfl : record = task := Option.some.inj (finished.moved.found.symm.trans found)
  refine ⟨u, final, { a with scheduler := u }.notifyStateChange, ?_, accepted, finished,
    Scheduler.cancel_state grown result, rfl⟩
  rw [withdrawSubmission, result]

section
variable (vacant : a.pendingLeases.lookup a.scheduler.nextTaskId = none)
include vacant

theorem record_submission_cases {t : Scheduler} {task : TaskRecord}
    (accepted : Scheduler.Accepted a.scheduler t request task)
    (bound : kind ≠ .legacy → a.options.bindLeasesToProcess = true)
    (native : kind = .native ↔ extent.isSome) (registered allocated : Bool) (now : TimePoint) :
    (∃ u final b, recordSubmission
      { a with scheduler := t } a.scheduler.nextTaskId kind extent registered peer allocated now =
        ({ status := .internalError, taskId := a.scheduler.nextTaskId }, b) ∧ Withdrawn request a b t u task final) ∨
      ∃ b, recordSubmission { a with scheduler := t } a.scheduler.nextTaskId kind extent registered peer allocated now =
        ({ status := .accepted, taskId := a.scheduler.nextTaskId }, b) ∧
        Submitted request peer extent kind a b now t task := by
  obtain ⟨u, final, b, result, withdrawn⟩ := withdraw_submission_cases request inv accepted now
  have same : tracksLeases { a with scheduler := t } = a.tracksLeases := rfl
  unfold recordSubmission
  simp only [same]
  cases tracked : a.tracksLeases with
  | true =>
    simp only [if_true]
    unfold emplaceExecution
    by_cases free : allocated = true ∧ (a.pendingLeases.lookup a.scheduler.nextTaskId).isNone = true
    · simp only [if_pos free]
      cases registered with
      | true => exact .inr ⟨_, rfl, accepted, bound, native, by rw [tracked, if_pos rfl]; rfl⟩
      | false =>
        left
        rw [KeyedMap.erase_insert_fresh _ vacant]
        exact ⟨u, final, b, result, withdrawn⟩
    · simp only [if_neg free]
      exact .inl ⟨u, final, b, result, withdrawn⟩
  | false =>
    simp only [Bool.false_eq_true, if_false]
    cases registered with
    | true => exact .inr ⟨_, rfl, accepted, bound, native, by rw [tracked]; rfl⟩
    | false =>
      left
      have absent : a.scheduler.nextTaskId ∉ a.pendingLeases := AList.lookup_eq_none.mp vacant
      have untouched : a.pendingLeases.erase a.scheduler.nextTaskId = a.pendingLeases := by
        apply AList.ext
        exact List.kerase_of_notMem_keys absent
      rw [untouched]
      exact ⟨u, final, b, result, withdrawn⟩

theorem submit_impl_cases (registered allocated : Bool) (now : TimePoint) :
    (∃ status, status ≠ .accepted ∧
        a.submitImpl request peer extent kind registered allocated now = ({ status := status }, a)) ∨
      (∃ t u task final b, a.submitImpl request peer extent kind registered allocated now =
        ({ status := .internalError, taskId := a.scheduler.nextTaskId }, b) ∧ Withdrawn request a b t u task final) ∨
      ∃ t task b, a.submitImpl request peer extent kind registered allocated now =
        ({ status := .accepted, taskId := a.scheduler.nextTaskId }, b) ∧
        Submitted request peer extent kind a b now t task := by
  unfold submitImpl
  split
  · exact .inl ⟨_, by decide, rfl⟩
  split
  · exact .inl ⟨_, by decide, rfl⟩
  next passed =>
  obtain ⟨entitled, matched⟩ := not_or.mp passed
  have bound : kind ≠ .legacy → a.options.bindLeasesToProcess = true := by
    intro other
    by_contra free
    exact entitled ⟨other, .inl free⟩
  have native : kind = .native ↔ extent.isSome := by
    have agreed : decide (kind = .native) = extent.isSome := not_not.mp matched
    rw [← agreed]
    simp
  rcases Scheduler.submit_cases inv request now with ⟨status, refused, result⟩ | ⟨task, t, result, accepted⟩
  · rw [result]
    simp only [ne_eq, refused, not_false_eq_true, if_true]
    exact .inl ⟨status, refused, rfl⟩
  · rw [result]
    rcases record_submission_cases request peer extent kind inv vacant accepted bound native registered allocated now with
      ⟨u, final, b, recorded, withdrawn⟩ | ⟨b, recorded, submitted⟩
    · exact .inr (.inl ⟨t, u, task, final, b, recorded, withdrawn⟩)
    · exact .inr (.inr ⟨t, task, b, recorded, submitted⟩)

end

end Submission

variable {request : TaskSpec} {extent : Option NativeEpochExtent} {kind : ExecutionKind} {now : TimePoint}
  {t u : Scheduler} {task final : TaskRecord}

theorem submitted_kind (native : kind = .native ↔ extent.isSome) :
    (a.submittedLease peer kind extent now).kind = kind := by
  cases kind with
  | legacy | cooperative | native => simp_all [submittedLease, ExecutionLease.kind]

section
variable (mirrors : Mirrors a)
include mirrors

theorem submitted_arrived (submitted : Submitted request peer extent kind a b now t task) :
    Arrived a b task (some (a.submittedLease peer kind extent now)) := by
  obtain ⟨accepted, bound, native, rfl⟩ := submitted
  refine ⟨rfl, ⟨Scheduler.accepted_coherent accepted mirrors.invariant.coherent,
    Scheduler.accepted_quota accepted mirrors.invariant.coherent mirrors.invariant.quota⟩, accepted.nextId,
    Scheduler.accepted_lookup accepted, fun other => ?_, fun _ => rfl, ?_, ?_, ?_, ?_⟩
  · simp only [mirrors.tracked, if_true]
    exact KeyedMap.lookup_insert_cases _ _ _ _
  · simp [accepted.queued]
  · rw [accepted.queued]
    decide
  · rintro held same
    cases same
    refine ⟨rfl, fun epoch => ?_⟩
    have named : kind = .native := native.mpr epoch
    simp [submittedLease, named]
  · rintro free held same
    cases same
    have legacy : kind = .legacy := by
      by_contra other
      rw [bound other] at free
      cases free
    simp [submittedLease, legacy]

theorem withdrawn_arrived (withdrawn : Withdrawn request a b t u task final) :
    ∃ m, Arrived a m final none ∧ b = m.notifyStateChange := by
  obtain ⟨accepted, finished, _, rfl⟩ := withdrawn
  refine ⟨{ a with scheduler := u },
    ⟨rfl, ?_, ?_, fun other => ?_, fun other => ?_, fun _ => rfl, ?_, finished.notRunning, ?_, ?_⟩, rfl⟩
  · exact Scheduler.finished_invariant finished ⟨Scheduler.accepted_coherent accepted mirrors.invariant.coherent,
      Scheduler.accepted_quota accepted mirrors.invariant.coherent mirrors.invariant.quota⟩
  · rw [← accepted.nextId]
    exact finished.moved.nextId
  · rw [Scheduler.moved_lookup finished.moved, Scheduler.accepted_lookup accepted]
    split <;> rfl
  · split
    · next same =>
      subst same
      exact (fresh_leases mirrors).1
    · rfl
  · simp [finished.notQueued]
  · rintro held ⟨⟩
  · rintro _ held ⟨⟩

theorem submit_impl_moves (own : op.kind = some kind) (caller : op.peer = some peer)
    (asked : op.submits = true) (registered allocated : Bool) :
    Moves op a (a.submitImpl request peer extent kind registered allocated now).2 := by
  rcases submit_impl_cases request peer extent kind mirrors.invariant
    (fresh_leases mirrors).1 registered allocated now with
    ⟨status, _, result⟩ | ⟨t, u, task, final, b, result, withdrawn⟩ | ⟨t, task, b, result, submitted⟩
  · rw [result]
  · rw [result]
    obtain ⟨m, arrived, rfl⟩ := withdrawn_arrived mirrors withdrawn
    exact moves_notify mirrors (.single (.arrived final none arrived (by simp) (by simp) asked))
  · rw [result]
    refine .single (.arrived task _ (submitted_arrived mirrors submitted) ?_ ?_ asked)
    · rintro held same
      cases same
      rw [submitted_kind submitted.native]
      exact own
    · rintro held same
      cases same
      exact caller

end

end ExecutionAdmissionState

namespace AuditedExecution

open ExecutionAdmissionState

theorem serve_moves {s : AuditedExecution} (mirrors : Mirrors s.service) (op : ExecutionOp) (i : ExecutionInput) :
    Moves op s.service (serve op i s).2.service := by
  cases op with
  | submit request peer | submitCooperative request peer =>
    exact submit_impl_moves mirrors rfl rfl rfl i.registered i.allocated
  | submitNativeEpoch request extent peer =>
    simp only [serve, submitNativeEpoch]
    split
    · exact submit_impl_moves mirrors rfl rfl rfl i.registered i.allocated
    · exact .refl
  | cancel id => exact cancel_moves mirrors i.now
  | cancelQueued id peer => exact cancel_queued_moves mirrors
  | cancelPendingCooperative id peer => exact cancel_pending_cooperative_moves mirrors
  | forgetTerminal id => exact forget_terminal_moves mirrors
  | claimNext peer => exact claim_next_moves mirrors i.allocated i.now
  | claim id peer => exact claim_moves mirrors i.allocated i.now
  | waitAttempt id peer => exact wait_attempt_moves mirrors i.allocated i.now
  | heartbeat id peer => exact heartbeat_moves mirrors i.now
  | complete id peer => exact complete_moves mirrors i.now
  | fail id peer => exact fail_moves mirrors i.now
  | claimExecution id peer => exact claim_execution_moves mirrors i.allocated i.now
  | suspendExecution execution peer => exact suspend_execution_moves mirrors execution i.allocated i.now
  | heartbeatExecution execution peer => exact heartbeat_execution_moves mirrors execution i.now
  | completeExecution execution peer => exact complete_execution_moves mirrors execution i.now
  | failExecution execution peer => exact fail_execution_moves mirrors execution i.now
  | cancelExecution execution peer => exact cancel_execution_moves mirrors execution
  | claimNativeEpoch id peer => exact claim_native_moves mirrors i.allocated i.now
  | finishNativeEpoch execution calls hasFailed peer =>
    exact finish_native_moves mirrors execution calls hasFailed i.now
  | cancelPendingNativeEpoch id peer => exact cancel_pending_native_moves mirrors
  | notifyStateChange => exact moves_notify mirrors .refl
  | reapExpired pendingOrder activeOrder => exact reap_expired_moves pendingOrder activeOrder mirrors i.now
  | _ => exact .refl

end AuditedExecution

end Glimmer.Control
