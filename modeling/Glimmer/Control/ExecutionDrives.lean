import Glimmer.Control.ExecutionLives
import Glimmer.Core.DispatchSequences
import Glimmer.Core.QuotaReturns

namespace Glimmer.Control

open Lib Glimmer.Core Scheduler

def ExecutionOp.advances : ExecutionOp → Bool
  | .submit _ _ | .submitCooperative _ _ | .submitNativeEpoch _ _ _ | .claimNext _ | .claim _ _ | .waitAttempt _ _
  | .claimExecution _ _ | .claimNativeEpoch _ _ => true
  | _ => false

namespace ExecutionAdmissionState

def Vacant (a : ExecutionAdmissionState) : Prop := a.pendingLeases = ∅ ∧ a.activeLeases = ∅

structure Bare (a : ExecutionAdmissionState) : Prop where
  untracked : a.tracksLeases = false
  vacant : a.Vacant

-- The scheduler moved by operations of its own; a service that tracks no leases still has none.
def Drives (advances : Bool) (a b : ExecutionAdmissionState) : Prop :=
  b.options = a.options ∧ (Bare a → Vacant b) ∧ ∃ ops : List SchedulerOp, b.scheduler = a.scheduler.run ops ∧
    (advances = false → ∀ op ∈ ops, op.retires = true)

variable {a b c : ExecutionAdmissionState} {advances : Bool} {id : TaskId} {peer : TaskPeer}

section Untracked
variable (bare : Bare a)
include bare

theorem bare_free : a.options.bindLeasesToProcess = false := by
  have untracked := bare.untracked
  simp only [tracksLeases, Bool.or_eq_false_iff] at untracked
  exact untracked.1.1

theorem bare_untimed : a.options.leaseTimeout = 0 := by
  have untracked := bare.untracked
  simp only [tracksLeases, Bool.or_eq_false_iff] at untracked
  simpa using untracked.1.2

theorem bare_pending {id : TaskId} : a.pendingLeases.lookup id = none := by
  rw [bare.vacant.1]
  rfl

theorem bare_active (id : TaskId) : a.activeLeases.lookup id = none := by
  rw [bare.vacant.2]
  rfl

theorem bare_unheld (execution : TaskExecutionIdentity) (state : TaskState) :
    a.heldExecution execution peer state = none := by
  rw [heldExecution, if_pos (.inl (by simp [bare_free bare]))]

theorem bare_erase_pending (id : TaskId) : Vacant { a with pendingLeases := a.pendingLeases.erase id } :=
  ⟨by rw [bare.vacant.1]; rfl, bare.vacant.2⟩

theorem bare_erase_active (id : TaskId) : Vacant { a with activeLeases := a.activeLeases.erase id } :=
  ⟨bare.vacant.1, by rw [bare.vacant.2]; rfl⟩

end Untracked

theorem drives_still (options : b.options = a.options) (scheduler : b.scheduler = a.scheduler)
    (vacant : Bare a → Vacant b) : Drives advances a b :=
  ⟨options, vacant, [], scheduler, nofun⟩

@[refl] theorem drives_refl (a : ExecutionAdmissionState) : Drives advances a a := drives_still rfl rfl Bare.vacant

theorem drives_one (op : SchedulerOp) (options : b.options = a.options) (scheduler : b.scheduler = a.scheduler.apply op)
    (vacant : Bare a → Vacant b) (allowed : advances = false → op.retires = true) : Drives advances a b := by
  refine ⟨options, vacant, [op], scheduler, fun quiet other mem => ?_⟩
  rw [List.mem_singleton.mp mem]
  exact allowed quiet

theorem drives_bare (drives : Drives advances a b) (bare : Bare a) : Bare b := by
  refine ⟨?_, drives.2.1 bare⟩
  rw [tracksLeases, drives.1]
  exact bare.untracked

theorem drives_trans (first : Drives advances a b) (second : Drives advances b c) : Drives advances a c := by
  have vacant := fun bare => second.2.1 (drives_bare first bare)
  obtain ⟨sameFirst, _, early, reached, earlyAllowed⟩ := first
  obtain ⟨sameSecond, _, late, arrived, lateAllowed⟩ := second
  refine ⟨sameSecond.trans sameFirst, vacant, early ++ late, ?_, fun quiet op mem => ?_⟩
  · rw [arrived, reached, run, run, run, List.foldl_append]
  · rcases List.mem_append.mp mem with here | there
    · exact earlyAllowed quiet op here
    · exact lateAllowed quiet op there

theorem drives_notify (drives : Drives advances a b) : Drives advances a b.notifyStateChange := by
  refine drives_trans drives ?_
  unfold notifyStateChange
  split
  · exact drives_still rfl rfl Bare.vacant
  · rfl

section Service
variable (now : TimePoint) (allocated : Bool)

theorem drop_pending_drives (id : TaskId) : Drives advances a (a.dropPending id).2 := by
  have driven : (a.dropPending id).2.scheduler = a.scheduler.apply (.cancelQueued id) := by
    unfold dropPending
    split
    · next scheduler result => simp [apply, result]
    · next scheduler result => simp [apply, result]
  refine drives_one (.cancelQueued id) ?_ driven (fun bare => ?_) (fun _ => rfl)
  · unfold dropPending
    split <;> rfl
  · unfold dropPending
    split
    · exact bare.vacant
    · exact bare_erase_pending bare id

variable {finish : Scheduler → TaskId → TimePoint → Bool × Scheduler}

theorem end_active_drives (op : SchedulerOp) (same : (finish a.scheduler id now).2 = a.scheduler.apply op)
    (allowed : op.retires = true) : Drives advances a (a.endActive id finish now).2 := by
  refine drives_one op ?_ ?_ (fun bare => ?_) (fun _ => allowed)
  · unfold endActive
    split <;> rfl
  · rw [← same]
    unfold endActive
    split
    · next scheduler result => rw [result]
    · next scheduler result => rw [result]
  · unfold endActive
    split
    · exact bare.vacant
    · exact bare_erase_active bare id

section
variable (id : TaskId) (peer : TaskPeer)

theorem revoke_drives : Drives advances a (a.revokeDispatch id now).2 :=
  drives_notify (drives_one (.fail id now) rfl rfl Bare.vacant (fun _ => rfl))

theorem record_lease_drives {dispatched : Option TaskSnapshot} :
    Drives advances a (a.recordLease dispatched peer allocated now).2 := by
  cases dispatched with
  | none => rfl
  | some started =>
    have revoked : Drives advances a
        (revokeDispatch { a with pendingLeases := a.pendingLeases.erase started.taskId } started.taskId now).2 :=
      drives_trans (b := { a with pendingLeases := a.pendingLeases.erase started.taskId })
        (drives_still rfl rfl fun bare => bare_erase_pending bare _) (revoke_drives now started.taskId)
    unfold recordLease
    simp only
    split
    · rfl
    next tracked =>
    split
    · exact revoked
    split
    · exact drives_still rfl rfl fun bare => bare_erase_pending bare _
    · split
      · exact revoked
      · exact drives_still rfl rfl fun bare => absurd (by rw [bare.untracked]; rfl) tracked

theorem dispatch_lease_drives : Drives true a (a.dispatchLease id peer allocated now).2 := by
  have dispatched : Drives true a { a with scheduler := (a.scheduler.dispatchTask id now).2 } :=
    drives_one (.dispatchTask id now) rfl rfl Bare.vacant nofun
  exact drives_trans dispatched (record_lease_drives now allocated peer)

theorem submit_impl_drives (request : TaskSpec) (peer : TaskPeer) (extent : Option NativeEpochExtent)
    (kind : ExecutionKind) (registered : Bool) :
    Drives true a (a.submitImpl request peer extent kind registered allocated now).2 := by
  have submitted : Drives true a { a with scheduler := (a.scheduler.submit request now).2 } :=
    drives_one (.submit request now) rfl rfl Bare.vacant nofun
  have withdrawn : ∀ (b : ExecutionAdmissionState) id, Drives true b (b.withdrawSubmission id now).2 :=
    fun b id => drives_notify (drives_one (.cancel id now) rfl rfl Bare.vacant (fun _ => rfl))
  have recorded : ∀ (b : ExecutionAdmissionState) id,
      Drives true b (b.recordSubmission id kind extent registered peer allocated now).2 := by
    intro b id
    unfold recordSubmission
    simp only
    split
    · exact withdrawn b id
    next leases recorded =>
    have none : Bare b → leases = ∅ := fun bare => by
      rw [bare.untracked, if_neg Bool.false_ne_true, bare.vacant.1] at recorded
      exact (Option.some.inj recorded).symm
    split
    · exact drives_still rfl rfl fun bare => ⟨none bare, bare.vacant.2⟩
    · exact drives_trans (b := { b with pendingLeases := leases.erase id })
        (drives_still rfl rfl fun bare => ⟨by rw [none bare]; rfl, bare.vacant.2⟩) (withdrawn _ id)
  unfold submitImpl
  split
  · rfl
  split
  · rfl
  simp only
  split
  · exact submitted
  · exact drives_trans submitted (recorded _ _)

theorem cancel_drives : Drives advances a (a.cancel id now).2 := by
  have cancelled : Drives advances a { a with scheduler := (a.scheduler.cancel id now).2 } :=
    drives_one (.cancel id now) rfl rfl Bare.vacant (fun _ => rfl)
  unfold cancel
  split
  · rfl
  split
  · next scheduler result =>
    rw [result] at cancelled
    exact cancelled
  · next scheduler result =>
    rw [result] at cancelled
    exact drives_notify (drives_trans cancelled (drives_still rfl rfl fun bare =>
      ⟨(bare_erase_pending bare id).1, (bare_erase_active bare id).2⟩))

theorem cancel_queued_drives : Drives advances a (a.cancelQueued id peer).2 := by
  have dropped : Drives advances a (a.dropPending id).2 := drop_pending_drives id
  unfold cancelQueued
  simp only
  split
  · rfl
  split
  · rfl
  split
  · next after result =>
    rw [result] at dropped
    exact drives_notify dropped
  · next after result =>
    rw [result] at dropped
    exact dropped

theorem answer_or_dispatch_drives {answer : Option (Option TaskSnapshot)} :
    Drives true a (a.answerOrDispatch answer id peer allocated now).2 := by
  cases answer with
  | some answer => rfl
  | none => exact dispatch_lease_drives now allocated id peer

theorem claim_next_drives : Drives true a (a.claimNext peer allocated now).2 := by
  have dispatched : Drives true a { a with scheduler := (a.scheduler.dispatchNext now).2 } :=
    drives_one (.dispatchNext now) rfl rfl Bare.vacant nofun
  unfold claimNext
  split
  · rfl
  · exact drives_trans dispatched (record_lease_drives now allocated peer)

theorem heartbeat_drives : Drives advances a (a.heartbeat id peer now).2 := by
  unfold heartbeat
  split
  · rfl
  split
  · rfl
  split
  · rfl
  next lease held =>
  split
  · rfl
  · split
    · rfl
    · exact drives_still rfl rfl fun bare => by cases held.symm.trans (bare_active bare id)

end

theorem finish_lease_drives (op : SchedulerOp) (same : (finish a.scheduler id now).2 = a.scheduler.apply op)
    (allowed : op.retires = true) (peer : TaskPeer) : Drives advances a (a.finishLease id peer finish now).2 := by
  unfold finishLease
  simp only
  split
  · rfl
  · exact end_active_drives now op same allowed

end Service

variable (now : TimePoint) (allocated : Bool) (execution : TaskExecutionIdentity) (peer : TaskPeer) (id : TaskId)

theorem claim_execution_drives : Drives true a (a.claimExecution id peer allocated now).2 := by
  have dispatched : Drives true a (a.dispatchLease id peer allocated now).2 := dispatch_lease_drives now allocated id peer
  unfold claimExecution
  split
  · rfl
  split
  · rfl
  split
  · rfl
  split
  · rfl
  split
  · next after result =>
    rw [result] at dispatched
    exact dispatched
  next started after result =>
  rw [result] at dispatched
  split
  · exact dispatched
  · next lease held =>
    exact drives_trans dispatched (drives_still rfl rfl fun bare => by cases held.symm.trans (bare_active bare id))

theorem suspend_execution_drives : Drives advances a (a.suspendExecution execution peer allocated now).2 := by
  have suspended : Drives advances a { a with scheduler := (a.scheduler.suspend execution.taskId now).2 } :=
    drives_one (.suspend execution.taskId now) rfl rfl Bare.vacant (fun _ => rfl)
  unfold suspendExecution
  split
  · rfl
  next lease held =>
  have tracked : ¬ Bare { a with scheduler := (a.scheduler.suspend execution.taskId now).2 } := fun bare => by
    cases held.symm.trans (bare_unheld (show Bare a from ⟨bare.untracked, bare.vacant⟩) execution .running)
  simp only
  split
  · rfl
  split
  · next scheduler result =>
    rw [result] at suspended tracked
    exact drives_trans suspended (drives_still rfl rfl fun bare => absurd bare tracked)
  · next scheduler result =>
    rw [result] at suspended tracked
    exact drives_trans suspended (drives_still rfl rfl fun bare => absurd bare tracked)

theorem heartbeat_execution_drives : Drives advances a (a.heartbeatExecution execution peer now).2 := by
  unfold heartbeatExecution
  simp only
  split
  · rfl
  next lease held =>
  have tracked : ¬ Bare a := fun bare => by cases held.symm.trans (bare_unheld bare execution _)
  split
  · rfl
  · split <;> exact drives_still rfl rfl fun bare => absurd bare tracked

theorem cancel_pending_cooperative_drives : Drives advances a (a.cancelPendingCooperative id peer).2 := by
  unfold cancelPendingCooperative
  split
  · split
    · rfl
    · exact drop_pending_drives id
  · rfl

theorem claim_native_drives : Drives true a (a.claimNativeEpoch id peer allocated now).2 := by
  have dispatched : Drives true a (a.dispatchLease id peer allocated now).2 := dispatch_lease_drives now allocated id peer
  unfold claimNativeEpoch
  split
  · rfl
  split
  · rfl
  split
  · next after result =>
    rw [result] at dispatched
    exact dispatched
  next started after result =>
  rw [result] at dispatched
  split
  · exact dispatched
  next lease held =>
  split
  · exact dispatched
  · exact drives_trans dispatched (drives_still rfl rfl fun bare => by cases held.symm.trans (bare_active bare id))

theorem finish_native_drives (calls : UInt32) (hasFailed : Bool) :
    Drives advances a (a.finishNativeEpoch execution calls hasFailed peer now).2 := by
  unfold finishNativeEpoch
  split
  · rfl
  split
  · rfl
  · cases hasFailed with
    | true => exact end_active_drives now (.fail execution.taskId now) rfl rfl
    | false => exact end_active_drives now (.complete execution.taskId now) rfl rfl

theorem cancel_pending_native_drives : Drives advances a (a.cancelPendingNativeEpoch id peer).2 := by
  unfold cancelPendingNativeEpoch
  split
  · rfl
  · split
    · rfl
    · exact drop_pending_drives id

theorem reap_expired_drives (pendingOrder activeOrder : List TaskId) :
    Drives advances a (a.reapExpired pendingOrder activeOrder now).2 := by
  unfold reapExpired
  split
  · rfl
  next timed =>
  have tracked : ∀ b : ExecutionAdmissionState, b.options = a.options → ¬ Bare b :=
    fun b same bare => timed (same ▸ bare_untimed bare)
  split
  · next id lease _ =>
    have dropped : Drives advances a (a.dropPending id).2 := drop_pending_drives id
    unfold reapPending
    split
    · next after result =>
      rw [result] at dropped
      exact dropped
    · next after result =>
      rw [result] at dropped
      exact drives_trans dropped (drives_still rfl rfl fun bare => absurd bare (tracked after dropped.1))
  · split
    · exact drives_still rfl rfl fun bare => absurd bare (tracked a rfl)
    · next id lease leases _ =>
      have failed : Drives advances a { a with scheduler := (a.scheduler.fail id now).2 } :=
        drives_one (.fail id now) rfl rfl Bare.vacant (fun _ => rfl)
      unfold reapActive
      simp only
      split <;> exact drives_trans failed (drives_still rfl rfl fun bare => absurd bare (tracked _ rfl))

end ExecutionAdmissionState

namespace AuditedExecution

open ExecutionAdmissionState

theorem serve_drives (s : AuditedExecution) (op : ExecutionOp) (i : ExecutionInput) :
    Drives op.advances s.service (serve op i s).2.service := by
  cases op with
  | submit request peer => exact submit_impl_drives i.now i.allocated request peer none .legacy i.registered
  | submitCooperative request peer =>
    exact submit_impl_drives i.now i.allocated request peer none .cooperative i.registered
  | submitNativeEpoch request extent peer =>
    show Drives true s.service
        (s.service.submitNativeEpoch request extent peer i.registered i.allocated i.now).2
    unfold submitNativeEpoch
    split
    · exact submit_impl_drives i.now i.allocated request peer (some extent) .native i.registered
    · rfl
  | cancel id => exact cancel_drives i.now id
  | cancelQueued id peer => exact cancel_queued_drives id peer
  | cancelPendingCooperative id peer => exact cancel_pending_cooperative_drives peer id
  | forgetTerminal id =>
    show Drives false s.service (s.service.forgetTerminal id).2
    unfold forgetTerminal
    split
    · rfl
    · exact drives_one (.forget id) rfl rfl Bare.vacant (fun _ => rfl)
  | claimNext peer => exact claim_next_drives i.now i.allocated peer
  | claim id peer | waitAttempt id peer => exact answer_or_dispatch_drives i.now i.allocated id peer
  | heartbeat id peer => exact heartbeat_drives i.now id peer
  | complete id peer => exact finish_lease_drives i.now (.complete id i.now) rfl rfl peer
  | fail id peer => exact finish_lease_drives i.now (.fail id i.now) rfl rfl peer
  | claimExecution id peer => exact claim_execution_drives i.now i.allocated peer id
  | suspendExecution execution peer => exact suspend_execution_drives i.now i.allocated execution peer
  | heartbeatExecution execution peer => exact heartbeat_execution_drives i.now execution peer
  | completeExecution execution peer =>
    show Drives false s.service (s.service.completeExecution execution peer i.now).2
    unfold completeExecution
    split
    · rfl
    · exact end_active_drives i.now (.complete execution.taskId i.now) rfl rfl
  | failExecution execution peer =>
    show Drives false s.service (s.service.failExecution execution peer i.now).2
    unfold failExecution
    split
    · rfl
    · exact end_active_drives i.now (.fail execution.taskId i.now) rfl rfl
  | cancelExecution execution peer =>
    show Drives false s.service (s.service.cancelExecution execution peer).2
    unfold cancelExecution
    split
    · rfl
    · exact drop_pending_drives execution.taskId
  | claimNativeEpoch id peer => exact claim_native_drives i.now i.allocated peer id
  | finishNativeEpoch execution calls hasFailed peer => exact finish_native_drives i.now execution peer calls hasFailed
  | cancelPendingNativeEpoch id peer => exact cancel_pending_native_drives peer id
  | notifyStateChange => exact drives_notify (drives_refl _)
  | reapExpired pendingOrder activeOrder => exact reap_expired_drives i.now pendingOrder activeOrder
  | _ => rfl

end AuditedExecution

end Glimmer.Control
