import Glimmer.Control.ExecutionGrants

namespace Glimmer.Control

open Lib Glimmer.Core

def ExecutionOp.observes : ExecutionOp → Bool
  | .find _ | .stats | .notifyStateChange | .rollback _ | .builds | .encodes | .throws => true
  | _ => false

-- What a handler may do: its peer's operations, and creating or dispatching only where admitted.
structure RequestPolicy (allowed : ExecutionOp → Prop) (peer : TaskPeer) (advancing : Prop) : Prop where
  observing : ∀ op, op.observes = true → allowed op
  retiring : ∀ op, op.peer = some peer → op.advances = false → allowed op
  advancing : advancing → ∀ op, op.peer = some peer → allowed op

namespace TaskExecutionEndpoint

open CallTree

variable {allowed : ExecutionOp → Prop} {peer : TaskPeer} {advancing : Prop}
  {execution : TaskExecutionIdentity} {call : ExecutionCall}

section Retiring
variable (policy : RequestPolicy allowed peer advancing)
include policy

theorem announced_only {α : Type} (result : α) (owed : Bool) : Only allowed (announced result owed) := by
  cases owed with
  | true => exact only_call (policy.observing _ rfl) (fun _ => trivial)
  | false => trivial

theorem concluded_only {report : Call Bool} (reported : Only allowed report) : Only allowed (concluded report) :=
  only_bind reported (fun ended => announced_only policy ended ended)

variable (task : UnpublishedTask)

theorem withdraw_only : Only allowed (withdraw peer task) := by
  cases task with
  | none => trivial
  | legacyPending id => exact only_perform (policy.retiring _ rfl rfl)
  | _ => exact concluded_only policy (only_perform (policy.retiring _ rfl rfl))

theorem retire_only : Only allowed (retire peer task) := by
  refine only_bind (withdraw_only policy task) (fun retired => ?_)
  cases retired with
  | true => exact only_call (policy.observing _ rfl) (fun _ => trivial)
  | false => trivial

section
variable (response : TaskExecutionProtocolResponse)
include response

theorem encoded_only : Only allowed (encoded response) :=
  only_call (policy.observing _ rfl) (fun _ => trivial)

omit response in
theorem failure_only {error : TaskProtocolErrorCode} : Only allowed (failure error) := encoded_only policy _

theorem published_only : Only allowed (published peer task response) := by
  refine only_call (policy.observing _ rfl) (fun encoded => ?_)
  cases (encoded : Bool) with
  | true => trivial
  | false => exact only_bind (retire_only policy task) (fun _ => trivial)

theorem leased_only : Only allowed (leased peer task response) := by
  refine only_call (policy.observing _ rfl) (fun built => ?_)
  cases (built : Bool) with
  | true => exact published_only policy task response
  | false => exact only_bind (retire_only policy task) (fun _ => failure_only policy)

end

theorem risking_only {α : Type} {caught : Call Response} {action : Call α}
    {rest : α → Call Response} (handled : Only allowed caught) (acting : Only allowed action)
    (going : ∀ result, Only allowed (rest result)) : Only allowed (risking peer task caught action rest) := by
  have unwound : Only allowed (do let _ ← retire peer task; caught) :=
    only_bind (retire_only policy task) (fun _ => handled)
  refine only_call (policy.observing _ rfl) (fun early => ?_)
  cases (early : Bool) with
  | true => exact unwound
  | false =>
    refine only_bind acting (fun result => only_call (policy.observing _ rfl) (fun late => ?_))
    cases (late : Bool) with
    | true => exact unwound
    | false => exact going result

theorem find_only {rest : Option TaskSnapshot → Call Response} (id : TaskId)
    (going : ∀ current, Only allowed (rest current)) :
    Only allowed (do
      let current : Option TaskSnapshot ← perform (ExecutionOp.find id)
      rest current) :=
  only_call (policy.observing _ rfl) going

theorem refused_only (id : TaskId) : Only allowed (refused id) := find_only policy id (fun _ => failure_only policy)

theorem answered_only (id : TaskId) {done : Bool} {state : TaskState} : Only allowed (answered id done state) := by
  cases done with
  | true => exact encoded_only policy _
  | false => exact refused_only policy id

theorem accepted_only (result : SubmitResult) {rest : TaskId → Call Response} (going : ∀ id, Only allowed (rest id)) :
    Only allowed (accepted result rest) := by
  unfold accepted
  split
  · exact failure_only policy
  · exact going _

theorem cancel_only (legacy : Bool) (id : TaskId) : Only allowed (cancel peer legacy id) := by
  refine find_only policy id (fun before => ?_)
  split
  · exact failure_only policy
  have queued : Only allowed (do
      let cancelled : Bool ← perform (ExecutionOp.cancelQueued id peer)
      answered id cancelled .cancelled) :=
    only_call (policy.retiring _ rfl rfl) (fun _ => answered_only policy id)
  cases legacy with
  | true => exact queued
  | false =>
    refine only_bind (concluded_only policy (only_perform (policy.retiring _ rfl rfl))) (fun withdrawn => ?_)
    cases withdrawn with
    | true => exact encoded_only policy _
    | false => exact queued

theorem query_only (id : TaskId) : Only allowed (query id) := by
  refine find_only policy id (fun current => ?_)
  cases current with
  | none => exact failure_only policy
  | some existing => exact encoded_only policy _

theorem retreat_only : Only allowed (retreat peer execution) := by
  refine only_call (policy.retiring _ rfl rfl) (fun requested => ?_)
  cases (requested : Option Bool) with
  | none => exact failure_only policy
  | some requested => exact encoded_only policy _

theorem reported_only {updated : Bool} : Only allowed (reported execution updated) := by
  refine find_only policy execution.taskId (fun current => ?_)
  cases current with
  | none => exact failure_only policy
  | some existing =>
    cases updated with
    | true => exact encoded_only policy _
    | false => exact failure_only policy

theorem claimed_only (reply : ClaimReply) : Only allowed (claimed reply) := by
  cases reply with
  | answered answer => trivial
  | attempted started => exact announced_only policy started started.isSome

theorem acknowledged_only (request : NativeEpochRequest) {done : Bool} : Only allowed (acknowledged request done) :=
  encoded_only policy _

end Retiring

section Advancing
variable (policy : RequestPolicy allowed peer advancing) (admitted : advancing)
include policy admitted

theorem claim_next_only : Only allowed (claimNext peer) :=
  only_call (policy.advancing admitted _ rfl) (fun _ => announced_only policy _ _)

variable (id : TaskId) (rounds : Nat) (admission : TaskSpec)

theorem claim_only : Only allowed (claim id peer) :=
  only_call (policy.advancing admitted _ rfl) (claimed_only policy)

theorem wait_claim_only : Only allowed (waitClaim id peer rounds) := by
  induction rounds with
  | zero =>
    refine only_call (policy.advancing admitted _ rfl) (fun reply => ?_)
    exact claimed_only policy reply
  | succ rounds ih =>
    refine only_call (policy.advancing admitted _ rfl) (fun reply => ?_)
    match (reply : ClaimReply) with
    | .answered _ => trivial
    | .attempted none => exact ih
    | .attempted (some started) => exact announced_only policy (some started) true

theorem claim_execution_only : Only allowed (claimExecution id peer) :=
  only_call (policy.advancing admitted _ rfl) (fun _ => announced_only policy _ _)

theorem claim_native_only : Only allowed (claimNativeEpoch id peer) :=
  only_call (policy.advancing admitted _ rfl) (fun _ => announced_only policy _ _)

theorem submit_only (legacy : Bool) (admission : TaskSpec) : Only allowed (submit peer legacy admission) := by
  cases legacy with
  | true | false =>
    exact only_call (policy.advancing admitted _ rfl)
      (fun result => accepted_only policy result (fun id => published_only policy _ _))

theorem execution_acquire_only : Only allowed (executionAcquire peer admission) := by
  refine only_call (policy.advancing admitted _ rfl) (fun result => accepted_only policy result (fun id => ?_))
  refine risking_only policy _ (failure_only policy) (claim_execution_only policy admitted id) (fun started => ?_)
  cases started with
  | none => exact published_only policy _ _
  | some started => exact leased_only policy _ _

theorem execution_complete_acquire_only : Only allowed (executionCompleteAcquire peer execution admission) := by
  refine only_bind (concluded_only policy (only_perform (policy.retiring _ rfl rfl))) (fun completed => ?_)
  split
  · exact failure_only policy
  refine only_call (policy.advancing admitted _ rfl) (fun result => ?_)
  split
  · exact published_only policy _ _
  · refine risking_only policy _ (failure_only policy) (claim_execution_only policy admitted _) (fun started => ?_)
    cases started with
    | none | some started => exact published_only policy _ _

theorem acquire_only : Only allowed (acquire peer admission) := by
  refine only_call (policy.advancing admitted _ rfl) (fun result => accepted_only policy result (fun id => ?_))
  refine risking_only policy _ (failure_only policy) (claim_only policy admitted id) (fun started => ?_)
  cases started with
  | some started => exact leased_only policy _ _
  | none =>
    refine risking_only policy _ (failure_only policy) (only_perform (policy.observing _ rfl)) (fun current => ?_)
    split
    · exact published_only policy _ _
    · exact only_bind (failure_only policy) (fun _ => only_bind (retire_only policy _) (fun _ => trivial))

theorem execution_claim_only : Only allowed (executionClaim peer id) := by
  refine find_only policy id (fun current => ?_)
  split
  · exact failure_only policy
  refine only_bind (claim_execution_only policy admitted id) (fun started => ?_)
  cases started with
  | none => exact encoded_only policy _
  | some started => exact leased_only policy _ _

theorem claim_by_id_only : Only allowed (claimById peer id) := by
  unfold claimById
  split
  · refine only_bind (claim_next_only policy admitted) (fun started => ?_)
    cases started with
    | none => exact encoded_only policy _
    | some started => exact leased_only policy _ _
  · refine only_bind (claim_only policy admitted id) (fun started => ?_)
    cases started with
    | some started => exact leased_only policy _ _
    | none =>
      refine find_only policy id (fun current => ?_)
      split
      · exact failure_only policy
      · exact encoded_only policy _

theorem wait_only : Only allowed (wait peer id rounds) := by
  refine only_bind (wait_claim_only policy admitted id rounds) (fun started => ?_)
  cases started with
  | some started => exact leased_only policy _ _
  | none =>
    refine find_only policy id (fun current => ?_)
    cases current with
    | none => exact failure_only policy
    | some existing =>
      simp only
      split <;> exact encoded_only policy _

theorem native_grant_only {task : UnpublishedTask} {id : TaskId} {sequence : Nat} :
    Only allowed (nativeGrant peer task id sequence) := by
  refine risking_only policy task trivial (claim_native_only policy admitted id) (fun granted => ?_)
  cases granted with
  | some grant => exact published_only policy _ _
  | none =>
    refine risking_only policy task trivial (only_perform (policy.retiring _ rfl rfl)) (fun pending => ?_)
    cases (pending : Option NativeEpochExtent) with
    | some extent | none => exact published_only policy _ _

end Advancing

variable (policy : RequestPolicy allowed peer advancing)
include policy

theorem dispatch_native_only {request : NativeEpochRequest}
    (admitted : request.operation = .acquire ∨ request.operation = .claim → advancing) :
    Only allowed (dispatchNative peer request) := by
  unfold dispatchNative
  generalize request.operation = operation at admitted
  cases operation with
  | acquire =>
    have admits := admitted (.inl rfl)
    refine only_call (policy.advancing admits _ rfl) (fun result => ?_)
    split
    · exact encoded_only policy _
    · exact native_grant_only policy admits
  | claim => exact native_grant_only policy (admitted (.inr rfl))
  | retreat =>
    refine only_call (policy.retiring _ rfl rfl) (fun requested => ?_)
    cases (requested : Option Bool) with
    | some requested | none => exact encoded_only policy _
  | heartbeat =>
    exact only_call (policy.retiring _ rfl rfl) (fun _ => acknowledged_only policy request)
  | complete | fail | cancelPending =>
    exact only_bind (concluded_only policy (only_perform (policy.retiring _ rfl rfl)))
      (fun _ => acknowledged_only policy request)

theorem guarded_only {bound : Bool} {tree : Call Response} (only : Only allowed tree) :
    Only allowed (if bound then tree else failure .invalidRequest) := by
  cases bound with
  | true => exact only
  | false => exact failure_only policy

theorem dispatch_only (bound : Bool) (own : call.peer = peer) (legacy : Bool)
    {request : TaskExecutionProtocolRequest} (admitted : createsOrDispatches request.operation = true → advancing) :
    Only allowed (dispatch bound call legacy request) := by
  subst own
  unfold dispatch
  generalize request.operation = operation at admitted
  cases operation with
  | submit => exact submit_only policy (admitted rfl) legacy request.admission
  | acquire => exact acquire_only policy (admitted rfl) request.admission
  | executionAcquire =>
    exact guarded_only policy (execution_acquire_only policy (admitted rfl) request.admission)
  | executionCompleteAcquire =>
    exact guarded_only policy (execution_complete_acquire_only policy (admitted rfl) request.admission)
  | cancel => exact cancel_only policy legacy request.taskId
  | query => exact query_only policy request.taskId
  | executionClaim =>
    exact guarded_only policy (execution_claim_only policy (admitted rfl) request.taskId)
  | retreat => exact retreat_only policy
  | executionHeartbeat => exact only_call (policy.retiring _ rfl rfl) (fun _ => reported_only policy)
  | heartbeat => exact only_call (policy.retiring _ rfl rfl) (fun _ => answered_only policy _)
  | claim => exact claim_by_id_only policy (admitted rfl) request.taskId
  | wait => exact wait_only policy (admitted rfl) request.taskId call.rounds
  | stats | metrics => exact only_call (policy.observing _ rfl) (fun _ => encoded_only policy _)
  | complete | fail =>
    exact only_bind (concluded_only policy (only_perform (policy.retiring _ rfl rfl))) (fun _ => answered_only policy _)
  | _ =>
    exact only_bind (concluded_only policy (only_perform (policy.retiring _ rfl rfl))) (fun _ => reported_only policy)

theorem handle_only (bound : Bool) (own : call.peer = peer)
    (admitted : call.draining = false → advancing) : Only allowed (handle bound call) := by
  unfold handle
  split
  · unfold handleNativeEpoch
    split
    · exact encoded_only policy _
    split
    · exact encoded_only policy _
    next passed =>
    subst own
    refine dispatch_native_only policy (fun creates => admitted ?_)
    cases draining : call.draining with
    | true => exact absurd ⟨draining, creates⟩ passed
    | false => rfl
  split
  · exact failure_only policy
  next legacy request _ =>
  split
  · exact failure_only policy
  next passed =>
  refine dispatch_only policy bound own legacy (fun creates => admitted ?_)
  cases draining : call.draining with
  | true => exact absurd ⟨draining, creates⟩ passed
  | false => rfl

end TaskExecutionEndpoint

end Glimmer.Control
