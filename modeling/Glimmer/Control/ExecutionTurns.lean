import Glimmer.Control.ExecutionMirror

namespace Glimmer.Control

open Lib Glimmer.Core Scheduler ExecutionLease

namespace ExecutionOp

def kind : ExecutionOp → Option ExecutionKind
  | .submit _ _ | .cancel _ | .cancelQueued _ _ | .claimNext _ | .claim _ _ | .waitAttempt _ _ | .heartbeat _ _
  | .complete _ _ | .fail _ _ => some .legacy
  | .submitCooperative _ _ | .cancelPendingCooperative _ _ | .claimExecution _ _ | .retreatRequested _ _
  | .suspendExecution _ _ | .heartbeatExecution _ _ | .completeExecution _ _ | .failExecution _ _
  | .cancelExecution _ _ => some .cooperative
  | .submitNativeEpoch _ _ _ | .claimNativeEpoch _ _ | .pendingNativeEpochExtent _ _ | .nativeEpochRetreatRequested _ _
  | .heartbeatNativeEpoch _ _ | .finishNativeEpoch _ _ _ _ | .cancelPendingNativeEpoch _ _ => some .native
  | .forgetTerminal _ | .find _ | .stats | .notifyStateChange | .reapExpired _ _ | .rollback _ | .builds
  | .encodes | .throws => none

def execution : ExecutionOp → Option TaskExecutionIdentity
  | .retreatRequested execution _ | .suspendExecution execution _ | .heartbeatExecution execution _
  | .completeExecution execution _ | .failExecution execution _ | .cancelExecution execution _
  | .nativeEpochRetreatRequested execution _ | .heartbeatNativeEpoch execution _
  | .finishNativeEpoch execution _ _ _ => some execution
  | _ => none

def peer : ExecutionOp → Option TaskPeer
  | .submit _ peer | .submitCooperative _ peer | .submitNativeEpoch _ _ peer | .cancelQueued _ peer
  | .cancelPendingCooperative _ peer | .claimNext peer | .claim _ peer | .waitAttempt _ peer | .heartbeat _ peer
  | .complete _ peer | .fail _ peer | .claimExecution _ peer | .retreatRequested _ peer | .suspendExecution _ peer
  | .heartbeatExecution _ peer | .completeExecution _ peer | .failExecution _ peer | .cancelExecution _ peer
  | .claimNativeEpoch _ peer | .pendingNativeEpochExtent _ peer | .nativeEpochRetreatRequested _ peer
  | .heartbeatNativeEpoch _ peer | .finishNativeEpoch _ _ _ peer | .cancelPendingNativeEpoch _ peer => some peer
  | .cancel _ | .forgetTerminal _ | .find _ | .stats | .notifyStateChange | .reapExpired _ _ | .rollback _ | .builds
  | .encodes | .throws => none

def reports : ExecutionOp → Bool
  | .suspendExecution _ _ | .completeExecution _ _ | .failExecution _ _ | .finishNativeEpoch _ _ _ _ => true
  | _ => false

def submits : ExecutionOp → Bool
  | .submit _ _ | .submitCooperative _ _ | .submitNativeEpoch _ _ _ => true
  | _ => false

def issuedCalls : ExecutionOp → Option UInt32
  | .finishNativeEpoch _ calls _ _ => some calls
  | _ => none

end ExecutionOp

namespace ExecutionAdmissionState

structure Lawful (op : ExecutionOp) (a : ExecutionAdmissionState) (id : TaskId) (task next : TaskRecord)
    (lease : ExecutionLease) : Prop where
  kind : ∀ kind, op.kind = some kind → lease.kind = kind
  execution : ∀ execution, op.execution = some execution → execution = ⟨id, task.dispatchSequence⟩
  owner : a.options.bindLeasesToProcess = true → ∀ peer, op.peer = some peer → lease.owner = peer
  reported : task.state = .running → lease.kind ≠ .legacy → next = task ∨ op.reports = true
  calls : ∀ calls, op.issuedCalls = some calls → ∃ extent, lease.nativeEpoch = some extent ∧ calls ≤ extent.maxCalls

inductive Move (op : ExecutionOp) (a b : ExecutionAdmissionState) : Prop where
  | still (same : Still a b)
  | turned (id : TaskId) (task next : TaskRecord) (lease renewed : ExecutionLease)
      (turn : Turned a b id task next lease renewed) (lawful : Lawful op a id task next lease)
  | arrived (task : TaskRecord) (lease : Option ExecutionLease) (new : Arrived a b task lease)
      (kindred : ∀ held ∈ lease, op.kind = some held.kind) (own : ∀ held ∈ lease, op.peer = some held.owner)
      (asked : op.submits = true)
  | erased (id : TaskId) (gone : Erased a b id) (asked : op = .forgetTerminal id)

abbrev Moves (op : ExecutionOp) : ExecutionAdmissionState → ExecutionAdmissionState → Prop :=
  Relation.ReflTransGen (Move op)

variable {a b : ExecutionAdmissionState} {op : ExecutionOp} {id : TaskId} {task next : TaskRecord}
  {lease : ExecutionLease}

theorem move_mirrors (move : Move op a b) (mirrors : Mirrors a) : Mirrors b := by
  cases move with
  | still same => exact still_mirrors mirrors same
  | turned id task next lease renewed turn => exact turned_mirrors turn mirrors
  | arrived task lease new => exact arrived_mirrors mirrors new
  | erased id gone => exact erased_mirrors mirrors gone

theorem moves_mirrors (moves : Moves op a b) (mirrors : Mirrors a) : Mirrors b := by
  induction moves with
  | refl => exact mirrors
  | tail _ last ih => exact move_mirrors last ih

theorem still_notify (inv : Invariant a.scheduler) : Still a a.notifyStateChange := by
  unfold notifyStateChange
  split <;> exact ⟨rfl, inv, rfl, rfl, rfl, rfl⟩

theorem moves_notify (mirrors : Mirrors a) (moves : Moves op a b) : Moves op a b.notifyStateChange :=
  moves.tail (.still (still_notify (moves_mirrors moves mirrors).invariant))

section
variable (mirrors : Mirrors a) {t : Scheduler}
include mirrors

section
variable (finished : Scheduler.Finished a.scheduler t id task next)
include finished

theorem turned_cancelled (held : (task.state = .queued ∧ a.pendingLeases.lookup id = some lease) ∨
      (task.state = .running ∧ a.activeLeases.lookup id = some lease)) :
    Turned a { a with
      scheduler := t
      activeLeases := a.activeLeases.erase id
      pendingLeases := a.pendingLeases.erase id } id task next lease lease where
  options := rfl
  invariant := finished_invariant finished mirrors.invariant
  nextId := finished.moved.nextId
  found := finished.moved.found
  tasks := moved_lookup finished.moved
  held := held
  pending := slot_erased a.pendingLeases lease finished.notQueued
  active := slot_erased a.activeLeases lease finished.notRunning
  alike := alike_refl lease
  owner _ := rfl

theorem turned_ended (running : task.state = .running) (held : a.activeLeases.lookup id = some lease) :
    Turned a { a with scheduler := t, activeLeases := a.activeLeases.erase id } id task next lease lease := by
  have turned := turned_cancelled mirrors finished (.inr ⟨running, held⟩)
  rwa [KeyedMap.erase_fresh a.pendingLeases (running_unqueued mirrors finished.moved.found running)] at turned

end

section Dispatch
variable (started : Scheduler.Dispatched a.scheduler t id task next)
  (room : a.scheduler.runningTaskIds.length < a.scheduler.maxRunningTasks) (held : a.pendingLeases.lookup id = some lease)

include started room held

theorem turned_started {renewed : ExecutionLease} (alike : lease.Alike renewed)
    (owner : a.options.bindLeasesToProcess = true → renewed.owner = lease.owner) :
    Turned a { a with
      scheduler := t
      pendingLeases := a.pendingLeases.erase id
      activeLeases := a.activeLeases.insert id renewed } id task next lease renewed where
  options := rfl
  invariant := dispatched_invariant started mirrors.invariant room
  nextId := started.moved.nextId
  found := started.moved.found
  tasks := moved_lookup started.moved
  held := .inl ⟨started.queued, held⟩
  pending := slot_erased a.pendingLeases renewed (by rw [started.running]; decide)
  active := slot_inserted a.activeLeases renewed started.running
  alike := alike
  owner := owner

theorem turned_revoked {u : Scheduler} {final : TaskRecord} (finished : Finished t u id next final) :
    Turned a { a with scheduler := u, pendingLeases := a.pendingLeases.erase id } id task final lease lease where
  options := rfl
  invariant := finished_invariant finished (dispatched_invariant started mirrors.invariant room)
  nextId := finished.moved.nextId.trans started.moved.nextId
  found := started.moved.found
  tasks other := by
    rw [moved_lookup finished.moved, moved_lookup started.moved]
    split <;> rfl
  held := .inl ⟨started.queued, held⟩
  pending := slot_erased a.pendingLeases lease finished.notQueued
  active := slot_absent a.activeLeases lease
    (waiting_inactive mirrors started.moved.found started.queued) finished.notRunning
  alike := alike_refl lease
  owner _ := rfl

end Dispatch

variable {renewed : ExecutionLease} (alike : lease.Alike renewed) (owner : renewed.owner = lease.owner)
include alike owner

theorem turned_paused (stopped : Suspended a.scheduler t id task next) (held : a.activeLeases.lookup id = some lease) :
    Turned a { a with
      scheduler := t
      pendingLeases := a.pendingLeases.insert id renewed
      activeLeases := a.activeLeases.erase id } id task next lease renewed where
  options := rfl
  invariant := suspended_invariant stopped mirrors.invariant
  nextId := stopped.moved.nextId
  found := stopped.moved.found
  tasks := moved_lookup stopped.moved
  held := .inr ⟨stopped.running, held⟩
  pending := slot_inserted a.pendingLeases renewed stopped.queued
  active := slot_erased a.activeLeases renewed (by rw [stopped.queued]; decide)
  alike := alike
  owner _ := owner

variable (found : a.scheduler.tasks.lookup id = some task)
include found

theorem turned_renew_pending (queued : task.state = .queued) (held : a.pendingLeases.lookup id = some lease) :
    Turned a { a with pendingLeases := a.pendingLeases.insert id renewed } id task task lease renewed where
  options := rfl
  invariant := mirrors.invariant
  nextId := rfl
  found := found
  tasks other := by
    split
    · next same => exact same ▸ found
    · rfl
  held := .inl ⟨queued, held⟩
  pending := slot_inserted a.pendingLeases renewed queued
  active := slot_absent a.activeLeases renewed (waiting_inactive mirrors found queued) (by rw [queued]; decide)
  alike := alike
  owner _ := owner

theorem turned_renew_active (running : task.state = .running) (held : a.activeLeases.lookup id = some lease) :
    Turned a { a with activeLeases := a.activeLeases.insert id renewed } id task task lease renewed where
  options := rfl
  invariant := mirrors.invariant
  nextId := rfl
  found := found
  tasks other := by
    split
    · next same => exact same ▸ found
    · rfl
  held := .inr ⟨running, held⟩
  pending := slot_absent a.pendingLeases renewed (running_unqueued mirrors found running) (by rw [running]; decide)
  active := slot_inserted a.activeLeases renewed running
  alike := alike
  owner _ := owner

end

variable {peer : TaskPeer}

theorem owner_matches_eq (bound : a.options.bindLeasesToProcess = true)
    (matched : a.ownerMatches lease peer = true) : lease.owner = peer := by
  unfold ownerMatches at matched
  cases peer <;> cases shape : lease.owner <;> simp_all [validPeerIdentity]

theorem pending_owner_eq (bound : a.options.bindLeasesToProcess = true) (held : a.pendingLeases.lookup id = some lease)
    (matched : a.pendingOwnerMatches id peer = true) : lease.owner = peer := by
  unfold pendingOwnerMatches at matched
  simp only [bound, held, Option.any_some, Bool.not_true, Bool.false_eq_true, if_false, Bool.and_eq_true] at matched
  exact owner_matches_eq bound matched.2

def ClearedWaiting (op : ExecutionOp) (a : ExecutionAdmissionState) (id : TaskId) : Prop :=
  ∀ task lease next, a.scheduler.tasks.lookup id = some task → task.state = .queued →
    a.pendingLeases.lookup id = some lease → Lawful op a id task next lease

def ClearedRunning (op : ExecutionOp) (a : ExecutionAdmissionState) (id : TaskId) : Prop :=
  ∀ task lease next, a.scheduler.tasks.lookup id = some task → task.state = .running →
    a.activeLeases.lookup id = some lease → Lawful op a id task next lease

theorem turned_waiting_lease {renewed : ExecutionLease} (turned : Turned a b id task next lease renewed)
    (queued : task.state = .queued) : a.pendingLeases.lookup id = some lease := by
  rcases turned.held with ⟨_, held⟩ | ⟨running, _⟩
  · exact held
  · rw [queued] at running
    cases running

variable (mirrors : Mirrors a)
include mirrors

theorem drop_pending_moves (cleared : ClearedWaiting op a id) : Moves op a (a.dropPending id).2 := by
  unfold dropPending
  rcases cancel_queued_cases mirrors.invariant id with ⟨result, _⟩ | ⟨task, next, t, result, finished, _, queued⟩
  · rw [result]
  rw [result]
  obtain ⟨lease, held⟩ := covered_lease mirrors.waiting finished.moved.found queued
  have turned := turned_cancelled mirrors finished (.inl ⟨queued, held⟩)
  rw [KeyedMap.erase_fresh a.activeLeases (waiting_inactive mirrors finished.moved.found queued)] at turned
  exact .single (.turned id task next lease lease turned (cleared task lease next finished.moved.found queued held))

theorem end_active_moves {finish : Scheduler → TaskId → TimePoint → Bool × Scheduler} (finisher : Finisher finish)
    {now : TimePoint} (cleared : ClearedRunning op a id) : Moves op a (a.endActive id finish now).2 := by
  unfold endActive
  rcases finisher_cases mirrors.invariant finisher id now with
    ⟨result, _⟩ | ⟨task, next, t, result, finished, _, running⟩
  · rw [result]
  · rw [result]
    obtain ⟨lease, held⟩ := covered_lease mirrors.running finished.moved.found running
    exact .single (.turned id task next lease lease (turned_ended mirrors finished running held)
      (cleared task lease next finished.moved.found running held))

theorem record_lease_cases {t : Scheduler} (started : Scheduler.Dispatched a.scheduler t id task next)
    (room : a.scheduler.runningTaskIds.length < a.scheduler.maxRunningTasks)
    (owned : a.options.bindLeasesToProcess = true → a.pendingOwnerMatches id peer = true) (allocated : Bool)
    (now : TimePoint) :
    ∃ lease, a.pendingLeases.lookup id = some lease ∧
      ((∃ final b, recordLease { a with scheduler := t } (some (snapshot id next)) peer allocated now =
          (none, b.notifyStateChange) ∧ Turned a b id task final lease lease) ∨
        ∃ renewed b, recordLease { a with scheduler := t } (some (snapshot id next)) peer allocated now =
          (some (snapshot id next), b) ∧ Turned a b id task next lease renewed) := by
  obtain ⟨lease, held⟩ := covered_lease mirrors.waiting started.moved.found started.queued
  have tracked : tracksLeases { a with scheduler := t } = true := mirrors.tracked
  have inactive := waiting_inactive mirrors started.moved.found started.queued
  have runs : t.tasks.lookup id = some next := by rw [Scheduler.moved_lookup started.moved, if_pos rfl]
  have revoked : ∃ final b, revokeDispatch { a with scheduler := t, pendingLeases := a.pendingLeases.erase id } id now =
      (none, b.notifyStateChange) ∧ Turned a b id task final lease lease := by
    rcases finisher_cases (Scheduler.dispatched_invariant started mirrors.invariant room) .fail id now with
      ⟨_, idle⟩ | ⟨record, final, u, result, finished, _⟩
    · exact absurd (by rw [Scheduler.taskState, runs, Option.map_some, started.running]) idle
    · obtain rfl : record = next := Option.some.inj (finished.moved.found.symm.trans runs)
      refine ⟨final, { a with scheduler := u, pendingLeases := a.pendingLeases.erase id }, ?_,
        turned_revoked mirrors started room held finished⟩
      rw [revokeDispatch, result]
  refine ⟨lease, held, ?_⟩
  have shownInactive : a.activeLeases.lookup (snapshot id next).taskId = none := inactive
  have shownHeld : a.pendingLeases.lookup (snapshot id next).taskId = some lease := held
  unfold recordLease
  simp only [tracked, Bool.not_true, Bool.false_eq_true, if_false]
  have known : ¬ (a.options.bindLeasesToProcess = true ∧ ¬ pendingOwnerMatches { a with scheduler := t }
    (snapshot id next).taskId peer = true) :=
    fun foreign => foreign.2 (owned foreign.1)
  rw [if_neg known, if_neg (by simp [shownInactive])]
  unfold emplaceExecution
  by_cases free : allocated = true
  · rw [if_pos ⟨free, by simp [shownInactive]⟩]
    refine .inr ⟨_, _, rfl, turned_started mirrors started room held ⟨?_, ?_, ?_⟩ fun bound => ?_⟩
    · simp [startLease, shownHeld]
    · simp [startLease, shownHeld]
    · exact (mirrors.formed id lease (.inl held)).1.symm
    · exact (pending_owner_eq bound held (owned bound)).symm
  · rw [if_neg (fun both => free both.1)]
    exact .inl revoked

variable (owned : a.options.bindLeasesToProcess = true → a.pendingOwnerMatches id peer = true)
include owned

theorem dispatch_lease_cases (allocated : Bool) (now : TimePoint) :
    (∃ b, a.dispatchLease id peer allocated now = (none, b) ∧ Still a b) ∨
      (∃ task final lease b, a.dispatchLease id peer allocated now = (none, b.notifyStateChange) ∧
        task.state = .queued ∧ Turned a b id task final lease lease) ∨
      ∃ task next lease renewed b, a.dispatchLease id peer allocated now = (some (snapshot id next), b) ∧
        task.state = .queued ∧ next.state = .running ∧ next.dispatchSequence = a.scheduler.nextDispatchSequence ∧
        Turned a b id task next lease renewed := by
  unfold dispatchLease
  rcases dispatch_task_cases mirrors.invariant id now with
    ⟨t, result, retuned, _⟩ | ⟨task, next, t, result, started, ready, _⟩
  · rw [result]
    exact .inl ⟨_, rfl, rfl, retuned_invariant retuned mirrors.invariant, retuned.nextId, retuned.tasks, rfl, rfl⟩
  rw [result]
  obtain ⟨lease, _, ⟨final, b, recorded, turned⟩ | ⟨renewed, b, recorded, turned⟩⟩ :=
    record_lease_cases mirrors started ready.slot owned allocated now
  · exact .inr (.inl ⟨task, final, lease, b, recorded, started.queued, turned⟩)
  · exact .inr (.inr ⟨task, next, lease, renewed, b, recorded, started.queued, started.running, started.sequence, turned⟩)

theorem dispatch_lease_moves (cleared : ClearedWaiting op a id) (allocated : Bool) (now : TimePoint) :
    Moves op a (a.dispatchLease id peer allocated now).2 := by
  rcases dispatch_lease_cases mirrors owned allocated now with ⟨b, result, still⟩ |
      ⟨task, final, lease, b, result, queued, turned⟩ | ⟨task, next, lease, renewed, b, result, queued, _, _, turned⟩
  · rw [result]
    exact .single (.still still)
  · rw [result]
    have held := turned_waiting_lease turned queued
    exact moves_notify mirrors (.single (.turned id task final lease lease turned
      (cleared task lease final turned.found queued held)))
  · rw [result]
    have held := turned_waiting_lease turned queued
    exact .single (.turned id task next lease renewed turned (cleared task lease next turned.found queued held))

end ExecutionAdmissionState

end Glimmer.Control
