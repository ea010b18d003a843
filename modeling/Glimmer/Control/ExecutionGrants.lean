import Glimmer.Control.ExecutionDrives

namespace Glimmer.Control

open Lib Glimmer.Core Scheduler

variable {a b : ExecutionAdmissionState} {id : TaskId} {peer : TaskPeer} {allocated : Bool} {now : TimePoint}

namespace ExecutionAdmissionState

theorem claim_native_none (bare : Bare a) : a.claimNativeEpoch id peer allocated now = (none, a) := by
  rw [claimNativeEpoch, if_neg (by simp [bare_active bare]), if_pos (.inl (by simp [bare_pending bare]))]

theorem claim_execution_none (bare : Bare a) : a.claimExecution id peer allocated now = (none, a) := by
  rw [claimExecution, if_pos (by simp [bare_free bare])]

end ExecutionAdmissionState

def claimedTask : ClaimReply → Option TaskSnapshot
  | .answered snapshot | .attempted snapshot => snapshot

namespace ExecutionAdmissionState

structure Regular (a : ExecutionAdmissionState) : Prop where
  invariant : Scheduler.Invariant a.scheduler
  sequenced : Scheduler.Sequenced a.scheduler
  leases : Mirrors a ∨ Bare a

structure Grants (a b : ExecutionAdmissionState) (execution : TaskExecutionIdentity) : Prop where
  waiting : ∃ task, a.scheduler.tasks.lookup execution.taskId = some task ∧ task.state = .queued
  number : execution.generation = a.scheduler.nextDispatchSequence
  running : ∃ next, b.scheduler.tasks.lookup execution.taskId = some next ∧ next.dispatchSequence = execution.generation

variable (mirrors : Mirrors a)
include mirrors
variable {snap : TaskSnapshot} {started : TaskSnapshot}

theorem dispatch_lease_grants (owned : a.pendingOwnerMatches id peer = true)
    (result : a.dispatchLease id peer allocated now = (some started, b)) :
    Grants a b ⟨started.taskId, started.dispatchSequence⟩ ∧ started.taskId = id := by
  rcases dispatch_lease_cases mirrors (fun _ => owned) allocated now with ⟨c, refused, _⟩ | ⟨_, _, _, c, refused, _⟩ |
      ⟨task, next, lease, renewed, c, granted, queued, _, number, turned⟩
  · rw [result] at refused
    cases refused
  · rw [result] at refused
    cases refused
  · rw [result] at granted
    cases granted
    have runs : b.scheduler.tasks.lookup id = some next := by rw [turned.tasks, if_pos rfl]
    exact ⟨⟨⟨task, turned.found, queued⟩, number, next, runs, rfl⟩, rfl⟩

theorem claim_execution_grants (result : a.claimExecution id peer allocated now = (some started, b)) :
    Grants a b ⟨started.taskId, started.dispatchSequence⟩ := by
  unfold claimExecution at result
  split at result
  · cases result
  split at result
  · cases result
  split at result
  · cases result
  split at result
  · cases result
  next passed =>
  have matched : a.pendingOwnerMatches id peer = true := by
    by_contra foreign
    exact passed (.inr foreign)
  split at result
  · cases result
  next begun after dispatched =>
  have grants := (dispatch_lease_grants mirrors matched dispatched).1
  split at result
  · cases result
  · cases result
    exact ⟨grants.waiting, grants.number, grants.running⟩

theorem claim_native_grants {grant : NativeEpochGrant}
    (result : a.claimNativeEpoch id peer allocated now = (some grant, b)) :
    Grants a b grant.execution := by
  unfold claimNativeEpoch at result
  split at result
  · cases result
  split at result
  · cases result
  next waits =>
  obtain ⟨_, _, _, matched⟩ := native_pending waits
  split at result
  · cases result
  next begun after dispatched =>
  have grants := (dispatch_lease_grants mirrors matched dispatched).1
  split at result
  · cases result
  split at result
  · cases result
  · cases result
    exact ⟨grants.waiting, grants.number, grants.running⟩

def Plain (a : ExecutionAdmissionState) (id : TaskId) : Prop := ∃ lease, a.Leased id lease ∧ lease.isCooperative = false

theorem running_plain (plain : a.heldCooperatively id = false) {existing : TaskSnapshot}
    (found : a.scheduler.find id = some existing) (running : existing.state = .running) : Plain a existing.taskId := by
  obtain ⟨task, known, rfl⟩ := Option.map_eq_some_iff.mp found
  obtain ⟨lease, held⟩ := covered_lease mirrors.running known running
  exact ⟨lease, .inr held, plain_active plain held⟩

theorem claim_answer_plain (answer : a.claimAnswer id peer = some (some snap)) : Plain a snap.taskId := by
  unfold claimAnswer at answer
  split at answer
  · cases answer
  split at answer
  · cases answer
  next plain =>
  split at answer
  · next existing filtered =>
    obtain ⟨found, running⟩ := Option.filter_eq_some_iff.mp filtered
    have shown := running_plain mirrors (by simpa using plain) found (by simpa using running)
    unfold heldClaim at answer
    split at answer
    · cases answer
      exact shown
    · cases answer
  · split at answer <;> cases answer

theorem wait_answer_plain (answer : a.waitAnswer id peer = some (some snap)) : Plain a snap.taskId := by
  unfold waitAnswer at answer
  split at answer
  · cases answer
  split at answer
  · cases answer
  next plain =>
  split at answer
  · cases answer
  next existing found =>
  split at answer
  · next running =>
    have shown := running_plain mirrors (by simpa using plain) found running
    unfold heldClaim at answer
    split at answer
    · cases answer
      exact shown
    · cases answer
  · split at answer
    · cases answer
    · split at answer <;> cases answer

theorem answer_or_dispatch_plain {answer : Option (Option TaskSnapshot)}
    (answered : ∀ known, answer = some (some known) → Plain a known.taskId)
    (unanswered : answer = none → a.heldCooperatively id = false ∧ a.pendingOwnerMatches id peer = true)
    (claimed : claimedTask (a.answerOrDispatch answer id peer allocated now).1 = some snap) : Plain a snap.taskId := by
  cases answer with
  | some known =>
    refine answered snap ?_
    rw [show known = some snap from claimed]
  | none =>
    obtain ⟨plain, matched⟩ := unanswered rfl
    have result : a.dispatchLease id peer allocated now = (some snap, (a.dispatchLease id peer allocated now).2) :=
      Prod.ext claimed rfl
    obtain ⟨⟨⟨task, found, queued⟩, _, _⟩, same⟩ := dispatch_lease_grants mirrors matched result
    obtain ⟨lease, held⟩ := covered_lease mirrors.waiting found queued
    refine ⟨lease, .inl held, plain_pending plain (same ▸ held)⟩

end ExecutionAdmissionState

namespace AuditedExecution

open ExecutionAdmissionState

def trace : AuditedExecution → List Outside → List (Σ op : ExecutionOp, op.Reply)
  | _, [] => []
  | s, event :: rest => ⟨event.op, (serve event.op event.input s).1⟩ :: trace (outside event s) rest

def granted : (Σ op : ExecutionOp, op.Reply) → Option TaskExecutionIdentity
  | ⟨.claimExecution _ _, started⟩ => Option.map (fun task : TaskSnapshot => ⟨task.taskId, task.dispatchSequence⟩) started
  | ⟨.claimNativeEpoch _ _, grant⟩ => Option.map NativeEpochGrant.execution grant
  | _ => none

def claimedPlainly : (Σ op : ExecutionOp, op.Reply) → Option TaskId
  | ⟨.claimNext _, started⟩ => Option.map TaskSnapshot.taskId started
  | ⟨.claim _ _, reply⟩ | ⟨.waitAttempt _ _, reply⟩ => (claimedTask reply).map TaskSnapshot.taskId
  | _ => none

def introduced : (Σ op : ExecutionOp, op.Reply) → Option TaskId
  | ⟨.submitCooperative _ _, result⟩ | ⟨.submitNativeEpoch _ _ _, result⟩ =>
    if SubmitResult.status result = .accepted then some (SubmitResult.taskId result) else none
  | _ => none

variable {s : AuditedExecution}

theorem serve_regular (regular : Regular s.service) (op : ExecutionOp) (i : ExecutionInput) :
    Regular (serve op i s).2.service := by
  obtain ⟨_, _, ops, reached, _⟩ := serve_drives s op i
  obtain ⟨inv, sequenced⟩ := run_sequenced regular.invariant regular.sequenced ops
  rw [← reached] at inv sequenced
  refine ⟨inv, sequenced, ?_⟩
  rcases regular.leases with mirrors | bare
  · exact .inl (moves_mirrors (serve_moves mirrors op i) mirrors)
  · exact .inr (drives_bare (serve_drives s op i) bare)

theorem opened_regular (limit : MemoryBytes) (settings : SchedulerOptions) (options : ExecutionOptions) :
    Regular (opened limit settings options).service := by
  refine ⟨new_invariant limit settings, new_sequenced limit settings, ?_⟩
  cases tracked : (opened limit settings options).service.tracksLeases with
  | true => exact .inl (opened_mirrors tracked)
  | false => exact .inr ⟨tracked, rfl, rfl⟩

theorem run_regular (regular : Regular s.service) (events : List Outside) : Regular (s.run events).service := by
  induction events generalizing s with
  | nil => exact regular
  | cons event rest ih => exact ih (serve_regular regular event.op event.input)

variable {op : ExecutionOp} {i : ExecutionInput}

section Grants
variable {execution : TaskExecutionIdentity} {number : Nat} (regular : Regular s.service)
include regular

theorem serve_grants
    (grant : granted ⟨op, (serve op i s).1⟩ = some execution) : Grants s.service (serve op i s).2.service execution := by
  cases op with
  | claimExecution id peer =>
    obtain ⟨started, result, rfl⟩ := Option.map_eq_some_iff.mp grant
    rcases regular.leases with mirrors | bare
    · exact claim_execution_grants mirrors (Prod.ext result rfl)
    · simp [serve, withService, claim_execution_none bare] at result
  | claimNativeEpoch id peer =>
    obtain ⟨given, result, rfl⟩ := Option.map_eq_some_iff.mp grant
    rcases regular.leases with mirrors | bare
    · exact claim_native_grants mirrors (Prod.ext result rfl)
    · simp [serve, withService, claim_native_none bare] at result
  | _ => cases grant

theorem trace_outnumbers {id : TaskId} (spent : Spent s.service.scheduler id number) (events : List Outside) :
    ∀ execution ∈ (s.trace events).filterMap granted, execution.taskId = id → number < execution.generation := by
  induction events generalizing s with
  | nil =>
    intro execution mem
    cases mem
  | cons event rest ih =>
    intro execution mem same
    obtain ⟨answer, listed, grant⟩ := List.mem_filterMap.mp mem
    rcases List.mem_cons.mp listed with rfl | later
    · subst same
      have grants := serve_grants regular grant
      obtain ⟨task, found, queued⟩ := grants.waiting
      rw [grants.number]
      rcases regular.sequenced.numbered execution.taskId task found with below | ⟨_, resting⟩
      · exact Nat.lt_of_le_of_lt (spent.reached task found) below
      · exact absurd queued resting
    · refine ih (serve_regular regular event.op event.input) ?_ execution
        (List.mem_filterMap.mpr ⟨answer, later, grant⟩) same
      obtain ⟨_, _, ops, reached, _⟩ := serve_drives s event.op event.input
      rw [reached]
      exact run_spent regular.invariant regular.sequenced spent ops

theorem trace_grants_increase (events : List Outside) :
    ((s.trace events).filterMap granted).Pairwise
      (fun earlier later => later.taskId = earlier.taskId → earlier.generation < later.generation) := by
  induction events generalizing s with
  | nil => exact .nil
  | cons event rest ih =>
    have after := serve_regular regular event.op event.input
    cases grant : granted ⟨event.op, (serve event.op event.input s).1⟩ with
    | none =>
      rw [trace, List.filterMap_cons_none grant]
      exact ih after
    | some execution =>
      rw [trace, List.filterMap_cons_some grant]
      have grants := serve_grants regular grant
      refine List.pairwise_cons.mpr ⟨trace_outnumbers after ?_ rest, ih after⟩
      obtain ⟨next, found, number⟩ := grants.running
      refine ⟨(after.invariant.coherent.issued execution.taskId next found).2, fun task known => ?_⟩
      cases found.symm.trans known
      exact number.ge

end Grants

section Kinds

theorem serve_introduced_bound
    (new : introduced ⟨op, (serve op i s).1⟩ = some id) : s.service.options.bindLeasesToProcess = true := by
  by_contra free
  cases op with
  | submitCooperative request peer =>
    have refused : s.service.submitCooperative request peer i.registered i.allocated i.now =
        ({ status := .invalidTask }, s.service) := by
      rw [submitCooperative, submitImpl, if_neg (fun both => free both.1), if_pos (.inl ⟨by decide, .inl free⟩)]
    simp [introduced, serve, withSubmission, refused] at new
  | submitNativeEpoch request extent peer =>
    have refused : s.service.submitNativeEpoch request extent peer i.registered i.allocated i.now =
        ({ status := .invalidTask }, s.service) := by
      rw [submitNativeEpoch, if_neg (fun passed => free passed.1)]
    simp [introduced, serve, withSubmission, refused] at new
  | _ => cases new

def Steered (a : ExecutionAdmissionState) (id : TaskId) : Prop := ∃ lease, Natured a id lease ∧ lease.isCooperative = true

theorem submit_impl_steered (mirrors : Mirrors a) (after : Mirrors b) {request : TaskSpec}
    {peer : TaskPeer} {extent : Option NativeEpochExtent} {kind : ExecutionKind} (other : kind ≠ .legacy)
    {registered : Bool} {result : SubmitResult}
    (served : a.submitImpl request peer extent kind registered allocated now = (result, b))
    (accepted : result.status = .accepted) : result.taskId = a.scheduler.nextTaskId ∧ Steered b result.taskId := by
  rcases submit_impl_cases request peer extent kind mirrors.invariant
    (fresh_leases mirrors).1 registered allocated now with
    ⟨status, refused, known⟩ | ⟨t, u, task, final, c, known, _⟩ | ⟨t, task, c, known, submitted⟩ <;>
    rw [served] at known <;> cases known
  · exact absurd accepted refused
  · cases accepted
  · have arrived := submitted_arrived mirrors submitted
    have held : b.Leased a.scheduler.nextTaskId (a.submittedLease peer kind extent now) := by
      left
      rw [arrived.pending, if_pos rfl]
    exact ⟨rfl, _, leased_natured after held, by simpa [submittedLease] using other⟩

section
variable (mirrors : Mirrors s.service)
include mirrors

theorem serve_introduced (new : introduced ⟨op, (serve op i s).1⟩ = some id) :
    id = s.service.scheduler.nextTaskId ∧ Steered (serve op i s).2.service id := by
  have after := moves_mirrors (serve_moves mirrors op i) mirrors
  cases op with
  | submitCooperative request peer =>
    simp only [introduced] at new
    split at new
    · next accepted =>
      cases new
      exact submit_impl_steered mirrors after (show ExecutionKind.cooperative ≠ .legacy by decide)
        (Prod.mk.eta.symm) accepted
    · cases new
  | submitNativeEpoch request extent peer =>
    simp only [introduced] at new
    split at new
    · next accepted =>
      cases new
      simp only [serve, withSubmission, submitNativeEpoch] at accepted after ⊢
      split at accepted
      · next passed =>
        simp only [if_pos passed] at after ⊢
        exact submit_impl_steered mirrors after (show ExecutionKind.native ≠ .legacy by decide)
          (Prod.mk.eta.symm) accepted
      · cases accepted
    · cases new
  | _ => cases new

theorem serve_claimed_plainly (bound : s.service.options.bindLeasesToProcess = true)
    (taken : claimedPlainly ⟨op, (serve op i s).1⟩ = some id) : Plain s.service id := by
  cases op with
  | claimNext peer =>
    have refused : s.service.claimNext peer i.allocated i.now = (none, s.service) := by rw [claimNext, if_pos bound]
    simp [claimedPlainly, serve, withService, refused] at taken
  | claim other peer =>
    obtain ⟨snap, result, rfl⟩ := Option.map_eq_some_iff.mp taken
    exact answer_or_dispatch_plain mirrors (fun _ => claim_answer_plain mirrors) claim_unanswered result
  | waitAttempt other peer =>
    obtain ⟨snap, result, rfl⟩ := Option.map_eq_some_iff.mp taken
    exact answer_or_dispatch_plain mirrors (fun _ => wait_answer_plain mirrors) wait_unanswered result
  | _ => cases taken

omit mirrors in
theorem plain_issued (mirrors : Mirrors a) (plain : Plain a id) : id < a.scheduler.nextTaskId := by
  obtain ⟨lease, held, _⟩ := plain
  obtain ⟨task, found, _⟩ := leased_task mirrors held
  exact (mirrors.invariant.coherent.issued id task found).2

omit mirrors in
theorem steered_not_plain (steered : Steered a id) : ¬ Plain a id := by
  rintro ⟨held, leased, plain⟩
  obtain ⟨lease, natured, cooperative⟩ := steered
  rw [(natured.leases held leased).1, cooperative] at plain
  cases plain

theorem trace_unclaimed (bound : s.service.options.bindLeasesToProcess = true)
    (steered : Steered s.service id) (events : List Outside) :
    ∀ answer ∈ s.trace events, claimedPlainly answer ≠ some id := by
  induction events generalizing s with
  | nil =>
    intro answer mem
    cases mem
  | cons event rest ih =>
    intro answer mem
    have moves := serve_moves mirrors event.op event.input
    rcases List.mem_cons.mp mem with rfl | later
    · exact fun taken => steered_not_plain steered (serve_claimed_plainly mirrors bound taken)
    · obtain ⟨lease, natured, cooperative⟩ := steered
      exact ih (moves_mirrors moves mirrors) ((moves_options moves).symm ▸ bound)
        ⟨lease, moves_natured mirrors moves natured, cooperative⟩ answer later

theorem trace_unintroduced (issued : id < s.service.scheduler.nextTaskId)
    (events : List Outside) : ∀ answer ∈ s.trace events, introduced answer ≠ some id := by
  induction events generalizing s with
  | nil =>
    intro answer mem
    cases mem
  | cons event rest ih =>
    intro answer mem
    have moves := serve_moves mirrors event.op event.input
    rcases List.mem_cons.mp mem with rfl | later
    · exact fun new => Nat.ne_of_lt issued (serve_introduced mirrors new).1
    · exact ih (moves_mirrors moves mirrors) (Nat.lt_of_lt_of_le issued (moves_issued moves)) answer later

theorem trace_keeps_apart (bound : s.service.options.bindLeasesToProcess = true)
    {events : List Outside} (new : some id ∈ (s.trace events).map introduced) :
    some id ∉ (s.trace events).map claimedPlainly := by
  induction events generalizing s with
  | nil => cases new
  | cons event rest ih =>
    have moves := serve_moves mirrors event.op event.input
    have after := moves_mirrors moves mirrors
    have still : (outside event s).service.options.bindLeasesToProcess = true := (moves_options moves).symm ▸ bound
    intro taken
    rcases List.mem_cons.mp new with here | there
    · obtain ⟨fresh, steered⟩ := serve_introduced mirrors here.symm
      rcases List.mem_cons.mp taken with now | later
      · exact Nat.ne_of_lt (plain_issued mirrors (serve_claimed_plainly mirrors bound now.symm)) fresh
      · obtain ⟨answer, listed, claimed⟩ := List.mem_map.mp later
        exact trace_unclaimed after still steered rest answer listed claimed
    · rcases List.mem_cons.mp taken with now | later
      · have issued := plain_issued mirrors (serve_claimed_plainly mirrors bound now.symm)
        obtain ⟨answer, listed, accepted⟩ := List.mem_map.mp there
        exact trace_unintroduced after (Nat.lt_of_lt_of_le issued (moves_issued moves)) rest answer listed accepted
      · exact ih after still there later

end

theorem trace_unbound (free : s.service.options.bindLeasesToProcess = false) (events : List Outside) :
    some id ∉ (s.trace events).map introduced := by
  induction events generalizing s with
  | nil => exact nofun
  | cons event rest ih =>
    intro new
    rcases List.mem_cons.mp new with here | there
    · have bound := serve_introduced_bound here.symm
      rw [free] at bound
      cases bound
    · have same := (serve_drives s event.op event.input).1
      exact ih (show (outside event s).service.options.bindLeasesToProcess = false from same.symm ▸ free) there

end Kinds

theorem grants_never_repeat (limit : MemoryBytes) (settings : SchedulerOptions) (options : ExecutionOptions)
    (events : List Outside) :
    let answers := (opened limit settings options).trace events
    (answers.filterMap granted).Nodup ∧
      (answers.filterMap granted).Pairwise
        (fun earlier later => later.taskId = earlier.taskId → earlier.generation < later.generation) ∧
      ∀ id, some id ∈ answers.map introduced → some id ∉ answers.map claimedPlainly := by
  have regular := opened_regular limit settings options
  have increase := trace_grants_increase regular events
  refine ⟨increase.imp fun apart same => ?_, increase, fun id new => ?_⟩
  · exact Nat.lt_irrefl _ (same ▸ apart (by rw [same]))
  · cases bound : options.bindLeasesToProcess with
    | false => exact absurd new (trace_unbound bound events)
    | true =>
      have tracked : (opened limit settings options).service.tracksLeases = true := by
        simp [opened, tracksLeases, bound]
      exact trace_keeps_apart (opened_mirrors tracked) bound new

end AuditedExecution

namespace ExecutionAdmissionState

-- A failed submission has cost nothing. The task that it may have created is cancelled, and no other record differs.
structure Restored (a b : ExecutionAdmissionState) (id : TaskId) : Prop where
  usage : b.scheduler.ledger = a.scheduler.ledger
  count : b.scheduler.queuedTaskCount = a.scheduler.queuedTaskCount
  pending : b.pendingLeases = a.pendingLeases
  active : b.activeLeases = a.activeLeases
  others : ∀ other, other ≠ id → b.scheduler.tasks.lookup other = a.scheduler.tasks.lookup other
  created : id ≠ 0 → a.scheduler.tasks.lookup id = none ∧ b.scheduler.taskState id = some .cancelled
  uncreated : id = 0 → b = a

theorem restored_refl (a : ExecutionAdmissionState) : Restored a a 0 :=
  ⟨rfl, rfl, rfl, rfl, fun _ _ => rfl, fun absurd => (absurd rfl).elim, fun _ => rfl⟩

section Withdrawal
variable {request : TaskSpec} {s t u : Scheduler} {task final : TaskRecord}

theorem withdrawn_ledger (accepted : Accepted s t request task)
    (finished : Finished t u s.nextTaskId task final) : u.ledger = s.ledger := by
  have reserved := finished.reserved
  have allocated := finished.allocated
  simp only [reservedWeight, allocatedWeight, accepted.queued, accepted.undispatched, accepted.spec_eq,
    accepted.allocated] at reserved allocated
  have grown := accepted.reserved
  have limit : u.ledger.limitBytes = s.ledger.limitBytes := finished.limit.trans accepted.limit
  have held : u.ledger.reservedBytes = s.ledger.reservedBytes := by
    apply UInt64.toNat_inj.mp
    simp at reserved
    omega
  have used : u.ledger.allocatedBytes = s.ledger.allocatedBytes := by
    apply UInt64.toNat_inj.mp
    simpa using allocated
  cases before : s.ledger
  cases after : u.ledger
  simp_all

end Withdrawal

variable {request : TaskSpec}

theorem withdrawn_restored {t u : Scheduler} {task final : TaskRecord}
    (inv : Invariant a.scheduler) (withdrawn : Withdrawn request a b t u task final) :
    Restored a b a.scheduler.nextTaskId := by
  obtain ⟨accepted, finished, cancelled, rfl⟩ := withdrawn
  have fresh : a.scheduler.tasks.lookup a.scheduler.nextTaskId = none := by
    by_contra known
    obtain ⟨record, found⟩ := Option.ne_none_iff_exists'.mp known
    exact Nat.lt_irrefl _ (inv.coherent.issued _ record found).2
  have same : ({ a with scheduler := u } : ExecutionAdmissionState).notifyStateChange.scheduler = u := by
    unfold notifyStateChange
    split <;> rfl
  refine ⟨?_, ?_, ?_, ?_, fun other apart => ?_, fun _ => ⟨fresh, ?_⟩, fun zero => ?_⟩
  · rw [same]
    exact withdrawn_ledger accepted finished
  · rw [same]
    have room := queued_count_bound inv.coherent
    have grown : t.queuedTaskCount = a.scheduler.queuedTaskCount + 1 := by
      rw [accepted.count, wrapSucc, if_neg (Nat.ne_of_lt room)]
    have shrunk := finished.count
    simp only [queuedWeight, accepted.queued, if_true] at shrunk
    omega
  · unfold notifyStateChange
    split <;> rfl
  · unfold notifyStateChange
    split <;> rfl
  · rw [same, moved_lookup finished.moved, if_neg apart, accepted_lookup accepted, if_neg apart]
  · rw [same]
    exact cancelled
  · have pos := inv.coherent.sizeBound
    rw [zero] at pos
    exact absurd pos (Nat.not_lt_zero _)

theorem regular_vacant (regular : Regular a) : a.pendingLeases.lookup a.scheduler.nextTaskId = none := by
  rcases regular.leases with mirrors | bare
  · exact (fresh_leases mirrors).1
  · exact bare_pending bare

theorem submit_impl_restored (regular : Regular a) {extent : Option NativeEpochExtent}
    {kind : ExecutionKind} {registered : Bool} {now : TimePoint}
    (refused : (a.submitImpl request peer extent kind registered allocated now).1.status ≠ .accepted) :
    Restored a (a.submitImpl request peer extent kind registered allocated now).2
      (a.submitImpl request peer extent kind registered allocated now).1.taskId := by
  rcases submit_impl_cases request peer extent kind regular.invariant
    (regular_vacant regular) registered allocated now with
    ⟨status, _, result⟩ | ⟨t, u, task, final, b, result, withdrawn⟩ | ⟨t, task, b, result, _⟩
  · rw [result]
    exact restored_refl a
  · rw [result]
    exact withdrawn_restored regular.invariant withdrawn
  · rw [result] at refused
    exact absurd rfl refused

def Refusal (a : ExecutionAdmissionState) (answer : Bool × ExecutionAdmissionState) : Prop :=
  answer.1 = false → answer.2 = a

variable (inv : Scheduler.Invariant a.scheduler)
include inv
variable {execution : TaskExecutionIdentity}

theorem drop_pending_refused : Refusal a (a.dropPending id) := by
  unfold dropPending
  rcases cancel_queued_cases inv id with ⟨result, _⟩ | ⟨_, _, t, result, _⟩ <;> rw [result]
  · exact fun _ => rfl
  · exact nofun

variable {finish : Scheduler → TaskId → TimePoint → Bool × Scheduler}

theorem end_active_refused (finisher : Finisher finish) : Refusal a (a.endActive id finish now) := by
  unfold endActive
  rcases finisher_cases inv finisher id now with ⟨result, _⟩ | ⟨_, _, t, result, _⟩ <;> rw [result]
  · exact fun _ => rfl
  · exact nofun

theorem cancel_refused : Refusal a (a.cancel id now) := by
  unfold cancel
  split
  · exact fun _ => rfl
  rcases cancel_cases inv id now with ⟨result, _⟩ | ⟨_, _, t, result, _⟩ <;> rw [result]
  · exact fun _ => rfl
  · exact nofun

theorem cancel_queued_refused : Refusal a (a.cancelQueued id peer) := by
  have dropped : Refusal a (a.dropPending id) := drop_pending_refused inv
  unfold cancelQueued
  simp only
  split
  · exact fun _ => rfl
  split
  · exact fun _ => rfl
  split
  · exact nofun
  next kept result =>
  rw [result] at dropped
  exact dropped

theorem finish_lease_refused (finisher : Finisher finish) : Refusal a (a.finishLease id peer finish now) := by
  unfold finishLease
  simp only
  split
  · exact fun _ => rfl
  · exact end_active_refused inv finisher

theorem complete_execution_refused : Refusal a (a.completeExecution execution peer now) := by
  unfold completeExecution
  split
  · exact fun _ => rfl
  · exact end_active_refused inv .complete

theorem fail_execution_refused : Refusal a (a.failExecution execution peer now) := by
  unfold failExecution
  split
  · exact fun _ => rfl
  · exact end_active_refused inv .fail

theorem finish_native_refused {calls : UInt32} {hasFailed : Bool} :
    Refusal a (a.finishNativeEpoch execution calls hasFailed peer now) := by
  unfold finishNativeEpoch
  split
  · exact fun _ => rfl
  split
  · exact fun _ => rfl
  cases hasFailed with
  | true => exact end_active_refused inv .fail
  | false => exact end_active_refused inv .complete

theorem cancel_execution_refused : Refusal a (a.cancelExecution execution peer) := by
  unfold cancelExecution
  split
  · exact fun _ => rfl
  · exact drop_pending_refused inv

theorem cancel_pending_native_refused : Refusal a (a.cancelPendingNativeEpoch id peer) := by
  unfold cancelPendingNativeEpoch
  split
  · exact fun _ => rfl
  split
  · exact fun _ => rfl
  · exact drop_pending_refused inv

theorem cancel_pending_cooperative_refused : Refusal a (a.cancelPendingCooperative id peer) := by
  unfold cancelPendingCooperative
  split
  · split
    · exact fun _ => rfl
    · exact drop_pending_refused inv
  · exact fun _ => rfl

theorem suspend_execution_refused : Refusal a (a.suspendExecution execution peer allocated now) := by
  rcases suspend_execution_cases inv execution peer allocated now with result | ⟨_, _, _, t, _, _, result⟩ <;>
    rw [result]
  · exact fun _ => rfl
  · exact nofun

end ExecutionAdmissionState

namespace AuditedExecution

open ExecutionAdmissionState

def submitted : (Σ op : ExecutionOp, op.Reply) → Option SubmitResult
  | ⟨.submit _ _, result⟩ | ⟨.submitCooperative _ _, result⟩ | ⟨.submitNativeEpoch _ _ _, result⟩ => some result
  | _ => none

def stopped : (Σ op : ExecutionOp, op.Reply) → Option Bool
  | ⟨.suspendExecution _ _, done⟩ | ⟨.complete _ _, done⟩ | ⟨.fail _ _, done⟩ | ⟨.completeExecution _ _, done⟩
  | ⟨.failExecution _ _, done⟩ | ⟨.finishNativeEpoch _ _ _ _, done⟩ | ⟨.cancel _, done⟩
  | ⟨.cancelQueued _ _, done⟩ | ⟨.cancelPendingCooperative _ _, done⟩ | ⟨.cancelExecution _ _, done⟩
  | ⟨.cancelPendingNativeEpoch _ _, done⟩ => some done
  | _ => none

variable {s : AuditedExecution} {op : ExecutionOp} {i : ExecutionInput}

theorem serve_refused (regular : Regular s.service)
    (answer : stopped ⟨op, (serve op i s).1⟩ = some false) : (serve op i s).2.service = s.service := by
  have inv := regular.invariant
  cases op with
  | suspendExecution execution peer => exact suspend_execution_refused inv (Option.some.inj answer)
  | complete id peer => exact finish_lease_refused inv .complete (Option.some.inj answer)
  | fail id peer => exact finish_lease_refused inv .fail (Option.some.inj answer)
  | completeExecution execution peer => exact complete_execution_refused inv (Option.some.inj answer)
  | failExecution execution peer => exact fail_execution_refused inv (Option.some.inj answer)
  | finishNativeEpoch execution calls hasFailed peer => exact finish_native_refused inv (Option.some.inj answer)
  | cancel id => exact cancel_refused inv (Option.some.inj answer)
  | cancelQueued id peer => exact cancel_queued_refused inv (Option.some.inj answer)
  | cancelPendingCooperative id peer => exact cancel_pending_cooperative_refused inv (Option.some.inj answer)
  | cancelExecution execution peer => exact cancel_execution_refused inv (Option.some.inj answer)
  | cancelPendingNativeEpoch id peer => exact cancel_pending_native_refused inv (Option.some.inj answer)
  | _ => cases answer

theorem failures_change_nothing (limit : MemoryBytes) (settings : SchedulerOptions) (options : ExecutionOptions)
    (events : List Outside) (op : ExecutionOp) (i : ExecutionInput) :
    let before := (opened limit settings options).run events
    let reply := (serve op i before).1
    let after := (serve op i before).2.service
    (∀ result, submitted ⟨op, reply⟩ = some result → result.status ≠ .accepted →
        Restored before.service after result.taskId) ∧
      (stopped ⟨op, reply⟩ = some false → after = before.service) := by
  have regular := run_regular (opened_regular limit settings options) events
  refine ⟨fun result answer refused => ?_, serve_refused regular⟩
  cases op with
  | submit | submitCooperative =>
    cases answer
    exact submit_impl_restored regular refused
  | submitNativeEpoch request extent peer =>
    cases answer
    simp only [serve, withSubmission, submitNativeEpoch] at refused ⊢
    split at refused
    · next passed =>
      simp only [if_pos passed]
      exact submit_impl_restored regular refused
    · next barred =>
      simp only [if_neg barred]
      exact restored_refl _
  | _ => cases answer

end AuditedExecution

end Glimmer.Control
