import Glimmer.Control.AdmissionThreads
import Glimmer.Core.Readiness

namespace Glimmer.Control

open Lib Glimmer.Core Scheduler AdmissionThreads Admission

-- One critical section of the admission mutex, seen by the threads that wait:
-- it announces what it changed, owes the announcement, or makes nobody ready.
inductive Report (a b : Admission) : Bool → Prop where
  | owed (same : b.stateGeneration = a.stateGeneration) : Report a b true
  | announced (owes : Bool) (moved : b.stateGeneration = a.notifyStateChange.stateGeneration) : Report a b owes
  | quiet (owes : Bool) (same : b.stateGeneration = a.stateGeneration) (quiet : Quiet a.scheduler b.scheduler) :
      Report a b owes

structure Section (a b : Admission) (owes : Bool) : Prop where
  invariant : Invariant b.scheduler
  issued : a.scheduler.nextTaskId ≤ b.scheduler.nextTaskId
  report : Report a b owes

variable {a b : Admission} {owes : Bool} {sys : AdmissionThreads}
  {id : TaskId} {peer : TaskPeer} {allocated : Bool} {now : TimePoint} {step : AdmissionStep}
  {steps : List AdmissionStep} {other : ThreadId}

section
variable (inv : Invariant a.scheduler)
include inv

theorem section_unchanged (same : b.scheduler = a.scheduler)
    (generation : b.stateGeneration = a.stateGeneration) : Section a b false := by
  refine ⟨same ▸ inv, Nat.le_of_eq (congrArg _ same.symm), .quiet false generation ?_⟩
  rw [same]
  exact quiet_refl _

theorem section_applied (op : SchedulerOp)
    (applied : b.scheduler = a.scheduler.apply op) (report : Report a b owes) : Section a b owes := by
  refine ⟨?_, ?_, report⟩
  · rw [applied]
    exact step_invariant (apply_step inv op) inv
  · rw [applied]
    exact step_issued (apply_step inv op)

theorem section_finished {task next : TaskRecord}
    (ended : Finished a.scheduler b.scheduler id task next) (same : b.stateGeneration = a.stateGeneration) :
    Section a b true :=
  have step : Step a.scheduler b.scheduler none (some id) := .finished id task next ended
  ⟨step_invariant step inv, step_issued step, .owed same⟩

end

theorem notify_scheduler {a : Admission} : a.notifyStateChange.scheduler = a.scheduler := by
  unfold notifyStateChange
  split <;> rfl

theorem notify_generation (same : b.stateGeneration = a.stateGeneration) :
    b.notifyStateChange.stateGeneration = a.notifyStateChange.stateGeneration := by
  unfold notifyStateChange
  rw [same]
  split <;> simp [same]

section
variable (inv : Invariant b.scheduler) (issued : a.scheduler.nextTaskId ≤ b.scheduler.nextTaskId)
  (same : b.stateGeneration = a.stateGeneration)

include inv issued same

theorem section_announced (op : SchedulerOp) (owes : Bool) :
    Section a (notifyStateChange { b with scheduler := b.scheduler.apply op }) owes := by
  refine ⟨?_, ?_, .announced owes (notify_generation same)⟩
  · rw [notify_scheduler]
    exact step_invariant (apply_step inv op) inv
  · rw [notify_scheduler]
    exact Nat.le_trans issued (step_issued (apply_step inv op))

theorem withdraw_section (id : TaskId) (now : TimePoint) : Section a (b.withdrawSubmission id now).2 false :=
  section_announced inv issued same (.cancel id now) false

theorem record_submission_section (quiet : Quiet a.scheduler b.scheduler) (id : TaskId) (kind : AdmissionKind)
    {registrar : TaskId → Bool} : Section a (b.recordSubmission id kind registrar peer allocated now).2 false := by
  have kept : ∀ leases, Section a { b with pendingLeases := leases } false :=
    fun leases => ⟨inv, issued, .quiet false same quiet⟩
  have dropped := withdraw_section inv issued same id now
  simp only [recordSubmission]
  generalize (if b.tracksLeases = true then _ else _ : Option (KeyedMap TaskId LeaseRecord)) = recorded
  cases b.options.flavour with
  | taskAdmissionService =>
    dsimp only
    split
    · cases recorded with
      | none => exact dropped
      | some leases => exact kept leases
    · exact dropped
  | executionAdmissionState =>
    cases recorded with
    | none => exact dropped
    | some leases =>
      dsimp only
      split
      · exact kept leases
      · exact withdraw_section (b := { b with pendingLeases := leases.erase id }) inv issued same id now

theorem record_lease_section (dispatched : Option TaskSnapshot)
    (quiet : dispatched = none → Quiet a.scheduler b.scheduler) (peer : TaskPeer) (allocated : Bool) (now : TimePoint) :
    Section a (b.recordLease dispatched peer allocated now).2 (b.recordLease dispatched peer allocated now).1.isSome := by
  unfold recordLease
  cases dispatched with
  | none => exact ⟨inv, issued, .quiet _ same (quiet rfl)⟩
  | some started =>
    have revoked := section_announced (b := { b with pendingLeases := b.pendingLeases.erase started.taskId }) inv
      issued same (.fail started.taskId now)
    dsimp only
    split
    · exact ⟨inv, issued, .owed same⟩
    split
    · exact revoked _
    split
    · exact ⟨inv, issued, .owed same⟩
    split
    · exact revoked _
    · exact ⟨inv, issued, .owed same⟩

end

section
variable (inv : Invariant a.scheduler)
include inv

section
variable (id : TaskId) (peer : TaskPeer) (allocated : Bool) (now : TimePoint)

theorem submit_section (request : TaskSpec) (kind : AdmissionKind)
    (registrar : Option (TaskId → Bool)) (peer : TaskPeer) (allocated : Bool) (now : TimePoint) :
    Section a (a.submit request kind registrar peer allocated now).2 false := by
  have still := section_unchanged inv (b := a) rfl rfl
  unfold Admission.submit
  cases registrar with
  | none => exact still
  | some registrar =>
    dsimp only
    split
    · exact still
    split
    · exact still
    rcases submit_cases inv request now with ⟨status, refused, result⟩ | ⟨task, t, result, added⟩
    · simp only [result, ne_eq, refused, not_false_eq_true, if_true]
      exact still
    simp only [result, ne_eq, not_true_eq_false, if_false]
    have accepted := step_invariant (.accepted request task added) inv
    refine record_submission_section (a := a) (b := { a with scheduler := t }) accepted ?_ rfl ?_ _ _
    · exact added.nextId ▸ Nat.le_succ _
    · exact accepted_quiet added inv.coherent

theorem cancel_section : Section a (a.cancel id now).2 false := by
  unfold Admission.cancel
  split
  · exact section_unchanged inv rfl rfl
  rcases cancel_cases inv id now with ⟨result, _⟩ | ⟨task, next, t, result, _, _⟩
  · simp only [result]
    exact section_unchanged inv rfl rfl
  refine section_applied inv (.cancel id now) ?_ (.announced false ?_)
  · simp [result, notify_scheduler, Scheduler.apply]
  · simp only [result]
    exact notify_generation rfl

theorem cancel_queued_section : Section a (a.cancelQueued id peer).2 false := by
  unfold Admission.cancelQueued
  split
  · exact section_unchanged inv rfl rfl
  rcases cancel_queued_cases inv id with ⟨result, _⟩ | ⟨task, next, t, result, _, _⟩
  · simp only [result]
    exact section_unchanged inv rfl rfl
  refine section_applied inv (.cancelQueued id) ?_ (.announced false ?_)
  · simp [result, notify_scheduler, Scheduler.apply]
  · simp only [result]
    exact notify_generation rfl

theorem claim_next_section (locked : a.options.bindLeasesToProcess = false → ¬ AccrualUnlocks a.scheduler) :
    Section a (a.claimNext peer allocated now).2 (a.claimNext peer allocated now).1.isSome := by
  unfold claimNext
  split
  · exact section_unchanged inv rfl rfl
  next unbound =>
  have step := apply_step inv (.dispatchNext now)
  exact record_lease_section (a := a) (b := { a with scheduler := (a.scheduler.dispatchNext now).2 })
    (step_invariant step inv) (step_issued step) rfl _
    (failed_dispatch_quiet inv (locked (by simpa using unbound)) now) _ _ _

theorem dispatch_lease_section (locked : ¬ AccrualUnlocks a.scheduler) (id : TaskId) (peer : TaskPeer) (allocated : Bool)
    (now : TimePoint) :
    Section a (a.dispatchLease id peer allocated now).2 (a.dispatchLease id peer allocated now).1.isSome := by
  have step := apply_step inv (.dispatchTask id now)
  exact record_lease_section (a := a) (b := { a with scheduler := (a.scheduler.dispatchTask id now).2 })
    (step_invariant step inv) (step_issued step) rfl _ (failed_claim_quiet inv locked id now) _ _ _

theorem heartbeat_section : Section a (a.heartbeat id peer now).2 false := by
  unfold heartbeat
  split
  · exact section_unchanged inv rfl rfl
  split
  · exact section_unchanged inv rfl rfl
  split
  · exact section_unchanged inv rfl rfl
  split
  · exact section_unchanged inv rfl rfl
  split <;> exact section_unchanged inv rfl rfl

end

theorem finish_section (peer : TaskPeer) {finish : Scheduler → TaskId → TimePoint → Bool × Scheduler}
    (finisher : Finisher finish) (now : TimePoint) :
    Section a (a.finishLease id peer finish now).2 (a.finishLease id peer finish now).1 := by
  unfold finishLease
  dsimp only
  split
  · exact section_unchanged inv rfl rfl
  rcases finisher_cases inv finisher id now with ⟨result, _⟩ | ⟨task, next, t, result, ended, _⟩
  · simp only [result]
    exact section_unchanged inv rfl rfl
  · simp only [result]
    exact section_finished inv ended rfl

theorem reap_pending_section {lease : LeaseRecord}
    (now : TimePoint) : Section a (a.reapPending id lease now).2 (a.reapPending id lease now).1 := by
  unfold reapPending
  rcases cancel_queued_cases inv id with ⟨result, _⟩ | ⟨task, next, t, result, ended, _⟩
  · simp only [result]
    exact section_unchanged inv rfl rfl
  · simp only [result]
    exact section_finished inv ended rfl

theorem reap_active_section (id : TaskId) (lease : LeaseRecord)
    (now : TimePoint) : Section a (a.reapActive id lease now).2 (a.reapActive id lease now).1 := by
  unfold reapActive
  rcases finisher_cases inv .fail id now with ⟨result, _⟩ | ⟨task, next, t, result, ended, _⟩
  · simp only [result]
    split
    · exact ⟨inv, Nat.le_refl _, .owed rfl⟩
    · exact section_unchanged inv rfl rfl
  · simp only [result, true_or, if_true]
    exact section_finished inv ended rfl

end

theorem section_leases {leases : KeyedMap TaskId LeaseRecord}
    (body : Section { a with activeLeases := leases } b owes) : Section a b owes := by
  refine ⟨body.invariant, body.issued, ?_⟩
  cases body.report with
  | owed same => exact .owed same
  | announced owes moved => exact .announced owes (moved.trans (notify_generation rfl))
  | quiet owes same quiet => exact .quiet owes same quiet

theorem reap_section (inv : Invariant a.scheduler) (pendingOrder activeOrder : List TaskId) (now : TimePoint) :
    Section a (a.reapExpired pendingOrder activeOrder now).2 (a.reapExpired pendingOrder activeOrder now).1 := by
  unfold reapExpired
  split
  · exact section_unchanged inv rfl rfl
  split
  · exact reap_pending_section inv now
  split
  · exact section_unchanged inv rfl rfl
  · next leases _ =>
    exact section_leases (reap_active_section (a := { a with activeLeases := leases }) inv _ _ now)

def Admission.CouldStart (a : Admission) (call : WaitCall) : Prop := Dispatchable a.scheduler call.taskId

open WaitPhase

structure Guarded (sys : AdmissionThreads) : Prop where
  invariant : Invariant sys.shared.scheduler
  issued : ∀ thread call observed, Parked call observed (sys.phase thread) →
    call.taskId < sys.shared.scheduler.nextTaskId
  attended : sys.shared.stateGeneration < maxU64 → Attended Admission.stateGeneration Admission.CouldStart sys

theorem notify_later (below : a.stateGeneration < maxU64) :
    a.notifyStateChange.stateGeneration = a.stateGeneration + 1 := by
  simp [notifyStateChange, Nat.ne_of_lt below]

theorem notify_monotone (a : Admission) : a.stateGeneration ≤ a.notifyStateChange.stateGeneration := by
  unfold notifyStateChange
  split
  · exact Nat.le_succ _
  · exact Nat.le_refl _

theorem report_monotone (report : Report a b owes) : a.stateGeneration ≤ b.stateGeneration := by
  cases report with
  | owed same | quiet owes same quiet => exact Nat.le_of_eq same.symm
  | announced owes moved => exact moved ▸ notify_monotone a

section Moves
variable {thread : ThreadId} {next : WaitPhase WaitCall} (guarded : Guarded sys)
include guarded

theorem issued_moved (grown : sys.shared.scheduler.nextTaskId ≤ b.scheduler.nextTaskId)
    (own : ∀ call observed, Parked call observed next → call.taskId < b.scheduler.nextTaskId) (other : ThreadId)
    (call : WaitCall) (observed : Nat) (parked : Parked call observed ((sys.move thread next b).phase other)) :
    call.taskId < b.scheduler.nextTaskId := by
  by_cases here : other = thread
  · subst here
    exact own call observed (by simpa [Threads.move] using parked)
  · simp only [Threads.move, Function.update_of_ne here] at parked
    exact Nat.lt_of_lt_of_le (guarded.issued other call observed parked) grown

section
variable (body : Section sys.shared b owes) (kept : sys.phase thread ≠ .notifying)
  (pays : owes = true → next = .notifying)
include body kept pays

theorem section_guarded
    (past : b.stateGeneration < maxU64 → ∀ observed, Observes observed next → observed ≤ sys.shared.stateGeneration)
    (own : ∀ call observed, Parked call observed next → call.taskId < b.scheduler.nextTaskId ∧
      (b.stateGeneration < maxU64 → b.stateGeneration = sys.shared.stateGeneration → ¬ b.CouldStart call)) :
    Guarded (sys.move thread next b) := by
  have grows := report_monotone body.report
  refine ⟨body.invariant, issued_moved guarded body.issued fun call observed parked => (own call observed parked).1, ?_⟩
  intro below
  refine attended_moved (guarded.attended (Nat.lt_of_le_of_lt grows below)) grows
    (fun observed observes => Nat.le_trans (past below observed observes) grows) ?_ ?_
  · intro call parked
    have current := past below _ (.parked call parked)
    exact .inl ((own call _ parked).2 below (Nat.le_antisymm current grows))
  cases body.report with
  | owed same => exact .owed (pays rfl)
  | announced owes moved =>
    refine .moved ?_
    rw [moved, notify_later (Nat.lt_of_le_of_lt grows below)]
    exact Nat.lt_succ_self _
  | quiet owes same quiet =>
    exact .quiet kept fun other call observed _ parked ready =>
      quiet call.taskId (guarded.issued other call observed parked) ready

theorem section_silent (silent : ∀ seen, ¬ Observes seen next) : Guarded (sys.move thread next b) :=
  section_guarded guarded body kept pays (fun _ seen observes => absurd observes (silent seen))
    (fun call seen parked => absurd (.parked call parked) (silent seen))

end

theorem leave_guarded (idle : sys.phase thread = .idle)
    (body : Section sys.shared b owes) : Guarded (sys.leave thread owes b) := by
  cases owes with
  | true =>
    exact section_silent guarded body (by simp [idle]) (fun _ => rfl) observes_notifying
  | false =>
    exact section_silent guarded body (by simp [idle]) nofun observes_idle

theorem call_guarded {body : AdmissionThreads}
    (called : sys.phase thread = .idle → Guarded body) : Guarded (sys.call thread body) := by
  unfold call
  split
  · next idle => exact called idle
  · exact guarded

theorem attempting_guarded (kept : sys.phase thread ≠ .notifying) (call : WaitCall) :
    Guarded (sys.move thread (.attempting call sys.shared.stateGeneration) sys.shared) := by
  refine section_guarded guarded (section_unchanged guarded.invariant rfl rfl) kept nofun ?_ nofun
  rintro _ observed (_ | ⟨_, _, _⟩)
  exact Nat.le_refl _

theorem idle_guarded (kept : sys.phase thread ≠ .notifying) : Guarded (sys.move thread .idle sys.shared) :=
  section_silent guarded (section_unchanged guarded.invariant rfl rfl) kept nofun observes_idle

end Moves

theorem refused_lease_unready (inv : Invariant a.scheduler) (locked : ¬ AccrualUnlocks a.scheduler)
    (issued : id < a.scheduler.nextTaskId)
    (refused : a.dispatchLease id peer allocated now = (none, b)) (below : b.stateGeneration < maxU64)
    (same : b.stateGeneration = a.stateGeneration) : ¬ Dispatchable b.scheduler id := by
  unfold dispatchLease at refused
  have starts := dispatch_task_starts inv id now
  have quiet := failed_claim_quiet inv locked id now
  generalize a.scheduler.dispatchTask id now = result at refused starts quiet
  obtain ⟨dispatched, s⟩ := result
  cases dispatched with
  | none =>
    cases refused
    exact fun ready => absurd (starts.mpr (quiet rfl id issued ready)) (by simp)
  | some started =>
    have revoked : ∀ c : Admission, c.stateGeneration = a.stateGeneration →
        c.revokeDispatch started.taskId now ≠ (none, b) := by
      intro c before withdrawn
      have moved : b.stateGeneration = a.notifyStateChange.stateGeneration := by
        rw [← (Prod.mk.inj withdrawn).2]
        exact notify_generation before
      rw [notify_later (same ▸ below)] at moved
      omega
    simp only [recordLease] at refused
    split at refused
    · cases refused
    split at refused
    · exact absurd refused (revoked _ rfl)
    split at refused
    · cases refused
    split at refused
    · exact absurd refused (revoked _ rfl)
    · cases refused

theorem wait_answer_issued (inv : Invariant a.scheduler)
    (undecided : a.waitClaimAnswer id peer = none) : id < a.scheduler.nextTaskId := by
  unfold waitClaimAnswer at undecided
  split at undecided
  · cases undecided
  split at undecided
  · cases undecided
  · next existing found =>
    obtain ⟨task, lookup, _⟩ := Option.map_eq_some_iff.mp found
    exact (inv.coherent.issued id task lookup).2

def AdmissionThreads.reachesDispatch (sys : AdmissionThreads) : AdmissionStep → Prop
  | .claimNext thread _ _ _ => sys.phase thread = .idle ∧ sys.shared.options.bindLeasesToProcess = false
  | .claim thread id peer _ _ => sys.phase thread = .idle ∧ sys.shared.claimAnswer id peer = none
  | .attempt thread _ _ _ => ∃ call observed, sys.phase thread = .attempting call observed ∧
      sys.shared.waitClaimAnswer call.taskId call.peer = none
  | _ => False

section
variable (guarded : Guarded sys) (thread : ThreadId)
include guarded

theorem attempt_guarded {after : TimePoint}
    (locked : sys.reachesDispatch (.attempt thread allocated now after) → ¬ AccrualUnlocks sys.shared.scheduler) :
    Guarded (sys.attempt thread allocated now after) := by
  unfold attempt
  split
  next call observed phase =>
    have kept : sys.phase thread ≠ .notifying := by simp [phase]
    split
    · exact idle_guarded guarded kept
    next undecided =>
      have quota := locked ⟨call, observed, phase, undecided⟩
      have issued := wait_answer_issued guarded.invariant undecided
      have body := dispatch_lease_section guarded.invariant quota call.taskId call.peer allocated now
      generalize result : sys.shared.dispatchLease call.taskId call.peer allocated now = outcome at body
      obtain ⟨dispatched, b⟩ := outcome
      cases dispatched with
      | some started =>
        exact section_silent guarded body kept (fun _ => rfl) observes_notifying
      | none =>
        dsimp only
        split
        · exact section_silent guarded body kept nofun observes_idle
        refine section_guarded guarded body kept nofun ?_ ?_
        · rintro below seen (_ | ⟨_, ⟨_⟩⟩)
          exact (guarded.attended (Nat.lt_of_le_of_lt (report_monotone body.report) below)).past thread observed
            (phase ▸ .attempting call)
        · rintro other seen ⟨_⟩
          exact ⟨Nat.lt_of_lt_of_le issued body.issued, fun below same =>
            refused_lease_unready guarded.invariant quota issued result below same⟩
  · exact guarded

theorem recheck_guarded : Guarded (sys.recheck thread) := by
  unfold recheck
  split
  next call observed phase =>
    have kept : sys.phase thread ≠ .notifying := by simp [phase]
    dsimp only
    split
    · exact attempting_guarded guarded kept call
    next current =>
      have here : Parked call observed (sys.phase thread) := phase ▸ .rechecking
      refine ⟨guarded.invariant, issued_moved guarded (Nat.le_refl _) ?_, fun below => ?_⟩
      · rintro other seen ⟨_⟩
        exact guarded.issued thread call observed here
      have attended := guarded.attended below
      refine attended_moved attended (Nat.le_refl _) ?_ ?_ (.quiet kept fun _ _ _ _ _ ready => ready)
      · rintro seen (_ | ⟨_, ⟨_⟩⟩)
        exact attended.past thread observed (.parked call here)
      · intro other parked
        have same : sys.shared.stateGeneration = observed := by simpa using current
        cases parked
        rw [← same] at here
        exact (attended.covered thread call here).imp_right fun announced => announced_moved announced kept
  · exact guarded

theorem wake_guarded (now : TimePoint) : Guarded (sys.wake thread now) := by
  unfold wake
  split
  next call observed phase =>
    have kept : sys.phase thread ≠ .notifying := by simp [phase]
    dsimp only
    split
    · exact attempting_guarded guarded kept call
    split
    · exact idle_guarded guarded kept
    · exact guarded
  · exact guarded

theorem notify_guarded : Guarded (sys.notify thread) := by
  unfold notify
  split
  · have silent : ∀ seen, ¬ Observes seen (.idle : WaitPhase WaitCall) := observes_idle
    refine ⟨?_, issued_moved guarded ?_ fun call seen parked =>
      absurd (.parked call parked) (silent seen), fun below => ?_⟩
    · simpa only [Threads.move, notify_scheduler] using guarded.invariant
    · rw [notify_scheduler]
    · have grows := notify_monotone sys.shared
      have before := Nat.lt_of_le_of_lt grows below
      exact attended_silent_move (guarded.attended before) grows silent
        (.moved (notify_later before ▸ Nat.lt_succ_self _))
  · exact guarded

theorem observe_guarded (slots : Nat) : Guarded (sys.observeCompletion thread slots) := by
  unfold observeCompletion
  dsimp only
  split
  · split
    · have step := apply_step guarded.invariant (.setPriorityReservedSlots slots)
      have silent : ∀ seen, ¬ Observes seen (.notifying : WaitPhase WaitCall) := observes_notifying
      refine ⟨step_invariant step guarded.invariant, issued_moved guarded (step_issued step)
        fun call seen parked => absurd (.parked call parked) (silent seen), fun below => ?_⟩
      exact attended_silent_move (guarded.attended below) (Nat.le_refl _) silent (.owed rfl)
    · exact guarded
  · exact guarded

end

-- A deficit scan that serves nobody but leaves some head affordable.
def AdmissionThreads.UnlocksSilently (sys : AdmissionThreads) (step : AdmissionStep) : Prop :=
  sys.reachesDispatch step ∧ AccrualUnlocks sys.shared.scheduler

theorem step_guarded (guarded : Guarded sys) (locked : ¬ sys.UnlocksSilently step) : Guarded (sys.step step) := by
  have inv := guarded.invariant
  have locked : sys.reachesDispatch step → ¬ AccrualUnlocks sys.shared.scheduler :=
    fun reaches unlocks => locked ⟨reaches, unlocks⟩
  have leaves : ∀ {thread owes after}, (sys.phase thread = .idle → Section sys.shared after owes) →
      Guarded (sys.call thread (sys.leave thread owes after)) :=
    fun body => call_guarded guarded fun idle => leave_guarded guarded idle (body idle)
  cases step with
  | submit thread request kind registrar peer allocated now =>
    exact leaves fun _ => submit_section inv request kind registrar peer allocated now
  | cancel thread id now => exact leaves fun _ => cancel_section inv id now
  | cancelQueued thread id peer => exact leaves fun _ => cancel_queued_section inv id peer
  | claimNext thread peer allocated now =>
    exact leaves fun idle => claim_next_section inv peer allocated now fun unbound => locked ⟨idle, unbound⟩
  | claim thread id peer allocated now =>
    simp only [step]
    split
    · exact guarded
    · next undecided =>
      exact leaves fun idle => dispatch_lease_section inv (locked ⟨idle, undecided⟩) id peer allocated now
  | heartbeat thread id peer now => exact leaves fun _ => heartbeat_section inv id peer now
  | complete thread id peer now => exact leaves fun _ => finish_section inv peer .complete now
  | fail thread id peer now => exact leaves fun _ => finish_section inv peer .fail now
  | reapExpired thread pendingOrder activeOrder now =>
    exact leaves fun _ => reap_section inv pendingOrder activeOrder now
  | waitClaim thread id timeout peer now =>
    refine call_guarded guarded fun idle => ?_
    unfold waitClaim
    dsimp only
    split
    · exact guarded
    · exact attempting_guarded guarded (by simp [idle]) _
  | attempt thread allocated now after => exact attempt_guarded guarded thread locked
  | recheck thread => exact recheck_guarded guarded thread
  | wake thread now => exact wake_guarded guarded thread now
  | observeCompletion thread slots => exact observe_guarded guarded thread slots
  | notify thread => exact notify_guarded guarded thread

def AdmissionThreads.NeverUnlocksSilently : AdmissionThreads → List AdmissionStep → Prop
  | _, [] => True
  | sys, step :: rest => ¬ sys.UnlocksSilently step ∧ NeverUnlocksSilently (sys.step step) rest

theorem run_guarded (guarded : Guarded sys) (locked : sys.NeverUnlocksSilently steps) : Guarded (sys.run steps) := by
  induction steps generalizing sys with
  | nil => exact guarded
  | cons step rest ih => exact ih (step_guarded guarded locked.1) locked.2

theorem new_guarded {scheduler : Scheduler} (inv : Invariant scheduler) (options : AdmissionOptions) :
    Guarded (new scheduler options) := by
  have silent : ∀ seen, ¬ Observes seen (.idle : WaitPhase WaitCall) := observes_idle
  exact ⟨inv, fun _ call seen parked => absurd (.parked call parked) (silent seen), fun _ =>
    ⟨fun _ seen observes => absurd observes (silent seen), fun _ call parked => absurd (.parked call parked) (silent _)⟩⟩

def AdmissionStep.thread : AdmissionStep → ThreadId
  | .submit thread .. | .cancel thread .. | .cancelQueued thread .. | .claimNext thread .. | .claim thread ..
  | .heartbeat thread .. | .complete thread .. | .fail thread .. | .reapExpired thread .. | .waitClaim thread ..
  | .attempt thread .. | .recheck thread | .wake thread .. | .observeCompletion thread .. | .notify thread => thread

theorem step_phase_other (sys : AdmissionThreads) (elsewhere : other ≠ step.thread) :
    (sys.step step).phase other = sys.phase other := by
  have moved : ∀ next b, (sys.move step.thread next b).phase other = sys.phase other := by
    intro next b
    simp [Threads.move, Function.update_of_ne elsewhere]
  cases step <;> simp only [step, call, leave, waitClaim, attempt, recheck, wake,
    observeCompletion, notify] <;> (repeat' split) <;>
    first | rfl | exact moved _ _

theorem run_phase_other (sys : AdmissionThreads)
    (elsewhere : ∀ step ∈ steps, other ≠ step.thread) : (sys.run steps).phase other = sys.phase other := by
  induction steps generalizing sys with
  | nil => rfl
  | cons step rest ih =>
    rw [← step_phase_other sys (elsewhere step (by simp))]
    exact ih (sys.step step) fun later mem => elsewhere later (List.mem_cons_of_mem _ mem)

theorem wait_claim_wakeups (limit : MemoryBytes) (settings : SchedulerOptions) (ops : List SchedulerOp)
    (options : AdmissionOptions) (steps : List AdmissionStep)
    (locked : (AdmissionThreads.new ((Scheduler.new limit settings).run ops) options).NeverUnlocksSilently steps) :
    let sys := (AdmissionThreads.new ((Scheduler.new limit settings).run ops) options).run steps
    sys.shared.stateGeneration < maxU64 →
      (∀ thread call now, sys.phase thread = .asleep call sys.shared.stateGeneration →
        (∀ other, sys.phase other ≠ .notifying) → (sys.shared.scheduler.dispatchTask call.taskId now).1 = none) ∧
      ∀ other thread call observed now, sys.phase other = .notifying → sys.phase thread = .asleep call observed →
        ((sys.notify other).wake thread now).phase thread = .attempting call (sys.shared.stateGeneration + 1) := by
  intro sys below
  have guarded : Guarded sys := run_guarded (new_guarded (reachable_invariant limit settings ops) options) locked
  have attended := guarded.attended below
  constructor
  · intro thread call now asleep settled
    have parked : Parked call sys.shared.stateGeneration (sys.phase thread) := asleep ▸ .asleep
    rcases attended.covered thread call parked with unready | ⟨other, owes⟩
    · rw [Admission.CouldStart, ← dispatch_task_starts guarded.invariant call.taskId now] at unready
      simpa using unready
    · exact absurd owes (settled other)
  intro other thread call observed now owes asleep
  have seen := attended.past thread observed (asleep ▸ .parked call .asleep)
  have ne : thread ≠ other := by
    rintro rfl
    rw [owes] at asleep
    cases asleep
  have later := notify_later below
  have phase : (sys.notify other).phase thread = .asleep call observed := by
    simp [AdmissionThreads.notify, owes, Threads.move, Function.update_of_ne ne, asleep]
  have shared : (sys.notify other).shared.stateGeneration = sys.shared.stateGeneration + 1 := by
    simp [AdmissionThreads.notify, owes, Threads.move, later]
  have moved : sys.shared.stateGeneration + 1 ≠ observed := by omega
  simp [AdmissionThreads.wake, phase, shared, if_pos moved, Threads.move, Function.update_self]

def sleeperSteps : List AdmissionStep :=
  let request : TaskSpec := { tenantId := "a", memoryBytes := 1 }
  [.submit 0 request .legacy (some fun _ => true) none true 0, .submit 0 request .legacy (some fun _ => true) none true 0,
    .claim 0 1 none true 0, .notify 0, .waitClaim 1 2 0 none 0, .attempt 1 true 0 0, .recheck 1]

def sleeperStart : AdmissionThreads := .new ((Scheduler.new 10 {}).run []) {}

theorem wait_claim_wakeups_sleeper : (sleeperStart.run sleeperSteps).phase 1 = .asleep ⟨2, none, none⟩ 1 ∧
      ((sleeperStart.run sleeperSteps).shared.scheduler.dispatchTask 2 0).1 = none := by
  have asleep : (sleeperStart.run sleeperSteps).phase 1 = .asleep ⟨2, none, none⟩ 1 := by decide +kernel
  have generation : (sleeperStart.run sleeperSteps).shared.stateGeneration = 1 := by decide +kernel
  have settled : ∀ other, (sleeperStart.run sleeperSteps).phase other ≠ .notifying := by
    intro other
    by_cases caller : other = 0
    · subst caller
      decide +kernel
    by_cases waiter : other = 1
    · subst waiter
      decide +kernel
    rw [run_phase_other _ (by simp [sleeperSteps, AdmissionStep.thread, caller, waiter])]
    simp [sleeperStart, AdmissionThreads.new]
  have locked : sleeperStart.NeverUnlocksSilently sleeperSteps := by
    refine ⟨?_, ?_, ?_, ?_, ?_, ?_, ?_, trivial⟩ <;> exact fun silent => absurd silent.2.1 (by decide +kernel)
  refine ⟨asleep, ?_⟩
  exact (wait_claim_wakeups 10 {} [] {} sleeperSteps locked (by decide +kernel)).1 1 ⟨2, none, none⟩ 0
    (asleep.trans (by rw [← generation]; rfl)) settled

-- The only attempt fails and pays the quantum that lets the next one succeed, but nobody is told.
def deficitSleeperSteps : List AdmissionStep :=
  [.submit 0 { tenantId := "a", memoryBytes := 1 } .legacy (some fun _ => true) none true 0, .waitClaim 1 1 0 none 0,
    .attempt 1 true 0 0, .recheck 1]

theorem deficit_sleeper_unattended :
    let sys := (AdmissionThreads.new
      (Scheduler.new 10 { schedulingPolicy := .deficitRoundRobin }) {}).run deficitSleeperSteps
    sys.phase 1 = .asleep ⟨1, none, none⟩ sys.shared.stateGeneration ∧ (∀ other, sys.phase other ≠ .notifying) ∧
      (sys.shared.scheduler.dispatchTask 1 0).1.isSome = true := by
  refine ⟨by decide +kernel, fun other => ?_, by decide +kernel⟩
  by_cases caller : other = 0
  · subst caller
    decide +kernel
  by_cases waiter : other = 1
  · subst waiter
    decide +kernel
  rw [run_phase_other _ (by simp [deficitSleeperSteps, AdmissionStep.thread, caller, waiter])]
  simp [AdmissionThreads.new]

end Glimmer.Control
