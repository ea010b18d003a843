import Glimmer.Control.LaunchGate
import Glimmer.Core.PriorityReservation
import Glimmer.Core.QuotaReturns

namespace Glimmer.Core.Scheduler

def WorkConserving (s : Scheduler) : Prop :=
  s.runningTaskIds.length < s.maxRunningTasks → ∀ id task, s.tasks.lookup id = some task → task.state = .queued →
    ¬ s.ReservationPermits task.spec.priority

theorem idle_dispatch_conserving {s : Scheduler} (inv : Invariant s) (policy : s.policy ≠ .deficitRoundRobin)
    {now : TimePoint} (nothing : (s.dispatchNext now).1 = none) : WorkConserving (s.dispatchNext now).2 := by
  rcases dispatch_next_idle inv nothing with ⟨same, full | blocked⟩ | ⟨_, nobody⟩
  · rw [same]
    exact fun slot => absurd slot (Nat.not_lt.mpr full)
  · rw [same]
    exact fun _ id task found queued => blocked_forbids inv.coherent blocked found queued
  rcases dispatch_next_cases inv now with ⟨t, result, retuned, _⟩ | ⟨id, task, next, t, result, _⟩
  · rw [result]
    intro _ id task found queued
    rw [retuned.tasks] at found
    have empty := peek_none_nothing inv.coherent policy nobody id
    rw [(is_queued_iff _).mpr ⟨task, found, queued⟩] at empty
    cases empty
  · rw [result] at nothing
    cases nothing

end Glimmer.Core.Scheduler

namespace Glimmer.Control

open Lib Glimmer.Core Scheduler

def IsDispatch (op : SchedulerOp) : Prop := ∃ now, op = .dispatchNext now

variable {s : Scheduler} {g : LaunchGate} (clock : Nat → TimePoint)

-- Every successful dispatch takes a slot, so the fuel suffices.
theorem pump_locked_settled {rounds : Nat} (inv : Invariant s)
    (fuel : s.maxRunningTasks < s.runningTaskIds.length + rounds) :
    ∃ ops now, pumpLocked clock rounds s = ((s.run ops).dispatchNext now).2 ∧ (∀ op ∈ ops, IsDispatch op) ∧
      ((s.run ops).dispatchNext now).1 = none := by
  induction rounds generalizing s with
  | zero => exact absurd inv.coherent.runningBound (Nat.not_le.mpr fuel)
  | succ rounds ih =>
    have step := apply_step inv (.dispatchNext (clock rounds))
    rcases dispatch_next_cases inv (clock rounds) with ⟨t, result, _⟩ | ⟨id, task, next, t, result, started, _⟩
    · refine ⟨[], clock rounds, ?_, by simp, ?_⟩
      · simp [pumpLocked, result, run, List.foldl_nil]
      · simp [run, List.foldl_nil, result]
    have after := step_invariant step inv
    simp only [apply, result] at after
    have longer : t.maxRunningTasks < t.runningTaskIds.length + rounds := by
      rw [started.moved.config.maxRunning, started.listed, List.length_append, List.length_singleton]
      omega
    obtain ⟨ops, now, pumped, dispatches, nothing⟩ := ih after longer
    have reached : s.run (.dispatchNext (clock rounds) :: ops) = t.run ops := by
      simp [run, List.foldl_cons, apply, result]
    refine ⟨.dispatchNext (clock rounds) :: ops, now, ?_, ?_, ?_⟩
    · simp only [pumpLocked, result]
      rw [reached]
      exact pumped
    · intro op mem
      rcases List.mem_cons.mp mem with here | later
      · exact ⟨_, here⟩
      · exact dispatches op later
    · rw [reached]
      exact nothing

section
variable (inv : Invariant s)
include inv

theorem pump_settled :
    ∃ ops now, pump clock s = ((s.run ops).dispatchNext now).2 ∧ (∀ op ∈ ops, IsDispatch op) ∧
      ((s.run ops).dispatchNext now).1 = none :=
  pump_locked_settled _ inv (by omega)

theorem pump_run : ∃ ops, pump clock s = s.run ops ∧ ∀ op ∈ ops, IsDispatch op := by
  obtain ⟨ops, now, pumped, dispatches, _⟩ := pump_settled clock inv
  refine ⟨ops ++ [.dispatchNext now], ?_, ?_⟩
  · rw [pumped, run, run, List.foldl_append]
    rfl
  · intro op mem
    rcases List.mem_append.mp mem with earlier | last
    · exact dispatches op earlier
    · exact ⟨now, List.mem_singleton.mp last⟩

theorem pump_invariant : Invariant (pump clock s) ∧ SameConfiguration s (pump clock s) := by
  obtain ⟨ops, pumped, _⟩ := pump_run clock inv
  rw [pumped]
  exact ⟨run_invariant ops inv, run_configuration ops inv⟩

theorem pump_conserving (policy : s.policy ≠ .deficitRoundRobin) : WorkConserving (pump clock s) := by
  obtain ⟨ops, now, pumped, _, nothing⟩ := pump_settled clock inv
  rw [pumped]
  apply idle_dispatch_conserving (run_invariant ops inv) _ nothing
  rw [(run_configuration ops inv).policy]
  exact policy

end

variable {ops : List SchedulerOp} {id : TaskId} {t : Scheduler} {options : LaunchGateOptions}

theorem dispatch_run_live (dispatches : ∀ op ∈ ops, IsDispatch op)
    (inv : Invariant s) : (s.run ops).Live id ↔ s.Live id := by
  refine run_keeps (motive := fun t => t.Live id ↔ s.Live id) inv Iff.rfl fun op mem t before same => ?_
  obtain ⟨now, rfl⟩ := dispatches op mem
  have live := step_live (apply_step before (.dispatchNext now)) id
  exact (by simpa [grantedBy, returnedBy] using live : _ ↔ t.Live id).trans same

structure Steady (s : Scheduler) : Prop where
  invariant : Invariant s
  policy : s.policy ≠ .deficitRoundRobin
  slots : 0 < s.maxRunningTasks

theorem steady_kept (steady : Steady s) (inv : Invariant t) (config : SameConfiguration s t) : Steady t :=
  ⟨inv, fun same => steady.policy (config.policy ▸ same), config.maxRunning ▸ steady.slots⟩

theorem steady_apply (op : SchedulerOp) (steady : Steady s) : Steady (s.apply op) := by
  have step := apply_step steady.invariant op
  exact steady_kept steady (step_invariant step steady.invariant) (step_configuration step)

structure Busy (g : LaunchGate) : Prop where
  steady : Steady g.scheduler
  conserving : WorkConserving g.scheduler

theorem pumped_busy (steady : Steady s) : Busy { g with scheduler := pump clock s } := by
  obtain ⟨inv, config⟩ := pump_invariant clock steady.invariant
  exact ⟨steady_kept steady inv config, pump_conserving clock steady.invariant steady.policy⟩

section
variable (busy : Busy g)
include busy

theorem settle_busy (id : TaskId) (clock : Nat → TimePoint) : Busy (g.settle id clock).2 := by
  unfold LaunchGate.settle
  split
  · exact busy
  dsimp only
  split
  · exact pumped_busy clock (steady_apply (.forget id) (steady_apply (.cancelQueued id) busy.steady))
  · exact pumped_busy clock (steady_apply (.forget id) busy.steady)

theorem acquire_busy (thread : ThreadId) (bounded : Bool) (now : TimePoint)
    (clock : Nat → TimePoint) : Busy (g.acquire thread bounded now clock).2 := by
  rcases submit_cases busy.steady.invariant g.launchSpec now with ⟨status, refused, result⟩ | ⟨task, t, result, _⟩
  · simp only [LaunchGate.acquire, result, if_pos refused]
    exact busy
  have steady := steady_apply (.submit g.launchSpec now) busy.steady
  simp only [apply, result] at steady
  have pumped : Busy { g with scheduler := pump clock t } := pumped_busy clock steady
  simp only [LaunchGate.acquire, result, ne_eq, not_true_eq_false, if_false]
  split
  · exact settle_busy pumped _ clock
  · exact ⟨pumped.steady, pumped.conserving⟩

theorem finish_busy {finish : Scheduler → TaskId → TimePoint → Bool × Scheduler} (finisher : Finisher finish)
    (now : TimePoint) (clock : Nat → TimePoint) : Busy (g.finishLocked id finish now clock).2 := by
  unfold LaunchGate.finishLocked
  rcases finisher_cases busy.steady.invariant finisher id now with
    ⟨result, _⟩ | ⟨task, next, t, result, ended, _⟩
  · rw [result]
    exact busy
  · rw [result]
    have after : Steady t :=
      steady_kept busy.steady (finished_invariant ended busy.steady.invariant) ended.moved.config
    exact pumped_busy clock (steady_apply (.forget id) after)

theorem wake_busy (thread : ThreadId) (timedOut : Bool) (clock : Nat → TimePoint) :
    Busy (g.wake thread timedOut clock).2 := by
  unfold LaunchGate.wake
  split
  · exact busy
  · split
    · exact settle_busy (g := { g with waiting := g.waiting.erase thread }) ⟨busy.steady, busy.conserving⟩ _ clock
    · exact busy

theorem apply_busy (op : GateOp) : Busy (g.apply op) := by
  cases op with
  | acquire thread bounded now clock =>
    simp only [LaunchGate.apply]
    split
    · exact busy
    · exact acquire_busy busy thread bounded now clock
  | wake thread timedOut clock => exact wake_busy busy thread timedOut clock
  | complete id now clock => exact finish_busy busy .complete now clock
  | fail id now clock => exact finish_busy busy .fail now clock

end

theorem run_busy (ops : List GateOp) (busy : Busy g) : Busy (g.run ops) := by
  induction ops generalizing g with
  | nil => exact busy
  | cons op rest ih => exact ih (apply_busy busy op)

theorem new_busy (policy : options.schedulingPolicy ≠ .deficitRoundRobin) : Busy (.new options) := by
  refine ⟨⟨new_invariant _ _, policy, Nat.lt_of_lt_of_le Nat.zero_lt_one (Nat.le_max_right _ _)⟩, ?_⟩
  intro _ id task found
  cases found

def Idle (s : Scheduler) : Prop := ∀ id, ¬ s.Live id

theorem dispatch_run_spec (dispatches : ∀ op ∈ ops, IsDispatch op)
    (inv : Invariant s) {next : TaskRecord} (found : (s.run ops).tasks.lookup id = some next) :
    ∃ task, s.tasks.lookup id = some task ∧ task.spec = next.spec := by
  induction ops generalizing s with
  | nil => exact ⟨next, found, rfl⟩
  | cons op rest ih =>
    have step := apply_step inv op
    obtain ⟨now, same⟩ := dispatches op (by simp)
    obtain ⟨record, middle, spec⟩ := ih (fun op mem => dispatches op (List.mem_cons_of_mem _ mem))
      (step_invariant step inv) found
    subst same
    rcases step_spec step middle with ⟨task, before, earlier⟩ | ⟨granted, _⟩
    · exact ⟨task, before, earlier.trans spec⟩
    · cases granted

theorem dispatch_next_slots {s : Scheduler} (policy : s.policy = .priority) (now : TimePoint) :
    (s.dispatchNext now).2.priorityReservedSlots = s.priorityReservedSlots := by
  unfold dispatchNext
  split
  · rfl
  split
  · rfl
  have taken : (s.takePeekedTask s.peekPriorityTask).2.priorityReservedSlots = s.priorityReservedSlots := by
    unfold takePeekedTask
    split
    · rfl
    split
    · rfl
    · unfold removeTaskFromTenantQueue
      split <;> rfl
  simp only [selectNextTask, policy, selectPriorityTask]
  split
  · next selected =>
    rw [selected] at taken
    exact taken
  · next selected =>
    rw [selected] at taken
    refine Eq.trans ?_ taken
    unfold dispatchSelectedTask
    split
    · rfl
    split
    · rfl
    split
    · rfl
    · dsimp only
      split <;> rfl

theorem dispatch_run_slots (dispatches : ∀ op ∈ ops, IsDispatch op) (inv : Invariant s)
    (policy : s.policy = .priority) : (s.run ops).priorityReservedSlots = s.priorityReservedSlots := by
  refine (run_keeps (motive := fun t => t.policy = .priority ∧ t.priorityReservedSlots = s.priorityReservedSlots)
    inv ⟨policy, rfl⟩ ?_).2
  rintro op mem t before ⟨policy, same⟩
  obtain ⟨now, rfl⟩ := dispatches op mem
  exact ⟨(step_configuration (apply_step before _)).policy.trans policy, (dispatch_next_slots policy now).trans same⟩

theorem idle_acquire_granted (busy : Busy g) (idle : Idle g.scheduler) (thread : ThreadId) (bounded : Bool)
    {now : TimePoint} (clock : Nat → TimePoint) (quota : (g.scheduler.submit g.launchSpec now).1.status = .accepted)
    (permits : g.scheduler.ReservationPermits g.taskPriority) :
    (g.acquire thread bounded now clock).1 = .granted g.scheduler.nextTaskId := by
  rcases submit_cases busy.steady.invariant g.launchSpec now with ⟨status, refused, result⟩ | ⟨task, t, result, added⟩
  · rw [result] at quota
    exact absurd quota refused
  have steady := steady_apply (.submit g.launchSpec now) busy.steady
  have step := apply_step busy.steady.invariant (.submit g.launchSpec now)
  have live := step_live step
  simp only [apply, result, grantedBy, returnedBy, if_true] at steady live
  obtain ⟨ops, pumped, dispatches⟩ := pump_run clock steady.invariant
  have after := run_invariant ops steady.invariant
  have config := run_configuration ops steady.invariant
  have conserving := pump_conserving clock steady.invariant steady.policy
  have only : ∀ id, (t.run ops).Live id ↔ id = g.scheduler.nextTaskId := by
    intro id
    rw [dispatch_run_live dispatches steady.invariant, live]
    simp [idle id]
  have running : (t.run ops).taskState g.scheduler.nextTaskId = some .running := by
    rcases (only g.scheduler.nextTaskId).mpr rfl with queued | running
    · -- A queued task would be the only live one, so a slot would be free.
      exfalso
      have nothing : (t.run ops).runningTaskIds = [] := by
        rw [List.eq_nil_iff_forall_not_mem]
        intro id mem
        obtain ⟨record, found, state⟩ := (after.coherent.runningExact id).mp mem
        have here := (only id).mp ((live_iff _ _).mpr ⟨record, found, .inr state⟩)
        rw [here] at found
        simp [taskState, found, state] at queued
      obtain ⟨record, found, state⟩ := Option.map_eq_some_iff.mp queued
      obtain ⟨original, before, same⟩ := dispatch_run_spec dispatches steady.invariant found
      rw [accepted_lookup added, if_pos rfl] at before
      cases before
      rw [added.spec_eq] at same
      rw [pumped] at conserving
      refine conserving ?_ _ record found state ?_
      · rw [nothing, config.maxRunning, added.config.maxRunning]
        exact busy.steady.slots
      · rw [← same]
        have setup := added.config.trans config
        have still : (t.run ops).lowRunning ≤ g.scheduler.lowRunning := by simp [lowRunning, nothing]
        by_cases policy : g.scheduler.policy = .priority
        · unfold ReservationPermits at permits ⊢
          rw [setup.policy, dispatch_run_slots dispatches steady.invariant (added.config.policy.trans policy),
            added.reservedSlots, setup.maxRunning, setup.threshold]
          exact permits.imp_right (Or.imp_right (Or.imp_left (Nat.lt_of_le_of_lt still)))
        · exact .inl (setup.policy ▸ policy)
    · exact running
  rw [← pumped] at running
  simp [LaunchGate.acquire, result, LaunchGate.admitted, LaunchGate.settle, running]

theorem fresh_acquire_accepted (options : LaunchGateOptions) (now : TimePoint) :
    ((LaunchGate.new options).scheduler.submit (LaunchGate.new options).launchSpec now).1.status = .accepted := by
  have tenant : (LaunchGate.new options).tenantId ≠ "" := by
    simp only [LaunchGate.new]
    split
    · decide
    · assumption
  have weight : (LaunchGate.new options).tenantWeight ≠ 0 := by
    simp only [LaunchGate.new]
    split
    · decide
    · assumption
  have reserved : QuotaLedger.tryReserve { limitBytes := maxBytes } 1 =
      (some ⟨true, 1⟩, { limitBytes := maxBytes, reservedBytes := 1 }) := by decide
  have first : (1 : Nat) ≠ maxU64 := by decide
  unfold submit
  rw [if_neg (by simp [tenant, weight, LaunchGate.launchSpec])]
  simp [LaunchGate.new, new, LaunchGate.launchSpec, first, reserved]

-- The first acquire of a deficit gate only earns its tenant a quantum.
theorem deficit_acquire_waits (policy : options.schedulingPolicy = .deficitRoundRobin) :
    ∃ ops, ¬ WorkConserving ((LaunchGate.new options).run ops).scheduler := by
  let g := LaunchGate.new options
  let clock : Nat → TimePoint := fun _ => 0
  refine ⟨[.acquire 0 false 0 clock], ?_⟩
  have start : Invariant g.scheduler := new_invariant _ _
  rcases submit_cases start g.launchSpec 0 with ⟨status, refused, result⟩ | ⟨task, t, result, added⟩
  · have accepted := fresh_acquire_accepted options 0
    rw [result] at accepted
    exact absurd accepted refused
  have after : Invariant t :=
    ⟨accepted_coherent added start.coherent, accepted_quota added start.coherent start.quota⟩
  have poor : NoAffordableHead t := by
    intro tenant queue id rest record lookup front found
    have none_yet : g.scheduler.tenantQueues.lookup tenant = none := rfl
    rw [added.queues] at lookup
    split at lookup
    · next here =>
      cases lookup
      rw [accepted_lookup added] at found
      split at found
      · cases found
        rw [added.spec_eq]
        exact (by decide : (0 : UInt64) < (1 : UInt32).toUInt64)
      · cases found
    · rw [none_yet] at lookup
      cases lookup
  have nobody : t.peekNextTask = none := by
    rw [peekNextTask, added.config.policy, show g.scheduler.policy = .deficitRoundRobin from policy]
    exact (peek_deficit_none after.coherent).mpr poor
  have nothing : (t.dispatchNext 0).1 = none := by
    cases dispatched : (t.dispatchNext 0).1 with
    | none => rfl
    | some snap =>
      have peeked := dispatch_next_some after dispatched
      rw [nobody] at peeked
      cases peeked
  rcases dispatch_next_cases after 0 with ⟨u, idle, retuned, _⟩ | ⟨_, _, _, _, started, _⟩
  · have pumped : pump clock t = u := by simp [pump, pumpLocked, clock, idle]
    have found : u.tasks.lookup g.scheduler.nextTaskId = some task := by
      rw [retuned.tasks, accepted_lookup added, if_pos rfl]
    have waiting : u.taskState g.scheduler.nextTaskId = some .queued := by simp [taskState, found, added.queued]
    have reached : ((LaunchGate.new options).run [.acquire 0 false 0 clock]).scheduler = u := by
      change (g.acquire 0 false 0 clock).2.scheduler = u
      simp [LaunchGate.acquire, result, pumped, LaunchGate.admitted, waiting]
    rw [reached]
    intro conserving
    refine conserving ?_ _ task found added.queued (.inl ?_)
    · rw [retuned.running, added.running, retuned.config.maxRunning, added.config.maxRunning]
      exact Nat.lt_of_lt_of_le Nat.zero_lt_one (Nat.le_max_right _ _)
    · rw [retuned.config.policy, added.config.policy, show g.scheduler.policy = .deficitRoundRobin from policy]
      decide
  · rw [started] at nothing
    cases nothing

theorem launch_gate_work_conserving_iff (options : LaunchGateOptions) :
    (∀ ops : List GateOp,
      let g := (LaunchGate.new options).run ops
      WorkConserving g.scheduler ∧
        ∀ thread bounded now clock, Idle g.scheduler → (g.scheduler.submit g.launchSpec now).1.status = .accepted →
          g.scheduler.ReservationPermits g.taskPriority →
          (g.acquire thread bounded now clock).1 = .granted g.scheduler.nextTaskId) ↔
      options.schedulingPolicy ≠ .deficitRoundRobin := by
  constructor
  · intro conserving deficit
    obtain ⟨ops, wasted⟩ := deficit_acquire_waits deficit
    exact wasted (conserving ops).1
  · intro policy ops g
    have busy : Busy g := run_busy ops (new_busy policy)
    refine ⟨busy.conserving, ?_⟩
    intro thread bounded now clock idle quota permits
    exact idle_acquire_granted busy idle thread bounded clock quota permits

theorem deficit_gate_idle_acquire_waits : let g := LaunchGate.new { schedulingPolicy := .deficitRoundRobin }
    let after := (g.acquire 0 false 0 fun _ => 0).2
    Idle g.scheduler ∧ (g.acquire 0 false 0 fun _ => 0).1 = .waiting ∧ ¬ WorkConserving after.scheduler := by
  intro g after
  refine ⟨?_, by decide +kernel, ?_⟩
  · intro id live
    cases (live_iff _ _).mp live with
    | intro task found => cases found.1
  · intro conserving
    have slot : after.scheduler.runningTaskIds.length < after.scheduler.maxRunningTasks := by decide +kernel
    have waiting : queuedRecord after.scheduler.tasks 1 = some
        (.submitted g.launchSpec ⟨true, 1⟩ 0) := by decide +kernel
    obtain ⟨found, queued⟩ := (queued_record_iff _ _ _).mp waiting
    exact conserving slot 1 _ found queued (.inl (by decide +kernel))

def LaunchGate.Running (g : LaunchGate) (id : TaskId) : Prop := id ∈ g.scheduler.runningTaskIds

variable {s : Scheduler} {g : LaunchGate}

theorem running_state (coh : Coherent s) (id : TaskId) :
    s.taskState id = some .running ↔ id ∈ s.runningTaskIds := by
  rw [coh.runningExact, taskState, Option.map_eq_some_iff]

-- What every section of the gate leaves behind: running tasks go on running, but for the one the section ends.
structure Preserves (s t : Scheduler) (ended : Option TaskId) : Prop where
  invariant : Invariant t
  config : SameConfiguration s t
  issued : s.nextTaskId ≤ t.nextTaskId
  running : ∀ id, id ∈ s.runningTaskIds → some id ≠ ended → id ∈ t.runningTaskIds

theorem preserves_refl (inv : Invariant s) : Preserves s s none :=
  ⟨inv, .refl s, Nat.le_refl _, fun _ running _ => running⟩

theorem preserves_trans {t u : Scheduler} {ended : Option TaskId} (first : Preserves s t ended)
    (second : Preserves t u none) : Preserves s u ended :=
  ⟨second.invariant, first.config.trans second.config, Nat.le_trans first.issued second.issued,
    fun id running other => second.running id (first.running id running other) (by simp)⟩

variable {id : TaskId} {thread : ThreadId}

section
variable (inv : Invariant s)
include inv

theorem apply_preserves (op : SchedulerOp) (ended : Option TaskId)
    (kept : ∀ id, id ∈ s.runningTaskIds → some id ≠ ended → id ∈ (s.apply op).runningTaskIds) :
    Preserves s (s.apply op) ended :=
  ⟨step_invariant (apply_step inv op) inv, step_configuration (apply_step inv op),
    step_issued (apply_step inv op), kept⟩

theorem dispatch_preserves (now : TimePoint) : Preserves s (s.apply (.dispatchNext now)) none := by
  refine apply_preserves inv _ none fun id running _ => ?_
  simp only [apply]
  rcases dispatch_next_cases inv now with ⟨t, result, retuned, _⟩ | ⟨other, task, next, t, result, started, _⟩
  · rw [result, retuned.running]
    exact running
  · rw [result, started.listed]
    exact List.mem_append_left _ running

theorem pump_preserves (clock : Nat → TimePoint) : Preserves s (pump clock s) none := by
  obtain ⟨ops, pumped, dispatches⟩ := pump_run clock inv
  rw [pumped]
  refine run_keeps (motive := (Preserves s · none)) inv (preserves_refl inv) fun op mem t before preserved => ?_
  obtain ⟨now, rfl⟩ := dispatches op mem
  exact preserves_trans preserved (dispatch_preserves before now)

theorem forget_preserves (id : TaskId) : Preserves s (s.forget id).2 none := by
  refine apply_preserves inv (.forget id) none fun other running _ => ?_
  simp only [apply]
  rcases forget_cases inv id with result | ⟨task, t, result, erased⟩
  · rw [result]
    exact running
  · rw [result, erased.running]
    exact running

theorem cancel_queued_preserves (waiting : id ∉ s.runningTaskIds) : Preserves s (s.cancelQueued id).2 none := by
  refine apply_preserves inv (.cancelQueued id) none fun other running _ => ?_
  simp only [apply]
  rcases cancel_queued_cases inv id with ⟨result, _⟩ | ⟨task, next, t, result, ended, _⟩
  · rw [result]
    exact running
  · rw [result, ended.listed, List.erase_of_not_mem waiting]
    exact running

end

theorem settle_preserves (inv : Invariant g.scheduler) (id : TaskId) (clock : Nat → TimePoint) :
    Preserves g.scheduler (g.settle id clock).2.scheduler none := by
  unfold LaunchGate.settle
  split
  · exact preserves_refl inv
  next stopped =>
  rw [running_state inv.coherent] at stopped
  split
  · have cancelled := cancel_queued_preserves inv stopped
    have forgotten := forget_preserves cancelled.invariant id
    exact preserves_trans (preserves_trans cancelled forgotten) (pump_preserves forgotten.invariant clock)
  · have forgotten := forget_preserves inv id
    exact preserves_trans forgotten (pump_preserves forgotten.invariant clock)

inductive Admitted (g h : LaunchGate) (thread : ThreadId) (id : TaskId) : AcquireResult → Prop where
  | granted (running : h.Running id) (others : ∀ other, other ≠ thread → h.waiting.lookup other = g.waiting.lookup other)
      (left : h.waiting.lookup thread = none) : Admitted g h thread id (.granted id)
  | waiting (others : ∀ other, other ≠ thread → h.waiting.lookup other = g.waiting.lookup other)
      (joined : (h.waiting.lookup thread).map Waiter.taskId = some id) : Admitted g h thread id .waiting
  | refused (others : ∀ other, other ≠ thread → h.waiting.lookup other = g.waiting.lookup other)
      (left : h.waiting.lookup thread = none) : Admitted g h thread id .refused
  | expired (others : ∀ other, other ≠ thread → h.waiting.lookup other = g.waiting.lookup other)
      (left : h.waiting.lookup thread = none) : Admitted g h thread id .expired

theorem settle_admitted {h : LaunchGate} (inv : Invariant h.scheduler) (thread : ThreadId) (id : TaskId)
    (clock : Nat → TimePoint) (others : ∀ other, other ≠ thread → h.waiting.lookup other = g.waiting.lookup other)
    (left : h.waiting.lookup thread = none) : Admitted g (h.settle id clock).2 thread id (h.settle id clock).1 := by
  unfold LaunchGate.settle
  split
  · next running => exact .granted ((running_state inv.coherent id).mp running) others left
  · exact .expired others left

variable (inv : Invariant g.scheduler) (clock : Nat → TimePoint)
include inv

theorem acquire_spec (bounded : Bool) (now : TimePoint) (absent : g.waiting.lookup thread = none) :
    Preserves g.scheduler (g.acquire thread bounded now clock).2.scheduler none ∧
      ((g.acquire thread bounded now clock).1 ≠ .refused →
        g.scheduler.nextTaskId < (g.acquire thread bounded now clock).2.scheduler.nextTaskId) ∧
      Admitted g (g.acquire thread bounded now clock).2 thread g.scheduler.nextTaskId
        (g.acquire thread bounded now clock).1 := by
  rcases submit_cases inv g.launchSpec now with ⟨status, refused, result⟩ | ⟨task, t, result, added⟩
  · simp only [LaunchGate.acquire, result, if_pos refused]
    exact ⟨preserves_refl inv, fun other => absurd rfl other, .refused (fun _ _ => rfl) absent⟩
  have submitted := apply_preserves inv (.submit g.launchSpec now) none
    (fun id running _ => by simpa only [apply, result, added.running] using running)
  simp only [apply, result] at submitted
  have pumped := pump_preserves submitted.invariant clock
  have through := preserves_trans submitted pumped
  have grown : g.scheduler.nextTaskId < (pump clock t).nextTaskId :=
    Nat.lt_of_lt_of_le (added.nextId ▸ Nat.lt_succ_self _) pumped.issued
  simp only [LaunchGate.acquire, result, ne_eq, not_true_eq_false, if_false]
  split
  · have settled := settle_preserves (g := { g with scheduler := pump clock t }) through.invariant
      g.scheduler.nextTaskId clock
    refine ⟨preserves_trans through settled, fun _ => Nat.lt_of_lt_of_le grown settled.issued, ?_⟩
    exact settle_admitted (h := { g with scheduler := pump clock t }) through.invariant thread _ clock
      (fun _ _ => rfl) absent
  · refine ⟨through, fun _ => grown, .waiting (fun other ne => ?_) ?_⟩
    · simp [ne]
    · simp

theorem wake_spec (timedOut : Bool) {waiter : Waiter} (waits : g.waiting.lookup thread = some waiter) :
    Preserves g.scheduler (g.wake thread timedOut clock).2.scheduler none ∧
      Admitted g (g.wake thread timedOut clock).2 thread waiter.taskId (g.wake thread timedOut clock).1 := by
  simp only [LaunchGate.wake, waits]
  split
  · exact ⟨settle_preserves (g := { g with waiting := g.waiting.erase thread }) inv waiter.taskId clock,
      settle_admitted (h := { g with waiting := g.waiting.erase thread }) inv thread _ clock
        (fun other ne => by simp [ne])
        (by simp)⟩
  · exact ⟨preserves_refl inv, .waiting (fun _ _ => rfl) (by simp [waits])⟩

theorem finish_locked_spec {finish : Scheduler → TaskId → TimePoint → Bool × Scheduler} (finisher : Finisher finish)
    (now : TimePoint) :
    Preserves g.scheduler (g.finishLocked id finish now clock).2.scheduler (some id) ∧
      (g.finishLocked id finish now clock).2.waiting = g.waiting := by
  unfold LaunchGate.finishLocked
  rcases finisher_cases inv finisher id now with ⟨result, _⟩ | ⟨task, next, t, result, ended, _⟩
  · rw [result]
    exact ⟨⟨inv, .refl _, Nat.le_refl _, fun _ running _ => running⟩, rfl⟩
  · rw [result]
    have step : Step g.scheduler t none (some id) := .finished id task next ended
    have finished : Preserves g.scheduler t (some id) := by
      refine ⟨step_invariant step inv, step_configuration step, step_issued step, fun other running ne => ?_⟩
      rw [ended.listed]
      exact (List.mem_erase_of_ne fun same => ne (congrArg some same)).mpr running
    have forgotten := forget_preserves finished.invariant id
    exact ⟨preserves_trans (preserves_trans finished forgotten) (pump_preserves forgotten.invariant clock), rfl⟩

theorem gate_fail_spec (id : TaskId) (now : TimePoint) :
    Preserves g.scheduler (g.fail id now clock).2.scheduler (some id) ∧
      (g.fail id now clock).2.waiting = g.waiting :=
  finish_locked_spec inv clock .fail now

end Glimmer.Control
