import Glimmer.Core.SchedulerSteps

namespace Glimmer.Core

open Lib KeyedMap

def SchedulerOp.touches (s : Scheduler) : SchedulerOp → Option TaskId
  | .submit _ _ => some s.nextTaskId
  | .dispatchNext _ => s.peekNextTask
  | .dispatchTask id _ => some id
  | .suspend id _ => some id
  | .complete id _ => some id
  | .fail id _ => some id
  | .cancel id _ => some id
  | .cancelQueued id => some id
  | .forget id => some id
  | .setPriorityReservedSlots _ => none

def SchedulerOp.retires : SchedulerOp → Bool
  | .submit _ _ | .dispatchNext _ | .dispatchTask _ _ => false
  | _ => true

namespace Scheduler

-- The submission that an operation accepts, and the task whose bytes it gives back.
def grantedBy (s : Scheduler) : SchedulerOp → Option TaskSpec
  | .submit spec now => if (s.submit spec now).1.status = .accepted then some spec else none
  | _ => none

def returnedBy (s : Scheduler) : SchedulerOp → Option TaskId
  | .complete id now => if (s.complete id now).1 then some id else none
  | .fail id now => if (s.fail id now).1 then some id else none
  | .cancel id now => if (s.cancel id now).1 then some id else none
  | .cancelQueued id => if (s.cancelQueued id).1 then some id else none
  | _ => none

def dispatchedBy (s : Scheduler) : SchedulerOp → Option TaskSnapshot
  | .dispatchNext now => (s.dispatchNext now).1
  | .dispatchTask id now => (s.dispatchTask id now).1
  | _ => none

def dispatchLog (s : Scheduler) : List SchedulerOp → List TaskSnapshot
  | [] => []
  | op :: rest => (s.dispatchedBy op).toList ++ (s.apply op).dispatchLog rest

inductive Step (s t : Scheduler) : Option TaskSpec → Option TaskId → Prop where
  | retuned (same : Retuned s t) : Step s t none none
  | accepted (spec : TaskSpec) (task : TaskRecord) (added : Accepted s t spec task) : Step s t (some spec) none
  | dispatched (id : TaskId) (task next : TaskRecord) (started : Dispatched s t id task next)
      (ready : Dispatchable s id) : Step s t none none
  | suspended (id : TaskId) (task next : TaskRecord) (stopped : Suspended s t id task next) : Step s t none none
  | finished (id : TaskId) (task next : TaskRecord) (ended : Finished s t id task next) : Step s t none (some id)
  | forgotten (id : TaskId) (task : TaskRecord) (erased : Forgotten s t id task) : Step s t none none

-- The same with the task that an operation is aimed at, and whether it can bring a task in or start one.
inductive Effect (s t : Scheduler) : Option TaskSpec → Option TaskId → Option TaskId → Bool → Prop where
  | retuned {aimed : Option TaskId} {retires : Bool} (same : Retuned s t) : Effect s t none none aimed retires
  | accepted (spec : TaskSpec) (task : TaskRecord) (added : Accepted s t spec task) :
      Effect s t (some spec) none (some s.nextTaskId) false
  | dispatched (id : TaskId) (task next : TaskRecord) (started : Dispatched s t id task next)
      (ready : Dispatchable s id) : Effect s t none none (some id) false
  | suspended (id : TaskId) (task next : TaskRecord) (stopped : Suspended s t id task next) :
      Effect s t none none (some id) true
  | finished (id : TaskId) (task next : TaskRecord) (ended : Finished s t id task next) :
      Effect s t none (some id) (some id) true
  | forgotten (id : TaskId) (task : TaskRecord) (erased : Forgotten s t id task) :
      Effect s t none none (some id) true

inductive Turn (Visit : Scheduler → Option TaskId → Scheduler → Prop) (s t : Scheduler) : Option TaskSnapshot → Prop where
  | kept (round : RoundKept s t) (order : t.tenantOrder = s.tenantOrder) : Turn Visit s t none
  | accepted (spec : TaskSpec) (task : TaskRecord) (added : Accepted s t spec task) : Turn Visit s t none
  | idle (round : Round Visit s none t) : Turn Visit s t none
  | started (id : TaskId) (task next : TaskRecord) (chosen : Scheduler) (round : Round Visit s (some id) chosen)
      (picked : Picked s t id task chosen) (spec : next.spec = task.spec) (order : t.tenantOrder = chosen.tenantOrder) :
      Turn Visit s t (some (snapshot id next))

variable {s t : Scheduler} {granted : Option TaskSpec} {returned aimed : Option TaskId} {retires : Bool}

section Turns
variable {Visit : Scheduler → Option TaskId → Scheduler → Prop}

theorem idle_turn (idle : t = s ∨ s.selectNextTask = (none, t))
    (round : Round Visit s s.selectNextTask.1 s.selectNextTask.2) : Turn Visit s t none := by
  rcases idle with rfl | selected
  · exact .kept ⟨fun _ => rfl, rfl, rfl, rfl⟩ rfl
  · rw [selected] at round
    exact .idle round

theorem started_turn {id : TaskId} {task next : TaskRecord} (started : Dispatched s t id task next)
    (picked : ∃ chosen, Picked s t id task chosen) (round : Round Visit s s.selectNextTask.1 s.selectNextTask.2) :
    Turn Visit s t (some (snapshot id next)) := by
  obtain ⟨chosen, picked⟩ := picked
  rw [picked.selected] at round
  exact .started id task next chosen round picked started.moved.spec (started.moved.order.trans picked.taken.order.symm)

end Turns

theorem dispatched_by_spec (inv : Invariant s) {op : SchedulerOp} {snap : TaskSnapshot}
    (started : s.dispatchedBy op = some snap) : ∃ task next, snap = snapshot snap.taskId next ∧
      Dispatched s (s.apply op) snap.taskId task next ∧ Dispatchable s snap.taskId := by
  cases op with
  | dispatchNext now =>
    rcases dispatch_next_cases inv now with ⟨t, result, _⟩ | ⟨id, task, next, t, result, begun, ready, _⟩ <;>
      simp only [dispatchedBy, apply, result] at started ⊢
    · cases started
    · cases started
      exact ⟨task, next, rfl, begun, ready⟩
  | dispatchTask id now =>
    rcases dispatch_task_cases inv id now with ⟨t, result, _⟩ | ⟨task, next, t, result, begun, ready, _⟩ <;>
      simp only [dispatchedBy, apply, result] at started ⊢
    · cases started
    · cases started
      exact ⟨task, next, rfl, begun, ready⟩
  | _ => cases started

theorem apply_effect_turn (inv : Invariant s) (op : SchedulerOp) :
    Effect s (s.apply op) (s.grantedBy op) (s.returnedBy op) (op.touches s) op.retires ∧
      ∀ Visit, s.policy ≠ .priority → Round Visit s s.selectNextTask.1 s.selectNextTask.2 →
        Turn Visit s (s.apply op) (s.dispatchedBy op) := by
  have same := retuned_refl inv.coherent
  have still : ∀ Visit, s.policy ≠ .priority → Round Visit s s.selectNextTask.1 s.selectNextTask.2 →
    Turn Visit s s none :=
    fun _ _ round => idle_turn (.inl rfl) round
  have ends : ∀ {id : TaskId} {answer : Bool × Scheduler} {idle : Prop} {was : TaskRecord → Prop},
      (answer = (false, s) ∧ idle) ∨
        (∃ task next t, answer = (true, t) ∧ Finished s t id task next ∧ RoundKept s t ∧ was task) →
      Effect s answer.2 none (if answer.1 then some id else none) (some id) true ∧
        ∀ Visit, s.policy ≠ .priority → Round Visit s s.selectNextTask.1 s.selectNextTask.2 →
        Turn Visit s answer.2 none := by
    rintro id _ _ _ (⟨rfl, _⟩ | ⟨task, next, t, rfl, ended, kept, _⟩)
    · exact ⟨.retuned same, still⟩
    · exact ⟨.finished id task next ended, fun _ _ _ => .kept kept ended.moved.order⟩
  cases op with
  | submit spec now =>
    rcases submit_cases inv spec now with ⟨status, refused, result⟩ | ⟨task, t, result, added⟩
    · simp only [apply, grantedBy, returnedBy, dispatchedBy, result, if_neg refused]
      exact ⟨.retuned same, still⟩
    · simp only [apply, grantedBy, returnedBy, dispatchedBy, result, if_true]
      exact ⟨.accepted spec task added, fun _ _ _ => .accepted spec task added⟩
  | dispatchNext now =>
    rcases dispatch_next_cases inv now with
      ⟨t, result, retuned, idle⟩ | ⟨id, task, next, t, result, started, ready, picked⟩
    · simp only [apply, grantedBy, returnedBy, dispatchedBy, result]
      exact ⟨.retuned retuned, fun _ _ => idle_turn idle⟩
    · simp only [apply, grantedBy, returnedBy, dispatchedBy, result, SchedulerOp.touches, ready.next]
      exact ⟨.dispatched id task next started ready, fun _ _ => started_turn started picked⟩
  | dispatchTask id now =>
    rcases dispatch_task_cases inv id now with
      ⟨t, result, retuned, idle⟩ | ⟨task, next, t, result, started, ready, picked⟩ <;>
      simp only [apply, grantedBy, returnedBy, dispatchedBy, result]
    · exact ⟨.retuned retuned, fun _ _ => idle_turn idle⟩
    · exact ⟨.dispatched id task next started ready, fun _ _ => started_turn started picked⟩
  | suspend id now =>
    rcases suspend_cases inv id now with result | ⟨task, next, t, result, stopped, kept⟩ <;>
      simp only [apply, grantedBy, returnedBy, dispatchedBy, result]
    · exact ⟨.retuned same, still⟩
    · exact ⟨.suspended id task next stopped, fun _ _ _ => .kept kept stopped.moved.order⟩
  | complete id now => exact ends (finisher_cases inv .complete id now)
  | fail id now => exact ends (finisher_cases inv .fail id now)
  | cancel id now =>
    rcases cancel_cases inv id now with idle | ⟨task, next, t, result, ended, kept⟩
    · exact @ends id _ _ (fun _ => True) (.inl idle)
    · exact @ends id _ True (fun _ => True) (.inr ⟨task, next, t, result, ended, kept, trivial⟩)
  | cancelQueued id => exact ends (cancel_queued_cases inv id)
  | forget id =>
    rcases forget_cases inv id with result | ⟨task, t, result, erased⟩ <;>
      simp only [apply, grantedBy, returnedBy, dispatchedBy, result]
    · exact ⟨.retuned same, still⟩
    · exact ⟨.forgotten id task erased, fun _ _ _ =>
        .kept ⟨fun _ => by rw [erased.queues], erased.cursor, erased.budget, erased.reservedSlots⟩ erased.order⟩
  | setPriorityReservedSlots slots =>
    refine ⟨.retuned (set_slots_retuned inv.coherent slots), fun Visit other round => ?_⟩
    have unchanged : s.setPriorityReservedSlots slots = (false, s) := by simp [setPriorityReservedSlots, other]
    simp only [apply, dispatchedBy, unchanged]
    exact still Visit other round

theorem apply_effect (inv : Invariant s) (op : SchedulerOp) :
    Effect s (s.apply op) (s.grantedBy op) (s.returnedBy op) (op.touches s) op.retires :=
  (apply_effect_turn inv op).1

theorem effect_step (effect : Effect s t granted returned aimed retires) : Step s t granted returned := by
  cases effect with
  | retuned same => exact .retuned same
  | accepted spec task added => exact .accepted spec task added
  | dispatched id task next started ready => exact .dispatched id task next started ready
  | suspended id task next stopped => exact .suspended id task next stopped
  | finished id task next ended => exact .finished id task next ended
  | forgotten id task erased => exact .forgotten id task erased

theorem apply_step (inv : Invariant s) (op : SchedulerOp) :
    Step s (s.apply op) (s.grantedBy op) (s.returnedBy op) :=
  effect_step (apply_effect inv op)

section
variable (step : Step s t granted returned)
include step

theorem step_invariant (inv : Invariant s) : Invariant t := by
  cases step with
  | retuned same => exact retuned_invariant same inv
  | accepted spec task added =>
    exact ⟨accepted_coherent added inv.coherent, accepted_quota added inv.coherent inv.quota⟩
  | dispatched id task next started ready => exact dispatched_invariant started inv ready.slot
  | suspended id task next stopped => exact suspended_invariant stopped inv
  | finished id task next ended => exact finished_invariant ended inv
  | forgotten id task erased => exact forgotten_invariant erased inv

theorem step_next_id : t.nextTaskId = s.nextTaskId + granted.toList.length := by
  cases step with
  | retuned change | accepted _ _ change | forgotten _ _ change => exact change.nextId
  | dispatched _ _ _ change | suspended _ _ _ change | finished _ _ _ change => exact change.moved.nextId

theorem step_issued : s.nextTaskId ≤ t.nextTaskId := by
  rw [step_next_id step]
  exact Nat.le_add_right _ _

end

variable (limit : MemoryBytes) (options : SchedulerOptions) (ops : List SchedulerOp)

theorem new_invariant : Invariant (new limit options) := by
  have below : 1 ≤ maxU64 := by decide
  refine ⟨⟨Nat.lt_of_lt_of_le Nat.zero_lt_one (Nat.le_max_right _ _), List.nodup_nil, ?_, ?_, ?_, ?_, ?_, List.nodup_nil,
    ?_, Nat.zero_le _, rfl, ?_, Nat.zero_lt_one, below⟩, ⟨rfl, rfl, Nat.zero_le _, ?_, ?_, Nat.zero_lt_one⟩⟩
  · intro tenant
    simp [new]
  · intro id task found
    cases found
  · intro tenant ids id deque
    cases deque
  · intro tenant ids deque
    cases deque
  · intro id task found
    cases found
  · intro id
    simp [new]
  · intro id task found
    cases found
  · intro id task found
    cases found
  · intro id task found
    cases found

theorem run_keeps {motive : Scheduler → Prop} {ops : List SchedulerOp} (inv : Invariant s) (initial : motive s)
    (keeps : ∀ op ∈ ops, ∀ t, Invariant t → motive t → motive (t.apply op)) : motive (s.run ops) := by
  induction ops generalizing s with
  | nil => exact initial
  | cons op rest ih =>
    exact ih (step_invariant (apply_step inv op) inv) (keeps op List.mem_cons_self s inv initial)
      (fun later mem => keeps later (List.mem_cons_of_mem _ mem))

theorem run_invariant (inv : Invariant s) : Invariant (s.run ops) :=
  run_keeps inv inv fun op _ _ before _ => step_invariant (apply_step before op) before

theorem step_configuration (step : Step s t granted returned) : SameConfiguration s t := by
  cases step with
  | retuned change | accepted _ _ change | forgotten _ _ change => exact change.config
  | dispatched _ _ _ change | suspended _ _ _ change | finished _ _ _ change => exact change.moved.config

theorem run_configuration (inv : Invariant s) : SameConfiguration s (s.run ops) :=
  run_keeps inv (.refl s) fun op _ _ before same => same.trans (step_configuration (apply_step before op))

theorem reachable_invariant : Invariant ((new limit options).run ops) :=
  run_invariant ops (new_invariant limit options)

theorem deque_ids_nodup (coh : Coherent s) : s.dequeIds.Nodup := by
  have read : ∀ entry ∈ s.tenantQueues.entries, s.dequeOf entry.1 = some entry.2.taskIds := by
    intro entry mem
    have lookup := (mem_entries_iff s.tenantQueues entry.1 entry.2).mp mem
    simp [dequeOf, lookup]
  rw [dequeIds, List.nodup_flatMap]
  refine ⟨fun entry mem => coh.dequeNodup entry.1 _ (read entry mem), ?_⟩
  have keys := List.pairwise_map.mp s.tenantQueues.nodupKeys
  refine keys.imp_of_mem ?_
  intro left right leftMember rightMember ne id leftId rightId
  -- An id in two deques would belong to two tenants.
  obtain ⟨task, found, _, owner⟩ := coh.owned left.1 _ id (read left leftMember) leftId
  obtain ⟨again, foundAgain, _, ownerAgain⟩ := coh.owned right.1 _ id (read right rightMember) rightId
  cases found.symm.trans foundAgain
  exact ne (owner.symm.trans ownerAgain)

def queuedEntries (s : Scheduler) : List (Sigma fun _ : TaskId => TaskRecord) :=
  s.tasks.entries.filter fun entry => entry.2.state = .queued

theorem queued_total_eq {s : Scheduler} : total queuedWeight s.tasks = s.queuedEntries.length := by
  rw [total, queuedEntries]
  induction s.tasks.entries with
  | nil => rfl
  | cons entry rest ih =>
    rw [List.map_cons, List.sum_cons, ih, List.filter_cons]
    by_cases queued : entry.2.state = .queued
    · simp [queuedWeight, queued, Nat.add_comm]
    · simp [queuedWeight, queued]

theorem deque_ids_perm (coh : Coherent s) : s.dequeIds.Perm (s.queuedEntries.map Sigma.fst) := by
  have distinct : (s.queuedEntries.map Sigma.fst).Nodup :=
    (List.filter_sublist.map Sigma.fst).nodup s.tasks.nodupKeys
  rw [List.perm_ext_iff_of_nodup (deque_ids_nodup coh) distinct]
  intro id
  rw [mem_deque_ids_iff coh, List.mem_map]
  constructor
  · rintro ⟨task, waiting⟩
    obtain ⟨found, queued⟩ := (queued_record_iff _ _ _).mp waiting
    refine ⟨⟨id, task⟩, List.mem_filter.mpr ⟨(mem_entries_iff _ _ _).mpr found, ?_⟩, rfl⟩
    exact decide_eq_true queued
  · rintro ⟨⟨key, task⟩, mem, same⟩
    obtain ⟨entry, queued⟩ := List.mem_filter.mp mem
    subst same
    exact ⟨task, (queued_record_iff _ _ _).mpr ⟨(mem_entries_iff _ _ _).mp entry, of_decide_eq_true queued⟩⟩

theorem queue_running_coherence (limit : MemoryBytes) (options : SchedulerOptions) (ops : List SchedulerOp) :
    let s := (new limit options).run ops
    s.queuedTaskCount = s.queuedEntries.length ∧
      s.queuedTaskCount = (s.tenantQueues.entries.map fun entry => entry.2.taskIds.length).sum ∧
      (∀ id task, s.tasks.lookup id = some task → task.state = .queued →
        s.dequeIds.count id = 1 ∧ ∃ ids, s.dequeOf task.spec.tenantId = some ids ∧ id ∈ ids) ∧
      (∀ id, id ∈ s.dequeIds → s.taskState id = some .queued) ∧
      s.runningTaskIds.Nodup ∧ (∀ id, id ∈ s.runningTaskIds ↔ s.taskState id = some .running) ∧
      s.runningTaskIds.length ≤ max options.maxRunningTasks 1 ∧
      s.tenantOrder.Perm s.tenantQueues.keys ∧ s.tenantOrder.Nodup ∧
      (s.tenantOrder ≠ [] → s.tenantCursor < s.tenantOrder.length) := by
  intro s
  have coh : Coherent s := (reachable_invariant limit options ops).coherent
  have perm := deque_ids_perm coh
  have counted := coh.counted
  rw [queued_total_eq] at counted
  refine ⟨counted, ?_, ?_, ?_, coh.runningNodup, ?_, ?_, ?_, coh.orderNodup, cursor_in_range coh⟩
  · rw [counted, ← List.length_map Sigma.fst, ← perm.length_eq, dequeIds, List.length_flatMap]
  · intro id task found queued
    refine ⟨?_, coh.placed id task found queued⟩
    have mem := (mem_deque_ids_iff coh id).mpr ⟨task, (queued_record_iff _ _ _).mpr ⟨found, queued⟩⟩
    exact List.count_eq_one_of_mem (deque_ids_nodup coh) mem
  · intro id mem
    obtain ⟨task, waiting⟩ := (mem_deque_ids_iff coh id).mp mem
    obtain ⟨found, queued⟩ := (queued_record_iff _ _ _).mp waiting
    simp [taskState, found, queued]
  · intro id
    rw [coh.runningExact id, taskState, Option.map_eq_some_iff]
  · have bound := coh.runningBound
    rwa [(run_configuration ops (new_invariant limit options)).maxRunning] at bound
  · exact (List.perm_ext_iff_of_nodup coh.orderNodup s.tenantQueues.nodupKeys).mpr coh.orderKeys

def NoAffordableHead (s : Scheduler) : Prop :=
  ∀ tenant queue id rest task, s.tenantQueues.lookup tenant = some queue → queue.taskIds = id :: rest →
    s.tasks.lookup id = some task → queue.deficit < task.spec.workUnits.toUInt64

theorem deficit_offer_none (coh : Coherent s) : (∀ tenant, s.deficitOffer tenant = none) ↔ NoAffordableHead s := by
  constructor
  · intro silent tenant queue id rest task lookup front found
    refine UInt64.not_le.mp fun paid => ?_
    cases (silent tenant).symm.trans
      ((deficit_offer_iff coh tenant id).mpr ⟨queue, rest, task, lookup, front, found, paid⟩)
  · intro dear tenant
    cases offered : s.deficitOffer tenant with
    | none => rfl
    | some id =>
      obtain ⟨queue, rest, task, lookup, front, found, paid⟩ := (deficit_offer_iff coh tenant id).mp offered
      exact absurd paid (UInt64.not_le.mpr (dear tenant queue id rest task lookup front found))

theorem peek_deficit_none (coh : Coherent s) : s.peekDeficitRoundRobinTask = none ↔ NoAffordableHead s := by
  rw [peek_deficit_eq coh, List.findSome?_eq_none_iff, ← deficit_offer_none coh]
  simp only [List.mem_rotate]
  refine ⟨fun listed tenant => ?_, fun silent tenant _ => silent tenant⟩
  by_cases known : tenant ∈ s.tenantQueues
  · exact listed tenant ((coh.orderKeys tenant).mpr known)
  · simp [deficitOffer, AList.lookup_eq_none.mpr known]

theorem dispatch_next_some (inv : Invariant s) {now : TimePoint} {snap : TaskSnapshot}
    (result : (s.dispatchNext now).1 = some snap) : s.peekNextTask = some snap.taskId := by
  rcases dispatch_next_cases inv now with ⟨t, nothing, _⟩ | ⟨id, task, next, t, started, _, ready, _⟩
  · rw [nothing] at result
    cases result
  · rw [started] at result
    cases result
    exact ready.next

theorem dispatch_next_idle (inv : Invariant s) {now : TimePoint} (nothing : (s.dispatchNext now).1 = none) :
    (s.dispatchNext now = (none, s) ∧
        (s.maxRunningTasks ≤ s.runningTaskIds.length ∨ s.priorityReservationBlocksLowDispatch = true)) ∨
      (s.runningTaskIds.length < s.maxRunningTasks ∧ s.peekNextTask = none) := by
  by_cases full : s.runningTaskIds.length ≥ s.maxRunningTasks
  · exact .inl ⟨by simp [dispatchNext, full], .inl full⟩
  by_cases blocked : s.priorityReservationBlocksLowDispatch = true
  · exact .inl ⟨by simp [dispatchNext, blocked], .inr blocked⟩
  refine .inr ⟨Nat.not_le.mp full, ?_⟩
  rw [← select_next_first inv.coherent]
  rcases select_next_cases inv.coherent with ⟨t, selected, _⟩ | ⟨id, task, t, selected, taken⟩
  · rw [selected]
  · obtain ⟨next, u, result, _⟩ := dispatch_selected_spec inv taken now
    simp [dispatchNext, full, blocked, selected, result] at nothing

theorem dispatch_task_refines_dispatch_next (limit : MemoryBytes) (options : SchedulerOptions) (ops : List SchedulerOp)
    (id : TaskId) (now : TimePoint) :
    let s := (new limit options).run ops
    let idleRound := s.policy = .deficitRoundRobin ∧ s.taskState id = some .queued ∧
      s.runningTaskIds.length < s.maxRunningTasks ∧ NoAffordableHead s
    ((s.dispatchTask id now).1.isSome ↔ ∃ snap, (s.dispatchNext now).1 = some snap ∧ snap.taskId = id) ∧
      ((s.dispatchTask id now).1.isSome → s.dispatchTask id now = s.dispatchNext now) ∧
      ((s.dispatchTask id now).1 = none → ¬ idleRound → (s.dispatchTask id now).2 = s) ∧
      (idleRound → s.dispatchTask id now = s.dispatchNext now ∧ (s.dispatchNext now).1 = none) := by
  intro s idleRound
  have inv : Invariant s := reachable_invariant limit options ops
  have coh := inv.coherent
  have claimed := dispatch_task_eq inv id now
  have waiting : s.taskState id = some .queued ↔ isQueued s.tasks id = true := by
    rw [is_queued_iff, taskState, Option.map_eq_some_iff]
  have peekless : s.policy = .deficitRoundRobin → (s.peekNextTask = none ↔ NoAffordableHead s) := by
    intro deficit
    rw [← peek_deficit_none coh, peekNextTask, deficit]
  by_cases mine : s.peekNextTask = some id
  · rw [if_pos (.inl mine)] at claimed
    have active : ¬ idleRound := fun idle => by
      have nobody := (peekless idle.1).mpr idle.2.2.2
      rw [mine] at nobody
      cases nobody
    rw [claimed]
    refine ⟨?_, fun _ => rfl, fun nothing _ => ?_, fun idle => absurd idle active⟩
    · rw [Option.isSome_iff_exists]
      refine exists_congr fun snap => ⟨fun result => ⟨result, ?_⟩, fun result => result.1⟩
      exact Option.some.inj ((dispatch_next_some inv result).symm.trans mine)
    · rcases dispatch_next_idle inv nothing with ⟨same, _⟩ | ⟨_, nobody⟩
      · rw [same]
      · rw [mine] at nobody
        cases nobody
  · have other : ¬ ∃ snap, (s.dispatchNext now).1 = some snap ∧ snap.taskId = id := by
      rintro ⟨snap, result, named⟩
      exact mine (named ▸ dispatch_next_some inv result)
    by_cases round : s.policy = .deficitRoundRobin ∧ s.peekNextTask = none ∧ isQueued s.tasks id = true
    · rw [if_pos (.inr round)] at claimed
      have nothing : (s.dispatchNext now).1 = none := by
        cases result : (s.dispatchNext now).1 with
        | none => rfl
        | some snap =>
          have peeked := dispatch_next_some inv result
          rw [round.2.1] at peeked
          cases peeked
      rw [claimed, nothing]
      refine ⟨by simp, by simp, fun _ active => ?_, fun _ => ⟨rfl, rfl⟩⟩
      rcases dispatch_next_idle inv nothing with ⟨same, _⟩ | ⟨slot, nobody⟩
      · rw [same]
      · exact absurd ⟨round.1, waiting.mpr round.2.2, slot, (peekless round.1).mp nobody⟩ active
    · rw [if_neg (not_or.mpr ⟨mine, round⟩)] at claimed
      have active : ¬ idleRound := fun idle =>
        round ⟨idle.1, (peekless idle.1).mpr idle.2.2.2, waiting.mp idle.2.1⟩
      rw [claimed]
      exact ⟨by simpa using other, by simp, fun _ _ => rfl, fun idle => absurd idle active⟩

end Scheduler

namespace Scheduler

structure Confined (s t : Scheduler) (id : TaskId) : Prop where
  invariant : Invariant t
  issued : s.nextTaskId ≤ t.nextTaskId
  kept : ∀ other, other ≠ id → t.tasks.lookup other = s.tasks.lookup other

variable {s t : Scheduler} {id other : TaskId}

theorem confined_refl (inv : Invariant s) (id : TaskId) : Confined s s id :=
  ⟨inv, Nat.le_refl _, fun _ _ => rfl⟩

theorem confined_trans {u : Scheduler} (first : Confined s t id) (second : Confined t u id) : Confined s u id :=
  ⟨second.invariant, first.issued.trans second.issued,
    fun other apart => (second.kept other apart).trans (first.kept other apart)⟩

theorem apply_kept (inv : Invariant s) (op : SchedulerOp)
    (apart : op.touches s ≠ some other) : (s.apply op).tasks.lookup other = s.tasks.lookup other := by
  have effect := apply_effect inv op
  generalize s.apply op = t, s.grantedBy op = granted, s.returnedBy op = returned, op.touches s = aimed,
    op.retires = retires at effect apart
  have distinct : ∀ {id : TaskId}, aimed = some id → other ≠ id := fun here same => apart (same ▸ here)
  cases effect with
  | retuned same => rw [same.tasks]
  | accepted spec task added => rw [accepted_lookup added, if_neg (distinct rfl)]
  | dispatched _ _ _ change | suspended _ _ _ change | finished _ _ _ change =>
    rw [moved_lookup change.moved, if_neg (distinct rfl)]
  | forgotten id task erased => rw [forgotten_lookup erased, if_neg (distinct rfl)]

theorem apply_confined (inv : Invariant s) (op : SchedulerOp)
    (aimed : op.touches s = some id) : Confined s (s.apply op) id := by
  have step := apply_step inv op
  refine ⟨step_invariant step inv, step_issued step, fun other apart => ?_⟩
  exact apply_kept inv op (fun touched => apart (Option.some.inj (touched.symm.trans aimed)))

end Scheduler

end Glimmer.Core
