import Glimmer.Core.SchedulerRuns

namespace Glimmer.Core.Scheduler

open Lib

variable {s t : Scheduler}

def ReservationPermits (s : Scheduler) (priority : UInt32) : Prop :=
  s.policy ≠ .priority ∨ s.priorityReservedSlots = 0 ∨
    s.lowRunning < s.maxRunningTasks - s.priorityReservedSlots ∨ s.priorityReservationThreshold ≤ priority

def isLow (s : Scheduler) (id : TaskId) : Bool :=
  match s.tasks.lookup id with
  | none => false
  | some task => task.spec.priority < s.priorityReservationThreshold

def highRunning (s : Scheduler) : Nat :=
  s.runningTaskIds.countP fun id =>
    (s.tasks.lookup id).any fun task => s.priorityReservationThreshold ≤ task.spec.priority

variable {id : TaskId} {task : TaskRecord}

section
variable (coh : Coherent s)
include coh

theorem low_high_running : s.runningTaskIds.length = s.lowRunning + s.highRunning := by
  rw [List.length_eq_countP_add_countP s.isLow]
  refine congrArg (s.lowRunning + ·) (List.countP_congr fun id mem => ?_)
  obtain ⟨task, found, _⟩ := (coh.runningExact id).mp mem
  simp [isLow, found]

theorem peeked_priority (strict : s.policy = .priority) {next : TaskId}
    {best : TaskRecord} (peeked : s.peekNextTask = some next) (chosen : queuedRecord s.tasks next = some best)
    (found : s.tasks.lookup id = some task) (queued : task.state = .queued) :
    task.spec.priority ≤ best.spec.priority := by
  simp only [peekNextTask, strict] at peeked
  have waiting := (queued_record_iff _ _ _).mpr ⟨found, queued⟩
  have least := ((peek_priority_iff coh next).mp peeked).2 id ((is_queued_iff _).mpr ⟨task, found, queued⟩)
  have notBetter : ¬ (queuedPriority s.tasks next).toNat < (queuedPriority s.tasks id).toNat := fun better =>
    not_lt_of_ge least ((priority_rank_lt s.tasks id next).mpr (.inl better))
  simpa [queuedPriority, waiting, chosen, UInt32.le_iff_toNat_le] using notBetter

theorem blocked_forbids (blocked : s.priorityReservationBlocksLowDispatch = true)
    (found : s.tasks.lookup id = some task) (queued : task.state = .queued) :
    ¬ s.ReservationPermits task.spec.priority := by
  unfold priorityReservationBlocksLowDispatch at blocked
  split at blocked
  · cases blocked
  next active =>
  split at blocked
  · cases blocked
  next exhausted =>
  split at blocked
  · cases blocked
  next next peeked =>
  split at blocked
  · cases blocked
  next best waiting =>
  obtain ⟨policy, reserved⟩ := not_or.mp active
  have below := peeked_priority coh (not_not.mp policy) peeked waiting found queued
  rintro (other | unreserved | free | high)
  · exact policy other
  · exact reserved unreserved
  · exact exhausted free
  · exact absurd (of_decide_eq_true blocked) (UInt32.not_lt.mpr (UInt32.le_trans high below))

-- The peeked task is the one that is started, so the check made on it binds.
theorem low_dispatch_room (strict : s.policy = .priority) (ready : Dispatchable s id) (low : s.isLow id = true) :
    s.lowRunning < s.maxRunningTasks - s.priorityReservedSlots := by
  have unreserved := ready.unreserved
  have free : s.lowRunning < s.maxRunningTasks := Nat.lt_of_le_of_lt List.countP_le_length ready.slot
  obtain ⟨task, waiting⟩ := Option.isSome_iff_exists.mp (peek_next_queued coh ready.next)
  simp only [isLow, ((queued_record_iff _ _ _).mp waiting).1] at low
  simp only [priorityReservationBlocksLowDispatch, ready.next, waiting, low] at unreserved
  by_cases none : s.priorityReservedSlots = 0
  · simpa [none] using free
  · simpa [strict, none] using unreserved

end

theorem moved_is_low {next : TaskRecord} {edit : List TaskId → List TaskId}
    (moved : Moved s t id task next edit) (query : TaskId) : t.isLow query = s.isLow query := by
  unfold isLow
  rw [moved_lookup moved, moved.config.threshold]
  by_cases here : query = id
  · subst here
    simp [moved.found, moved.spec]
  · rw [if_neg here]

section Step
variable {granted : Option TaskSpec} {returned : Option TaskId} (coh : Coherent s) (step : Step s t granted returned)
include coh step

theorem step_is_low (mem : id ∈ s.runningTaskIds) : t.isLow id = s.isLow id := by
  obtain ⟨task, found, running⟩ := (coh.runningExact id).mp mem
  cases step with
  | retuned same => simp [isLow, same.tasks, same.config.threshold]
  | accepted spec task added =>
    have old : id ≠ s.nextTaskId := Nat.ne_of_lt (coh.issued id _ found).2
    simp [isLow, accepted_lookup added, if_neg old, added.config.threshold]
  | dispatched _ _ _ change | suspended _ _ _ change | finished _ _ _ change => exact moved_is_low change.moved id
  | forgotten other task erased =>
    have ne : id ≠ other := by
      rintro rfl
      exact erased.notRunning (Option.some.inj (erased.found.symm.trans found) ▸ running)
    simp [isLow, forgotten_lookup erased, if_neg ne, erased.config.threshold]

theorem step_low_running :
    t.lowRunning ≤ s.lowRunning ∨ ∃ id, Dispatchable s id ∧ s.isLow id = true ∧ t.lowRunning = s.lowRunning + 1 := by
  have same : ∀ ids : List TaskId, ids ⊆ s.runningTaskIds → ids.countP t.isLow = ids.countP s.isLow := fun ids below =>
    List.countP_congr fun id mem => by rw [step_is_low coh step (below mem)]
  have kept : t.runningTaskIds.Sublist s.runningTaskIds → t.lowRunning ≤ s.lowRunning := fun below =>
    (same _ below.subset).trans_le below.countP_le
  cases step with
  | retuned change | accepted _ _ change | forgotten _ _ change => exact .inl (kept (change.running ▸ .refl _))
  | dispatched id task next started ready =>
    have counted : t.lowRunning = s.lowRunning + [id].countP t.isLow := by
      have before : _ = s.lowRunning := same _ (List.Subset.refl _)
      rw [← before, ← List.countP_append, ← started.listed]
      rfl
    rw [List.countP_singleton, moved_is_low started.moved] at counted
    by_cases low : s.isLow id = true
    · exact .inr ⟨id, ready, low, by rw [counted, if_pos low]⟩
    · exact .inl (by rw [counted, if_neg low]; exact Nat.le_refl _)
  | suspended _ _ _ change | finished _ _ _ change => exact .inl (kept (change.listed ▸ List.erase_sublist))

end Step

theorem dispatched_ready (inv : Invariant s) {op : SchedulerOp} {snap : TaskSnapshot}
    (started : s.dispatchedBy op = some snap) : Dispatchable s snap.taskId ∧
      ∃ task, queuedRecord s.tasks snap.taskId = some task ∧ snap.priority = task.spec.priority := by
  obtain ⟨task, next, shown, begun, ready⟩ := dispatched_by_spec inv started
  refine ⟨ready, task, (queued_record_iff _ _ _).mpr ⟨begun.moved.found, begun.queued⟩, ?_⟩
  rw [shown]
  exact congrArg TaskSpec.priority begun.moved.spec

theorem run_low_running {ops : List SchedulerOp} {reserved : Nat} (inv : Invariant s)
    (strict : s.policy = .priority) (within : s.lowRunning ≤ s.maxRunningTasks - reserved)
    (constant : ∀ earlier later, ops = earlier ++ later → (s.run earlier).priorityReservedSlots = reserved) :
    (s.run ops).lowRunning ≤ s.maxRunningTasks - reserved := by
  induction ops generalizing s with
  | nil => exact within
  | cons op rest ih =>
    have step := apply_step inv op
    have config := step_configuration step
    have now : s.priorityReservedSlots = reserved := constant [] _ rfl
    rw [← config.maxRunning]
    refine ih (step_invariant step inv) (config.policy.trans strict) ?_ fun earlier later split =>
      constant (op :: earlier) later (by rw [split, List.cons_append])
    rw [config.maxRunning]
    rcases step_low_running inv.coherent step with fewer | ⟨id, ready, low, more⟩
    · exact Nat.le_trans fewer within
    · have room := low_dispatch_room inv.coherent strict ready low
      rw [now] at room
      exact more ▸ room

theorem high_dispatched (inv : Invariant s) (strict : s.policy = .priority)
    (room : s.runningTaskIds.length < s.maxRunningTasks) (now : TimePoint)
    (found : s.tasks.lookup id = some task) (queued : task.state = .queued)
    (high : s.priorityReservationThreshold ≤ task.spec.priority) :
    ∃ snap, (s.dispatchNext now).1 = some snap ∧ s.priorityReservationThreshold ≤ snap.priority := by
  have coh := inv.coherent
  cases result : (s.dispatchNext now).1 with
  | none =>
    rcases dispatch_next_idle inv result with ⟨_, full | blocked⟩ | ⟨_, nobody⟩
    · exact absurd room (Nat.not_lt.mpr full)
    · exact absurd (.inr (.inr (.inr high))) (blocked_forbids coh blocked found queued)
    · have silent := peek_none_nothing coh (by simp [strict]) nobody id
      exact absurd ((is_queued_iff _).mpr ⟨task, found, queued⟩) (by simp [silent])
  | some snap =>
    obtain ⟨ready, best, chosen, priority⟩ :=
      dispatched_ready inv (show s.dispatchedBy (.dispatchNext now) = some snap from result)
    have above := peeked_priority coh strict ready.next chosen found queued
    exact ⟨snap, rfl, priority ▸ UInt32.le_trans high above⟩

theorem reserved_slots_never_lent (limit : MemoryBytes) (options : SchedulerOptions) (ops : List SchedulerOp) :
    let start := new limit { options with schedulingPolicy := .priority }
    let s := start.run ops
    (∀ op snap, s.dispatchedBy op = some snap → snap.priority < s.priorityReservationThreshold →
        s.lowRunning < s.maxRunningTasks - s.priorityReservedSlots) ∧
      ∀ reserved, (∀ earlier later, ops = earlier ++ later → (start.run earlier).priorityReservedSlots = reserved) →
        s.lowRunning ≤ s.maxRunningTasks - reserved ∧
        ∀ id task now, s.tasks.lookup id = some task → task.state = .queued →
          s.priorityReservationThreshold ≤ task.spec.priority → s.highRunning < reserved →
          ∃ snap, (s.dispatchNext now).1 = some snap ∧ s.priorityReservationThreshold ≤ snap.priority := by
  intro start s
  have initial : Invariant start := new_invariant limit _
  have inv : Invariant s := run_invariant ops initial
  have config := run_configuration ops initial
  refine ⟨fun op snap started low => ?_, fun reserved constant => ?_⟩
  · obtain ⟨ready, task, waiting, priority⟩ := dispatched_ready inv started
    refine low_dispatch_room inv.coherent config.policy ready ?_
    simp [isLow, ((queued_record_iff _ _ _).mp waiting).1, ← priority, low]
  · have below : s.lowRunning ≤ s.maxRunningTasks - reserved :=
      config.maxRunning ▸ run_low_running initial rfl (Nat.zero_le _) constant
    refine ⟨below, fun id task now found queued high fewer => high_dispatched inv config.policy ?_ now found queued high⟩
    have fits : reserved ≤ s.maxRunningTasks := by
      rw [config.maxRunning, ← constant [] ops rfl]
      exact Nat.min_le_right _ _
    rw [low_high_running inv.coherent]
    omega

variable {s : Scheduler}

-- No queued task has a higher priority, and none of the same priority a smaller id.
def Foremost (s : Scheduler) (id : TaskId) : Prop :=
  ∃ task, queuedRecord s.tasks id = some task ∧ ∀ other waiting, queuedRecord s.tasks other = some waiting →
    waiting.spec.priority < task.spec.priority ∨ waiting.spec.priority = task.spec.priority ∧ id ≤ other

-- The low tasks that run have used up their slots, and no other task is queued.
structure Withholds (s : Scheduler) : Prop where
  reserved : s.priorityReservedSlots ≠ 0
  spent : s.maxRunningTasks - s.priorityReservedSlots ≤ s.lowRunning
  low : ∀ id task, queuedRecord s.tasks id = some task → task.spec.priority < s.priorityReservationThreshold

theorem peeked_foremost (coh : Coherent s) (strict : s.policy = .priority) {id : TaskId}
    (peeked : s.peekNextTask = some id) : s.Foremost id := by
  simp only [peekNextTask, strict] at peeked
  obtain ⟨queued, least⟩ := (peek_priority_iff coh id).mp peeked
  obtain ⟨task, found⟩ := Option.isSome_iff_exists.mp queued
  refine ⟨task, found, fun other waiting present => ?_⟩
  have unbeaten := not_lt_of_ge (least other (by simp [isQueued, present]))
  simp only [priority_rank_lt, queuedPriority, found, present, Option.map_some, Option.getD_some, not_or,
    not_and, Nat.not_lt] at unbeaten
  obtain ⟨notAbove, notEarlier⟩ := unbeaten
  rcases Nat.lt_or_eq_of_le notAbove with below | same
  · exact .inl (UInt32.lt_iff_toNat_lt.mpr below)
  · have equal := UInt32.toNat_inj.mp same
    exact .inr ⟨equal, notEarlier equal⟩

theorem blocks_iff (coh : Coherent s) (strict : s.policy = .priority) :
    s.priorityReservationBlocksLowDispatch = true ↔ s.Withholds ∧ ∃ id, isQueued s.tasks id = true := by
  simp only [priorityReservationBlocksLowDispatch, strict]
  cases peeked : s.peekNextTask with
  | none =>
    have nobody := peek_none_nothing coh (by simp [strict]) peeked
    simp [nobody]
  | some next =>
    have queued := peek_next_queued coh peeked
    obtain ⟨best, chosen⟩ := Option.isSome_iff_exists.mp queued
    have highest : ∀ id task, queuedRecord s.tasks id = some task → task.spec.priority ≤ best.spec.priority := by
      intro id task waiting
      obtain ⟨found, state⟩ := (queued_record_iff _ _ _).mp waiting
      exact peeked_priority coh strict peeked chosen found state
    simp only [chosen]
    constructor
    · intro blocked
      split at blocked
      · cases blocked
      next active =>
      split at blocked
      · cases blocked
      next spent =>
      have low := of_decide_eq_true blocked
      exact ⟨⟨by simpa using active, Nat.not_lt.mp spent, fun id task waiting =>
        UInt32.lt_of_le_of_lt (highest id task waiting) low⟩, next, queued⟩
    · rintro ⟨⟨reserved, spent, low⟩, _⟩
      simp [reserved, Nat.not_lt.mpr spent, low next best chosen]

theorem dispatch_next_none_iff (inv : Invariant s) (now : TimePoint) : (s.dispatchNext now).1 = none ↔
    s.maxRunningTasks ≤ s.runningTaskIds.length ∨ s.priorityReservationBlocksLowDispatch = true ∨
      s.peekNextTask = none := by
  constructor
  · intro nothing
    rcases dispatch_next_idle inv nothing with ⟨_, full | blocked⟩ | ⟨_, nobody⟩
    · exact .inl full
    · exact .inr (.inl blocked)
    · exact .inr (.inr nobody)
  · intro idle
    rcases dispatch_next_cases inv now with ⟨t, result, _⟩ | ⟨id, task, next, t, _, _, ready, _⟩
    · rw [result]
    · rcases idle with full | blocked | nobody
      · exact absurd ready.slot (Nat.not_lt.mpr full)
      · cases ready.unreserved.symm.trans blocked
      · cases ready.next.symm.trans nobody

theorem peek_next_none_iff (coh : Coherent s) (policy : s.policy ≠ .deficitRoundRobin) :
    s.peekNextTask = none ↔ ∀ id, isQueued s.tasks id = false := by
  refine ⟨fun nobody => peek_none_nothing coh policy nobody, fun nobody => ?_⟩
  cases peeked : s.peekNextTask with
  | none => rfl
  | some id => cases (nobody id).symm.trans (peek_next_queued coh peeked)

theorem rewalked_invariant (inv : Invariant s) {queues : KeyedMap TenantId TenantQueue}
    (walked : ∀ tenant, queues.lookup tenant = s.tenantQueues.lookup tenant) :
    Invariant { s with tenantQueues := queues } := by
  have deques : ∀ tenant, dequeOf { s with tenantQueues := queues } tenant = s.dequeOf tenant := fun tenant =>
    congrArg (Option.map TenantQueue.taskIds) (walked tenant)
  have known : ∀ tenant, tenant ∈ queues ↔ tenant ∈ s.tenantQueues := by
    intro tenant
    rw [← AList.lookup_isSome, ← AList.lookup_isSome, walked]
  obtain ⟨coh, quota⟩ := inv
  refine ⟨{ coh with
    orderKeys := fun tenant => (coh.orderKeys tenant).trans (known tenant).symm
    placed := fun id task found queued => deques _ ▸ coh.placed id task found queued
    owned := fun tenant ids id deque => coh.owned tenant ids id (deques tenant ▸ deque)
    dequeNodup := fun tenant ids deque => coh.dequeNodup tenant ids (deques tenant ▸ deque)
    tenantKnown := fun id task found => (known _).mpr (coh.tenantKnown id task found) }, { quota with }⟩

theorem dispatch_choice_exact (limit : MemoryBytes) (options : SchedulerOptions) (ops : List SchedulerOp)
    (now : TimePoint) (queues : KeyedMap TenantId TenantQueue)
    (walked : ∀ tenant, queues.lookup tenant = ((new limit options).run ops).tenantQueues.lookup tenant) :
    let s := { (new limit options).run ops with tenantQueues := queues }
    let chosen := (s.dispatchNext now).1
    (options.schedulingPolicy = .priority → (∀ snap, chosen = some snap → s.Foremost snap.taskId) ∧
      (chosen = none ↔ s.maxRunningTasks ≤ s.runningTaskIds.length ∨ (∀ id, isQueued s.tasks id = false) ∨
        s.Withholds)) ∧
    (options.schedulingPolicy = .fifo →
      (∀ snap, chosen = some snap → isQueued s.tasks snap.taskId = true ∧
        ∀ other, isQueued s.tasks other = true → snap.taskId ≤ other) ∧
      (chosen = none ↔ s.maxRunningTasks ≤ s.runningTaskIds.length ∨ ∀ id, isQueued s.tasks id = false)) := by
  intro s chosen
  have initial := new_invariant limit options
  have inv : Invariant s := rewalked_invariant (run_invariant ops initial) walked
  have coh := inv.coherent
  have policy : s.policy = options.schedulingPolicy := (run_configuration ops initial).policy
  have ready : ∀ snap, chosen = some snap → s.peekNextTask = some snap.taskId := fun snap started =>
    (dispatched_ready inv (show s.dispatchedBy (.dispatchNext now) = some snap from started)).1.next
  refine ⟨fun kind => ?_, fun kind => ?_⟩
  · have strict := policy.trans kind
    refine ⟨fun snap started => peeked_foremost coh strict (ready snap started), ?_⟩
    rw [dispatch_next_none_iff inv, blocks_iff coh strict, peek_next_none_iff coh (by simp [strict])]
    constructor
    · rintro (full | ⟨withheld, _⟩ | nobody)
      · exact .inl full
      · exact .inr (.inr withheld)
      · exact .inr (.inl nobody)
    · rintro (full | nobody | withheld)
      · exact .inl full
      · exact .inr (.inr nobody)
      · by_cases waiting : ∃ id, isQueued s.tasks id = true
        · exact .inr (.inl ⟨withheld, waiting⟩)
        · exact .inr (.inr (by simpa using waiting))
  · have first := policy.trans kind
    have unblocked : s.priorityReservationBlocksLowDispatch = false := by
      simp [priorityReservationBlocksLowDispatch, first]
    refine ⟨fun snap started => ?_, ?_⟩
    · have peeked := ready snap started
      simp only [peekNextTask, first] at peeked
      exact (peek_fifo_iff coh _).mp peeked
    · rw [dispatch_next_none_iff inv, unblocked, peek_next_none_iff coh (by simp [first])]
      simp

theorem high_submission_first :
    let ops := [.submit { tenantId := "a", memoryBytes := 8, priority := 1 } 0,
      .submit { tenantId := "b", memoryBytes := 8, priority := 2 } 0]
    let s := (new 100 { schedulingPolicy := .priority }).run ops
    (s.dispatchNext 0).1.map TaskSnapshot.taskId = some 2 ∧ s.Foremost 2 := by
  intro ops s
  have chosen : (s.dispatchNext 0).1.map TaskSnapshot.taskId = some 2 := by decide +kernel
  obtain ⟨snap, started, second⟩ := Option.map_eq_some_iff.mp chosen
  have exact_choice :=
    (dispatch_choice_exact 100 { schedulingPolicy := .priority } ops 0 s.tenantQueues fun _ => rfl).1 rfl
  exact ⟨chosen, second ▸ exact_choice.1 snap started⟩

end Glimmer.Core.Scheduler
