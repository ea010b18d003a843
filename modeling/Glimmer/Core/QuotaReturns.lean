import Glimmer.Core.SchedulerRuns

namespace Glimmer.Core

open Lib

namespace Scheduler

def usage (s : Scheduler) : Nat := s.ledger.reservedBytes.toNat + s.ledger.allocatedBytes.toNat

def Live (s : Scheduler) (id : TaskId) : Prop := s.taskState id = some .queued ∨ s.taskState id = some .running

instance (s : Scheduler) (id : TaskId) : Decidable (s.Live id) := by
  unfold Live
  infer_instance

theorem live_iff (s : Scheduler) (id : TaskId) :
    s.Live id ↔ ∃ task, s.tasks.lookup id = some task ∧ (task.state = .queued ∨ task.state = .running) := by
  simp only [Live, taskState, Option.map_eq_some_iff]
  constructor
  · rintro (⟨task, found, state⟩ | ⟨task, found, state⟩)
    · exact ⟨task, found, .inl state⟩
    · exact ⟨task, found, .inr state⟩
  · rintro ⟨task, found, state | state⟩
    · exact .inl ⟨task, found, state⟩
    · exact .inr ⟨task, found, state⟩

end Scheduler

-- A run with the bytes of every accepted submission and of every return, in the order in which they happened.
structure Trail where
  state : Scheduler
  submitted : List (TaskId × Nat) := []
  returned : List (TaskId × Nat) := []

def Trail.step (trail : Trail) (op : SchedulerOp) : Trail where
  state := trail.state.apply op
  submitted := trail.submitted ++ ((trail.state.grantedBy op).map fun spec =>
    (trail.state.nextTaskId, spec.memoryBytes.toNat)).toList
  returned := trail.returned ++ ((trail.state.returnedBy op).map fun id =>
    (id, trail.state.usage - (trail.state.apply op).usage)).toList

def Trail.run (limit : MemoryBytes) (options : SchedulerOptions) (ops : List SchedulerOp) : Trail :=
  ops.foldl Trail.step { state := .new limit options }

variable {id : TaskId}

namespace Scheduler

variable {s t : Scheduler} {granted : Option TaskSpec} {returned : Option TaskId}

theorem moved_live {task next : TaskRecord} {edit : List TaskId → List TaskId}
    (moved : Moved s t id task next edit) {query : TaskId} :
    t.Live query ↔ if query = id then next.state = .queued ∨ next.state = .running else s.Live query := by
  rw [live_iff, moved_lookup moved]
  split
  · simp
  · rw [live_iff]

section
variable (step : Step s t granted returned)
include step

theorem step_live (id : TaskId) :
    t.Live id ↔ (s.Live id ∧ returned ≠ some id) ∨ (granted.isSome ∧ id = s.nextTaskId) := by
  cases step with
  | retuned same => simp [Live, taskState, same.tasks]
  | accepted spec task added =>
    rw [live_iff, accepted_lookup added]
    split
    · next here => simp [here, added.queued]
    · next elsewhere => simp [live_iff, elsewhere]
  | dispatched _ _ _ change | suspended _ _ _ change =>
    rw [moved_live change.moved]
    split
    · next here => simp [here, live_iff, change.moved.found, change.queued, change.running]
    · simp
  | finished other task next ended =>
    rw [moved_live ended.moved]
    split
    · next here => simp [here, ended.notQueued, ended.notRunning]
    · next elsewhere => simp [Ne.symm elsewhere]
  | forgotten other task erased =>
    rw [live_iff, forgotten_lookup erased]
    split
    · next here => simp [here, live_iff, erased.found, erased.notQueued, erased.notRunning]
    · simp [live_iff]

theorem step_spec {next : TaskRecord} (found : t.tasks.lookup id = some next) :
    (∃ task, s.tasks.lookup id = some task ∧ task.spec = next.spec) ∨ (granted = some next.spec ∧ id = s.nextTaskId) := by
  cases step with
  | retuned same => exact .inl ⟨next, same.tasks ▸ found, rfl⟩
  | accepted spec task added =>
    rw [accepted_lookup added] at found
    split at found
    · next here =>
      cases found
      exact .inr ⟨congrArg some added.spec_eq.symm, here⟩
    · exact .inl ⟨next, found, rfl⟩
  | dispatched _ _ _ change | suspended _ _ _ change | finished _ _ _ change =>
    have moved := change.moved
    rw [moved_lookup moved] at found
    split at found
    · next here =>
      cases found
      exact .inl ⟨_, here ▸ moved.found, moved.spec.symm⟩
    · exact .inl ⟨next, found, rfl⟩
  | forgotten other task erased => exact .inl ⟨next, forgotten_survivor erased found, rfl⟩

theorem step_usage :
    (∀ spec, granted = some spec → t.usage = s.usage + spec.memoryBytes.toNat) ∧
      (∀ id, returned = some id → ∃ task, s.tasks.lookup id = some task ∧
        (task.state = .queued ∨ task.state = .running) ∧ s.usage = t.usage + task.spec.memoryBytes.toNat) ∧
      (granted = none → returned = none → t.usage = s.usage) := by
  cases step with
  | retuned same | suspended _ _ _ same | forgotten _ _ same =>
    refine ⟨by simp, by simp, fun _ _ => ?_⟩
    rw [usage, usage, same.ledger]
  | accepted spec task added =>
    refine ⟨?_, by simp, by simp⟩
    rintro _ ⟨⟩
    rw [usage, usage, added.reserved, added.allocated]
    omega
  | dispatched id task next started ready =>
    refine ⟨by simp, by simp, fun _ _ => ?_⟩
    have weights := live_weights id (.inl started.queued)
    have reserved := started.reserved
    have allocated := started.allocated
    unfold usage
    omega
  | finished id task next ended =>
    refine ⟨by simp, ?_, by simp⟩
    rintro _ ⟨⟩
    have weights := live_weights id ended.live
    have reserved := ended.reserved
    have allocated := ended.allocated
    refine ⟨task, ended.moved.found, ended.live, ?_⟩
    unfold usage
    omega

end

end Scheduler

open Scheduler

-- Live tasks were submitted with their bytes; the returned entries are the submitted ones no longer live.
structure Accounted (trail : Trail) : Prop where
  invariant : Invariant trail.state
  issued : ∀ entry ∈ trail.submitted, entry.1 < trail.state.nextTaskId
  distinct : (trail.submitted.map Prod.fst).Nodup
  recorded : ∀ id task, trail.state.tasks.lookup id = some task → (id, task.spec.memoryBytes.toNat) ∈ trail.submitted
  returned : ∀ entry, entry ∈ trail.returned ↔ entry ∈ trail.submitted ∧ ¬ trail.state.Live entry.1
  once : (trail.returned.map Prod.fst).Nodup

variable {trail : Trail} {s t : Scheduler}

section
variable (accounted : Accounted trail)
include accounted

theorem accounted_quiet (step : Step trail.state t none none) : Accounted { trail with state := t } := by
  have live : ∀ id, t.Live id ↔ trail.state.Live id := by
    intro id
    simpa using step_live step id
  refine ⟨step_invariant step accounted.invariant, ?_, accounted.distinct, ?_, ?_, accounted.once⟩
  · intro entry mem
    rw [step_next_id step]
    exact Nat.lt_add_right _ (accounted.issued entry mem)
  · intro id next found
    rcases step_spec step found with ⟨task, before, same⟩ | ⟨impossible, _⟩
    · exact same ▸ accounted.recorded id task before
    · cases impossible
  · intro entry
    rw [live]
    exact accounted.returned entry

theorem accounted_granted {spec : TaskSpec} (step : Step trail.state t (some spec) none) :
    Accounted { trail with
      state := t
      submitted := trail.submitted ++ [(trail.state.nextTaskId, spec.memoryBytes.toNat)] } := by
  have fresh : ∀ entry ∈ trail.submitted, entry.1 ≠ trail.state.nextTaskId := fun entry mem =>
    Nat.ne_of_lt (accounted.issued entry mem)
  have live : ∀ id, t.Live id ↔ trail.state.Live id ∨ id = trail.state.nextTaskId := by
    intro id
    simpa using step_live step id
  have nextId : t.nextTaskId = trail.state.nextTaskId + 1 := step_next_id step
  refine ⟨step_invariant step accounted.invariant, ?_, ?_, ?_, ?_, accounted.once⟩
  · intro entry mem
    rw [nextId]
    rcases List.mem_append.mp mem with old | new
    · exact Nat.lt_succ_of_lt (accounted.issued entry old)
    · rw [List.mem_singleton.mp new]
      exact Nat.lt_succ_self _
  · rw [List.map_append, List.nodup_append]
    refine ⟨accounted.distinct, List.nodup_singleton _, ?_⟩
    intro id old next new
    obtain ⟨entry, mem, same⟩ := List.mem_map.mp old
    rw [List.map_singleton, List.mem_singleton] at new
    rw [new, ← same]
    exact fresh entry mem
  · intro id next found
    rcases step_spec step found with ⟨task, before, same⟩ | ⟨granted, here⟩
    · exact List.mem_append_left _ (same ▸ accounted.recorded id task before)
    · cases granted
      rw [here]
      exact List.mem_append_right _ (List.mem_singleton_self _)
  · intro entry
    rw [live, accounted.returned, List.mem_append, List.mem_singleton]
    constructor
    · rintro ⟨mem, dead⟩
      exact ⟨.inl mem, not_or.mpr ⟨dead, fresh entry mem⟩⟩
    · rintro ⟨mem | new, dead⟩
      · exact ⟨mem, (not_or.mp dead).1⟩
      · rw [new] at dead
        exact absurd rfl (not_or.mp dead).2

theorem accounted_returned (step : Step trail.state t none (some id)) :
    Accounted { trail with
      state := t
      returned := trail.returned ++ [(id, trail.state.usage - t.usage)] } := by
  obtain ⟨task, found, alive, freed⟩ := (step_usage step).2.1 id rfl
  have drop : trail.state.usage - t.usage = task.spec.memoryBytes.toNat := by omega
  have before : trail.state.Live id := (live_iff _ _).mpr ⟨task, found, alive⟩
  have submitted := accounted.recorded id task found
  have live : ∀ other, t.Live other ↔ trail.state.Live other ∧ id ≠ other := by
    intro other
    simpa using step_live step other
  refine ⟨step_invariant step accounted.invariant, ?_, accounted.distinct, ?_, ?_, ?_⟩
  · intro entry mem
    rw [step_next_id step]
    exact accounted.issued entry mem
  · intro other next survivor
    rcases step_spec step survivor with ⟨record, earlier, same⟩ | ⟨impossible, _⟩
    · exact same ▸ accounted.recorded other record earlier
    · cases impossible
  · intro entry
    rw [List.mem_append, List.mem_singleton, accounted.returned, live, drop]
    constructor
    · rintro (⟨mem, dead⟩ | new)
      · exact ⟨mem, fun still => dead still.1⟩
      · rw [new]
        exact ⟨submitted, fun still => still.2 rfl⟩
    · rintro ⟨mem, dead⟩
      by_cases here : entry.1 = id
      · exact .inr (List.inj_on_of_nodup_map accounted.distinct mem submitted here)
      · exact .inl ⟨mem, fun still => dead ⟨still, Ne.symm here⟩⟩
  · rw [List.map_append, List.nodup_append]
    refine ⟨accounted.once, List.nodup_singleton _, ?_⟩
    intro other old last new
    obtain ⟨entry, mem, same⟩ := List.mem_map.mp old
    rw [List.map_singleton, List.mem_singleton] at new
    intro clash
    exact ((accounted.returned entry).mp mem).2 (by rwa [same, clash, new])

theorem accounted_step (op : SchedulerOp) : Accounted (trail.step op) := by
  have step := apply_step accounted.invariant op
  unfold Trail.step
  generalize trail.state.grantedBy op = granted, trail.state.returnedBy op = returned at step
  cases granted with
  | none =>
    cases returned with
    | none => simpa using accounted_quiet accounted step
    | some id => simpa using accounted_returned accounted step
  | some spec =>
    cases returned with
    | none => simpa using accounted_granted accounted step
    | some id => cases step

end

section
variable (limit : MemoryBytes) (options : SchedulerOptions) (ops : List SchedulerOp)

theorem accounted_run : Accounted (Trail.run limit options ops) := by
  have start : Accounted { state := .new limit options } :=
    ⟨new_invariant limit options, by simp, by simp, by simp [Scheduler.new], by simp, by simp⟩
  have through : ∀ trail : Trail, Accounted trail → Accounted (ops.foldl Trail.step trail) := by
    induction ops with
    | nil => exact fun _ accounted => accounted
    | cons op rest ih => exact fun trail accounted => ih (trail.step op) (accounted_step accounted op)
  exact through _ start

theorem trail_state : (Trail.run limit options ops).state = (Scheduler.new limit options).run ops := by
  have through : ∀ trail : Trail, (ops.foldl Trail.step trail).state = trail.state.run ops := by
    induction ops with
    | nil => exact fun _ => rfl
    | cons op rest ih => exact fun trail => ih (trail.step op)
  exact through _

theorem step_limit {granted : Option TaskSpec} {returned : Option TaskId}
    (step : Step s t granted returned) : t.ledger.limitBytes = s.ledger.limitBytes := by
  cases step with
  | retuned change | suspended _ _ _ change | forgotten _ _ change => rw [change.ledger]
  | accepted _ _ change | dispatched _ _ _ change | finished _ _ _ change => exact change.limit

theorem run_limit (inv : Invariant s) : (s.run ops).ledger.limitBytes = s.ledger.limitBytes :=
  run_keeps (motive := fun t => t.ledger.limitBytes = s.ledger.limitBytes) inv rfl fun op _ _ before same =>
    (step_limit (apply_step before op)).trans same

end

theorem running_task_ends (inv : Invariant s) (now : TimePoint) (running : s.taskState id = some .running) :
    (s.complete id now).1 = true ∧ (s.fail id now).1 = true ∧ (s.cancel id now).1 = true := by
  refine ⟨?_, ?_, ?_⟩
  · rcases finisher_cases inv .complete id now with ⟨_, idle⟩ | ⟨_, _, t, result, _⟩
    · exact absurd running idle
    · rw [result]
  · rcases finisher_cases inv .fail id now with ⟨_, idle⟩ | ⟨_, _, t, result, _⟩
    · exact absurd running idle
    · rw [result]
  · rcases cancel_cases inv id now with ⟨_, _, idle⟩ | ⟨_, _, t, result, _⟩
    · exact absurd running idle
    · rw [result]

theorem queued_task_ends (inv : Invariant s) (now : TimePoint)
    (queued : s.taskState id = some .queued) : (s.cancel id now).1 = true ∧ (s.cancelQueued id).1 = true := by
  constructor
  · rcases cancel_cases inv id now with ⟨_, idle, _⟩ | ⟨_, _, t, result, _⟩
    · exact absurd queued idle
    · rw [result]
  · rcases cancel_queued_cases inv id with ⟨_, idle⟩ | ⟨_, _, t, result, _⟩
    · exact absurd queued idle
    · rw [result]

theorem idle_usage (quota : QuotaExact s) (idle : ∀ id, ¬ s.Live id) : s.usage = 0 := by
  have dead : ∀ id task, s.tasks.lookup id = some task → task.state ≠ .queued ∧ task.state ≠ .running := by
    intro id task found
    exact not_or.mp fun live => idle id ((live_iff s id).mpr ⟨task, found, live⟩)
  have reserved : KeyedMap.total reservedWeight s.tasks = 0 :=
    KeyedMap.total_eq_zero _ _ fun id task found => by simp [reservedWeight, (dead id task found).1]
  have allocated : KeyedMap.total allocatedWeight s.tasks = 0 :=
    KeyedMap.total_eq_zero _ _ fun id task found => by
      simp [allocatedWeight, (dead id task found).1, (dead id task found).2]
  rw [usage, quota.reserved, quota.allocated, reserved, allocated]

theorem quota_conservation (limit : MemoryBytes) (options : SchedulerOptions) (ops : List SchedulerOp) :
    let s := (Scheduler.new limit options).run ops
    let trail := Trail.run limit options ops
    s.ledger.reservedBytes.toNat = KeyedMap.total reservedWeight s.tasks ∧
      s.ledger.allocatedBytes.toNat = KeyedMap.total allocatedWeight s.tasks ∧
      s.ledger.reservedBytes.toNat + s.ledger.allocatedBytes.toNat ≤ limit.toNat ∧
      s.ledger.usedBytes.toNat = s.ledger.reservedBytes.toNat + s.ledger.allocatedBytes.toNat ∧
      (∀ id task, s.tasks.lookup id = some task →
        ((task.state = .queued ∧ task.dispatchSequence = 0) →
          (s.ledger.cancelReservation task.spec.memoryBytes).1 = true) ∧
        ((task.state = .running ∨ (task.state = .queued ∧ task.dispatchSequence ≠ 0)) →
          (s.ledger.release task.spec.memoryBytes).1 = true)) ∧
      (∀ id now, s.taskState id = some .running →
        (s.complete id now).1 = true ∧ (s.fail id now).1 = true ∧ (s.cancel id now).1 = true) ∧
      (∀ id now, s.taskState id = some .queued → (s.cancel id now).1 = true ∧ (s.cancelQueued id).1 = true) ∧
      trail.state = s ∧
      (∀ id bytes, (id, bytes) ∈ trail.submitted →
        (s.Live id → id ∉ trail.returned.map Prod.fst) ∧
        (¬ s.Live id → (id, bytes) ∈ trail.returned ∧ (trail.returned.map Prod.fst).count id = 1)) ∧
      (∀ entry ∈ trail.returned, entry ∈ trail.submitted) ∧
      (∀ op, s.returnedBy op = none → s.usage ≤ (s.apply op).usage) ∧
      ((∀ id, ¬ s.Live id) → s.ledger.usedBytes = 0) := by
  intro s trail
  have inv : Invariant s := reachable_invariant limit options ops
  have quota := inv.quota
  have books : Accounted trail := accounted_run limit options ops
  have same : trail.state = s := trail_state limit options ops
  have limited : s.ledger.limitBytes = limit := run_limit ops (new_invariant limit options)
  have used := s.ledger.used_bytes_exact
  rw [min_eq_left (Nat.le_of_lt_succ (Nat.lt_of_le_of_lt quota.bounded s.ledger.limit_bound))] at used
  refine ⟨quota.reserved, quota.allocated, limited ▸ quota.bounded, used, ?_, fun id now => running_task_ends inv now,
    fun id now => queued_task_ends inv now, same, ?_, fun entry mem => ((books.returned entry).mp mem).1, ?_, ?_⟩
  · refine fun id task found => ⟨fun waits => ?_, fun held => ?_⟩
    · have covered := reserved_covers quota found
      rw [reservedWeight, if_pos waits] at covered
      rw [(s.ledger.cancel_reservation_exact _ covered).1]
    · have covered := allocated_covers quota found
      rw [allocatedWeight, if_pos held] at covered
      rw [(s.ledger.release_exact _ covered).1]
  · intro id bytes submitted
    rw [← same]
    refine ⟨fun live gone => ?_, fun dead => ?_⟩
    · obtain ⟨entry, mem, named⟩ := List.mem_map.mp gone
      exact ((books.returned entry).mp mem).2 (named ▸ live)
    · have mem := (books.returned (id, bytes)).mpr ⟨submitted, dead⟩
      exact ⟨mem, List.count_eq_one_of_mem books.once (List.mem_map.mpr ⟨_, mem, rfl⟩)⟩
  · intro op quiet
    obtain ⟨grown, _, still⟩ := step_usage (apply_step inv op)
    cases granted : s.grantedBy op with
    | none => exact Nat.le_of_eq (still granted quiet).symm
    | some spec =>
      rw [grown spec granted]
      exact Nat.le_add_right _ _
  · intro idle
    apply UInt64.toNat_inj.mp
    rw [used]
    exact idle_usage quota idle

namespace Scheduler

structure Settled (s t : Scheduler) : Prop where
  nextId : t.nextTaskId = s.nextTaskId
  live : ∀ id, t.Live id → s.Live id
  running : ∀ id, t.taskState id = some .running → s.taskState id = some .running

theorem settled_refl (s : Scheduler) : Settled s s := ⟨rfl, fun _ live => live, fun _ runs => runs⟩

variable {s : Scheduler} {op : SchedulerOp}

theorem settled_trans {t u : Scheduler} (first : Settled s t) (second : Settled t u) : Settled s u :=
  ⟨second.nextId.trans first.nextId, fun id live => first.live id (second.live id live),
    fun id runs => first.running id (second.running id runs)⟩

section Records
variable {s t : Scheduler} {id other : TaskId}

theorem moved_running {task next : TaskRecord} {edit : List TaskId → List TaskId} (moved : Moved s t id task next edit)
    (stops : next.state ≠ .running) (runs : t.taskState other = some .running) : s.taskState other = some .running := by
  rw [taskState, moved_lookup moved] at runs
  split at runs
  · rw [Option.map_some] at runs
    exact absurd (Option.some.inj runs) stops
  · exact runs

end Records

theorem retires_running (inv : Invariant s) (retires : op.retires = true) (id : TaskId)
    (runs : (s.apply op).taskState id = some .running) : s.taskState id = some .running := by
  have effect := apply_effect inv op
  rw [retires] at effect
  generalize s.apply op = t, s.grantedBy op = granted, s.returnedBy op = returned, op.touches s = aimed at effect runs
  cases effect with
  | retuned same => rwa [taskState, same.tasks] at runs
  | suspended other task next stopped => exact moved_running stopped.moved (by rw [stopped.queued]; decide) runs
  | finished other task next ended => exact moved_running ended.moved ended.notRunning runs
  | forgotten other task erased =>
    rw [taskState, forgotten_lookup erased] at runs
    split at runs
    · cases runs
    · exact runs

theorem apply_settled (inv : Invariant s) (retires : op.retires = true) : Settled s (s.apply op) := by
  have step := apply_step inv op
  have nothing : s.grantedBy op = none := by
    cases op with
    | submit => cases retires
    | _ => rfl
  rw [nothing] at step
  refine ⟨by rw [step_next_id step]; rfl, fun id live => ?_, retires_running inv retires⟩
  rcases (step_live step id).mp live with ⟨before, _⟩ | ⟨granted, _⟩
  · exact before
  · cases granted

theorem run_settled (inv : Invariant s) {ops : List SchedulerOp} (retire : ∀ op ∈ ops, op.retires = true) :
    Settled s (s.run ops) :=
  run_keeps inv (settled_refl s) fun op mem _ before settled =>
    settled_trans settled (apply_settled before (retire op mem))

-- An ended task never runs again, and its record stays as it ended until it is forgotten.
def KeepsEnded (s t : Scheduler) : Prop :=
  ∀ id, id < s.nextTaskId → ¬ s.Live id →
    ¬ t.Live id ∧ (t.tasks.lookup id = s.tasks.lookup id ∨ t.tasks.lookup id = none)

theorem step_keeps_ended {t : Scheduler} {granted : Option TaskSpec} {returned : Option TaskId}
    (step : Step s t granted returned) : KeepsEnded s t := by
  intro id issued ended
  have apart : ∀ {other record}, s.tasks.lookup other = some record → record.state = .queued ∨ record.state = .running →
      id ≠ other := fun found live same => ended ((live_iff s id).mpr ⟨_, same ▸ found, live⟩)
  refine ⟨fun live => ?_, ?_⟩
  · rcases (step_live step id).mp live with ⟨live, _⟩ | ⟨_, rfl⟩
    · exact ended live
    · exact Nat.lt_irrefl _ issued
  cases step with
  | retuned same => exact .inl (by rw [same.tasks])
  | accepted spec task added => exact .inl (by rw [accepted_lookup added, if_neg (Nat.ne_of_lt issued)])
  | dispatched other task next started =>
    exact .inl (by rw [moved_lookup started.moved, if_neg (apart started.moved.found (.inl started.queued))])
  | suspended other task next stopped =>
    exact .inl (by rw [moved_lookup stopped.moved, if_neg (apart stopped.moved.found (.inr stopped.running))])
  | finished other task next done =>
    exact .inl (by rw [moved_lookup done.moved, if_neg (apart done.moved.found done.live)])
  | forgotten other task erased =>
    rw [forgotten_lookup erased]
    split
    · exact .inr rfl
    · exact .inl rfl

theorem ended_tasks_stay (limit : MemoryBytes) (options : SchedulerOptions) (ops later : List SchedulerOp) :
    KeepsEnded ((new limit options).run ops) (((new limit options).run ops).run later) := by
  refine (run_keeps (motive := fun t => ((new limit options).run ops).nextTaskId ≤ t.nextTaskId ∧ KeepsEnded _ t)
    (reachable_invariant limit options ops) ⟨Nat.le_refl _, fun _ _ idle => ⟨idle, .inl rfl⟩⟩ ?_).2
  rintro op _ t before ⟨counted, kept⟩
  have step := apply_step before op
  refine ⟨counted.trans (step_issued step), fun id issued idle => ?_⟩
  obtain ⟨ended, stays⟩ := kept id issued idle
  obtain ⟨still, same | gone⟩ := step_keeps_ended step id (issued.trans_le counted) ended
  · exact ⟨still, by rwa [same]⟩
  · exact ⟨still, .inr gone⟩

end Scheduler

end Glimmer.Core
