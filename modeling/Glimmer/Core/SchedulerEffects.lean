import Glimmer.Core.Scheduler

namespace Glimmer.Core.Scheduler

open Lib KeyedMap

structure Retuned (s t : Scheduler) : Prop where
  config : SameConfiguration s t
  tasks : t.tasks = s.tasks
  deques : ∀ tenant, t.dequeOf tenant = s.dequeOf tenant
  order : t.tenantOrder = s.tenantOrder
  cursor : t.tenantCursor < max t.tenantOrder.length 1
  running : t.runningTaskIds = s.runningTaskIds
  count : t.queuedTaskCount = s.queuedTaskCount
  ledger : t.ledger = s.ledger
  nextId : t.nextTaskId = s.nextTaskId
  nextSequence : t.nextDispatchSequence = s.nextDispatchSequence

structure Moved (s t : Scheduler) (id : TaskId) (task next : TaskRecord) (edit : List TaskId → List TaskId) : Prop where
  config : SameConfiguration s t
  found : s.tasks.lookup id = some task
  spec : next.spec = task.spec
  tasks : t.tasks = s.tasks.insert id next
  deques : ∀ tenant, t.dequeOf tenant =
    if tenant = task.spec.tenantId then (s.dequeOf tenant).map edit else s.dequeOf tenant
  order : t.tenantOrder = s.tenantOrder
  cursor : t.tenantCursor < max t.tenantOrder.length 1
  nextId : t.nextTaskId = s.nextTaskId

variable {s t : Scheduler} {id : TaskId} {next task : TaskRecord} {edit : List TaskId → List TaskId} {spec : TaskSpec}

-- A record is put in place, and its tenant's deque follows; the tenant and the record may be new.
theorem placed_coherent (own : List TaskId) (coh : Coherent s) (tasks : t.tasks = s.tasks.insert id next)
    (sameTenant : ∀ old, s.tasks.lookup id = some old → old.spec.tenantId = next.spec.tenantId)
    (deques : ∀ tenant, t.dequeOf tenant = if tenant = next.spec.tenantId then some own else s.dequeOf tenant)
    (ownNodup : own.Nodup)
    (members : ∀ other, other ∈ own ↔ (other ≠ id ∧ ∃ ids, s.dequeOf next.spec.tenantId = some ids ∧
      other ∈ ids) ∨ (other = id ∧ next.state = .queued))
    (cursor : t.tenantCursor < max t.tenantOrder.length 1) (orderNodup : t.tenantOrder.Nodup)
    (orderKeys : ∀ tenant, tenant ∈ t.tenantOrder ↔ tenant = next.spec.tenantId ∨ tenant ∈ s.tenantQueues)
    (runningNodup : t.runningTaskIds.Nodup) (runningBound : t.runningTaskIds.length ≤ t.maxRunningTasks)
    (runningEdited : ∀ other, other ∈ t.runningTaskIds ↔
      (other ≠ id ∧ other ∈ s.runningTaskIds) ∨ (other = id ∧ next.state = .running))
    (counted : t.queuedTaskCount = total queuedWeight t.tasks) (issued : 0 < (id : Nat) ∧ (id : Nat) < t.nextTaskId)
    (grown : s.nextTaskId ≤ t.nextTaskId) (size : total (fun _ _ => 1) t.tasks < t.nextTaskId)
    (idBound : t.nextTaskId ≤ maxU64) : Coherent t := by
  have lookup : ∀ query, t.tasks.lookup query = if query = id then some next else s.tasks.lookup query := by
    intro query
    rw [tasks, lookup_insert_cases]
  have ownDeque : t.dequeOf next.spec.tenantId = some own := by rw [deques, if_pos rfl]
  have keys : ∀ tenant, tenant ∈ t.tenantQueues ↔ tenant = next.spec.tenantId ∨ tenant ∈ s.tenantQueues := by
    intro tenant
    rw [mem_queues_iff, mem_queues_iff, deques]
    by_cases same : tenant = next.spec.tenantId <;> simp [same]
  refine ⟨cursor, orderNodup, fun tenant => (orderKeys tenant).trans (keys tenant).symm, ?_, ?_, ?_, ?_, runningNodup, ?_,
    runningBound, counted, ?_, size, idBound⟩
  · intro other record found queued
    rw [lookup] at found
    split at found
    · next same =>
      cases found
      exact ⟨own, ownDeque, (members other).mpr (.inr ⟨same, queued⟩)⟩
    next ne =>
    obtain ⟨ids, deque, mem⟩ := coh.placed other record found queued
    by_cases here : record.spec.tenantId = next.spec.tenantId
    · rw [here] at deque ⊢
      exact ⟨own, ownDeque, (members other).mpr (.inl ⟨ne, ids, deque, mem⟩)⟩
    · exact ⟨ids, by rw [deques, if_neg here, deque], mem⟩
  · intro tenant ids other deque mem
    rw [lookup]
    rw [deques] at deque
    split at deque
    · next here =>
      cases deque
      rcases (members other).mp mem with ⟨ne, ids, before, listed⟩ | ⟨same, queued⟩
      · rw [if_neg ne, here]
        exact coh.owned _ ids other before listed
      · exact ⟨next, if_pos same, queued, here.symm⟩
    next here =>
    obtain ⟨record, found, queued, tenantEq⟩ := coh.owned tenant ids other deque mem
    have ne : other ≠ id := by
      rintro rfl
      exact here (tenantEq.symm.trans (sameTenant record found))
    rw [if_neg ne]
    exact ⟨record, found, queued, tenantEq⟩
  · intro tenant ids deque
    rw [deques] at deque
    split at deque
    · exact Option.some.inj deque ▸ ownNodup
    · exact coh.dequeNodup tenant ids deque
  · intro other record found
    rw [keys]
    rw [lookup] at found
    split at found
    · exact .inl (by rw [Option.some.inj found])
    · exact .inr (coh.tenantKnown other record found)
  · intro other
    rw [runningEdited, lookup, coh.runningExact]
    by_cases same : other = id <;> simp [same]
  · intro other record found
    rw [lookup] at found
    split at found
    · next same => exact same ▸ issued
    · have before := coh.issued other record found
      exact ⟨before.1, Nat.lt_of_lt_of_le before.2 grown⟩

section
variable (moved : Moved s t id task next edit)
include moved

theorem moved_lookup (query : TaskId) :
    t.tasks.lookup query = if query = id then some next else s.tasks.lookup query := by
  rw [moved.tasks, lookup_insert_cases]

theorem moved_total (weigh : TaskId → TaskRecord → Nat) :
    total weigh t.tasks + weigh id task = total weigh s.tasks + weigh id next := by
  rw [moved.tasks]
  exact total_insert_known weigh s.tasks next moved.found

omit moved in
theorem retuned_refl {s : Scheduler} (coh : Coherent s) : Retuned s s :=
  ⟨.refl s, rfl, fun _ => rfl, rfl, coh.cursorInRange, rfl, rfl, rfl, rfl, rfl⟩

omit moved in
theorem retuned_trans {u : Scheduler} (first : Retuned s t) (second : Retuned t u) : Retuned s u :=
  ⟨first.config.trans second.config, second.tasks.trans first.tasks,
    fun tenant => (second.deques tenant).trans (first.deques tenant), second.order.trans first.order,
    second.cursor, second.running.trans first.running, second.count.trans first.count,
    second.ledger.trans first.ledger, second.nextId.trans first.nextId,
    second.nextSequence.trans first.nextSequence⟩

omit moved in
theorem retuned_coherent (retuned : Retuned s t) (coh : Coherent s) : Coherent t := by
  have keys : ∀ tenant, tenant ∈ t.tenantQueues ↔ tenant ∈ s.tenantQueues := by
    intro tenant
    rw [mem_queues_iff, mem_queues_iff, retuned.deques tenant]
  refine ⟨retuned.cursor, ?_, ?_, ?_, ?_, ?_, ?_, ?_, ?_, ?_, ?_, ?_, ?_, ?_⟩ <;>
    simp only [retuned.order, keys, retuned.tasks, retuned.deques, retuned.running, retuned.config.maxRunning,
      retuned.count, retuned.nextId]
  · exact coh.orderNodup
  · exact coh.orderKeys
  · exact coh.placed
  · exact coh.owned
  · exact coh.dequeNodup
  · exact coh.tenantKnown
  · exact coh.runningNodup
  · exact coh.runningExact
  · exact coh.runningBound
  · exact coh.counted
  · exact coh.issued
  · exact coh.sizeBound
  · exact coh.idBound

omit moved in
theorem retuned_quota (retuned : Retuned s t) (quota : QuotaExact s) : QuotaExact t := by
  obtain ⟨reserved, allocated, bounded, reservations, dispatched, sequence⟩ := quota
  refine ⟨?_, ?_, ?_, ?_, ?_, ?_⟩
  · rwa [retuned.ledger, retuned.tasks]
  · rwa [retuned.ledger, retuned.tasks]
  · rwa [retuned.ledger]
  · rwa [retuned.tasks]
  · rwa [retuned.tasks]
  · rwa [retuned.nextSequence]

omit moved in
theorem retuned_invariant (retuned : Retuned s t) (inv : Invariant s) : Invariant t :=
  ⟨retuned_coherent retuned inv.coherent, retuned_quota retuned inv.quota⟩

theorem moved_coherent (coh : Coherent s)
    (edited : ∀ ids, s.dequeOf task.spec.tenantId = some ids → (edit ids).Nodup ∧
      ∀ other, other ∈ edit ids ↔ (other ≠ id ∧ other ∈ ids) ∨ (other = id ∧ next.state = .queued))
    (runningNodup : t.runningTaskIds.Nodup) (runningBound : t.runningTaskIds.length ≤ t.maxRunningTasks)
    (runningEdited : ∀ other, other ∈ t.runningTaskIds ↔
      (other ≠ id ∧ other ∈ s.runningTaskIds) ∨ (other = id ∧ next.state = .running))
    (counted : t.queuedTaskCount + queuedWeight id task = s.queuedTaskCount + queuedWeight id next) : Coherent t := by
  have known := coh.tenantKnown id task moved.found
  obtain ⟨own, ownDeque⟩ := (mem_queues_iff s _).mp known
  obtain ⟨ownNodup, ownMembers⟩ := edited own ownDeque
  have totals := moved_total moved queuedWeight
  have sizes := moved_total moved (fun _ _ => 1)
  have before := coh.counted
  have size := coh.sizeBound
  have nextId := moved.nextId
  refine placed_coherent (edit own) coh moved.tasks (fun old found => ?_) (fun tenant => ?_) ownNodup
    (fun other => ?_) moved.cursor (moved.order ▸ coh.orderNodup)
      (fun tenant => ?_) runningNodup runningBound runningEdited
    (by omega) (nextId ▸ coh.issued id task moved.found) (Nat.le_of_eq nextId.symm) (by omega)
    (nextId ▸ coh.idBound)
  · cases moved.found.symm.trans found
    rw [moved.spec]
  · rw [moved.deques, moved.spec]
    split
    · next here =>
      rw [here, ownDeque]
      rfl
    · rfl
  · rw [ownMembers, moved.spec, ownDeque]
    simp
  · rw [moved.order, coh.orderKeys, moved.spec]
    exact (or_iff_right_of_imp fun same => same ▸ known).symm

theorem moved_quota (quota : QuotaExact s) (reserved : t.ledger.reservedBytes.toNat + reservedWeight id task =
      s.ledger.reservedBytes.toNat + reservedWeight id next)
    (allocated : t.ledger.allocatedBytes.toNat + allocatedWeight id task =
      s.ledger.allocatedBytes.toNat + allocatedWeight id next)
    (bounded : t.ledger.Bounded) (fits : ReservationFits next)
    (dispatched : next.state = .running → next.dispatchSequence ≠ 0)
    (sequence : 0 < t.nextDispatchSequence) : QuotaExact t := by
  have reservedTotal := moved_total moved reservedWeight
  have allocatedTotal := moved_total moved allocatedWeight
  have reservedBefore := quota.reserved
  have allocatedBefore := quota.allocated
  refine ⟨by omega, by omega, bounded, ?_, ?_, sequence⟩
  · intro other record lookup
    rw [moved_lookup moved] at lookup
    split at lookup
    · have recordEq : next = record := by simpa using lookup
      exact recordEq ▸ fits
    · exact quota.reservations other record lookup
  · intro other record lookup
    rw [moved_lookup moved] at lookup
    split at lookup
    · have recordEq : next = record := by simpa using lookup
      exact recordEq ▸ dispatched
    · exact quota.dispatched other record lookup

end

structure Accepted (s t : Scheduler) (spec : TaskSpec) (task : TaskRecord) : Prop where
  config : SameConfiguration s t
  spec_eq : task.spec = spec
  queued : task.state = .queued
  undispatched : task.dispatchSequence = 0
  reservation : task.reservation = some ⟨true, spec.memoryBytes⟩
  tasks : t.tasks = s.tasks.insert s.nextTaskId task
  deques : ∀ tenant, t.dequeOf tenant =
    if tenant = spec.tenantId then some ((s.dequeOf tenant).getD [] ++ [s.nextTaskId]) else s.dequeOf tenant
  order : t.tenantOrder = if spec.tenantId ∈ s.tenantQueues then s.tenantOrder else s.tenantOrder ++ [spec.tenantId]
  cursor : t.tenantCursor = s.tenantCursor
  running : t.runningTaskIds = s.runningTaskIds
  count : t.queuedTaskCount = wrapSucc s.queuedTaskCount
  idFree : s.nextTaskId ≠ maxU64
  nextId : t.nextTaskId = s.nextTaskId + 1
  nextSequence : t.nextDispatchSequence = s.nextDispatchSequence
  limit : t.ledger.limitBytes = s.ledger.limitBytes
  reserved : t.ledger.reservedBytes.toNat = s.ledger.reservedBytes.toNat + spec.memoryBytes.toNat
  allocated : t.ledger.allocatedBytes = s.ledger.allocatedBytes
  within : t.ledger.Bounded
  valid : spec.weight ≠ 0 ∧ spec.workUnits ≠ 0 ∧ spec.memoryBytes ≠ 0
  agreed : ∀ queue, s.tenantQueues.lookup spec.tenantId = some queue → queue.weight = spec.weight
  queues : ∀ tenant, t.tenantQueues.lookup tenant =
    if tenant = spec.tenantId then
      let queue := (s.tenantQueues.lookup tenant).getD { weight := spec.weight, taskIds := [] }
      some { queue with taskIds := queue.taskIds ++ [s.nextTaskId] }
    else s.tenantQueues.lookup tenant
  budget : t.tenantBudget = s.tenantBudget
  reservedSlots : t.priorityReservedSlots = s.priorityReservedSlots

theorem queued_total_le_size (tasks : KeyedMap TaskId TaskRecord) :
    total queuedWeight tasks ≤ total (fun _ _ => 1) tasks := by
  apply List.sum_le_sum
  intro entry _
  simp only [queuedWeight]
  split <;> omega

-- The manual counter stays below 2^64: it never exceeds the ids handed out.
theorem queued_count_bound (coh : Coherent s) : s.queuedTaskCount < maxU64 := by
  have counted := coh.counted
  have size := queued_total_le_size s.tasks
  have issued := coh.sizeBound
  have bound := coh.idBound
  omega

theorem next_task_fresh (coh : Coherent s) : s.tasks.lookup s.nextTaskId = none := by
  cases found : s.tasks.lookup s.nextTaskId with
  | none => rfl
  | some task => exact absurd (coh.issued _ task found).2 (Nat.lt_irrefl _)

section
variable (accepted : Accepted s t spec task)
include accepted

theorem accepted_lookup (query : TaskId) : t.tasks.lookup query = if query = s.nextTaskId then some task
    else s.tasks.lookup query := by
  rw [accepted.tasks, lookup_insert_cases]

theorem accepted_coherent (coh : Coherent s) : Coherent t := by
  have fresh := next_task_fresh coh
  have unlisted : ∀ tenant ids, s.dequeOf tenant = some ids → s.nextTaskId ∉ ids := by
    intro tenant ids deque mem
    obtain ⟨record, lookup, _⟩ := coh.owned tenant ids _ deque mem
    rw [fresh] at lookup
    cases lookup
  have bound := queued_count_bound coh
  have size := coh.sizeBound
  have idBound := coh.idBound
  have free := accepted.idFree
  have nextId := accepted.nextId
  refine placed_coherent ((s.dequeOf spec.tenantId).getD [] ++ [s.nextTaskId]) coh accepted.tasks
    (fun old found => ?_) (fun tenant => ?_) ?_ (fun other => ?_) ?_ ?_ (fun tenant => ?_)
      (accepted.running ▸ coh.runningNodup)
    ?_ (fun other => ?_) ?_ ⟨Nat.zero_lt_of_lt size, nextId ▸ Nat.lt_succ_self _⟩ (by omega) ?_ (by omega)
  · cases fresh.symm.trans found
  · rw [accepted.deques, accepted.spec_eq]
    split
    · next here => rw [here]
    · rfl
  · cases known : s.dequeOf spec.tenantId with
    | none => simp
    | some old =>
      rw [Option.getD_some, ← List.concat_eq_append]
      exact List.Nodup.concat (unlisted _ old known) (coh.dequeNodup _ old known)
  · rw [List.mem_append, List.mem_singleton, accepted.spec_eq, and_iff_left accepted.queued]
    refine or_congr_left' fun ne => ?_
    cases known : s.dequeOf spec.tenantId with
    | none => simp
    | some old => simp [ne]
  · have before := coh.cursorInRange
    have longer : s.tenantOrder.length ≤ t.tenantOrder.length := by
      rw [accepted.order]
      split <;> simp
    rw [accepted.cursor]
    omega
  · rw [accepted.order]
    split
    · exact coh.orderNodup
    next fresh =>
    rw [← List.concat_eq_append]
    exact List.Nodup.concat (fun listed => fresh ((coh.orderKeys _).mp listed)) coh.orderNodup
  · rw [accepted.order, accepted.spec_eq]
    split
    · next known =>
      rw [coh.orderKeys]
      exact (or_iff_right_of_imp fun same => same ▸ known).symm
    · rw [List.mem_append, List.mem_singleton, coh.orderKeys, or_comm]
  · rw [accepted.running, accepted.config.maxRunning]
    exact coh.runningBound
  · rw [accepted.running]
    by_cases same : other = s.nextTaskId
    · subst same
      simp [coh.runningExact, fresh, accepted.queued]
    · simp [same]
  · rw [accepted.count, accepted.tasks, total_insert_fresh _ _ _ fresh, ← coh.counted]
    simp only [wrapSucc, if_neg (Nat.ne_of_lt bound), queuedWeight, accepted.queued]
    simp [Nat.add_comm]
  · rw [accepted.tasks, total_insert_fresh _ _ _ fresh]
    omega

theorem accepted_quota (coh : Coherent s) (quota : QuotaExact s) : QuotaExact t := by
  have fresh := next_task_fresh coh
  have waiting : task.state = .queued ∧ task.dispatchSequence = 0 := ⟨accepted.queued, accepted.undispatched⟩
  refine ⟨?_, ?_, accepted.within, ?_, ?_, ?_⟩
  · rw [accepted.tasks, total_insert_fresh _ _ _ fresh, ← quota.reserved, accepted.reserved,
      reservedWeight, if_pos waiting, accepted.spec_eq]
    exact Nat.add_comm _ _
  · rw [accepted.tasks, total_insert_fresh _ _ _ fresh, ← quota.allocated, accepted.allocated]
    simp [allocatedWeight, waiting.1, waiting.2]
  · intro id record lookup
    rw [accepted_lookup accepted] at lookup
    split at lookup
    · have recordEq : task = record := by simpa using lookup
      rw [← recordEq, ReservationFits, if_pos waiting, accepted.spec_eq]
      exact accepted.reservation
    · exact quota.reservations id record lookup
  · intro id record lookup
    rw [accepted_lookup accepted] at lookup
    split at lookup
    · have recordEq : task = record := by simpa using lookup
      rw [← recordEq, accepted.queued]
      intro impossible
      cases impossible
    · exact quota.dispatched id record lookup
  · rw [accepted.nextSequence]
    exact quota.sequence

end

structure Forgotten (s t : Scheduler) (id : TaskId) (task : TaskRecord) : Prop where
  config : SameConfiguration s t
  queues : t.tenantQueues = s.tenantQueues
  budget : t.tenantBudget = s.tenantBudget
  reservedSlots : t.priorityReservedSlots = s.priorityReservedSlots
  found : s.tasks.lookup id = some task
  notQueued : task.state ≠ .queued
  notRunning : task.state ≠ .running
  tasks : t.tasks = s.tasks.erase id
  deques : ∀ tenant, t.dequeOf tenant = s.dequeOf tenant
  order : t.tenantOrder = s.tenantOrder
  cursor : t.tenantCursor = s.tenantCursor
  running : t.runningTaskIds = s.runningTaskIds
  count : t.queuedTaskCount = s.queuedTaskCount
  ledger : t.ledger = s.ledger
  nextId : t.nextTaskId = s.nextTaskId
  nextSequence : t.nextDispatchSequence = s.nextDispatchSequence

variable (forgotten : Forgotten s t id task)
include forgotten

theorem forgotten_lookup (query : TaskId) : t.tasks.lookup query = if query = id then none else s.tasks.lookup query := by
  rw [forgotten.tasks, lookup_erase_cases]

-- A record that is neither queued nor running weighs nothing, so erasing it leaves every total alone.
theorem forgotten_total {weigh : TaskId → TaskRecord → Nat}
    (weightless : weigh id task = 0) : total weigh t.tasks = total weigh s.tasks := by
  have erased := total_erase weigh s.tasks forgotten.found
  rw [forgotten.tasks]
  omega

theorem forgotten_survivor {query : TaskId} {record : TaskRecord}
    (lookup : t.tasks.lookup query = some record) : s.tasks.lookup query = some record := by
  rw [forgotten_lookup forgotten] at lookup
  split at lookup
  · cases lookup
  · exact lookup

theorem forgotten_invariant (inv : Invariant s) : Invariant t := by
  obtain ⟨coh, quota⟩ := inv
  have keys : ∀ tenant, tenant ∈ t.tenantQueues ↔ tenant ∈ s.tenantQueues := by
    intro tenant
    rw [mem_queues_iff, mem_queues_iff, forgotten.deques tenant]
  have kept : ∀ other record, s.tasks.lookup other = some record → record.state = .queued ∨ record.state = .running →
      t.tasks.lookup other = some record := by
    intro other record lookup live
    rw [forgotten_lookup forgotten]
    split
    · next same =>
      subst same
      have recordEq : task = record := Option.some.inj (forgotten.found.symm.trans lookup)
      rw [← recordEq] at live
      exact absurd live (not_or.mpr ⟨forgotten.notQueued, forgotten.notRunning⟩)
    · exact lookup
  constructor
  · refine ⟨?_, ?_, ?_, ?_, ?_, ?_, ?_, ?_, ?_, ?_, ?_, ?_, ?_, ?_⟩ <;>
      simp only [forgotten.cursor, forgotten.order, keys, forgotten.deques, forgotten.running,
        forgotten.config.maxRunning, forgotten.count, forgotten.nextId]
    · exact coh.cursorInRange
    · exact coh.orderNodup
    · exact coh.orderKeys
    · exact fun other record lookup => coh.placed other record (forgotten_survivor forgotten lookup)
    · intro tenant ids other deque mem
      obtain ⟨record, lookup, queued, tenantEq⟩ := coh.owned tenant ids other deque mem
      exact ⟨record, kept other record lookup (.inl queued), queued, tenantEq⟩
    · exact coh.dequeNodup
    · exact fun other record lookup => coh.tenantKnown other record (forgotten_survivor forgotten lookup)
    · exact coh.runningNodup
    · intro other
      rw [coh.runningExact]
      refine exists_congr fun record => and_congr_left fun running => ?_
      exact ⟨fun lookup => kept other record lookup (.inr running), forgotten_survivor forgotten⟩
    · exact coh.runningBound
    · rw [coh.counted, forgotten_total forgotten]
      simp [queuedWeight, forgotten.notQueued]
    · exact fun other record lookup => coh.issued other record (forgotten_survivor forgotten lookup)
    · have erased := total_erase (fun _ _ => 1) s.tasks forgotten.found
      have before := coh.sizeBound
      rw [forgotten.tasks]
      omega
    · exact coh.idBound
  · refine ⟨?_, ?_, ?_, ?_, ?_, ?_⟩
    · rw [forgotten.ledger, quota.reserved, forgotten_total forgotten]
      simp [reservedWeight, forgotten.notQueued]
    · rw [forgotten.ledger, quota.allocated, forgotten_total forgotten]
      simp [allocatedWeight, forgotten.notQueued, forgotten.notRunning]
    · rw [forgotten.ledger]
      exact quota.bounded
    · exact fun other record lookup => quota.reservations other record (forgotten_survivor forgotten lookup)
    · exact fun other record lookup => quota.dispatched other record (forgotten_survivor forgotten lookup)
    · rw [forgotten.nextSequence]
      exact quota.sequence

end Glimmer.Core.Scheduler
