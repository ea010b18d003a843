import Glimmer.Core.PeekOrder

namespace Glimmer.Core

def TenantQueue.account (queue : TenantQueue) : UInt32 × UInt64 := (queue.weight, queue.deficit)

namespace Scheduler

open Lib

def followingSequence (n : Nat) : Nat := if n = maxU64 then maxU64 else n + 1

structure Dispatched (s t : Scheduler) (id : TaskId) (task next : TaskRecord) : Prop where
  moved : Moved s t id task next (List.erase · id)
  queued : task.state = .queued
  running : next.state = .running
  listed : t.runningTaskIds = s.runningTaskIds ++ [id]
  count : t.queuedTaskCount = wrapPred s.queuedTaskCount
  limit : t.ledger.limitBytes = s.ledger.limitBytes
  reserved : t.ledger.reservedBytes.toNat + reservedWeight id task = s.ledger.reservedBytes.toNat
  allocated : t.ledger.allocatedBytes.toNat + allocatedWeight id task =
    s.ledger.allocatedBytes.toNat + task.spec.memoryBytes.toNat
  fits : ReservationFits next
  sequence : next.dispatchSequence = s.nextDispatchSequence
  counter : t.nextDispatchSequence = followingSequence s.nextDispatchSequence

structure Finished (s t : Scheduler) (id : TaskId) (task next : TaskRecord) : Prop where
  moved : Moved s t id task next (List.erase · id)
  live : task.state = .queued ∨ task.state = .running
  notQueued : next.state ≠ .queued
  notRunning : next.state ≠ .running
  listed : t.runningTaskIds = s.runningTaskIds.erase id
  count : t.queuedTaskCount + queuedWeight id task = s.queuedTaskCount
  limit : t.ledger.limitBytes = s.ledger.limitBytes
  reserved : t.ledger.reservedBytes.toNat + reservedWeight id task = s.ledger.reservedBytes.toNat
  allocated : t.ledger.allocatedBytes.toNat + allocatedWeight id task = s.ledger.allocatedBytes.toNat
  fits : ReservationFits next
  nextSequence : t.nextDispatchSequence = s.nextDispatchSequence
  sequence : next.dispatchSequence = task.dispatchSequence

structure Suspended (s t : Scheduler) (id : TaskId) (task next : TaskRecord) : Prop where
  moved : Moved s t id task next (List.cons id)
  running : task.state = .running
  queued : next.state = .queued
  sequence : next.dispatchSequence = task.dispatchSequence
  reservation : next.reservation = task.reservation
  listed : t.runningTaskIds = s.runningTaskIds.erase id
  count : t.queuedTaskCount = wrapSucc s.queuedTaskCount
  ledger : t.ledger = s.ledger
  nextSequence : t.nextDispatchSequence = s.nextDispatchSequence
  unspent : task.dispatchSequence ≠ maxU64

variable {s t : Scheduler} {id : TaskId} {next task : TaskRecord}

theorem following_positive {n : Nat} : 0 < followingSequence n := by
  unfold followingSequence
  split
  · decide
  · omega

variable {tenant : TenantId}

theorem queued_pred (coh : Coherent s) (found : s.tasks.lookup id = some task)
    (queued : task.state = .queued) : wrapPred s.queuedTaskCount + 1 = s.queuedTaskCount := by
  have weighed := KeyedMap.weigh_le_total queuedWeight s.tasks found
  have counted := coh.counted
  simp only [queuedWeight, if_pos queued] at weighed
  have pos : s.queuedTaskCount ≠ 0 := by omega
  rw [wrapPred, if_neg pos]
  omega

theorem live_weights (id : TaskId) (live : task.state = .queued ∨ task.state = .running) :
    reservedWeight id task + allocatedWeight id task = task.spec.memoryBytes.toNat := by
  rcases live with queued | running
  · by_cases dispatched : task.dispatchSequence = 0
    · simp [reservedWeight, allocatedWeight, queued, dispatched]
    · simp [reservedWeight, allocatedWeight, queued, dispatched]
  · simp [reservedWeight, allocatedWeight, running]

theorem erased_members (coh : Coherent s) {ids : List TaskId} (id : TaskId)
    (notQueued : next.state ≠ .queued) (deque : s.dequeOf tenant = some ids) :
    (ids.erase id).Nodup ∧ ∀ other, other ∈ ids.erase id ↔
      (other ≠ id ∧ other ∈ ids) ∨ (other = id ∧ next.state = .queued) := by
  have nodup := coh.dequeNodup tenant ids deque
  refine ⟨nodup.erase id, ?_⟩
  intro other
  rw [nodup.mem_erase_iff]
  simp [notQueued]

theorem queued_idle (coh : Coherent s) (found : s.tasks.lookup id = some task) (queued : task.state = .queued) :
    id ∉ s.runningTaskIds := by
  intro mem
  obtain ⟨other, again, running⟩ := (coh.runningExact id).mp mem
  cases found.symm.trans again
  cases queued.symm.trans running

theorem unqueued_absent {ids : List TaskId} (coh : Coherent s) (found : s.tasks.lookup id = some task)
    (notQueued : task.state ≠ .queued) (deque : s.dequeOf tenant = some ids) : id ∉ ids := by
  intro mem
  obtain ⟨other, again, queued, _⟩ := coh.owned tenant ids id deque mem
  cases found.symm.trans again
  exact notQueued queued

theorem dispatched_invariant (dispatched : Dispatched s t id task next)
    (inv : Invariant s) (slot : s.runningTaskIds.length < s.maxRunningTasks) : Invariant t := by
  obtain ⟨coh, quota⟩ := inv
  have moved := dispatched.moved
  have idle := queued_idle coh moved.found dispatched.queued
  have notQueued : next.state ≠ .queued := by
    rw [dispatched.running]
    decide
  have bounded := quota.bounded
  have weights := live_weights id (.inl dispatched.queued)
  have reserved := dispatched.reserved
  have allocated := dispatched.allocated
  refine ⟨moved_coherent moved coh ?_ ?_ ?_ ?_ ?_, moved_quota moved quota ?_ ?_ ?_ dispatched.fits ?_
    (dispatched.counter ▸ following_positive)⟩
  · intro ids deque
    exact erased_members coh id notQueued deque
  · rw [dispatched.listed, ← List.concat_eq_append]
    exact List.Nodup.concat idle coh.runningNodup
  · rw [dispatched.listed, moved.config.maxRunning, List.length_append]
    exact slot
  · intro other
    rw [dispatched.listed, List.mem_append, List.mem_singleton]
    simp only [dispatched.running, and_true]
    exact or_congr_left (and_iff_right_of_imp fun mem => ne_of_mem_of_not_mem mem idle).symm
  · have step := queued_pred coh moved.found dispatched.queued
    rw [dispatched.count]
    simp only [queuedWeight, if_pos dispatched.queued, if_neg notQueued]
    omega
  · simpa [reservedWeight, notQueued] using reserved
  · simpa [allocatedWeight, dispatched.running, moved.spec] using allocated
  · unfold QuotaLedger.Bounded at bounded ⊢
    rw [dispatched.limit]
    omega
  · intro _
    rw [dispatched.sequence]
    exact Nat.pos_iff_ne_zero.mp quota.sequence

theorem erased_running (coh : Coherent s) (id : TaskId)
    (notRunning : next.state ≠ .running) (other : TaskId) : other ∈ s.runningTaskIds.erase id ↔
      (other ≠ id ∧ other ∈ s.runningTaskIds) ∨ (other = id ∧ next.state = .running) := by
  rw [coh.runningNodup.mem_erase_iff]
  simp [notRunning]

theorem erased_running_bound (coh : Coherent s) (id : TaskId) :
    (s.runningTaskIds.erase id).length ≤ s.maxRunningTasks :=
  Nat.le_trans List.length_erase_le coh.runningBound

theorem finished_invariant (finished : Finished s t id task next) (inv : Invariant s) : Invariant t := by
  obtain ⟨coh, quota⟩ := inv
  have moved := finished.moved
  have bounded := quota.bounded
  have reserved := finished.reserved
  have allocated := finished.allocated
  refine ⟨moved_coherent moved coh ?_ ?_ ?_ ?_ ?_, moved_quota moved quota ?_ ?_ ?_ finished.fits ?_ ?_⟩
  · intro ids deque
    exact erased_members coh id finished.notQueued deque
  · rw [finished.listed]
    exact coh.runningNodup.erase id
  · rw [finished.listed, moved.config.maxRunning]
    exact erased_running_bound coh id
  · intro other
    rw [finished.listed]
    exact erased_running coh id finished.notRunning other
  · simpa [queuedWeight, finished.notQueued] using finished.count
  · simpa [reservedWeight, finished.notQueued] using reserved
  · simpa [allocatedWeight, finished.notQueued, finished.notRunning] using allocated
  · unfold QuotaLedger.Bounded at bounded ⊢
    rw [finished.limit]
    omega
  · intro running
    exact absurd running finished.notRunning
  · rw [finished.nextSequence]
    exact quota.sequence

theorem suspended_invariant (suspended : Suspended s t id task next) (inv : Invariant s) : Invariant t := by
  obtain ⟨coh, quota⟩ := inv
  have moved := suspended.moved
  have notRunning : next.state ≠ .running := by
    rw [suspended.queued]
    decide
  have dispatched : task.dispatchSequence ≠ 0 := quota.dispatched id task moved.found suspended.running
  have room := queued_count_bound coh
  refine ⟨moved_coherent moved coh ?_ ?_ ?_ ?_ ?_, moved_quota moved quota ?_ ?_ ?_ ?_ ?_ ?_⟩
  · intro ids deque
    have absent := unqueued_absent coh moved.found (by simp [suspended.running]) deque
    refine ⟨List.nodup_cons.mpr ⟨absent, coh.dequeNodup _ ids deque⟩, fun other => ?_⟩
    rw [List.mem_cons, or_comm]
    simp only [suspended.queued, and_true]
    exact or_congr_left (and_iff_right_of_imp fun mem => ne_of_mem_of_not_mem mem absent).symm
  · rw [suspended.listed]
    exact coh.runningNodup.erase id
  · rw [suspended.listed, moved.config.maxRunning]
    exact erased_running_bound coh id
  · intro other
    rw [suspended.listed]
    exact erased_running coh id notRunning other
  · rw [suspended.count, wrapSucc, if_neg (Nat.ne_of_lt room)]
    simp [queuedWeight, suspended.queued, suspended.running]
  · simp [reservedWeight, suspended.queued, suspended.running, suspended.sequence, suspended.ledger, dispatched]
  · simp [allocatedWeight, suspended.queued, suspended.running, suspended.sequence, suspended.ledger, dispatched,
      moved.spec]
  · rw [suspended.ledger]
    exact quota.bounded
  · have fits := quota.reservations id task moved.found
    unfold ReservationFits at fits ⊢
    rw [if_neg (by simp [suspended.running])] at fits
    rwa [if_neg (by simp [suspended.sequence, dispatched]), suspended.reservation]
  · intro running
    exact absurd running notRunning
  · rw [suspended.nextSequence]
    exact quota.sequence

theorem reserved_covers (quota : QuotaExact s)
    (found : s.tasks.lookup id = some task) : reservedWeight id task ≤ s.ledger.reservedBytes.toNat := by
  rw [quota.reserved]
  exact KeyedMap.weigh_le_total reservedWeight s.tasks found

theorem allocated_covers (quota : QuotaExact s)
    (found : s.tasks.lookup id = some task) : allocatedWeight id task ≤ s.ledger.allocatedBytes.toNat := by
  rw [quota.allocated]
  exact KeyedMap.weigh_le_total allocatedWeight s.tasks found

-- What selection reads besides the tasks and the deques.
structure RoundKept (s t : Scheduler) : Prop where
  accounts : ∀ tenant, (t.tenantQueues.lookup tenant).map TenantQueue.account =
    (s.tenantQueues.lookup tenant).map TenantQueue.account
  cursor : t.tenantCursor = s.tenantCursor
  budget : t.tenantBudget = s.tenantBudget
  reservedSlots : t.priorityReservedSlots = s.priorityReservedSlots

theorem commit_for_dispatch (quota : QuotaExact s)
    (found : s.tasks.lookup id = some task) (queued : task.state = .queued) :
    ∃ reservation kept ledger, task.reservation = some reservation ∧ kept.active = false ∧
      (if task.dispatchSequence ≠ 0 then (true, reservation, s.ledger) else reservation.commit s.ledger) =
        (true, kept, ledger) ∧
      ledger.limitBytes = s.ledger.limitBytes ∧
      ledger.reservedBytes.toNat + reservedWeight id task = s.ledger.reservedBytes.toNat ∧
      ledger.allocatedBytes.toNat + allocatedWeight id task =
        s.ledger.allocatedBytes.toNat + task.spec.memoryBytes.toNat := by
  have fits := quota.reservations id task found
  have covered := reserved_covers quota found
  unfold ReservationFits at fits
  by_cases fresh : task.dispatchSequence = 0
  · rw [if_pos ⟨queued, fresh⟩] at fits
    have first : reservedWeight id task = task.spec.memoryBytes.toNat := by simp [reservedWeight, queued, fresh]
    have none_yet : allocatedWeight id task = 0 := by simp [allocatedWeight, queued, fresh]
    rw [first] at covered
    obtain ⟨committed, reserved, allocated⟩ :=
      s.ledger.commit_reservation_exact task.spec.memoryBytes quota.bounded covered
    refine ⟨⟨true, task.spec.memoryBytes⟩, .spent, { s.ledger with
      reservedBytes := s.ledger.reservedBytes - task.spec.memoryBytes
      allocatedBytes := s.ledger.allocatedBytes + task.spec.memoryBytes }, fits, rfl, ?_, rfl, ?_, ?_⟩
    · simp [fresh, QuotaReservation.commit, committed]
    · rw [reserved]
      omega
    · rw [allocated]
      omega
  · rw [if_neg (fun both => fresh both.2)] at fits
    obtain ⟨reservation, held, spent⟩ := fits
    refine ⟨reservation, reservation, s.ledger, held, spent, ?_, rfl, ?_, ?_⟩
    · simp [fresh]
    · simp [reservedWeight, fresh]
    · simp [allocatedWeight, queued, fresh]

section
variable (inv : Invariant s)
include inv

theorem dispatch_selected_spec (taken : Taken s t id task) (now : TimePoint) :
    ∃ next u, t.dispatchSelectedTask id now = (some (snapshot id next), u) ∧ Dispatched s u id task next ∧
      u.tenantQueues = t.tenantQueues ∧ u.tenantCursor = t.tenantCursor ∧ u.tenantBudget = t.tenantBudget := by
  obtain ⟨reservation, kept, ledger, held, inactive, committed, limit, reserved, allocated⟩ :=
    commit_for_dispatch inv.quota taken.found taken.queued
  have waiting : queuedRecord t.tasks id = some task := by
    rw [taken.tasks]
    exact (queued_record_iff _ _ _).mpr ⟨taken.found, taken.queued⟩
  rw [← taken.ledger] at committed
  let running : TaskRecord := { task with
    state := .running
    reservation := some kept
    dispatchSequence := t.nextDispatchSequence
    runningAt := now }
  refine ⟨running, t.startTask id running ledger, ?_, ⟨?_, taken.queued, rfl, ?_, taken.count, limit, reserved,
    allocated, ?_, taken.nextSequence, ?_⟩, rfl, rfl, rfl⟩
  · simp only [dispatchSelectedTask, waiting, held, committed]
    rfl
  · obtain ⟨policy, maxRunning, maxQueued, threshold⟩ := taken.config
    refine ⟨⟨policy, maxRunning, maxQueued, threshold⟩, taken.found, rfl, ?_, taken.deques, taken.order, taken.cursor,
      taken.nextId⟩
    rw [← taken.tasks]
    rfl
  · rw [← taken.running]
    rfl
  · exact ⟨kept, rfl, inactive⟩
  · rw [← taken.nextSequence]
    rfl

-- What a claim for one task needs: a free slot that the reservation does not withhold, and the policy's next pick.
structure Dispatchable (s : Scheduler) (id : TaskId) : Prop where
  slot : s.runningTaskIds.length < s.maxRunningTasks
  unreserved : s.priorityReservationBlocksLowDispatch = false
  next : s.peekNextTask = some id

structure Picked (s t : Scheduler) (id : TaskId) (task : TaskRecord) (chosen : Scheduler) : Prop where
  selected : s.selectNextTask = (some id, chosen)
  taken : Taken s chosen id task
  queues : t.tenantQueues = chosen.tenantQueues
  cursor : t.tenantCursor = chosen.tenantCursor
  budget : t.tenantBudget = chosen.tenantBudget

theorem dispatch_next_cases (now : TimePoint) :
    (∃ t, s.dispatchNext now = (none, t) ∧ Retuned s t ∧ (t = s ∨ s.selectNextTask = (none, t))) ∨
      ∃ id task next t, s.dispatchNext now = (some (snapshot id next), t) ∧ Dispatched s t id task next ∧
        Dispatchable s id ∧ ∃ chosen, Picked s t id task chosen := by
  have same := retuned_refl inv.coherent
  by_cases full : s.runningTaskIds.length ≥ s.maxRunningTasks
  · exact .inl ⟨s, by simp [dispatchNext, full], same, .inl rfl⟩
  by_cases blocked : s.priorityReservationBlocksLowDispatch = true
  · exact .inl ⟨s, by simp [dispatchNext, blocked], same, .inl rfl⟩
  have first := select_next_first inv.coherent
  rcases select_next_cases inv.coherent with ⟨t, selected, retuned⟩ | ⟨id, task, t, selected, taken⟩
  · exact .inl ⟨t, by simp [dispatchNext, full, blocked, selected], retuned, .inr selected⟩
  obtain ⟨next, u, result, dispatched, queues, cursor, budget⟩ := dispatch_selected_spec inv taken now
  rw [selected] at first
  exact .inr ⟨id, task, next, u, by simp [dispatchNext, full, blocked, selected, result], dispatched,
    ⟨Nat.not_le.mp full, Bool.not_eq_true _ ▸ blocked, first.symm⟩, t, selected, taken, queues, cursor, budget⟩

-- A claim either is the next dispatch, is a deficit round in which nobody can pay, or does nothing.
theorem dispatch_task_eq (id : TaskId) (now : TimePoint) :
    s.dispatchTask id now =
      if s.peekNextTask = some id ∨
          (s.policy = .deficitRoundRobin ∧ s.peekNextTask = none ∧ isQueued s.tasks id = true) then
        s.dispatchNext now else (none, s) := by
  have coh := inv.coherent
  have first := select_next_first coh
  by_cases waiting : isQueued s.tasks id = true
  · obtain ⟨task, found⟩ := Option.isSome_iff_exists.mp waiting
    have issued : id ≠ 0 :=
      Nat.pos_iff_ne_zero.mp (coh.issued id task ((queued_record_iff _ _ _).mp found).1).1
    by_cases full : s.runningTaskIds.length ≥ s.maxRunningTasks
    · simp [dispatchTask, dispatchNext, issued, full]
    by_cases blocked : s.priorityReservationBlocksLowDispatch = true
    · simp [dispatchTask, dispatchNext, issued, full, blocked]
    cases peeked : s.peekNextTask with
    | none =>
      by_cases deficit : s.policy = .deficitRoundRobin
      · have same : s.selectDeficitRoundRobinTask = (none, s.selectDeficitRoundRobinTask.2) := by
          simp only [selectNextTask, deficit, peeked] at first
          rw [← first]
        rw [if_pos (.inr ⟨deficit, rfl, waiting⟩)]
        simp only [dispatchTask, dispatchNext, issued, full, blocked, found, peeked, deficit, selectNextTask, if_true,
          if_false, Bool.false_eq_true]
        rw [same]
      · simp [dispatchTask, issued, full, blocked, found, peeked, deficit]
    | some next =>
      by_cases here : next = id
      · subst here
        have selected : s.selectNextTask = (some next, s.selectNextTask.2) := by rw [← peeked, ← first]
        simp only [dispatchTask, dispatchNext, issued, full, blocked, found, peeked, if_false, ne_eq,
          not_true_eq_false, Bool.false_eq_true]
        rw [selected]
        simp
      · simp [dispatchTask, issued, full, blocked, found, peeked, here]
  · have missing : queuedRecord s.tasks id = none := by simpa [isQueued] using waiting
    have unpeeked : s.peekNextTask ≠ some id := fun peeked => waiting (peek_next_queued coh peeked)
    rw [if_neg (by simp [waiting, unpeeked])]
    simp [dispatchTask, missing]

theorem dispatch_task_cases (id : TaskId) (now : TimePoint) :
    (∃ t, s.dispatchTask id now = (none, t) ∧ Retuned s t ∧ (t = s ∨ s.selectNextTask = (none, t))) ∨
      ∃ task next t, s.dispatchTask id now = (some (snapshot id next), t) ∧ Dispatched s t id task next ∧
        Dispatchable s id ∧ ∃ chosen, Picked s t id task chosen := by
  rw [dispatch_task_eq inv]
  split
  · next called =>
    rcases dispatch_next_cases inv now with idle | ⟨other, task, next, t, result, dispatched, ready, picked⟩
    · exact .inl idle
    have same : other = id := by
      rcases called with mine | ⟨_, nobody, _⟩
      · exact Option.some.inj (ready.next.symm.trans mine)
      · cases ready.next.symm.trans nobody
    subst same
    exact .inr ⟨task, next, t, result, dispatched, ready, picked⟩
  · exact .inl ⟨s, rfl, retuned_refl inv.coherent, .inl rfl⟩

omit inv in
theorem enqueue_accepted {spec : TaskSpec} {ledger : QuotaLedger} (now : TimePoint)
    (valid : spec.weight ≠ 0 ∧ spec.workUnits ≠ 0 ∧ spec.memoryBytes ≠ 0) (idFree : s.nextTaskId ≠ maxU64)
    (agreed : ∀ queue, s.tenantQueues.lookup spec.tenantId = some queue → queue.weight = spec.weight)
    (limit : ledger.limitBytes = s.ledger.limitBytes)
    (reserved : ledger.reservedBytes.toNat = s.ledger.reservedBytes.toNat + spec.memoryBytes.toNat)
    (allocated : ledger.allocatedBytes = s.ledger.allocatedBytes) (within : ledger.Bounded) :
    Accepted s (s.enqueueTask (.submitted spec ⟨true, spec.memoryBytes⟩ now) ledger) spec
      (.submitted spec ⟨true, spec.memoryBytes⟩ now) := by
  refine ⟨⟨rfl, rfl, rfl, rfl⟩, rfl, rfl, rfl, rfl, rfl, ?_, ?_, rfl, rfl, rfl, idFree, rfl, rfl, limit, reserved,
    allocated, within, valid, agreed, ?_, rfl, rfl⟩
  · intro tenant
    simp only [dequeOf, enqueueTask, TaskRecord.submitted, KeyedMap.lookup_insert_cases]
    split
    · next here =>
      subst here
      cases s.tenantQueues.lookup spec.tenantId <;> rfl
    · rfl
  · by_cases known : spec.tenantId ∈ s.tenantQueues <;>
      simp [enqueueTask, TaskRecord.submitted, AList.lookup_isSome, known]
  · intro tenant
    simp only [enqueueTask, TaskRecord.submitted, KeyedMap.lookup_insert_cases]
    split
    · next here =>
      subst here
      rfl
    · rfl

theorem submit_cases (spec : TaskSpec) (now : TimePoint) :
    (∃ status, status ≠ .accepted ∧ s.submit spec now = ({ status := status }, s)) ∨
      ∃ task t, s.submit spec now = ({ status := .accepted, taskId := s.nextTaskId }, t) ∧ Accepted s t spec task := by
  obtain ⟨coh, quota⟩ := inv
  have fresh := next_task_fresh coh
  unfold submit
  split
  · exact .inl ⟨_, by decide, rfl⟩
  next valid =>
  split
  · exact .inl ⟨_, by decide, rfl⟩
  next idFree =>
  split
  · exact .inl ⟨_, by decide, rfl⟩
  split
  · exact .inl ⟨_, by decide, rfl⟩
  next agreed =>
  split
  · exact .inl ⟨_, by decide, rfl⟩
  next reservation ledger reserved =>
  have granted := s.ledger.try_reserve_granted spec.memoryBytes reservation quota.bounded (by rw [reserved])
  rw [reserved] at granted
  obtain ⟨same, limit, grown, allocated, within⟩ := granted
  subst same
  refine .inr ⟨.submitted spec ⟨true, spec.memoryBytes⟩ now,
    s.enqueueTask (.submitted spec ⟨true, spec.memoryBytes⟩ now) ledger, by simp [fresh], ?_⟩
  apply enqueue_accepted now ?_ idFree ?_ limit grown allocated
  · unfold QuotaLedger.Bounded
    rw [limit, grown, allocated]
    exact within
  · simp only [not_or] at valid
    exact ⟨valid.2.2.1, valid.2.2.2, valid.2.1⟩
  · intro queue lookup
    simpa [lookup] using agreed

omit inv in
theorem edited_accounts {queues : KeyedMap TenantId TenantQueue} (query : TenantId) {queue : TenantQueue}
    (ids : List TaskId) (lookup : queues.lookup tenant = some queue) :
    ((queues.insert tenant { queue with taskIds := ids }).lookup query).map TenantQueue.account =
      (queues.lookup query).map TenantQueue.account := by
  rw [KeyedMap.lookup_insert_cases]
  split
  · next here =>
    subst here
    rw [lookup]
    rfl
  · rfl

theorem suspend_cases (id : TaskId) (now : TimePoint) :
    s.suspend id now = (false, s) ∨
      ∃ task next t, s.suspend id now = (true, t) ∧ Suspended s t id task next ∧ RoundKept s t := by
  cases found : s.tasks.lookup id with
  | none => exact .inl (by simp [suspend, found])
  | some task =>
    by_cases refused : task.state ≠ .running ∨ task.dispatchSequence = maxU64 ∨ id ∉ s.runningTaskIds
    · exact .inl (by simp [suspend, found, if_pos refused])
    have running : task.state = .running := not_not.mp (not_or.mp refused).1
    have known := inv.coherent.tenantKnown id task found
    obtain ⟨queue, lookup⟩ := Option.isSome_iff_exists.mp (AList.lookup_isSome.mpr known)
    refine .inr ⟨task, { task with state := .queued, queuedAt := now },
      s.requeueTask id { task with state := .queued, queuedAt := now } queue (elapsedMicroseconds task.runningAt now),
      ?_, ⟨⟨⟨rfl, rfl, rfl, rfl⟩, found, rfl, rfl, ?_, rfl, inv.coherent.cursorInRange, rfl⟩,
        running, rfl, rfl, rfl, rfl, rfl, rfl, rfl, (not_or.mp (not_or.mp refused).2).1⟩, ?_⟩
    · simp [suspend, found, if_neg refused, lookup]
    · exact edited_deques (List.cons id) lookup
    · exact ⟨fun query => edited_accounts query _ lookup, rfl, rfl, rfl⟩

omit inv in
theorem unlisted_deque (coh : Coherent s)
    (found : s.tasks.lookup id = some task) (notQueued : task.state ≠ .queued) :
    (s.dequeOf tenant).map (List.erase · id) = s.dequeOf tenant := by
  cases deque : s.dequeOf tenant with
  | none => rfl
  | some ids => simp [List.erase_of_not_mem (unqueued_absent coh found notQueued deque)]

theorem finish_running_cases (id : TaskId) (terminal : TaskState)
    (notQueued : terminal ≠ .queued) (notRunning : terminal ≠ .running) (now : TimePoint) :
    (s.finishRunningTask id terminal now = (false, s) ∧ s.taskState id ≠ some .running) ∨
      ∃ task next t, s.finishRunningTask id terminal now = (true, t) ∧ Finished s t id task next ∧ RoundKept s t ∧
        task.state = .running := by
  obtain ⟨coh, quota⟩ := inv
  cases found : s.tasks.lookup id with
  | none => exact .inl ⟨by simp [finishRunningTask, found], by simp [taskState, found]⟩
  | some task =>
    by_cases running : task.state = .running
    · have listed : id ∈ s.runningTaskIds := (coh.runningExact id).mpr ⟨task, found, running⟩
      have weight : allocatedWeight id task = task.spec.memoryBytes.toNat := by simp [allocatedWeight, running]
      have covered := allocated_covers quota found
      rw [weight] at covered
      obtain ⟨released, exact_⟩ := s.ledger.release_exact task.spec.memoryBytes covered
      refine .inr ⟨task, { task with state := terminal }, s.retireTask id { task with state := terminal }
        { s.ledger with allocatedBytes := s.ledger.allocatedBytes - task.spec.memoryBytes }
        (elapsedMicroseconds task.runningAt now), ?_, ⟨⟨⟨rfl, rfl, rfl, rfl⟩, found, rfl, rfl, ?_, rfl,
          coh.cursorInRange, rfl⟩, .inr running, notQueued, notRunning, rfl, ?_, rfl, ?_, ?_, ?_, rfl, rfl⟩,
        ⟨fun _ => rfl, rfl, rfl, rfl⟩, running⟩
      · simp [finishRunningTask, found, running, listed, released]
      · intro tenant
        rw [unlisted_deque coh found (by simp [running])]
        exact (ite_self _).symm
      · simp [queuedWeight, running, retireTask, setTask, noteServiceTime]
      · simp [reservedWeight, running, retireTask]
      · simp only [retireTask, exact_]
        omega
      · have fits := quota.reservations id task found
        unfold ReservationFits at fits ⊢
        rw [if_neg (by simp [running])] at fits
        rwa [if_neg (by simp [notQueued])]
    · exact .inl ⟨by simp [finishRunningTask, found, running], by simpa [taskState, found] using running⟩

inductive Finisher : (Scheduler → TaskId → TimePoint → Bool × Scheduler) → Prop where
  | complete : Finisher complete
  | fail : Finisher fail

theorem finisher_cases {finish : Scheduler → TaskId → TimePoint → Bool × Scheduler} (finisher : Finisher finish)
    (id : TaskId) (now : TimePoint) :
    (finish s id now = (false, s) ∧ s.taskState id ≠ some .running) ∨
      ∃ task next t, finish s id now = (true, t) ∧ Finished s t id task next ∧ RoundKept s t ∧ task.state = .running := by
  cases finisher with
  | complete | fail => exact finish_running_cases inv id _ (by decide) (by decide) now

omit inv in
theorem cancel_queued_ledger (quota : QuotaExact s)
    (found : s.tasks.lookup id = some task) (queued : task.state = .queued) :
    ∃ reservation ledger, s.cancelQueuedTask id task = (true, s.dropQueuedTask id task reservation ledger) ∧
      reservation.active = false ∧ ledger.limitBytes = s.ledger.limitBytes ∧
      ledger.reservedBytes.toNat + reservedWeight id task = s.ledger.reservedBytes.toNat ∧
      ledger.allocatedBytes.toNat + allocatedWeight id task = s.ledger.allocatedBytes.toNat := by
  have fits := quota.reservations id task found
  unfold ReservationFits at fits
  by_cases fresh : task.dispatchSequence = 0
  · rw [if_pos ⟨queued, fresh⟩] at fits
    have weight : reservedWeight id task = task.spec.memoryBytes.toNat := by simp [reservedWeight, queued, fresh]
    have covered := reserved_covers quota found
    rw [weight] at covered
    obtain ⟨cancelled, left⟩ := s.ledger.cancel_reservation_exact task.spec.memoryBytes covered
    refine ⟨.spent, { s.ledger with reservedBytes := s.ledger.reservedBytes - task.spec.memoryBytes }, ?_, rfl, rfl,
      ?_, ?_⟩
    · simp [cancelQueuedTask, fits, fresh, QuotaReservation.cancel, cancelled, QuotaReservation.spent]
    · rw [left]
      omega
    · simp [allocatedWeight, queued, fresh]
  · rw [if_neg (fun both => fresh both.2)] at fits
    obtain ⟨reservation, held, spent⟩ := fits
    have weight : allocatedWeight id task = task.spec.memoryBytes.toNat := by simp [allocatedWeight, queued, fresh]
    have covered := allocated_covers quota found
    rw [weight] at covered
    obtain ⟨released, left⟩ := s.ledger.release_exact task.spec.memoryBytes covered
    refine ⟨reservation, { s.ledger with allocatedBytes := s.ledger.allocatedBytes - task.spec.memoryBytes }, ?_, spent,
      rfl, ?_, ?_⟩
    · simp [cancelQueuedTask, held, fresh, released]
    · simp [reservedWeight, fresh]
    · rw [left]
      omega

theorem cancel_queued_task_spec (found : s.tasks.lookup id = some task) (queued : task.state = .queued) :
    ∃ next t, s.cancelQueuedTask id task = (true, t) ∧ Finished s t id task next ∧ RoundKept s t := by
  obtain ⟨coh, quota⟩ := inv
  obtain ⟨reservation, ledger, result, spent, limit, reserved, allocated⟩ := cancel_queued_ledger quota found queued
  obtain ⟨queue, lookup⟩ := Option.isSome_iff_exists.mp (AList.lookup_isSome.mpr (coh.tenantKnown id task found))
  have idle := queued_idle coh found queued
  simp only [dropQueuedTask, removeTaskFromTenantQueue, decrementQueued, setTask, lookup] at result
  refine ⟨{ task with state := .cancelled, reservation := some reservation }, _, result,
    ⟨⟨⟨rfl, rfl, rfl, rfl⟩, found, rfl, rfl, edited_deques (List.erase · id) lookup, rfl,
      coh.cursorInRange, rfl⟩, .inl queued, by simp, by simp, (List.erase_of_not_mem idle).symm, ?_, limit,
      reserved, allocated, ⟨reservation, rfl, spent⟩, rfl, rfl⟩,
    ⟨fun query => edited_accounts query _ lookup, rfl, rfl, rfl⟩⟩
  have step := queued_pred coh found queued
  rw [queuedWeight, if_pos queued]
  exact step

theorem cancel_cases (id : TaskId) (now : TimePoint) :
    (s.cancel id now = (false, s) ∧ s.taskState id ≠ some .queued ∧ s.taskState id ≠ some .running) ∨
      ∃ task next t, s.cancel id now = (true, t) ∧ Finished s t id task next ∧ RoundKept s t := by
  cases found : s.tasks.lookup id with
  | none => exact .inl ⟨by simp [cancel, found], by simp [taskState, found], by simp [taskState, found]⟩
  | some task =>
    cases state : task.state with
    | queued =>
      obtain ⟨next, t, result, finished, kept⟩ := cancel_queued_task_spec inv found state
      exact .inr ⟨task, next, t, by simp [cancel, found, state, result], finished, kept⟩
    | running =>
      rcases finish_running_cases inv id .cancelled (by decide) (by decide) now with
        ⟨_, other⟩ | ⟨record, next, t, result, finished, kept, _⟩
      · simp [taskState, found, state] at other
      · exact .inr ⟨record, next, t, by simp [cancel, found, state, result], finished, kept⟩
    | completed | cancelled | failed => exact .inl ⟨by simp [cancel, found, state], by simp [taskState, found, state]⟩

theorem cancel_queued_cases (id : TaskId) :
    (s.cancelQueued id = (false, s) ∧ s.taskState id ≠ some .queued) ∨
      ∃ task next t, s.cancelQueued id = (true, t) ∧ Finished s t id task next ∧ RoundKept s t ∧
      task.state = .queued := by
  cases waiting : queuedRecord s.tasks id with
  | none =>
    refine .inl ⟨by simp [cancelQueued, waiting], ?_⟩
    intro state
    obtain ⟨task, found, queued⟩ := Option.map_eq_some_iff.mp state
    rw [(queued_record_iff _ _ _).mpr ⟨found, queued⟩] at waiting
    cases waiting
  | some task =>
    obtain ⟨found, queued⟩ := (queued_record_iff _ _ _).mp waiting
    obtain ⟨next, t, result, finished, kept⟩ := cancel_queued_task_spec inv found queued
    exact .inr ⟨task, next, t, by simp [cancelQueued, waiting, result], finished, kept, queued⟩

theorem forget_cases (id : TaskId) :
    s.forget id = (false, s) ∨ ∃ task t, s.forget id = (true, t) ∧ Forgotten s t id task := by
  cases found : s.tasks.lookup id with
  | none => exact .inl (by simp [forget, found])
  | some task =>
    by_cases live : task.state = .queued ∨ task.state = .running
    · exact .inl (by simp [forget, found, if_pos live])
    have fits := inv.quota.reservations id task found
    obtain ⟨notQueued, notRunning⟩ := not_or.mp live
    unfold ReservationFits at fits
    rw [if_neg (fun both => notQueued both.1)] at fits
    obtain ⟨reservation, held, spent⟩ := fits
    refine .inr ⟨task, { s with tasks := s.tasks.erase id }, ?_, ?_⟩
    · simp [forget, found, if_neg live, held, QuotaReservation.cancel, spent]
    · exact ⟨⟨rfl, rfl, rfl, rfl⟩, rfl, rfl, rfl, found, notQueued, notRunning, rfl, fun _ => rfl, rfl, rfl, rfl, rfl,
        rfl, rfl, rfl⟩

end

theorem set_slots_retuned (coh : Coherent s) (slots : Nat) : Retuned s (s.setPriorityReservedSlots slots).2 := by
  unfold setPriorityReservedSlots
  split
  · exact retuned_refl coh
  · exact ⟨⟨rfl, rfl, rfl, rfl⟩, rfl, fun _ => rfl, rfl, coh.cursorInRange, rfl, rfl, rfl, rfl, rfl⟩

end Scheduler

end Glimmer.Core
