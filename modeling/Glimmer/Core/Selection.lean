import Glimmer.Core.SchedulerEffects
import Glimmer.Lib.CyclicScan

namespace Glimmer.Core.Scheduler

open Lib

variable {s t u : Scheduler} {id : TaskId} {tenant : TenantId} {task : TaskRecord}

theorem mem_deque_ids : id ∈ s.dequeIds ↔ ∃ tenant ids, s.dequeOf tenant = some ids ∧ id ∈ ids := by
  rw [dequeIds, List.mem_flatMap]
  constructor
  · rintro ⟨⟨tenant, queue⟩, entry, mem⟩
    have lookup := (KeyedMap.mem_entries_iff s.tenantQueues tenant queue).mp entry
    exact ⟨tenant, queue.taskIds, by simp [dequeOf, lookup], mem⟩
  · rintro ⟨tenant, ids, deque, mem⟩
    obtain ⟨queue, lookup, same⟩ := Option.map_eq_some_iff.mp deque
    exact ⟨⟨tenant, queue⟩, (KeyedMap.mem_entries_iff s.tenantQueues tenant queue).mpr lookup, same ▸ mem⟩

theorem mem_deque_ids_iff (coh : Coherent s) (id : TaskId) :
    id ∈ s.dequeIds ↔ ∃ task, queuedRecord s.tasks id = some task := by
  rw [mem_deque_ids]
  constructor
  · rintro ⟨tenant, ids, deque, mem⟩
    obtain ⟨task, lookup, queued, _⟩ := coh.owned tenant ids id deque mem
    exact ⟨task, (queued_record_iff _ _ _).mpr ⟨lookup, queued⟩⟩
  · rintro ⟨task, found⟩
    obtain ⟨lookup, queued⟩ := (queued_record_iff _ _ _).mp found
    obtain ⟨ids, deque, mem⟩ := coh.placed id task lookup queued
    exact ⟨task.spec.tenantId, ids, deque, mem⟩

theorem cursor_in_range (coh : Coherent s) (nonempty : s.tenantOrder ≠ []) :
    s.tenantCursor < s.tenantOrder.length := by
  have bound := coh.cursorInRange
  have pos := List.length_pos_iff.mpr nonempty
  omega

theorem advance_cursor (s : Scheduler) : s.advanceTenant.tenantCursor < max s.tenantOrder.length 1 := by
  unfold advanceTenant
  dsimp only
  split
  · omega
  · next nonempty =>
    have bound := Nat.mod_lt (s.tenantCursor + 1) (List.length_pos_iff.mpr nonempty)
    omega

theorem advance_retuned : Retuned s s.advanceTenant :=
  ⟨⟨rfl, rfl, rfl, rfl⟩, rfl, fun _ => rfl, rfl, advance_cursor s, rfl, rfl, rfl, rfl, rfl⟩

theorem set_queue_retuned (coh : Coherent s) {old queue : TenantQueue}
    (lookup : s.tenantQueues.lookup tenant = some old) (same : queue.taskIds = old.taskIds) :
    Retuned s (s.setQueue tenant queue) := by
  refine ⟨⟨rfl, rfl, rfl, rfl⟩, rfl, ?_, rfl, coh.cursorInRange, rfl, rfl, rfl, rfl, rfl⟩
  intro query
  rw [deque_of_set_queue]
  split
  · next here =>
    subst here
    simp [dequeOf, lookup, same]
  · rfl

structure Taken (s t : Scheduler) (id : TaskId) (task : TaskRecord) : Prop where
  config : SameConfiguration s t
  found : s.tasks.lookup id = some task
  queued : task.state = .queued
  tasks : t.tasks = s.tasks
  deques : ∀ tenant, t.dequeOf tenant =
    if tenant = task.spec.tenantId then (s.dequeOf tenant).map (List.erase · id) else s.dequeOf tenant
  order : t.tenantOrder = s.tenantOrder
  cursor : t.tenantCursor < max t.tenantOrder.length 1
  running : t.runningTaskIds = s.runningTaskIds
  count : t.queuedTaskCount = wrapPred s.queuedTaskCount
  ledger : t.ledger = s.ledger
  nextId : t.nextTaskId = s.nextTaskId
  nextSequence : t.nextDispatchSequence = s.nextDispatchSequence

theorem retuned_taken (retuned : Retuned s t) (taken : Taken t u id task) : Taken s u id task := by
  obtain ⟨config, found, queued, tasks, deques, order, cursor, running, count, ledger, nextId, nextSequence⟩ := taken
  refine ⟨retuned.config.trans config, retuned.tasks ▸ found, queued, tasks.trans retuned.tasks, ?_,
    order.trans retuned.order, cursor, running.trans retuned.running, retuned.count ▸ count,
    ledger.trans retuned.ledger, nextId.trans retuned.nextId, nextSequence.trans retuned.nextSequence⟩
  intro tenant
  rw [deques tenant, retuned.deques tenant]

theorem taken_retuned (taken : Taken s t id task) (retuned : Retuned t u) : Taken s u id task := by
  obtain ⟨config, found, queued, tasks, deques, order, _, running, count, ledger, nextId, nextSequence⟩ := taken
  refine ⟨config.trans retuned.config, found, queued, retuned.tasks.trans tasks, ?_,
    retuned.order.trans order, retuned.cursor, retuned.running.trans running, retuned.count.trans count,
    retuned.ledger.trans ledger, retuned.nextId.trans nextId, retuned.nextSequence.trans nextSequence⟩
  intro tenant
  rw [retuned.deques tenant, deques tenant]

structure Head (s : Scheduler) (tenant : TenantId) (queue : TenantQueue) (id : TaskId) (rest : List TaskId)
    (task : TaskRecord) : Prop where
  lookup : s.tenantQueues.lookup tenant = some queue
  front : queue.taskIds = id :: rest
  found : s.tasks.lookup id = some task
  queued : task.state = .queued
  owner : task.spec.tenantId = tenant

variable {tenant : TenantId} {queue : TenantQueue} {rest : List TaskId} {task : TaskRecord}

theorem Head.deque (head : Head s tenant queue id rest task) : s.dequeOf tenant = some (id :: rest) := by
  simp [dequeOf, head.lookup, head.front]

theorem Head.first (head : Head s tenant queue id rest task) :
    frontQueued s.tasks queue.taskIds = some (id, task, rest) := by
  rw [head.front]
  simp [frontQueued, (queued_record_iff s.tasks id task).mpr ⟨head.found, head.queued⟩]

section
variable (coh : Coherent s)
include coh

theorem head_exists (lookup : s.tenantQueues.lookup tenant = some queue)
    (front : queue.taskIds = id :: rest) : ∃ task, Head s tenant queue id rest task := by
  obtain ⟨task, found, queued, owner⟩ := coh.owned tenant (id :: rest) id (by simp [dequeOf, lookup, front]) (by simp)
  exact ⟨task, lookup, front, found, queued, owner⟩

theorem pop_front_taken (head : Head s tenant queue id rest task) (left : TenantQueue)
    (popped : left.taskIds = rest) : Taken s (s.setQueue tenant left).decrementQueued id task := by
  refine ⟨⟨rfl, rfl, rfl, rfl⟩, head.found, head.queued, rfl, ?_, rfl, coh.cursorInRange, rfl, rfl, rfl, rfl, rfl⟩
  intro query
  change (s.setQueue tenant left).dequeOf query = _
  rw [deque_of_set_queue, head.owner]
  split
  · next here =>
    subst here
    simp [head.deque, popped]
  · rfl

omit coh in
theorem edited_deques {queue : TenantQueue} (edit : List TaskId → List TaskId)
    (lookup : s.tenantQueues.lookup tenant = some queue) (query : TenantId) :
    (s.setQueue tenant { queue with taskIds := edit queue.taskIds }).dequeOf query =
      if query = tenant then (s.dequeOf query).map edit else s.dequeOf query := by
  rw [deque_of_set_queue]
  split
  · next here =>
    subst here
    simp [dequeOf, lookup]
  · rfl

theorem take_peeked_cases (peeked : Option TaskId) :
    (s.takePeekedTask peeked = (none, s) ∧ ∀ id, peeked = some id → queuedRecord s.tasks id = none) ∨
      ∃ id task after, peeked = some id ∧ s.takePeekedTask peeked = (some id, after) ∧ Taken s after id task := by
  cases peeked with
  | none => exact .inl ⟨rfl, by simp⟩
  | some id =>
    cases found : queuedRecord s.tasks id with
    | none => exact .inl ⟨by simp [takePeekedTask, found], by simpa using found⟩
    | some task =>
      obtain ⟨lookup, queued⟩ := (queued_record_iff _ _ _).mp found
      refine .inr ⟨id, task, (s.removeTaskFromTenantQueue task.spec.tenantId id).decrementQueued, rfl, ?_, ?_⟩
      · simp [takePeekedTask, found]
      · have known := coh.tenantKnown id task lookup
        obtain ⟨queue, stored⟩ := Option.isSome_iff_exists.mp (AList.lookup_isSome.mpr known)
        simp only [removeTaskFromTenantQueue, stored]
        exact ⟨⟨rfl, rfl, rfl, rfl⟩, lookup, queued, rfl, edited_deques (List.erase · id) stored, rfl,
          coh.cursorInRange, rfl, rfl, rfl, rfl, rfl⟩

-- What a tenant offers a round-robin scan: the task at the head of its deque,
-- in a deficit round only if the tenant can pay for it.
def weightedOffer (s : Scheduler) (tenant : TenantId) : Option TaskId :=
  (s.tenantQueues.lookup tenant).bind fun queue => (frontQueued s.tasks queue.taskIds).map Prod.fst

def deficitOffer (s : Scheduler) (tenant : TenantId) : Option TaskId :=
  (s.tenantQueues.lookup tenant).bind fun queue =>
    (frontQueued s.tasks queue.taskIds).bind fun front =>
      if queue.deficit ≥ front.2.1.spec.workUnits.toUInt64 then some front.1 else none

theorem weighted_offer_iff (id : TaskId) :
    s.weightedOffer tenant = some id ↔ ∃ rest, s.dequeOf tenant = some (id :: rest) := by
  cases lookup : s.tenantQueues.lookup tenant with
  | none => simp [weightedOffer, dequeOf, lookup]
  | some queue =>
    cases front : queue.taskIds with
    | nil => simp [weightedOffer, dequeOf, lookup, front, frontQueued]
    | cons first rest =>
      obtain ⟨task, head⟩ := head_exists coh lookup front
      simp [weightedOffer, lookup, head.first, head.deque]

theorem deficit_offer_iff (tenant : TenantId) (id : TaskId) :
    s.deficitOffer tenant = some id ↔ ∃ queue rest task, s.tenantQueues.lookup tenant = some queue ∧
      queue.taskIds = id :: rest ∧ s.tasks.lookup id = some task ∧ task.spec.workUnits.toUInt64 ≤ queue.deficit := by
  cases lookup : s.tenantQueues.lookup tenant with
  | none => simp [deficitOffer, lookup]
  | some queue =>
    cases front : queue.taskIds with
    | nil => simp [deficitOffer, lookup, front, frontQueued]
    | cons first rest =>
      obtain ⟨task, head⟩ := head_exists coh lookup front
      have offered := front ▸ head.first
      by_cases here : first = id
      · subst here
        simp [deficitOffer, lookup, front, offered, head.found]
      · simp [deficitOffer, lookup, front, offered, here]

end

theorem peek_weighted_scan (s : Scheduler) (attempts cursor : Nat) (inRange : cursor < s.tenantOrder.length) :
    s.peekWeightedFrom attempts cursor = scanFrom s.tenantOrder s.weightedOffer attempts cursor := by
  induction attempts generalizing cursor with
  | zero => rfl
  | succ attempts ih =>
    have next : (cursor + 1) % s.tenantOrder.length < s.tenantOrder.length := Nat.mod_lt _ (by omega)
    have here : ¬ cursor ≥ s.tenantOrder.length := by omega
    simp only [peekWeightedFrom, scanFrom, if_neg here, ih _ next, queueAt, List.getElem?_eq_getElem inRange,
      Option.bind_some, weightedOffer]
    cases s.tenantQueues.lookup s.tenantOrder[cursor] with
    | none => rfl
    | some queue =>
      simp only [Option.map_some, Option.bind_some]
      cases frontQueued s.tasks queue.taskIds <;> rfl

theorem peek_deficit_scan (s : Scheduler) (attempts cursor : Nat) (inRange : cursor < s.tenantOrder.length) :
    s.peekDeficitFrom attempts cursor = scanFrom s.tenantOrder s.deficitOffer attempts cursor := by
  induction attempts generalizing cursor with
  | zero => rfl
  | succ attempts ih =>
    have next : (cursor + 1) % s.tenantOrder.length < s.tenantOrder.length := Nat.mod_lt _ (by omega)
    simp only [peekDeficitFrom, scanFrom, ih _ next, queueAt, List.getElem?_eq_getElem inRange,
      Option.bind_some, deficitOffer]
    cases s.tenantQueues.lookup s.tenantOrder[cursor] with
    | none => rfl
    | some queue =>
      simp only [Option.map_some, Option.bind_some]
      cases frontQueued s.tasks queue.taskIds with
      | none => rfl
      | some front =>
        simp only [Option.bind_some]
        split <;> rfl

-- A visit of the deficit scan; a head that is too dear earns its tenant the quantum.
inductive DeficitVisit (s : Scheduler) : Option TaskId → Scheduler → Prop where
  | passed (tenant : TenantId) (queue : TenantQueue) (here : s.tenantOrder[s.tenantCursor]? = some tenant)
      (lookup : s.tenantQueues.lookup tenant = some queue) (empty : queue.taskIds = []) :
      DeficitVisit s none (s.setQueue tenant { queue with taskIds := [] }).advanceTenant
  | earned (tenant : TenantId) (queue : TenantQueue) (id : TaskId) (rest : List TaskId) (task : TaskRecord)
      (here : s.tenantOrder[s.tenantCursor]? = some tenant) (head : Head s tenant queue id rest task)
      (dear : queue.deficit < task.spec.workUnits.toUInt64) :
      DeficitVisit s none (s.setQueue tenant { queue with
        taskIds := id :: rest
        deficit := accrueDeficit queue.deficit queue.weight.toUInt64 }).advanceTenant
  | served (tenant : TenantId) (queue : TenantQueue) (id : TaskId) (rest : List TaskId) (task : TaskRecord)
      (here : s.tenantOrder[s.tenantCursor]? = some tenant) (head : Head s tenant queue id rest task)
      (affordable : task.spec.workUnits.toUInt64 ≤ queue.deficit) :
      DeficitVisit s (some id) (s.setQueue tenant { queue with
        taskIds := rest
        deficit := queue.deficit - task.spec.workUnits.toUInt64 }).advanceTenant.decrementQueued

-- A visit of the weighted scan; the cursor stays while the tenant has budget and work.
inductive WeightedVisit (s : Scheduler) : Option TaskId → Scheduler → Prop where
  | passed (tenant : TenantId) (queue : TenantQueue) (here : s.tenantOrder[s.tenantCursor]? = some tenant)
      (lookup : s.tenantQueues.lookup tenant = some queue) (empty : queue.taskIds = []) :
      WeightedVisit s none (s.setQueue tenant { queue with taskIds := [] }).advanceTenant
  | served (tenant : TenantId) (queue : TenantQueue) (id : TaskId) (rest : List TaskId) (task : TaskRecord)
      (here : s.tenantOrder[s.tenantCursor]? = some tenant) (head : Head s tenant queue id rest task) :
      WeightedVisit s (some id) (s.chargeTenant tenant queue rest).decrementQueued

-- A selection that walks the ring of tenants one visit after another, and the offer of a tenant that its visit answers.
structure Ring (Visit : Scheduler → Option TaskId → Scheduler → Prop)
    (select : Nat → Scheduler → Option TaskId × Scheduler) (offer : Scheduler → TenantId → Option TaskId) : Prop where
  stop : ∀ s, select 0 s = (none, s)
  visit : ∀ {s : Scheduler} (attempts : Nat), Coherent s → s.tenantCursor < s.tenantOrder.length →
    ∃ outcome after, Visit s outcome after ∧ select (attempts + 1) s =
      match outcome with
      | none => select attempts after
      | some id => (some id, after)
  retuned : ∀ {s t : Scheduler}, Coherent s → Visit s none t → Retuned s t
  taken : ∀ {s t : Scheduler} {id : TaskId}, Coherent s → Visit s (some id) t → ∃ task, Taken s t id task
  cursor : ∀ {s t : Scheduler}, Visit s none t → s.tenantCursor < s.tenantOrder.length →
    t.tenantCursor = (s.tenantCursor + 1) % s.tenantOrder.length
  offers : ∀ {s t : Scheduler} {outcome : Option TaskId} {tenant : TenantId}, Visit s outcome t →
    s.tenantOrder[s.tenantCursor]? = some tenant → offer s tenant = outcome
  others : ∀ {s t : Scheduler} {tenant : TenantId}, Coherent s → Visit s none t →
    s.tenantOrder[s.tenantCursor]? ≠ some tenant → offer t tenant = offer s tenant

inductive Round (Visit : Scheduler → Option TaskId → Scheduler → Prop) :
    Scheduler → Option TaskId → Scheduler → Prop where
  | done (s : Scheduler) : Round Visit s none s
  | served {s t : Scheduler} {id : TaskId} (visit : Visit s (some id) t) : Round Visit s (some id) t
  | next {s t u : Scheduler} {outcome : Option TaskId} (visit : Visit s none t)
      (rest : Round Visit t outcome u) : Round Visit s outcome u

section Rounds
variable {Visit : Scheduler → Option TaskId → Scheduler → Prop} {select : Nat → Scheduler → Option TaskId × Scheduler}
  {offer : Scheduler → TenantId → Option TaskId} (ring : Ring Visit select offer)

include ring

theorem Ring.round (attempts : Nat) (s : Scheduler) (coh : Coherent s) (bounded : attempts ≤ s.tenantOrder.length) :
    Round Visit s (select attempts s).1 (select attempts s).2 := by
  induction attempts generalizing s with
  | zero =>
    rw [ring.stop]
    exact .done s
  | succ attempts ih =>
    have inRange := cursor_in_range coh (List.length_pos_iff.mp (by omega))
    obtain ⟨outcome, after, visit, step⟩ := ring.visit attempts coh inRange
    rw [step]
    cases outcome with
    | some id => exact .served visit
    | none =>
      have retuned := ring.retuned coh visit
      exact .next visit (ih after (retuned_coherent retuned coh) (by rw [retuned.order]; omega))

theorem Ring.round_taken (round : Round Visit s (some id) t) (coh : Coherent s) : ∃ task, Taken s t id task := by
  generalize ended : some id = outcome at round
  induction round with
  | done s => cases ended
  | served visit =>
    cases ended
    exact ring.taken coh visit
  | next visit rest ih =>
    have retuned := ring.retuned coh visit
    obtain ⟨task, taken⟩ := ih (retuned_coherent retuned coh) ended
    exact ⟨task, retuned_taken retuned taken⟩

theorem Ring.round_retuned (round : Round Visit s none t) (coh : Coherent s) : Retuned s t := by
  generalize ended : (none : Option TaskId) = outcome at round
  induction round with
  | done s => exact retuned_refl coh
  | served _ => cases ended
  | next visit rest ih =>
    have retuned := ring.retuned coh visit
    exact retuned_trans retuned (ih (retuned_coherent retuned coh) ended)

theorem Ring.cases (s : Scheduler) (coh : Coherent s) :
    (∃ t, select s.tenantOrder.length s = (none, t) ∧ Retuned s t) ∨
      ∃ id task t, select s.tenantOrder.length s = (some id, t) ∧ Taken s t id task := by
  have round := ring.round _ s coh (Nat.le_refl _)
  generalize select s.tenantOrder.length s = selected at round
  obtain ⟨outcome, t⟩ := selected
  cases outcome with
  | none => exact .inl ⟨t, rfl, ring.round_retuned round coh⟩
  | some id =>
    obtain ⟨task, taken⟩ := ring.round_taken round coh
    exact .inr ⟨id, task, t, rfl, taken⟩

-- The mutating scan picks what the read-only scan sees: a visit changes only
-- its own tenant's offer, and no tenant is visited twice in one round.
theorem Ring.first (attempts : Nat) (s : Scheduler) (coh : Coherent s) (bounded : attempts ≤ s.tenantOrder.length) :
    (select attempts s).1 = ((s.tenantOrder.rotate s.tenantCursor).take attempts).findSome? (offer s) := by
  induction attempts generalizing s with
  | zero =>
    rw [ring.stop]
    rfl
  | succ attempts ih =>
    have inRange := cursor_in_range coh (List.length_pos_iff.mp (by omega))
    have here : s.tenantOrder[s.tenantCursor]? = some s.tenantOrder[s.tenantCursor] := List.getElem?_eq_getElem inRange
    obtain ⟨outcome, after, visit, step⟩ := ring.visit attempts coh inRange
    have split := take_rotate_succ s.tenantOrder s.tenantCursor attempts inRange bounded
    rw [step, split, List.findSome?_cons, ring.offers visit here]
    cases outcome with
    | some id => rfl
    | none =>
      have retuned := ring.retuned coh visit
      have distinct : (s.tenantOrder[s.tenantCursor] ::
          (s.tenantOrder.rotate ((s.tenantCursor + 1) % s.tenantOrder.length)).take attempts).Nodup := by
        rw [← split]
        exact (List.nodup_rotate.mpr coh.orderNodup).sublist (List.take_sublist _ _)
      rw [ih after (retuned_coherent retuned coh) (by rw [retuned.order]; omega), retuned.order,
        ring.cursor visit inRange]
      refine find_some_congr fun tenant mem => ring.others coh visit fun same => ?_
      exact (List.nodup_cons.mp distinct).1 (Option.some.inj (here.symm.trans same) ▸ mem)

end Rounds

theorem cursor_cases (coh : Coherent s) (inRange : s.tenantCursor < s.tenantOrder.length) :
    ∃ tenant queue, s.tenantOrder[s.tenantCursor]? = some tenant ∧ s.queueAt s.tenantCursor = some (tenant, queue) ∧
      ((s.tenantQueues.lookup tenant = some queue ∧ queue.taskIds = []) ∨
        ∃ id rest task, Head s tenant queue id rest task) := by
  have known := (coh.orderKeys s.tenantOrder[s.tenantCursor]).mp (List.getElem_mem inRange)
  obtain ⟨queue, lookup⟩ := Option.isSome_iff_exists.mp (AList.lookup_isSome.mpr known)
  refine ⟨_, queue, List.getElem?_eq_getElem inRange, by simp [queueAt, List.getElem?_eq_getElem inRange, lookup], ?_⟩
  cases front : queue.taskIds with
  | nil => exact .inl ⟨lookup, rfl⟩
  | cons id rest => exact .inr ⟨id, rest, head_exists coh lookup front⟩

theorem advance_cursor_eq (inRange : s.tenantCursor < s.tenantOrder.length) :
    s.advanceTenant.tenantCursor = (s.tenantCursor + 1) % s.tenantOrder.length := by
  have nonempty : s.tenantOrder ≠ [] := List.length_pos_iff.mp (by omega)
  simp [advanceTenant, nonempty]

theorem deficit_visit_cursor {outcome : Option TaskId} (visit : DeficitVisit s outcome t)
    (inRange : s.tenantCursor < s.tenantOrder.length) :
    t.tenantCursor = (s.tenantCursor + 1) % s.tenantOrder.length := by
  cases visit <;> exact advance_cursor_eq inRange

theorem deficit_visit_elsewhere (visit : DeficitVisit s none t)
    (elsewhere : s.tenantOrder[s.tenantCursor]? ≠ some tenant) :
    t.tenantQueues.lookup tenant = s.tenantQueues.lookup tenant := by
  cases visit with
  | passed owner queue here | earned owner queue id rest task here =>
    exact AList.lookup_insert_ne fun same => elsewhere (same ▸ here)

theorem deficit_ring : Ring DeficitVisit selectDeficitFrom deficitOffer where
  stop _ := rfl
  visit attempts coh inRange := by
    obtain ⟨tenant, queue, here, read, ⟨lookup, empty⟩ | ⟨id, rest, task, head⟩⟩ := cursor_cases coh inRange
    · refine ⟨none, _, .passed tenant queue here lookup empty, ?_⟩
      simp [selectDeficitFrom, if_neg (Nat.not_le.mpr inRange), read, empty, frontQueued]
    · by_cases dear : queue.deficit < task.spec.workUnits.toUInt64
      · refine ⟨none, _, .earned tenant queue id rest task here head dear, ?_⟩
        simp [selectDeficitFrom, if_neg (Nat.not_le.mpr inRange), read, head.first, if_pos dear]
      · refine ⟨some id, _, .served tenant queue id rest task here head (UInt64.not_lt.mp dear), ?_⟩
        simp [selectDeficitFrom, if_neg (Nat.not_le.mpr inRange), read, head.first, if_neg dear]
  retuned coh visit := by
    cases visit with
    | passed tenant queue here lookup empty =>
      exact retuned_trans (set_queue_retuned coh lookup empty.symm) advance_retuned
    | earned tenant queue id rest task here head dear =>
      exact retuned_trans (set_queue_retuned coh head.lookup head.front.symm) advance_retuned
  taken coh visit := by
    cases visit with
    | served tenant queue id rest task here head affordable =>
      refine ⟨task, ?_⟩
      exact taken_retuned (pop_front_taken coh head _ rfl) advance_retuned
  cursor := deficit_visit_cursor
  offers visit here := by
    cases visit with
    | passed owner queue at_ lookup empty =>
      cases here.symm.trans at_
      simp [deficitOffer, lookup, empty, frontQueued]
    | earned owner queue id rest task at_ head dear =>
      cases here.symm.trans at_
      simp [deficitOffer, head.lookup, head.first, UInt64.not_le.mpr dear]
    | served owner queue id rest task at_ head affordable =>
      cases here.symm.trans at_
      simp [deficitOffer, head.lookup, head.first, affordable]
  others _ visit elsewhere := by
    have tasks : ∀ {s t}, DeficitVisit s none t → t.tasks = s.tasks := fun visit => by cases visit <;> rfl
    simp [deficitOffer, deficit_visit_elsewhere visit elsewhere, tasks visit]

theorem weighted_offer_retuned (retuned : Retuned s t) : t.weightedOffer tenant = s.weightedOffer tenant := by
  have through : ∀ u : Scheduler, u.weightedOffer tenant =
      (u.dequeOf tenant).bind fun ids => (frontQueued u.tasks ids).map Prod.fst := by
    intro u
    simp only [weightedOffer, dequeOf, Option.bind_map]
    rfl
  rw [through, through, retuned.deques, retuned.tasks]

theorem weighted_visit_retuned (coh : Coherent s) (visit : WeightedVisit s none t) : Retuned s t := by
  cases visit with
  | passed tenant queue here lookup empty =>
    exact retuned_trans (set_queue_retuned coh lookup empty.symm) advance_retuned

theorem weighted_ring : Ring WeightedVisit selectWeightedFrom weightedOffer where
  stop _ := rfl
  visit attempts coh inRange := by
    obtain ⟨tenant, queue, here, read, ⟨lookup, empty⟩ | ⟨id, rest, task, head⟩⟩ := cursor_cases coh inRange
    · refine ⟨none, _, .passed tenant queue here lookup empty, ?_⟩
      simp [selectWeightedFrom, if_neg (Nat.not_le.mpr inRange), read, empty, frontQueued]
    · refine ⟨some id, _, .served tenant queue id rest task here head, ?_⟩
      simp [selectWeightedFrom, if_neg (Nat.not_le.mpr inRange), read, head.first]
  retuned := weighted_visit_retuned
  taken coh visit := by
    cases visit with
    | served tenant queue id rest task here head =>
      have popped := pop_front_taken coh head { queue with taskIds := rest } rfl
      refine ⟨task, taken_retuned popped ?_⟩
      rw [chargeTenant]
      generalize (if _ = (0 : UInt32) then queue.weight else _) - 1 = budget
      split
      · exact ⟨⟨rfl, rfl, rfl, rfl⟩, rfl, fun _ => rfl, rfl, advance_cursor _, rfl, rfl, rfl, rfl, rfl⟩
      · exact ⟨⟨rfl, rfl, rfl, rfl⟩, rfl, fun _ => rfl, rfl, popped.cursor, rfl, rfl, rfl, rfl, rfl⟩
  cursor visit inRange := by
    cases visit with
    | passed tenant queue here lookup empty => exact advance_cursor_eq inRange
  offers visit here := by
    cases visit with
    | passed owner queue at_ lookup empty =>
      cases here.symm.trans at_
      simp [weightedOffer, lookup, empty, frontQueued]
    | served owner queue id rest task at_ head =>
      cases here.symm.trans at_
      simp [weightedOffer, head.lookup, head.first]
  others coh visit _ := weighted_offer_retuned (weighted_visit_retuned coh visit)

end Glimmer.Core.Scheduler
