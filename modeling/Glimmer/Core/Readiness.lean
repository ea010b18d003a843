import Glimmer.Core.PriorityReservation

namespace Glimmer.Core.Scheduler

open Lib

variable {s : Scheduler} {id : TaskId}

theorem dispatch_next_starts (inv : Invariant s) (now : TimePoint)
    (peeked : s.peekNextTask = some id) : (s.dispatchNext now).1.isSome = true ↔ Dispatchable s id := by
  constructor
  · intro started
    by_cases full : s.runningTaskIds.length ≥ s.maxRunningTasks
    · simp [dispatchNext, full] at started
    by_cases blocked : s.priorityReservationBlocksLowDispatch = true
    · simp [dispatchNext, blocked] at started
    exact ⟨Nat.not_le.mp full, by simpa using blocked, peeked⟩
  · intro ready
    cases result : (s.dispatchNext now).1 with
    | some snap => rfl
    | none =>
      rcases dispatch_next_idle inv result with ⟨_, full | blocked⟩ | ⟨_, nobody⟩
      · exact absurd ready.slot (Nat.not_lt.mpr full)
      · cases ready.unreserved.symm.trans blocked
      · cases ready.next.symm.trans nobody

theorem dispatch_task_starts (inv : Invariant s) (id : TaskId) (now : TimePoint) :
    (s.dispatchTask id now).1.isSome = true ↔ Dispatchable s id := by
  rw [dispatch_task_eq inv]
  by_cases peeked : s.peekNextTask = some id
  · rw [if_pos (.inl peeked)]
    exact dispatch_next_starts inv now peeked
  have unready : ¬ Dispatchable s id := fun ready => peeked ready.next
  refine ⟨fun started => ?_, fun ready => absurd ready unready⟩
  split at started
  · next called =>
    obtain ⟨snap, result⟩ := Option.isSome_iff_exists.mp started
    obtain ⟨_, nobody, _⟩ := called.resolve_left peeked
    exact absurd ((dispatch_next_some inv result).symm.trans nobody) (by simp)
  · simp at started

-- A change after which no task issued before it is newly dispatchable.
def Quiet (s t : Scheduler) : Prop := ∀ id : Nat, id < s.nextTaskId → Dispatchable t id → Dispatchable s id

theorem quiet_refl (s : Scheduler) : Quiet s s := fun _ _ ready => ready

section Accepted
variable {s t : Scheduler} {spec : TaskSpec} {task : TaskRecord}

theorem accepted_is_queued (accepted : Accepted s t spec task) (id : TaskId) :
    isQueued t.tasks id = true ↔ id = s.nextTaskId ∨ isQueued s.tasks id = true := by
  by_cases fresh : id = s.nextTaskId
  · subst fresh
    simp [is_queued_iff, accepted_lookup accepted, accepted.queued]
  · simp [is_queued_iff, accepted_lookup accepted, fresh]

theorem accepted_queued_record (accepted : Accepted s t spec task) (old : id ≠ s.nextTaskId) :
    queuedRecord t.tasks id = queuedRecord s.tasks id := by
  simp [queuedRecord, accepted_lookup accepted, old]

variable (accepted : Accepted s t spec task)
include accepted

variable (coh : Coherent s)
include coh

theorem accepted_weighted_offer (after : Coherent t) (tenant : TenantId) (id : TaskId) :
    (s.weightedOffer tenant = some id → t.weightedOffer tenant = some id) ∧
      (t.weightedOffer tenant = some id → id = s.nextTaskId ∨ s.weightedOffer tenant = some id) := by
  simp only [weighted_offer_iff coh, weighted_offer_iff after, accepted.deques tenant]
  split
  · refine ⟨fun ⟨rest, deque⟩ => ⟨rest ++ [s.nextTaskId], by simp [deque]⟩, fun ⟨rest, _⟩ => ?_⟩
    cases known : s.dequeOf tenant with
    | none => simp_all
    | some ids => cases ids <;> simp_all
  · exact ⟨fun offered => offered, fun offered => .inr offered⟩

theorem accepted_deficit_offer (after : Coherent t) (tenant : TenantId) (id : TaskId) :
    (s.deficitOffer tenant = some id → t.deficitOffer tenant = some id) ∧
      (t.deficitOffer tenant = some id → id = s.nextTaskId ∨ s.deficitOffer tenant = some id) := by
  have others : ∀ other record, s.tasks.lookup other = some record → t.tasks.lookup other = some record := by
    intro other record found
    rw [accepted_lookup accepted, if_neg fun fresh => by
      rw [fresh, next_task_fresh coh] at found
      cases found]
    exact found
  simp only [deficit_offer_iff coh, deficit_offer_iff after, accepted.queues tenant]
  split
  · next owner =>
    constructor
    · rintro ⟨queue, rest, record, lookup, front, found, paid⟩
      exact ⟨{ queue with taskIds := queue.taskIds ++ [s.nextTaskId] }, rest ++ [s.nextTaskId], record,
        by simp [lookup], by simp [front], others id record found, paid⟩
    rintro ⟨queue, rest, record, lookup, front, found, paid⟩
    by_cases fresh : id = s.nextTaskId
    · exact .inl fresh
    rw [accepted_lookup accepted, if_neg fresh] at found
    cases known : s.tenantQueues.lookup tenant with
    | none =>
      simp only [known, Option.getD_none, List.nil_append, Option.some.injEq] at lookup
      rw [← lookup] at front
      simp only [List.cons.injEq] at front
      exact absurd front.1.symm fresh
    | some old =>
      simp only [known, Option.getD_some, Option.some.injEq] at lookup
      rw [← lookup] at front paid
      cases ids : old.taskIds with
      | nil =>
        simp only [ids, List.nil_append, List.cons.injEq] at front
        exact absurd front.1.symm fresh
      | cons head tail =>
        simp only [ids, List.cons_append, List.cons.injEq] at front
        exact .inr ⟨old, tail, record, rfl, by rw [ids, front.1], found, paid⟩
  · refine ⟨fun ⟨queue, rest, record, lookup, front, found, paid⟩ =>
      ⟨queue, rest, record, lookup, front, others id record found, paid⟩,
        fun ⟨queue, rest, record, lookup, front, found, paid⟩ => ?_⟩
    by_cases fresh : id = s.nextTaskId
    · exact .inl fresh
    · rw [accepted_lookup accepted, if_neg fresh] at found
      exact .inr ⟨queue, rest, record, lookup, front, found, paid⟩

-- A newcomer may become the next pick itself but never promotes another task.
theorem accepted_scan (offer wider : TenantId → Option TaskId)
    (keeps : ∀ tenant id, offer tenant = some id → wider tenant = some id)
    (adds : ∀ tenant id, wider tenant = some id → id = s.nextTaskId ∨ offer tenant = some id)
    (unknown : ∀ tenant, tenant ∉ s.tenantQueues → offer tenant = none) (id : TaskId) (old : id ≠ s.nextTaskId)
    (found : (t.tenantOrder.rotate t.tenantCursor).findSome? wider = some id) :
    (s.tenantOrder.rotate s.tenantCursor).findSome? offer = some id := by
  have narrowed := find_some_narrow keeps adds old found
  rw [accepted.order, accepted.cursor] at narrowed
  split at narrowed
  · exact narrowed
  next stranger =>
  by_cases empty : s.tenantOrder = []
  · simp only [empty, List.nil_append, List.rotate_singleton, List.findSome?_cons, unknown _ stranger,
      List.findSome?_nil] at narrowed
    cases narrowed
  · rwa [find_some_grown_ring (Nat.le_of_lt (cursor_in_range coh empty)) (unknown _ stranger)] at narrowed

theorem accepted_peek
    (old : id ≠ s.nextTaskId) (peeked : t.peekNextTask = some id) : s.peekNextTask = some id := by
  have after := accepted_coherent accepted coh
  have absent : ∀ tenant, tenant ∉ s.tenantQueues → s.tenantQueues.lookup tenant = none :=
    fun tenant stranger => AList.lookup_eq_none.mpr stranger
  unfold peekNextTask at peeked ⊢
  rw [accepted.config.policy] at peeked
  cases policy : s.policy with
  | fifo =>
    simp only [policy] at peeked
    obtain ⟨queued, least⟩ := (peek_fifo_iff after id).mp peeked
    exact (peek_fifo_iff coh id).mpr ⟨((accepted_is_queued accepted id).mp queued).resolve_left old,
      fun other waiting => least other ((accepted_is_queued accepted other).mpr (.inr waiting))⟩
  | priority =>
    simp only [policy] at peeked
    obtain ⟨queued, least⟩ := (peek_priority_iff after id).mp peeked
    refine (peek_priority_iff coh id).mpr ⟨((accepted_is_queued accepted id).mp queued).resolve_left old,
      fun other waiting => ?_⟩
    have issued : other ≠ s.nextTaskId := by
      rintro rfl
      obtain ⟨record, found, _⟩ := (is_queued_iff _).mp waiting
      exact absurd ((next_task_fresh coh).symm.trans found) (by simp)
    have ranked := least other ((accepted_is_queued accepted other).mpr (.inr waiting))
    simpa [priorityRank, queuedPriority, accepted_queued_record accepted old,
      accepted_queued_record accepted issued] using ranked
  | weightedRoundRobin =>
    simp only [policy] at peeked
    rw [peek_weighted_eq after] at peeked
    rw [peek_weighted_eq coh]
    exact accepted_scan accepted coh s.weightedOffer t.weightedOffer
      (fun tenant id => (accepted_weighted_offer accepted coh after tenant id).1)
      (fun tenant id => (accepted_weighted_offer accepted coh after tenant id).2)
      (fun tenant stranger => by simp [weightedOffer, absent tenant stranger]) id old peeked
  | deficitRoundRobin =>
    simp only [policy] at peeked
    rw [peek_deficit_eq after] at peeked
    rw [peek_deficit_eq coh]
    exact accepted_scan accepted coh s.deficitOffer t.deficitOffer
      (fun tenant id => (accepted_deficit_offer accepted coh after tenant id).1)
      (fun tenant id => (accepted_deficit_offer accepted coh after tenant id).2)
      (fun tenant stranger => by simp [deficitOffer, absent tenant stranger]) id old peeked

theorem accepted_low_running : t.lowRunning = s.lowRunning := by
  show t.runningTaskIds.countP t.isLow = s.runningTaskIds.countP s.isLow
  rw [accepted.running]
  exact List.countP_congr fun id mem => by rw [step_is_low coh (.accepted spec task accepted) mem]

theorem accepted_quiet : Quiet s t := by
  intro id issued ready
  have old : id ≠ s.nextTaskId := by omega
  have peeked := accepted_peek accepted coh old ready.next
  refine ⟨?_, ?_, peeked⟩
  · rw [← accepted.running, ← accepted.config.maxRunning]
    exact ready.slot
  · have unreserved := ready.unreserved
    unfold priorityReservationBlocksLowDispatch at unreserved ⊢
    simpa only [accepted.config.policy, accepted.reservedSlots, accepted_low_running accepted coh,
      accepted.config.maxRunning, ready.next, peeked, accepted_queued_record accepted old,
      accepted.config.threshold] using unreserved

end Accepted

theorem idle_scan_deficits (attempts : Nat) (s : Scheduler) (coh : Coherent s)
    (bounded : attempts ≤ s.tenantOrder.length) (nobody : (selectDeficitFrom attempts s).1 = none) (tenant : TenantId)
    (queue : TenantQueue) (lookup : s.tenantQueues.lookup tenant = some queue) :
    ∃ later, (selectDeficitFrom attempts s).2.tenantQueues.lookup tenant = some later ∧
      later.taskIds = queue.taskIds ∧ later.weight = queue.weight ∧ (later.deficit = queue.deficit ∨
        (tenant ∈ (s.tenantOrder.rotate s.tenantCursor).take attempts ∧
          later.deficit = accrueDeficit queue.deficit queue.weight.toUInt64)) := by
  induction attempts generalizing s queue with
  | zero => exact ⟨queue, lookup, rfl, rfl, .inl rfl⟩
  | succ attempts ih =>
    have inRange := cursor_in_range coh (List.length_pos_iff.mp (by omega))
    obtain ⟨outcome, after, visit, step⟩ := deficit_ring.visit attempts coh inRange
    cases outcome with
    | some id =>
      rw [step] at nobody
      cases nobody
    | none =>
      have retuned := deficit_ring.retuned coh visit
      have rest : attempts ≤ after.tenantOrder.length := by
        rw [retuned.order]
        omega
      have turn := take_rotate_succ s.tenantOrder s.tenantCursor attempts inRange bounded
      have once : s.tenantOrder[s.tenantCursor] ∉ (after.tenantOrder.rotate after.tenantCursor).take attempts := by
        have distinct := ((List.nodup_rotate (n := s.tenantCursor)).mpr coh.orderNodup).sublist
          (List.take_sublist (attempts + 1) _)
        rw [turn, List.nodup_cons] at distinct
        rw [retuned.order, deficit_visit_cursor visit inRange]
        exact distinct.1
      rw [step] at nobody ⊢
      have later := ih after (retuned_coherent retuned coh) rest nobody
      rw [retuned.order, deficit_visit_cursor visit inRange] at later once
      rw [turn]
      by_cases here : tenant = s.tenantOrder[s.tenantCursor]
      · obtain ⟨visited, now, ids, weight, deficit⟩ : ∃ visited, after.tenantQueues.lookup tenant = some visited ∧
            visited.taskIds = queue.taskIds ∧ visited.weight = queue.weight ∧ (visited.deficit = queue.deficit ∨
              visited.deficit = accrueDeficit queue.deficit queue.weight.toUInt64) := by
          have turned : s.tenantOrder[s.tenantCursor]? = some tenant := by rw [List.getElem?_eq_getElem inRange, here]
          cases visit with
          | passed owner old at_ known empty =>
            cases turned.symm.trans at_
            cases lookup.symm.trans known
            exact ⟨{ queue with taskIds := [] }, by simp [advanceTenant, setQueue], by simp [empty], rfl, .inl rfl⟩
          | earned owner old id others task at_ head dear =>
            cases turned.symm.trans at_
            cases lookup.symm.trans head.lookup
            exact ⟨{ queue with taskIds := id :: others, deficit := accrueDeficit queue.deficit queue.weight.toUInt64 },
              by simp [advanceTenant, setQueue], by simp [head.front], rfl, .inr rfl⟩
        obtain ⟨last, found, sameIds, sameWeight, kept | ⟨again, _⟩⟩ := later visited now
        · refine ⟨last, found, sameIds.trans ids, sameWeight.trans weight, ?_⟩
          rw [kept]
          exact deficit.imp_right fun earned => ⟨by rw [here]; exact List.mem_cons_self, earned⟩
        · exact absurd (here ▸ again) once
      · have elsewhere : s.tenantOrder[s.tenantCursor]? ≠ some tenant := by
          rw [List.getElem?_eq_getElem inRange]
          exact fun same => here (Option.some.inj same).symm
        obtain ⟨last, found, sameIds, sameWeight, deficit⟩ :=
          later queue ((deficit_visit_elsewhere visit elsewhere).trans lookup)
        exact ⟨last, found, sameIds, sameWeight,
          deficit.imp_right fun earned => ⟨List.mem_cons_of_mem _ earned.1, earned.2⟩⟩

-- A free slot, no head that its tenant can pay for, and a head that becomes
-- affordable by the quantum of the scan that finds this out.
def AccrualUnlocks (s : Scheduler) : Prop :=
  s.policy = .deficitRoundRobin ∧ s.runningTaskIds.length < s.maxRunningTasks ∧ NoAffordableHead s ∧
    ∃ tenant queue id rest task, s.tenantQueues.lookup tenant = some queue ∧ queue.taskIds = id :: rest ∧
      s.tasks.lookup id = some task ∧ task.spec.workUnits.toUInt64 ≤ accrueDeficit queue.deficit queue.weight.toUInt64

theorem idle_scan_unaffordable (coh : Coherent s) (poor : NoAffordableHead s)
    (still : ∀ tenant queue id rest task, s.tenantQueues.lookup tenant = some queue → queue.taskIds = id :: rest →
      s.tasks.lookup id = some task → accrueDeficit queue.deficit queue.weight.toUInt64 < task.spec.workUnits.toUInt64)
    (nobody : s.selectDeficitRoundRobinTask.1 = none) : NoAffordableHead s.selectDeficitRoundRobinTask.2 := by
  have round : Retuned s s.selectDeficitRoundRobinTask.2 := by
    rcases deficit_ring.cases s coh with ⟨t, result, retuned⟩ | ⟨id, task, t, result, _⟩
    · rw [selectDeficitRoundRobinTask, result]
      exact retuned
    · rw [selectDeficitRoundRobinTask, result] at nobody
      cases nobody
  intro tenant later id rest task found front record
  rw [round.tasks] at record
  have known : tenant ∈ s.tenantQueues := by
    rw [← coh.orderKeys, ← round.order, (retuned_coherent round coh).orderKeys]
    exact AList.lookup_isSome.mp (by rw [found]; rfl)
  obtain ⟨queue, lookup⟩ := Option.isSome_iff_exists.mp (AList.lookup_isSome.mpr known)
  obtain ⟨same, again, ids, _, deficit⟩ := idle_scan_deficits _ s coh (Nat.le_refl _) nobody tenant queue lookup
  cases found.symm.trans again
  rw [ids] at front
  rcases deficit with kept | ⟨_, earned⟩
  · rw [kept]
    exact poor tenant queue id rest task lookup front record
  · rw [earned]
    exact still tenant queue id rest task lookup front record

theorem failed_dispatch_quiet (inv : Invariant s) (locked : ¬ AccrualUnlocks s) (now : TimePoint)
    (nothing : (s.dispatchNext now).1 = none) : Quiet s (s.dispatchNext now).2 := by
  rcases dispatch_next_idle inv nothing with ⟨same, _⟩ | ⟨slot, nobody⟩
  · rw [same]
    exact quiet_refl s
  have open_ : s.priorityReservationBlocksLowDispatch = false := by
    simp [priorityReservationBlocksLowDispatch, nobody]
  have full : ¬ s.runningTaskIds.length ≥ s.maxRunningTasks := Nat.not_le.mpr slot
  have first := (select_next_first inv.coherent).trans nobody
  have scanned : (s.dispatchNext now).2 = s.selectNextTask.2 := by
    simp only [dispatchNext, if_neg full, open_]
    generalize s.selectNextTask = selected at first
    obtain ⟨outcome, t⟩ := selected
    cases first
    rfl
  rw [scanned]
  by_cases deficit : s.policy = .deficitRoundRobin
  · simp only [selectNextTask, deficit] at first ⊢
    have poor : NoAffordableHead s := by
      rw [← peek_deficit_none inv.coherent]
      simpa [peekNextTask, deficit] using nobody
    have after := idle_scan_unaffordable inv.coherent poor (fun tenant queue id rest task lookup front found =>
      UInt64.not_le.mp fun paid =>
        locked ⟨deficit, slot, poor, tenant, queue, id, rest, task, lookup, front, found, paid⟩) first
    rcases deficit_ring.cases s inv.coherent with ⟨t, result, retuned⟩ | ⟨id, task, t, result, _⟩
    · intro id _ ready
      rw [selectDeficitRoundRobinTask, result] at after ready
      have peeked := (peek_deficit_none (retuned_coherent retuned inv.coherent)).mpr after
      have next := ready.next
      rw [peekNextTask, retuned.config.policy, deficit] at next
      cases next.symm.trans peeked
    · rw [selectDeficitRoundRobinTask, result] at first
      cases first
  · intro id _ ready
    rcases select_next_cases inv.coherent with ⟨t, result, retuned⟩ | ⟨other, task, t, result, _⟩
    · rw [result] at ready
      have queued := peek_next_queued (retuned_coherent retuned inv.coherent) ready.next
      rw [retuned.tasks, peek_none_nothing inv.coherent deficit nobody id] at queued
      cases queued
    · rw [result] at first
      cases first

theorem failed_claim_quiet (inv : Invariant s) (locked : ¬ AccrualUnlocks s) (id : TaskId)
    (now : TimePoint) (nothing : (s.dispatchTask id now).1 = none) : Quiet s (s.dispatchTask id now).2 := by
  rw [dispatch_task_eq inv] at nothing ⊢
  split at nothing
  · next called =>
    rw [if_pos called]
    exact failed_dispatch_quiet inv locked now nothing
  · next idle =>
    rw [if_neg idle]
    exact quiet_refl s

end Glimmer.Core.Scheduler
