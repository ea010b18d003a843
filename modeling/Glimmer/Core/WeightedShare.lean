import Glimmer.Core.RingShare
import Mathlib.Tactic.Positivity

namespace Glimmer.Core.Scheduler

open Lib

-- A turn that is under way belongs to the tenant at the cursor, and what is left of it is at most that tenant's weight.
structure Budgeted (s : Scheduler) : Prop where
  policy : s.policy = .weightedRoundRobin
  positive : ∀ tenant ∈ s.tenantQueues, 0 < s.weightOf tenant
  held : s.tenantBudget ≠ 0 →
    ∃ tenant, s.tenantOrder[s.tenantCursor]? = some tenant ∧ s.tenantBudget.toNat ≤ s.weightOf tenant

-- The part of its turn that the tenant at the cursor has used up, as a debt.
def weightedCredit (s : Scheduler) (tenant : TenantId) : ℤ :=
  if s.tenantOrder[s.tenantCursor]? = some tenant ∧ s.tenantBudget ≠ 0 then s.tenantBudget.toNat - s.weightOf tenant
    else 0

variable {s t : Scheduler} {outcome : Option TaskId} {tenant a b : TenantId}

theorem charge_tenant_kept (s : Scheduler) (tenant : TenantId) (queue : TenantQueue) (rest : List TaskId) :
    (s.chargeTenant tenant queue rest).tenantQueues = (s.setQueue tenant { queue with taskIds := rest }).tenantQueues ∧
      (s.chargeTenant tenant queue rest).tenantOrder = s.tenantOrder := by
  rw [chargeTenant]
  generalize (if s.tenantBudget = 0 then queue.weight else s.tenantBudget) - 1 = budget
  split <;> exact ⟨rfl, rfl⟩

theorem weighted_visit_weight (visit : WeightedVisit s outcome t) {tenant : TenantId} :
    t.weightOf tenant = s.weightOf tenant := by
  cases visit with
  | passed owner queue here lookup empty => exact weight_kept lookup (by rfl) tenant
  | served owner queue id rest task here head =>
    change (s.chargeTenant owner queue rest).weightOf tenant = _
    rw [weightOf, (charge_tenant_kept s owner queue rest).1]
    exact weight_kept head.lookup (by rfl) tenant

variable {queue : TenantQueue} {ops : List SchedulerOp}

theorem charge_tenant_turn {s : Scheduler} (tenant : TenantId) (rest : List TaskId)
    (held : s.tenantBudget ≠ 0 → s.tenantBudget.toNat ≤ queue.weight.toNat) (pos : 0 < queue.weight.toNat)
    (inRange : s.tenantCursor < s.tenantOrder.length) :
    ∃ left : Nat, left < queue.weight.toNat ∧
      left + 1 = (if s.tenantBudget = 0 then queue.weight.toNat else s.tenantBudget.toNat) ∧
      ((left = 0 ∨ rest = []) ∧ (s.chargeTenant tenant queue rest).tenantBudget = 0 ∧
          (s.chargeTenant tenant queue rest).tenantCursor = (s.tenantCursor + 1) % s.tenantOrder.length ∨
        left ≠ 0 ∧ (s.chargeTenant tenant queue rest).tenantBudget.toNat = left ∧
          (s.chargeTenant tenant queue rest).tenantCursor = s.tenantCursor) := by
  rw [chargeTenant]
  have granted : ∀ grant : UInt32, (if s.tenantBudget = 0 then queue.weight else s.tenantBudget) = grant →
      0 < grant.toNat ∧ grant.toNat ≤ queue.weight.toNat ∧
        grant.toNat = if s.tenantBudget = 0 then queue.weight.toNat else s.tenantBudget.toNat := by
    rintro grant rfl
    split
    · exact ⟨pos, Nat.le_refl _, rfl⟩
    · next under => exact ⟨Nat.pos_of_ne_zero fun zero => under (UInt32.toNat_inj.mp zero), held under, rfl⟩
  generalize (if s.tenantBudget = 0 then queue.weight else s.tenantBudget) = grant at granted
  obtain ⟨nonzero, atMost, same⟩ := granted grant rfl
  have left : (grant - 1).toNat = grant.toNat - 1 := UInt32.toNat_sub_of_le _ _ (UInt32.le_iff_toNat_le.mpr nonzero)
  refine ⟨(grant - 1).toNat, by omega, by omega, ?_⟩
  by_cases ended : grant - 1 = 0 ∨ rest = []
  · rw [if_pos ended]
    exact .inl ⟨ended.imp_left fun zero => by rw [zero]; rfl, rfl, advance_cursor_eq inRange⟩
  · rw [if_neg ended]
    exact .inr ⟨fun zero => ended (.inl (UInt32.toNat_inj.mp zero)), rfl, rfl⟩

theorem credit_elsewhere (elsewhere : s.tenantOrder[s.tenantCursor]? ≠ some tenant) : s.weightedCredit tenant = 0 :=
  if_neg fun both => elsewhere both.1

theorem credit_fresh (tenant : TenantId) (fresh : s.tenantBudget = 0) : s.weightedCredit tenant = 0 :=
  if_neg fun both => both.2 fresh

theorem budgeted_queue (budgeted : Budgeted s) (here : s.tenantOrder[s.tenantCursor]? = some tenant)
    (lookup : s.tenantQueues.lookup tenant = some queue) :
    s.weightOf tenant = queue.weight.toNat ∧ 0 < queue.weight.toNat ∧
      (s.tenantBudget ≠ 0 → s.tenantBudget.toNat ≤ queue.weight.toNat) := by
  have weight : s.weightOf tenant = queue.weight.toNat := by simp [weightOf, lookup]
  refine ⟨weight, weight ▸ budgeted.positive tenant (AList.lookup_isSome.mp (by simp [lookup])), fun under => ?_⟩
  obtain ⟨owner, found, bound⟩ := budgeted.held under
  cases here.symm.trans found
  exact weight ▸ bound

theorem weighted_visit_credit (budgeted : Budgeted s) (visit : WeightedVisit s outcome t)
    (inRange : s.tenantCursor < s.tenantOrder.length) :
    ∃ moved : Bool, t.tenantCursor = (if moved then (s.tenantCursor + 1) % s.tenantOrder.length else s.tenantCursor) ∧
      ∀ tenant, t.dequeOf tenant ≠ some [] →
        t.weightedCredit tenant + charge (fun _ _ => 1) (s.weightOf tenant) tenant (s.servedSpec outcome) =
          s.weightedCredit tenant + s.weightOf tenant *
            if moved ∧ s.tenantOrder[s.tenantCursor]? = some tenant then 1 else 0 := by
  cases visit with
  | passed owner queue here lookup empty =>
    refine ⟨true, advance_cursor_eq inRange, fun tenant busy => ?_⟩
    change (s.setQueue owner _).dequeOf tenant ≠ some [] at busy
    rw [deque_of_set_queue] at busy
    have other : s.tenantOrder[s.tenantCursor]? ≠ some tenant := fun same =>
      busy (if_pos (Option.some.inj (same.symm.trans here)))
    rw [credit_fresh tenant (by rfl), credit_elsewhere other]
    simp [servedSpec, charge, other]
  | served owner queue id rest task here head =>
    obtain ⟨weight, pos, held⟩ := budgeted_queue budgeted here head.lookup
    obtain ⟨left, _, grant, turn⟩ := charge_tenant_turn owner rest held pos inRange
    obtain ⟨queues, order⟩ := charge_tenant_kept s owner queue rest
    have used : s.weightedCredit owner = left + 1 - queue.weight.toNat := by
      unfold weightedCredit
      split at grant
      · next fresh =>
        rw [if_neg fun both => both.2 fresh]
        omega
      · next under =>
        rw [if_pos ⟨here, under⟩, weight]
        omega
    change ∃ moved : Bool, (s.chargeTenant owner queue rest).tenantCursor = _ ∧
      ∀ tenant, (s.chargeTenant owner queue rest).dequeOf tenant ≠ some [] →
        (s.chargeTenant owner queue rest).weightedCredit tenant + _ = _
    have popped : (s.chargeTenant owner queue rest).dequeOf owner = some rest := by
      rw [dequeOf, queues]
      exact (deque_of_set_queue).trans (if_pos rfl)
    generalize s.chargeTenant owner queue rest = u at *
    have others : ∀ tenant, owner ≠ tenant → s.weightedCredit tenant = 0 := fun tenant other =>
      credit_elsewhere (by simp [here, other])
    simp only [servedSpec, Option.bind_some, head.found, Option.map_some, charge, head.owner, here]
    rcases turn with ⟨ended, budget, cursor⟩ | ⟨more, budget, cursor⟩
    · refine ⟨true, cursor, fun tenant busy => ?_⟩
      rw [credit_fresh tenant budget]
      by_cases mine : owner = tenant
      · subst mine
        have last : left = 0 := ended.resolve_right fun empty => busy (empty ▸ popped)
        simp [used, last, weight]
      · simp [others tenant mine, mine]
    · refine ⟨false, cursor, fun tenant busy => ?_⟩
      rw [← cursor, ← order] at here
      by_cases mine : owner = tenant
      · subst mine
        have under : u.tenantBudget ≠ 0 := fun zero => more (by rw [← budget, zero]; rfl)
        have kept : u.weightOf owner = s.weightOf owner := by
          rw [weightOf, queues]
          exact weight_kept head.lookup (by rfl) owner
        rw [weightedCredit, if_pos ⟨here, under⟩, used, budget, kept, weight]
        simp only [Bool.false_eq_true, false_and, if_false, if_true, mul_zero, add_zero, Nat.cast_one]
        omega
      · rw [credit_elsewhere (s := u) (by simp [here, mine])]
        simp [others tenant mine, mine]

theorem passed_budgeted (coh : Coherent s) (budgeted : Budgeted s) (visit : WeightedVisit s none t) : Budgeted t := by
  have retuned := weighted_visit_retuned coh visit
  refine ⟨retuned.config.policy.trans budgeted.policy, fun tenant known => ?_, ?_⟩
  · rw [weighted_visit_weight visit]
    rw [mem_queues_iff, retuned.deques, ← mem_queues_iff] at known
    exact budgeted.positive tenant known
  · cases visit with
    | passed owner queue here lookup empty => exact fun under => absurd rfl under

theorem weighted_shares :
    Shares WeightedVisit selectWeightedFrom weightedOffer Budgeted weightedCredit (fun _ _ => 1) where
  ring := weighted_ring
  fine := passed_budgeted
  weight := weighted_visit_weight
  law := weighted_visit_credit
  reads same here budget := by rw [weightedCredit, weightedCredit, here, budget, same_weight same]

theorem round_held (round : Round WeightedVisit s outcome t) (coh : Coherent s) (budgeted : Budgeted s) :
    t.tenantBudget ≠ 0 →
      ∃ tenant, t.tenantOrder[t.tenantCursor]? = some tenant ∧ t.tenantBudget.toNat ≤ t.weightOf tenant := by
  induction round with
  | done s => exact budgeted.held
  | @served s t id visit =>
    cases visit with
    | served owner queue id rest task here head =>
      intro under
      obtain ⟨weight, pos, held⟩ := budgeted_queue budgeted here head.lookup
      obtain ⟨left, below, _, ⟨_, budget, _⟩ | ⟨_, budget, cursor⟩⟩ :=
        charge_tenant_turn owner rest held pos (List.getElem?_eq_some_iff.mp here).1
      · exact absurd budget under
      · refine ⟨owner, ?_, ?_⟩
        · change (s.chargeTenant owner queue rest).tenantOrder[(s.chargeTenant owner queue rest).tenantCursor]? = _
          rw [(charge_tenant_kept s owner queue rest).2, cursor, here]
        · rw [weighted_visit_weight (.served owner queue id rest task here head), weight]
          exact budget.trans_le below.le
  | next visit rest ih =>
    exact ih (retuned_coherent (weighted_visit_retuned coh visit) coh) (passed_budgeted coh budgeted visit)

theorem turn_held {started : Option TaskSnapshot} (turn : Turn WeightedVisit s t started) (coh : Coherent s)
    (budgeted : Budgeted s) : t.tenantBudget ≠ 0 →
      ∃ tenant, t.tenantOrder[t.tenantCursor]? = some tenant ∧ t.tenantBudget.toNat ≤ t.weightOf tenant := by
  cases turn with
  | kept round order =>
    intro under
    rw [round.budget] at under
    obtain ⟨tenant, here, bound⟩ := budgeted.held under
    rw [order, round.cursor, round.budget]
    exact ⟨tenant, here, bound.trans_eq (same_weight (round.accounts tenant)).symm⟩
  | accepted spec task added =>
    intro under
    rw [added.budget] at under
    obtain ⟨tenant, here, bound⟩ := budgeted.held under
    have known := (coh.orderKeys tenant).mp (List.mem_of_getElem? here)
    rw [added.order, added.cursor, added.budget]
    refine ⟨tenant, ?_, bound.trans_eq (same_weight (accepted_account added known)).symm⟩
    split
    · exact here
    · rw [List.getElem?_append_left (List.getElem?_eq_some_iff.mp here).1, here]
  | idle round => exact round_held round coh budgeted
  | started id task next chosen round picked spec order =>
    simp only [weightOf, picked.queues, picked.cursor, picked.budget, order]
    exact round_held round coh budgeted

theorem weighted_turns (inv : Invariant s) (budgeted : Budgeted s) (op : SchedulerOp) :
    Turn WeightedVisit s (s.apply op) (s.dispatchedBy op) ∧ Budgeted (s.apply op) := by
  have turn : Turn WeightedVisit s (s.apply op) (s.dispatchedBy op) := by
    refine (apply_effect_turn inv op).2 WeightedVisit (by simp [budgeted.policy]) ?_
    rw [selectNextTask, budgeted.policy]
    exact weighted_ring.round _ s inv.coherent (Nat.le_refl _)
  exact ⟨turn, (step_configuration (apply_step inv op)).policy.trans budgeted.policy,
    weighted_shares.turn_positive turn inv.coherent budgeted.positive, turn_held turn inv.coherent budgeted⟩

theorem run_budgeted (ops : List SchedulerOp) (inv : Invariant s) (budgeted : Budgeted s) : Budgeted (s.run ops) :=
  run_keeps inv budgeted fun op _ _ before budgeted => (weighted_turns before budgeted op).2

theorem credit_range (budgeted : Budgeted s) (tenant : TenantId) :
    -(s.weightOf tenant : ℤ) ≤ s.weightedCredit tenant ∧ s.weightedCredit tenant ≤ 0 := by
  unfold weightedCredit
  split
  · next under =>
    obtain ⟨owner, found, bound⟩ := budgeted.held under.2
    cases under.1.symm.trans found
    omega
  · omega

-- Between two turns of A lies one of B, so the balance is at most one turn.
theorem weighted_balance_range (coh : Coherent s) (budgeted : Budgeted s) (knownA : a ∈ s.tenantOrder)
    (knownB : b ∈ s.tenantOrder) (ne : a ≠ b) :
    0 ≤ s.balance weightedCredit a b ∧ s.balance weightedCredit a b ≤ s.weightOf a * s.weightOf b := by
  have inRange := cursor_in_range coh (List.ne_nil_of_mem knownA)
  have apart : s.tenantOrder.idxOf a ≠ s.tenantOrder.idxOf b := fun same => ne ((List.idxOf_inj knownA).mp same)
  have rangeA := credit_range budgeted a
  have rangeB := credit_range budgeted b
  have weightA : (0 : ℤ) ≤ s.weightOf a := Int.natCast_nonneg _
  have weightB : (0 : ℤ) ≤ s.weightOf b := Int.natCast_nonneg _
  unfold balance
  by_cases hereA : s.tenantOrder[s.tenantCursor]? = some a
  · have position := (at_cursor_iff coh.orderNodup knownA).mp hereA
    have leads : s.lead a b = 1 := by
      rw [lead, ← position]
      exact if_pos (before_visited inRange (List.idxOf_lt_length_of_mem knownB) (position ▸ apart)).1
    rw [leads, credit_elsewhere (show _ ≠ some b by simp [hereA, ne])]
    constructor <;> nlinarith
  by_cases hereB : s.tenantOrder[s.tenantCursor]? = some b
  · have position := (at_cursor_iff coh.orderNodup knownB).mp hereB
    have follows : s.lead a b = 0 := by
      rw [lead, ← position]
      refine if_neg ((before_flip (position ▸ apart)).mp ?_)
      exact (before_visited inRange (List.idxOf_lt_length_of_mem knownA) (position ▸ apart.symm)).1
    rw [follows, credit_elsewhere hereA]
    constructor <;> nlinarith
  · rw [credit_elsewhere hereA, credit_elsewhere hereB]
    obtain ⟨least, most⟩ := lead_range s a b
    have turn : (0 : ℤ) ≤ s.weightOf a * s.weightOf b := mul_nonneg weightA weightB
    constructor <;> nlinarith

theorem share_of_balance {wa wb na nb : Nat} (positiveA : 0 < wa) (positiveB : 0 < wb)
    (above : (wb * na - wa * nb : ℤ) ≤ wa * wb) (below : -(wa * wb : ℤ) ≤ wb * na - wa * nb) :
    |(na : ℚ) / wa - nb / wb| ≤ 1 := by
  have weightA : (0 : ℚ) < wa := by exact_mod_cast positiveA
  have weightB : (0 : ℚ) < wb := by exact_mod_cast positiveB
  have upper : (wb * na - wa * nb : ℚ) ≤ wa * wb := by exact_mod_cast above
  have lower : -(wa * wb : ℚ) ≤ wb * na - wa * nb := by exact_mod_cast below
  have turn : (0 : ℚ) < wa * wb := mul_pos weightA weightB
  rw [div_sub_div _ _ weightA.ne' weightB.ne', abs_div, abs_of_pos turn, div_le_one turn, abs_le]
  constructor <;> linarith

section
variable (inv : Invariant s) (budgeted : Budgeted s) (busy : ∀ t ∈ s.statesAfter ops, t.HasQueued a ∧ t.HasQueued b)
include inv budgeted busy

theorem share_known (knownA : a ∈ s.tenantOrder) (knownB : b ∈ s.tenantOrder) (ne : a ≠ b) :
    |((servedTo (s.dispatchLog ops) a).length : ℚ) / (s.run ops).weightOf a -
      (servedTo (s.dispatchLog ops) b).length / (s.run ops).weightOf b| ≤ 1 := by
  have paidFor : ∀ weight tenant, paid (fun _ _ => 1) weight (s.dispatchLog ops) tenant =
      (servedTo (s.dispatchLog ops) tenant).length := fun weight tenant => by simp [paid]
  obtain ⟨weightA, weightB, law⟩ :=
    weighted_shares.segment_balance ops weighted_turns inv budgeted knownA knownB ne busy
  have after := run_invariant ops inv
  have kept := weighted_shares.run_known ops weighted_turns inv budgeted
  have first := weighted_balance_range inv.coherent budgeted knownA knownB ne
  have last := weighted_balance_range after.coherent (run_budgeted ops inv budgeted) (kept a knownA) (kept b knownB) ne
  have positiveA := budgeted.positive a ((inv.coherent.orderKeys a).mp knownA)
  have positiveB := budgeted.positive b ((inv.coherent.orderKeys b).mp knownB)
  rw [paidFor, paidFor] at law
  rw [weightA, weightB] at last ⊢
  exact share_of_balance positiveA positiveB (by omega) (by omega)

theorem share_segment :
    |((servedTo (s.dispatchLog ops) a).length : ℚ) / (s.run ops).weightOf a -
      (servedTo (s.dispatchLog ops) b).length / (s.run ops).weightOf b| ≤ 1 := by
  by_cases same : a = b
  · simp [same]
  by_cases known : a ∈ s.tenantOrder ∧ b ∈ s.tenantOrder
  · exact share_known inv budgeted busy known.1 known.2 same
  cases ops with
  | nil => simp [dispatchLog, servedTo]
  | cons op rest =>
    obtain ⟨turn, next⟩ := weighted_turns inv budgeted op
    have after := step_invariant (apply_step inv op) inv
    obtain ⟨queuedA, queuedB⟩ := busy (s.apply op) (by simp [statesAfter])
    have nextA := (queued_tenant_busy after.coherent queuedA).1
    have nextB := (queued_tenant_busy after.coherent queuedB).1
    have nothing := weighted_shares.newcomer_idle turn inv.coherent after.coherent known nextA nextB
    have log : s.dispatchLog (op :: rest) = (s.apply op).dispatchLog rest := by simp [dispatchLog, nothing]
    rw [log]
    exact share_known after next (fun t mem => busy t (by simp [statesAfter, mem])) nextA nextB same

end

theorem new_budgeted (limit : MemoryBytes) (options : SchedulerOptions)
    (weighted : options.schedulingPolicy = .weightedRoundRobin) : Budgeted (new limit options) := by
  refine ⟨weighted, fun tenant known => ?_, fun under => absurd rfl under⟩
  cases known

theorem weighted_round_robin_share (limit : MemoryBytes) (options : SchedulerOptions) (before segment : List SchedulerOp)
    (a b : TenantId) (weighted : options.schedulingPolicy = .weightedRoundRobin)
    (busy : ∀ t ∈ ((new limit options).run before).statesAfter segment, t.HasQueued a ∧ t.HasQueued b) :
    let s := (new limit options).run before
    |((servedTo (s.dispatchLog segment) a).length : ℚ) / (s.run segment).weightOf a -
      (servedTo (s.dispatchLog segment) b).length / (s.run segment).weightOf b| ≤ 1 :=
  share_segment (run_invariant before (new_invariant limit options))
    (run_budgeted before (new_invariant limit options) (new_budgeted limit options weighted)) busy

def weightedStart : Scheduler :=
  (new 1000 { maxRunningTasks := 40, schedulingPolicy := .weightedRoundRobin }).run
    (unitBacklog "a" 1 3 ++ unitBacklog "b" 3 7)

theorem weighted_round_robin_share_seven_tasks :
    (servedTo (weightedStart.dispatchLog (List.replicate 7 (.dispatchNext 0))) "b").length = 5 ∧
    |((servedTo (weightedStart.dispatchLog (List.replicate 7 (.dispatchNext 0))) "a").length : ℚ) /
        (weightedStart.run (List.replicate 7 (.dispatchNext 0))).weightOf "a" -
      (servedTo (weightedStart.dispatchLog (List.replicate 7 (.dispatchNext 0))) "b").length /
        (weightedStart.run (List.replicate 7 (.dispatchNext 0))).weightOf "b"| ≤ 1 := by
  have states : (weightedStart.statesAfter (List.replicate 7 (.dispatchNext 0))).all (fun t =>
      (t.tasks.lookup 3).any (fun task => task.state = .queued ∧ task.spec.tenantId = "a") &&
      (t.tasks.lookup 10).any (fun task => task.state = .queued ∧ task.spec.tenantId = "b")) = true := by
    decide +kernel
  simp only [List.all_eq_true, Bool.and_eq_true] at states
  exact ⟨by decide +kernel, weighted_round_robin_share _ _ _ _ "a" "b" rfl fun t mem =>
    ⟨has_queued_of_check (states t mem).1, has_queued_of_check (states t mem).2⟩⟩

end Glimmer.Core.Scheduler
