import Glimmer.Core.RingShare
import Glimmer.Core.QuotaReturns
import Mathlib.Tactic.FieldSimp
import Mathlib.Tactic.Positivity

namespace Glimmer.Core.Scheduler

open Lib

-- Every task of the tenant costs p/q times its weight, and the tenant's
-- deficit stays below one such task and one quantum.
structure Paced (s : Scheduler) (tenant : TenantId) (p q : Nat) : Prop where
  tasks : ∀ id task, s.tasks.lookup id = some task → task.spec.tenantId = tenant →
    task.spec.workUnits.toNat * q = p * s.weightOf tenant
  deficit : tenant ∈ s.tenantQueues → s.deficitOf tenant * q < (p + q) * s.weightOf tenant

variable {s t : Scheduler} {a b tenant : TenantId} {p q : Nat} {started : Option TaskSnapshot}
  {outcome : Option TaskId} {op : SchedulerOp}

section
variable (pos : 0 < q)
  (tasks : ∀ id task, s.tasks.lookup id = some task → task.spec.tenantId = tenant →
    task.spec.workUnits.toNat * q = p * s.weightOf tenant)
  (before : s.deficitOf tenant * q < (p + q) * s.weightOf tenant)
include pos tasks before

theorem visit_deficit_pace (visit : DeficitVisit s outcome t) :
    t.deficitOf tenant * q < (p + q) * t.weightOf tenant := by
  rw [visit_weight visit]
  cases visit with
  | passed owner queue here lookup empty =>
    change (s.setQueue owner _).deficitOf tenant * q < _
    rw [deficit_set_queue]
    split
    · next same =>
      subst same
      simpa [deficitOf, lookup] using before
    · exact before
  | earned owner queue id rest task here head dear =>
    change (s.setQueue owner _).deficitOf tenant * q < _
    rw [deficit_set_queue]
    split
    · next same =>
      subst same
      have cost := tasks id task head.found head.owner
      have weight : s.weightOf tenant = queue.weight.toNat := by simp [weightOf, head.lookup]
      rw [accrue_exact dear]
      calc (queue.deficit.toNat + queue.weight.toNat) * q
          = queue.deficit.toNat * q + queue.weight.toNat * q := Nat.add_mul _ _ _
        _ < task.spec.workUnits.toNat * q + queue.weight.toNat * q :=
            Nat.add_lt_add_right (Nat.mul_lt_mul_of_pos_right dear pos) _
        _ = (p + q) * s.weightOf tenant := by
            rw [cost, weight]
            ring
    · exact before
  | served owner queue id rest task here head affordable =>
    change (s.setQueue owner _).deficitOf tenant * q < _
    rw [deficit_set_queue]
    split
    · next same =>
      subst same
      rw [UInt64.toNat_sub_of_le _ _ affordable]
      refine Nat.lt_of_le_of_lt (Nat.mul_le_mul_right q (Nat.sub_le _ _)) ?_
      simpa [deficitOf, head.lookup] using before
    · exact before

theorem round_deficit_pace (round : Round DeficitVisit s outcome t) (coh : Coherent s) :
    t.deficitOf tenant * q < (p + q) * t.weightOf tenant := by
  induction round with
  | done s => exact before
  | served visit => exact visit_deficit_pace pos tasks before visit
  | next visit rest ih =>
    have retuned := deficit_ring.retuned coh visit
    refine ih ?_ (visit_deficit_pace pos tasks before visit) (retuned_coherent retuned coh)
    rw [retuned.tasks, visit_weight visit]
    exact tasks

end

theorem turn_deficit_pace (pos : 0 < q) (turn : Turn DeficitVisit s t started) (coh : Coherent s)
    (paced : Paced s tenant p q)
    (known : tenant ∈ t.tenantQueues) : t.deficitOf tenant * q < (p + q) * t.weightOf tenant := by
  rcases deficit_shares.turn_known turn coh tenant known with before | ⟨spec, task, added, owner, _⟩
  · have bound := paced.deficit before
    cases turn with
    | kept round order =>
      obtain ⟨weight, deficit⟩ := same_account tenant (round.accounts tenant)
      rwa [weight, deficit]
    | accepted spec task added =>
      obtain ⟨weight, deficit⟩ := same_account tenant (accepted_account added before)
      rwa [weight, deficit]
    | idle round => exact round_deficit_pace pos paced.tasks bound round coh
    | started id task next chosen round picked spec order =>
      obtain ⟨weight, deficit⟩ := same_account (s := chosen) (t := t) tenant (by rw [picked.queues])
      rw [weight, deficit]
      exact round_deficit_pace pos paced.tasks bound round coh
  · by_cases before : tenant ∈ s.tenantQueues
    · obtain ⟨weight, deficit⟩ := same_account tenant (accepted_account added before)
      rw [weight, deficit]
      exact paced.deficit before
    · subst owner
      have fresh : t.deficitOf spec.tenantId = 0 := by
        simp [deficitOf, added.queues, AList.lookup_eq_none.mpr before]
      have weight : 0 < spec.weight.toNat := Nat.pos_of_ne_zero fun zero => added.valid.1 (UInt32.toNat_inj.mp zero)
      rw [fresh, accepted_weight added, Nat.zero_mul]
      exact Nat.mul_pos (Nat.add_pos_right p pos) weight

def KeepsPace (tenant : TenantId) (p q : Nat) (op : SchedulerOp) : Prop :=
  ∀ spec now, op = .submit spec now → spec.tenantId = tenant → spec.workUnits.toNat * q = p * spec.weight.toNat

theorem granted_submit {spec : TaskSpec} (granted : s.grantedBy op = some spec) :
    ∃ now, op = .submit spec now := by
  cases op <;> simp only [grantedBy, reduceCtorEq] at granted
  case submit other now =>
      split at granted
      · exact ⟨now, by rw [Option.some.inj granted]⟩
      · cases granted

theorem paced_step (pos : 0 < q) (inv : Invariant s)
    (deficit : s.policy = .deficitRoundRobin) (paced : Paced s tenant p q)
    (pace : KeepsPace tenant p q op) : Paced (s.apply op) tenant p q := by
  have turn := apply_turn inv deficit op
  refine ⟨?_, turn_deficit_pace pos turn inv.coherent paced⟩
  intro id next found owner
  have step := apply_step inv op
  rcases step_spec step found with ⟨task, before, same⟩ | ⟨granted, _⟩
  · have known := inv.coherent.tenantKnown id task before
    rw [same, owner] at known
    rw [deficit_shares.turn_weight turn tenant known, ← same]
    exact paced.tasks id task before (same ▸ owner)
  · obtain ⟨now, submitted⟩ := granted_submit granted
    rw [granted] at step
    generalize s.returnedBy op = returned at step
    cases step with
    | accepted spec task added =>
      rw [← owner, accepted_weight added]
      exact pace next.spec now submitted owner

theorem started_pace {snap : TaskSnapshot} (turn : Turn DeficitVisit s t (some snap)) (paced : Paced s tenant p q)
    (owner : snap.tenantId = tenant) : snap.workUnits.toNat * q = p * t.weightOf tenant := by
  cases turn with
  | started id task next chosen round picked spec order =>
    have mine : task.spec.tenantId = tenant := by
      rw [← spec]
      exact owner
    have weight : t.weightOf tenant = s.weightOf tenant := by
      rw [weightOf, picked.queues]
      exact deficit_shares.round_weight round tenant
    rw [weight, ← paced.tasks id task picked.taken.found mine, ← spec]
    rfl

variable (ops : List SchedulerOp)

section
variable (pos : 0 < q) (inv : Invariant s) (deficit : s.policy = .deficitRoundRobin) (paced : Paced s tenant p q)
include pos inv deficit paced

theorem run_paced (pace : ∀ op ∈ ops, KeepsPace tenant p q op) : Paced (s.run ops) tenant p q := by
  refine (run_keeps (motive := fun t => t.policy = .deficitRoundRobin ∧ Paced t tenant p q) inv ⟨deficit, paced⟩ ?_).2
  rintro op mem t before ⟨deficit, paced⟩
  exact ⟨(step_configuration (apply_step before op)).policy.trans deficit,
    paced_step pos before deficit paced (pace op mem)⟩

theorem log_pace (known : tenant ∈ s.tenantOrder) (pace : ∀ op ∈ ops, KeepsPace tenant p q op) :
    servedWork (s.dispatchLog ops) tenant * q =
      p * s.weightOf tenant * (servedTo (s.dispatchLog ops) tenant).length := by
  induction ops generalizing s with
  | nil => simp [dispatchLog, servedWork, servedTo]
  | cons op rest ih =>
    have step := apply_step inv op
    have turn := apply_turn inv deficit op
    have after := step_invariant step inv
    have weight := deficit_shares.turn_weight turn tenant ((inv.coherent.orderKeys tenant).mp known)
    have later := ih after ((step_configuration step).policy.trans deficit)
      (paced_step pos inv deficit paced (pace op (by simp))) (deficit_shares.turn_order turn inv.coherent tenant known)
      (fun next mem => pace next (List.mem_cons_of_mem _ mem))
    have first : servedWork (s.dispatchedBy op).toList tenant * q =
        p * s.weightOf tenant * (servedTo (s.dispatchedBy op).toList tenant).length := by
      cases started : s.dispatchedBy op with
      | none => simp [servedWork, servedTo]
      | some snap =>
        by_cases mine : snap.tenantId = tenant
        · rw [started] at turn
          have cost := started_pace turn paced mine
          rw [weight] at cost
          simpa [servedWork, servedTo, mine] using cost
        · simp [servedWork, servedTo, mine]
    rw [weight] at later
    rw [dispatchLog, (served_append tenant).1, (served_append tenant).2, Nat.add_mul, first, later, Nat.mul_add]

end

theorem count_gap (p q wa wb na nb da db ea eb workA workB : ℤ) (l k : ℤ) (qPos : 0 < q) (pNonneg : 0 ≤ p)
    (waPos : 0 < wa) (wbPos : 0 < wb) (daNonneg : 0 ≤ da) (dbNonneg : 0 ≤ db) (eaNonneg : 0 ≤ ea) (ebNonneg : 0 ≤ eb)
    (daBound : da * q < (p + q) * wa) (dbBound : db * q < (p + q) * wb) (eaBound : ea * q < (p + q) * wa)
    (ebBound : eb * q < (p + q) * wb) (lRange : 0 ≤ l ∧ l ≤ 1) (kRange : 0 ≤ k ∧ k ≤ 1)
    (costA : workA * q = p * wa * na) (costB : workB * q = p * wb * nb)
    (law : wb * ea - wa * eb + wa * wb * k + wb * (workA + wa * na) - wa * (workB + wb * nb) =
      wb * da - wa * db + wa * wb * l) : na - nb ≤ 2 ∧ nb - na ≤ 2 := by
  have unit : 0 < (p + q) * (wa * wb) := by positivity
  have scaled : (p + q) * (wa * wb) * (na - nb) =
      wb * (da * q) - wa * (db * q) - wb * (ea * q) + wa * (eb * q) + q * (wa * wb) * (l - k) := by
    linear_combination q * law - wb * costA + wa * costB
  have startA : wb * (da * q) < (p + q) * (wa * wb) := by linarith [mul_lt_mul_of_pos_left daBound wbPos]
  have startB : wa * (db * q) < (p + q) * (wa * wb) := by linarith [mul_lt_mul_of_pos_left dbBound waPos]
  have endA : wb * (ea * q) < (p + q) * (wa * wb) := by linarith [mul_lt_mul_of_pos_left eaBound wbPos]
  have endB : wa * (eb * q) < (p + q) * (wa * wb) := by linarith [mul_lt_mul_of_pos_left ebBound waPos]
  have startAPos : 0 ≤ wb * (da * q) := by positivity
  have startBPos : 0 ≤ wa * (db * q) := by positivity
  have endAPos : 0 ≤ wb * (ea * q) := by positivity
  have endBPos : 0 ≤ wa * (eb * q) := by positivity
  have quantum : q * (wa * wb) ≤ (p + q) * (wa * wb) := by
    have : 0 ≤ p * (wa * wb) := by positivity
    linarith
  have leadUp : q * (wa * wb) * (l - k) ≤ q * (wa * wb) * 1 :=
    mul_le_mul_of_nonneg_left (by linarith) (by positivity)
  have leadDown : q * (wa * wb) * (-1) ≤ q * (wa * wb) * (l - k) :=
    mul_le_mul_of_nonneg_left (by linarith) (by positivity)
  constructor
  · by_contra more
    have three : (p + q) * (wa * wb) * 3 ≤ (p + q) * (wa * wb) * (na - nb) :=
      mul_le_mul_of_nonneg_left (by omega) unit.le
    linarith
  · by_contra more
    have three : (p + q) * (wa * wb) * (na - nb) ≤ (p + q) * (wa * wb) * (-3) :=
      mul_le_mul_of_nonneg_left (by omega) unit.le
    linarith

-- The promised share bound, for any bound on the work that the two tenants have queued.
def ProportionalShare (s : Scheduler) (segment : List SchedulerOp) (a b : TenantId) : Prop :=
  let wa : ℚ := (s.run segment).weightOf a
  let wb : ℚ := (s.run segment).weightOf b
  let workA : ℚ := servedWork (s.dispatchLog segment) a
  let workB : ℚ := servedWork (s.dispatchLog segment) b
  ∀ largest : Nat,
    (∀ t ∈ s.statesAfter segment, t.HasQueued a ∧ t.HasQueued b) →
    (∀ t ∈ s.statesAfter segment, ∀ id task, t.tasks.lookup id = some task → task.state = .queued →
      task.spec.tenantId = a ∨ task.spec.tenantId = b → task.spec.workUnits.toNat ≤ largest) →
    |workA / wa - workB / wb| ≤ 2 + largest / wa + largest / wb

theorem share_of_gap (p q wa wb na nb workA workB largest : ℚ) (qPos : 0 < q) (pNonneg : 0 ≤ p) (waPos : 0 < wa)
    (wbPos : 0 < wb) (costA : workA * q = p * wa * na) (costB : workB * q = p * wb * nb)
    (gap : na ≤ nb + 2 ∧ nb ≤ na + 2) (largeA : p * wa ≤ largest * q) (largeB : p * wb ≤ largest * q) :
    |workA / wa - workB / wb| ≤ 2 + largest / wa + largest / wb := by
  have ratioA : workA / wa = p / q * na := by
    field_simp
    linarith
  have ratioB : workB / wb = p / q * nb := by
    field_simp
    linarith
  have headA : p / q ≤ largest / wa := by
    rw [div_le_div_iff₀ qPos waPos]
    exact largeA
  have headB : p / q ≤ largest / wb := by
    rw [div_le_div_iff₀ qPos wbPos]
    exact largeB
  have ratio : 0 ≤ p / q := by positivity
  rw [ratioA, ratioB, ← mul_sub, abs_le]
  constructor
  · linarith [mul_le_mul_of_nonneg_left gap.2 ratio]
  · linarith [mul_le_mul_of_nonneg_left gap.1 ratio]

theorem idle_share (s : Scheduler) (a b : TenantId) : ProportionalShare s [] a b := by
  intro largest _ _
  have left : (0 : ℚ) ≤ largest / ((s.run []).weightOf a : ℚ) := div_nonneg (Nat.cast_nonneg _) (Nat.cast_nonneg _)
  have right : (0 : ℚ) ≤ largest / ((s.run []).weightOf b : ℚ) := div_nonneg (Nat.cast_nonneg _) (Nat.cast_nonneg _)
  simp only [dispatchLog, servedWork, servedTo, List.filter_nil, List.map_nil, List.sum_nil, Nat.cast_zero, zero_div,
    sub_zero, abs_zero]
  linarith

theorem paced_weight_pos (paced : Paced s tenant p q) (known : tenant ∈ s.tenantQueues) : 0 < s.weightOf tenant :=
  Nat.pos_of_ne_zero fun zero => by
    have bound := paced.deficit known
    rw [zero, Nat.mul_zero] at bound
    exact Nat.not_lt_zero _ bound

theorem queued_work_large {largest : Nat} (paced : Paced s tenant p q) (waiting : s.HasQueued tenant)
    (bound : ∀ id task, s.tasks.lookup id = some task → task.state = .queued → task.spec.tenantId = tenant →
      task.spec.workUnits.toNat ≤ largest) : p * s.weightOf tenant ≤ largest * q := by
  obtain ⟨id, task, found, queued, owner⟩ := waiting
  rw [← paced.tasks id task found owner]
  exact Nat.mul_le_mul_right q (bound id task found queued owner)

section Pace
variable (pos : 0 < q) (inv : Invariant s) (deficit : s.policy = .deficitRoundRobin) (pacedA : Paced s a p q)
  (pacedB : Paced s b p q) (pace : ∀ op ∈ ops, KeepsPace a p q op ∧ KeepsPace b p q op) (ne : a ≠ b)
include pos inv deficit pacedA pacedB pace ne

theorem paced_count_gap (knownA : a ∈ s.tenantOrder) (knownB : b ∈ s.tenantOrder)
    (busy : ∀ t ∈ s.statesAfter ops, t.HasQueued a ∧ t.HasQueued b) :
    (servedTo (s.dispatchLog ops) a).length ≤ (servedTo (s.dispatchLog ops) b).length + 2 ∧
      (servedTo (s.dispatchLog ops) b).length ≤ (servedTo (s.dispatchLog ops) a).length + 2 := by
  have keysA := (inv.coherent.orderKeys a).mp knownA
  have keysB := (inv.coherent.orderKeys b).mp knownB
  have after := run_invariant ops inv
  have endKnownA := (after.coherent.orderKeys a).mp (deficit_shares.run_known ops deficit_turns inv deficit a knownA)
  have endKnownB := (after.coherent.orderKeys b).mp (deficit_shares.run_known ops deficit_turns inv deficit b knownB)
  obtain ⟨weightA, weightB, law⟩ := deficit_shares.segment_balance ops deficit_turns inv deficit knownA knownB ne busy
  have startA := pacedA.deficit keysA
  have startB := pacedB.deficit keysB
  have endA := (run_paced ops pos inv deficit pacedA fun op mem => (pace op mem).1).deficit endKnownA
  have endB := (run_paced ops pos inv deficit pacedB fun op mem => (pace op mem).2).deficit endKnownB
  have costA := log_pace ops pos inv deficit pacedA knownA fun op mem => (pace op mem).1
  have costB := log_pace ops pos inv deficit pacedB knownB fun op mem => (pace op mem).2
  rw [weightA] at endA
  rw [weightB] at endB
  unfold balance at law
  rw [weightA, weightB, paid_deficit, paid_deficit] at law
  zify at startA startB endA endB costA costB
  have gap := count_gap p q (s.weightOf a) (s.weightOf b) _ _ (s.deficitOf a) (s.deficitOf b) ((s.run ops).deficitOf a)
    ((s.run ops).deficitOf b) _ _ (s.lead a b) ((s.run ops).lead a b) (by exact_mod_cast pos) (Int.natCast_nonneg p)
    (by exact_mod_cast paced_weight_pos pacedA keysA) (by exact_mod_cast paced_weight_pos pacedB keysB)
    (Int.natCast_nonneg _) (Int.natCast_nonneg _) (Int.natCast_nonneg _) (Int.natCast_nonneg _)
    startA startB endA endB (lead_range s a b) (lead_range _ a b) costA costB law
  omega

theorem paced_share_known (knownA : a ∈ s.tenantOrder) (knownB : b ∈ s.tenantOrder) : ProportionalShare s ops a b := by
  cases ops with
  | nil => exact idle_share s a b
  | cons op rest =>
    intro largest busy bound
    have keysA := (inv.coherent.orderKeys a).mp knownA
    have keysB := (inv.coherent.orderKeys b).mp knownB
    have turn := apply_turn inv deficit op
    have paceNow := pace op (by simp)
    have first : s.apply op ∈ s.statesAfter (op :: rest) := by simp [statesAfter]
    have largeA := queued_work_large (paced_step pos inv deficit pacedA paceNow.1) (busy _ first).1
      fun id task found queued owner => bound _ first id task found queued (.inl owner)
    have largeB := queued_work_large (paced_step pos inv deficit pacedB paceNow.2) (busy _ first).2
      fun id task found queued owner => bound _ first id task found queued (.inr owner)
    have costA := log_pace (op :: rest) pos inv deficit pacedA knownA fun op mem => (pace op mem).1
    have costB := log_pace (op :: rest) pos inv deficit pacedB knownB fun op mem => (pace op mem).2
    obtain ⟨weightA, weightB, _⟩ := deficit_shares.segment_balance (op :: rest) deficit_turns inv deficit
      knownA knownB ne busy
    have gap := paced_count_gap (op :: rest) pos inv deficit pacedA pacedB pace ne knownA knownB busy
    have weightPosA := paced_weight_pos pacedA keysA
    have weightPosB := paced_weight_pos pacedB keysB
    rw [deficit_shares.turn_weight turn a keysA] at largeA
    rw [deficit_shares.turn_weight turn b keysB] at largeB
    rw [weightA, weightB]
    refine share_of_gap p q _ _ (servedTo (s.dispatchLog (op :: rest)) a).length
      (servedTo (s.dispatchLog (op :: rest)) b).length _ _ _ ?_ (Nat.cast_nonneg p) ?_ ?_ ?_ ?_ ?_ ?_ ?_
    · exact_mod_cast pos
    · exact_mod_cast weightPosA
    · exact_mod_cast weightPosB
    · exact_mod_cast costA
    · exact_mod_cast costB
    · exact_mod_cast gap
    · exact_mod_cast largeA
    · exact_mod_cast largeB

theorem paced_share : ProportionalShare s ops a b := by
  by_cases known : a ∈ s.tenantOrder ∧ b ∈ s.tenantOrder
  · exact paced_share_known ops pos inv deficit pacedA pacedB pace ne known.1 known.2
  cases ops with
  | nil => exact idle_share s a b
  | cons op rest =>
    intro largest busy bound
    have step := apply_step inv op
    have after := step_invariant step inv
    have turn := apply_turn inv deficit op
    have first : s.apply op ∈ s.statesAfter (op :: rest) := by simp [statesAfter]
    have nextA := (queued_tenant_busy after.coherent (busy _ first).1).1
    have nextB := (queued_tenant_busy after.coherent (busy _ first).2).1
    have nothing := deficit_shares.newcomer_idle turn inv.coherent after.coherent known nextA nextB
    have log : s.dispatchLog (op :: rest) = (s.apply op).dispatchLog rest := by simp [dispatchLog, nothing]
    rw [log]
    exact paced_share_known rest pos after ((step_configuration step).policy.trans deficit)
      (paced_step pos inv deficit pacedA (pace op (by simp)).1)
      (paced_step pos inv deficit pacedB (pace op (by simp)).2)
      (fun later mem => pace later (List.mem_cons_of_mem _ mem)) ne nextA nextB largest
      (fun t mem => busy t (by simp [statesAfter, mem])) (fun t mem => bound t (by simp [statesAfter, mem]))

end Pace

theorem new_paced (limit : MemoryBytes) (options : SchedulerOptions) (tenant : TenantId) (p q : Nat) :
    Paced (new limit options) tenant p q := by
  constructor
  · intro id task found
    cases found
  · intro known
    cases known

theorem proportional_share_of_common_pace (limit : MemoryBytes) (options : SchedulerOptions)
    (before segment : List SchedulerOp) (a b : TenantId) (p q : Nat)
    (deficit : options.schedulingPolicy = .deficitRoundRobin) (ne : a ≠ b) (pos : 0 < q)
    (pace : ∀ op ∈ before ++ segment, KeepsPace a p q op ∧ KeepsPace b p q op) :
    ProportionalShare ((new limit options).run before) segment a b := by
  have start := new_invariant limit options
  have earlier : ∀ op ∈ before, KeepsPace a p q op ∧ KeepsPace b p q op := fun op mem =>
    pace op (List.mem_append_left _ mem)
  exact paced_share segment pos (run_invariant before start)
    ((run_configuration before start).policy.trans deficit)
    (run_paced before pos start deficit (new_paced limit options a p q) fun op mem => (earlier op mem).1)
    (run_paced before pos start deficit (new_paced limit options b p q) fun op mem => (earlier op mem).2)
    (fun op mem => pace op (List.mem_append_right _ mem)) ne

theorem proportional_share_equal_tenants :
    ProportionalShare ((new 1000 { maxRunningTasks := 40, schedulingPolicy := .deficitRoundRobin }).run
      (unitBacklog "a" 1 5 ++ unitBacklog "b" 1 7)) (List.replicate 11 (.dispatchNext 0)) "a" "b" := by
  refine proportional_share_of_common_pace _ _ _ _ "a" "b" 1 1 rfl (by decide) (by decide) ?_
  intro op mem
  simp only [unitBacklog, List.mem_append, List.mem_replicate] at mem
  rcases mem with (⟨_, rfl⟩ | ⟨_, rfl⟩) | ⟨_, rfl⟩ <;>
    exact ⟨fun spec now same _ => by cases same <;> rfl, fun spec now same _ => by cases same <;> rfl⟩

def lopsidedStart : Scheduler :=
  (new 1000 { maxRunningTasks := 40, schedulingPolicy := .deficitRoundRobin }).run
    (unitBacklog "a" 1 5 ++ unitBacklog "b" 100 7)

-- Every second visit of the light tenant serves a task, so its share is far above one hundredth.
theorem share_lost_to_unequal_pace :
    ¬ ProportionalShare lopsidedStart (List.replicate 11 (.dispatchNext 0)) "a" "b" := by
  intro share
  have states : (lopsidedStart.statesAfter (List.replicate 11 (.dispatchNext 0))).all (fun t =>
      (t.tasks.lookup 5).any (fun task => task.state = .queued ∧ task.spec.tenantId = "a") &&
      (t.tasks.lookup 12).any (fun task => task.state = .queued ∧ task.spec.tenantId = "b") &&
      t.tasks.entries.all fun entry => entry.2.spec.workUnits.toNat ≤ 1) = true := by
    decide +kernel
  have workA : servedWork (lopsidedStart.dispatchLog (List.replicate 11 (.dispatchNext 0))) "a" = 4 := by decide +kernel
  have workB : servedWork (lopsidedStart.dispatchLog (List.replicate 11 (.dispatchNext 0))) "b" = 6 := by decide +kernel
  have weightA : (lopsidedStart.run (List.replicate 11 (.dispatchNext 0))).weightOf "a" = 1 := by decide +kernel
  have weightB : (lopsidedStart.run (List.replicate 11 (.dispatchNext 0))).weightOf "b" = 100 := by decide +kernel
  simp only [List.all_eq_true, Bool.and_eq_true, decide_eq_true_eq] at states
  have bound := share 1
    (fun t mem => ⟨has_queued_of_check (states t mem).1.1, has_queued_of_check (states t mem).1.2⟩)
    (fun t mem id task found _ _ => (states t mem).2 ⟨id, task⟩ ((KeyedMap.mem_entries_iff _ _ _).mpr found))
  rw [workA, workB, weightA, weightB] at bound
  norm_num at bound

end Glimmer.Core.Scheduler
