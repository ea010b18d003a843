import Glimmer.Core.SchedulerRuns
import Mathlib.Tactic.Ring
import Mathlib.Tactic.Linarith
import Mathlib.Tactic.LinearCombination

namespace Glimmer.Core.Scheduler

open Lib TenantQueue

def weightOf (s : Scheduler) (tenant : TenantId) : Nat :=
  ((s.tenantQueues.lookup tenant).map fun queue => queue.weight.toNat).getD 0

def lead (s : Scheduler) (a b : TenantId) : ℤ :=
  if Before s.tenantCursor (s.tenantOrder.idxOf a) (s.tenantOrder.idxOf b) then 1 else 0

variable {s t : Scheduler} {outcome : Option TaskId} {task : TaskRecord} {spec : TaskSpec}
  {tenant a b : TenantId} {queue : TenantQueue} {id : TaskId}

theorem at_cursor_iff {order : List TenantId} (nodup : order.Nodup) {cursor : Nat}
    (known : tenant ∈ order) : order[cursor]? = some tenant ↔ cursor = order.idxOf tenant := by
  constructor
  · intro here
    obtain ⟨inRange, same⟩ := List.getElem?_eq_some_iff.mp here
    rw [← same, nodup.idxOf_getElem]
  · intro here
    rw [here, List.getElem?_eq_getElem (List.idxOf_lt_length_of_mem known), List.getElem_idxOf]

theorem visit_lead (nodup : s.tenantOrder.Nodup) (order : t.tenantOrder = s.tenantOrder)
    (cursor : t.tenantCursor = (s.tenantCursor + 1) % s.tenantOrder.length)
    (inRange : s.tenantCursor < s.tenantOrder.length) (knownA : a ∈ s.tenantOrder)
    (knownB : b ∈ s.tenantOrder) (ne : a ≠ b) :
    t.lead a b + (if s.tenantOrder[s.tenantCursor]? = some a then 1 else 0) =
      s.lead a b + (if s.tenantOrder[s.tenantCursor]? = some b then 1 else 0) := by
  have rangeA := List.idxOf_lt_length_of_mem knownA
  have rangeB := List.idxOf_lt_length_of_mem knownB
  have apart : s.tenantOrder.idxOf a ≠ s.tenantOrder.idxOf b := fun same => ne ((List.idxOf_inj knownA).mp same)
  simp only [at_cursor_iff nodup knownA, at_cursor_iff nodup knownB, lead, order, cursor]
  generalize s.tenantOrder.idxOf a = positionA at *
  generalize s.tenantOrder.idxOf b = positionB at *
  by_cases hereA : s.tenantCursor = positionA
  · obtain ⟨first, last⟩ := before_visited inRange rangeB (hereA ▸ apart)
    rw [← hereA, if_neg last, if_pos first, if_pos rfl, if_neg (hereA ▸ apart)]
    rfl
  by_cases hereB : s.tenantCursor = positionB
  · obtain ⟨first, last⟩ := before_visited inRange rangeA hereA
    have sooner := (before_flip hereA).mpr last
    have later := fun flipped => (before_flip hereA).mp flipped first
    rw [← hereB, if_pos sooner, if_neg later, if_neg hereA, if_pos rfl]
    rfl
  · rw [if_neg hereA, if_neg hereB]
    simp [before_unvisited rangeA rangeB inRange hereA hereB]

theorem lead_range (s : Scheduler) (a b : TenantId) : 0 ≤ s.lead a b ∧ s.lead a b ≤ 1 := by
  unfold lead
  split <;> decide

theorem weight_kept {owner : TenantId} {old : TenantQueue} (lookup : s.tenantQueues.lookup owner = some old)
    (same : queue.weight = old.weight) (tenant : TenantId) :
    (s.setQueue owner queue).weightOf tenant = s.weightOf tenant := by
  simp only [weightOf, setQueue, KeyedMap.lookup_insert_cases]
  split
  · next here =>
    subst here
    simp [lookup, same]
  · rfl

theorem same_weight (same : (t.tenantQueues.lookup tenant).map account = (s.tenantQueues.lookup tenant).map account) :
    t.weightOf tenant = s.weightOf tenant := by
  have read : ∀ u : Scheduler, u.weightOf tenant =
      (((u.tenantQueues.lookup tenant).map account).map fun entry => entry.1.toNat).getD 0 := by
    intro u
    rw [Option.map_map]
    rfl
  rw [read, read, same]

def servedSpec (s : Scheduler) (outcome : Option TaskId) : Option TaskSpec :=
  (outcome.bind fun id => s.tasks.lookup id).map TaskRecord.spec

def snapshotSpec (snap : TaskSnapshot) : TaskSpec where
  tenantId := snap.tenantId
  memoryBytes := snap.memoryBytes
  weight := snap.weight
  workUnits := snap.workUnits
  priority := snap.priority

section
variable (added : Accepted s t spec task)
include added

theorem accepted_account (known : tenant ∈ s.tenantQueues) :
    (t.tenantQueues.lookup tenant).map account = (s.tenantQueues.lookup tenant).map account := by
  obtain ⟨queue, lookup⟩ := Option.isSome_iff_exists.mp (AList.lookup_isSome.mpr known)
  rw [added.queues]
  split
  · simp [lookup, account]
  · rfl

theorem accepted_weight : t.weightOf spec.tenantId = spec.weight.toNat := by
  rw [weightOf, added.queues, if_pos rfl]
  cases lookup : s.tenantQueues.lookup spec.tenantId with
  | none => rfl
  | some queue => simp [added.agreed queue lookup]

theorem accepted_lead (knownA : a ∈ s.tenantOrder) (knownB : b ∈ s.tenantOrder) : t.lead a b = s.lead a b := by
  unfold lead
  rw [added.cursor, added.order]
  split
  · rfl
  · rw [List.idxOf_append_of_mem knownA, List.idxOf_append_of_mem knownB]

end

def HasQueued (s : Scheduler) (tenant : TenantId) : Prop :=
  ∃ id task, s.tasks.lookup id = some task ∧ task.state = .queued ∧ task.spec.tenantId = tenant

theorem queued_tenant_busy (coh : Coherent s) (waiting : s.HasQueued tenant) :
    tenant ∈ s.tenantOrder ∧ s.dequeOf tenant ≠ some [] := by
  obtain ⟨id, task, found, queued, owner⟩ := waiting
  refine ⟨(coh.orderKeys tenant).mpr (owner ▸ coh.tenantKnown id task found), ?_⟩
  obtain ⟨ids, deque, mem⟩ := coh.placed id task found queued
  rw [owner] at deque
  rw [deque]
  intro empty
  cases empty
  cases mem

theorem has_queued_of_check
    (check : (s.tasks.lookup id).any (fun task => task.state = .queued ∧ task.spec.tenantId = tenant) = true) :
    s.HasQueued tenant := by
  cases found : s.tasks.lookup id with
  | none => simp [found] at check
  | some task =>
    rw [found, Option.any_some, decide_eq_true_eq] at check
    exact ⟨id, task, found, check.1, check.2⟩

def statesAfter (s : Scheduler) : List SchedulerOp → List Scheduler
  | [] => []
  | op :: rest => s.apply op :: (s.apply op).statesAfter rest

def servedTo (log : List TaskSnapshot) (tenant : TenantId) : List TaskSnapshot :=
  log.filter fun snap => snap.tenantId = tenant

def unitBacklog (tenant : TenantId) (weight : UInt32) (count : Nat) : List SchedulerOp :=
  List.replicate count (.submit { tenantId := tenant, memoryBytes := 1, weight := weight } 0)

def charge (price : Nat → TaskSpec → Nat) (weight : Nat) (tenant : TenantId) : Option TaskSpec → Nat
  | none => 0
  | some spec => if spec.tenantId = tenant then price weight spec else 0

def paid (price : Nat → TaskSpec → Nat) (weight : Nat) (log : List TaskSnapshot) (tenant : TenantId) : Nat :=
  ((servedTo log tenant).map fun snap => price weight (snapshotSpec snap)).sum

def balance (credit : Scheduler → TenantId → ℤ) (s : Scheduler) (a b : TenantId) : ℤ :=
  s.weightOf b * credit s a - s.weightOf a * credit s b + s.weightOf a * s.weightOf b * s.lead a b

-- A ring on which each tenant has a credit: a task that it is served costs its
-- price, and the cursor brings the tenant's weight when it leaves.
structure Shares (Visit : Scheduler → Option TaskId → Scheduler → Prop)
    (select : Nat → Scheduler → Option TaskId × Scheduler) (offer : Scheduler → TenantId → Option TaskId)
    (Fine : Scheduler → Prop) (credit : Scheduler → TenantId → ℤ) (price : Nat → TaskSpec → Nat) : Prop where
  ring : Ring Visit select offer
  fine : ∀ {s t : Scheduler}, Coherent s → Fine s → Visit s none t → Fine t
  weight : ∀ {s t : Scheduler} {outcome : Option TaskId}, Visit s outcome t → ∀ tenant,
    t.weightOf tenant = s.weightOf tenant
  law : ∀ {s t : Scheduler} {outcome : Option TaskId}, Fine s → Visit s outcome t →
    s.tenantCursor < s.tenantOrder.length →
    ∃ moved : Bool, t.tenantCursor = (if moved then (s.tenantCursor + 1) % s.tenantOrder.length else s.tenantCursor) ∧
      ∀ tenant, t.dequeOf tenant ≠ some [] →
        credit t tenant + charge price (s.weightOf tenant) tenant (s.servedSpec outcome) =
          credit s tenant + s.weightOf tenant *
            if moved ∧ s.tenantOrder[s.tenantCursor]? = some tenant then 1 else 0
  reads : ∀ {s t : Scheduler} {tenant : TenantId}, (t.tenantQueues.lookup tenant).map TenantQueue.account =
      (s.tenantQueues.lookup tenant).map TenantQueue.account →
    t.tenantOrder[t.tenantCursor]? = s.tenantOrder[s.tenantCursor]? → t.tenantBudget = s.tenantBudget →
    credit t tenant = credit s tenant

-- What the start of a task charges two busy tenants is what their balance moves by.
def Conserved (credit : Scheduler → TenantId → ℤ) (price : Nat → TaskSpec → Nat) (s t : Scheduler) (a b : TenantId)
    (spec : Option TaskSpec) : Prop :=
  t.dequeOf a ≠ some [] → t.dequeOf b ≠ some [] →
    t.balance credit a b + s.weightOf b * charge price (s.weightOf a) a spec -
      s.weightOf a * charge price (s.weightOf b) b spec = s.balance credit a b

namespace Shares

variable {Visit : Scheduler → Option TaskId → Scheduler → Prop} {select : Nat → Scheduler → Option TaskId × Scheduler}
  {offer : Scheduler → TenantId → Option TaskId} {Fine : Scheduler → Prop} {credit : Scheduler → TenantId → ℤ}
  {price : Nat → TaskSpec → Nat} (shares : Shares Visit select offer Fine credit price) {a b : TenantId}

include shares

theorem visit_balance (coh : Coherent s) (fine : Fine s) (visit : Visit s outcome t)
    (order : t.tenantOrder = s.tenantOrder) (knownA : a ∈ s.tenantOrder) (knownB : b ∈ s.tenantOrder) (ne : a ≠ b) :
    Conserved credit price s t a b (s.servedSpec outcome) := by
  intro busyA busyB
  have inRange := cursor_in_range coh (List.ne_nil_of_mem knownA)
  obtain ⟨moved, cursor, law⟩ := shares.law fine visit inRange
  have lead : t.lead a b + (if moved ∧ s.tenantOrder[s.tenantCursor]? = some a then 1 else 0) =
      s.lead a b + (if moved ∧ s.tenantOrder[s.tenantCursor]? = some b then 1 else 0) := by
    cases moved with
    | true => simpa using visit_lead coh.orderNodup order cursor inRange knownA knownB ne
    | false => simpa [lead, order] using by rw [cursor]; rfl
  unfold balance
  rw [shares.weight visit, shares.weight visit]
  linear_combination (s.weightOf b : ℤ) * law a busyA - (s.weightOf a : ℤ) * law b busyB +
    (s.weightOf a : ℤ) * s.weightOf b * lead

section
variable (round : Round Visit s outcome t)
include round

theorem round_busy (coh : Coherent s)
    (tenant : TenantId) (busy : t.dequeOf tenant ≠ some []) : s.dequeOf tenant ≠ some [] := by
  cases outcome with
  | none =>
    rw [← (shares.ring.round_retuned round coh).deques]
    exact busy
  | some id =>
    obtain ⟨task, taken⟩ := shares.ring.round_taken round coh
    intro empty
    rw [taken.deques, empty] at busy
    split at busy <;> exact busy rfl

theorem round_weight (tenant : TenantId) : t.weightOf tenant = s.weightOf tenant := by
  induction round with
  | done s => rfl
  | served visit => exact shares.weight visit tenant
  | next visit rest ih => exact ih.trans (shares.weight visit tenant)

theorem round_balance (coh : Coherent s) (fine : Fine s)
    (knownA : a ∈ s.tenantOrder) (knownB : b ∈ s.tenantOrder) (ne : a ≠ b) :
    Conserved credit price s t a b (s.servedSpec outcome) := by
  intro busyA busyB
  induction round with
  | done s => simp [servedSpec, charge]
  | @served s t id visit =>
    obtain ⟨task, taken⟩ := shares.ring.taken coh visit
    exact shares.visit_balance coh fine visit taken.order knownA knownB ne busyA busyB
  | @next s t u outcome visit rest ih =>
    have retuned := shares.ring.retuned coh visit
    have coherentAfter := retuned_coherent retuned coh
    have step := shares.visit_balance coh fine visit retuned.order knownA knownB ne
      (shares.round_busy rest coherentAfter a busyA) (shares.round_busy rest coherentAfter b busyB)
    have later := ih coherentAfter (shares.fine coh fine visit) (retuned.order ▸ knownA)
      (retuned.order ▸ knownB) busyA busyB
    have same : t.servedSpec outcome = s.servedSpec outcome := by rw [servedSpec, servedSpec, retuned.tasks]
    rw [same, shares.weight visit, shares.weight visit] at later
    simp only [servedSpec, Option.bind_none, Option.map_none, charge, Nat.cast_zero, mul_zero, add_zero, sub_zero] at step
    rw [later, step]

end

variable {started : Option TaskSnapshot}

section
variable (turn : Turn Visit s t started)
include turn

theorem turn_weight (tenant : TenantId) (known : tenant ∈ s.tenantQueues) : t.weightOf tenant = s.weightOf tenant := by
  cases turn with
  | kept round order => exact same_weight (round.accounts tenant)
  | accepted spec task added => exact same_weight (accepted_account added known)
  | idle round => exact shares.round_weight round tenant
  | started id task next chosen round picked spec order =>
    rw [weightOf, picked.queues]
    exact shares.round_weight round tenant

section
variable (coh : Coherent s)
include coh

theorem turn_known (tenant : TenantId) (known : tenant ∈ t.tenantQueues) :
    tenant ∈ s.tenantQueues ∨ ∃ spec task, Accepted s t spec task ∧ spec.tenantId = tenant ∧ started = none := by
  cases turn with
  | kept round order =>
    refine .inl (AList.lookup_isSome.mp ?_)
    have same := congrArg Option.isSome (round.accounts tenant)
    simp only [Option.isSome_map] at same
    rw [← same]
    exact AList.lookup_isSome.mpr known
  | accepted spec task added =>
    by_cases here : tenant = spec.tenantId
    · exact .inr ⟨spec, task, added, here.symm, rfl⟩
    · rw [mem_queues_iff, added.deques tenant, if_neg here, ← mem_queues_iff] at known
      exact .inl known
  | idle round =>
    have retuned := shares.ring.round_retuned round coh
    rw [mem_queues_iff, retuned.deques, ← mem_queues_iff] at known
    exact .inl known
  | started id task next chosen round picked spec order =>
    rw [picked.queues, mem_queues_iff, picked.taken.deques] at known
    refine .inl ((mem_queues_iff s tenant).mpr ?_)
    obtain ⟨ids, deque⟩ := known
    split at deque
    · obtain ⟨before, read, _⟩ := Option.map_eq_some_iff.mp deque
      exact ⟨before, read⟩
    · exact ⟨ids, deque⟩

theorem turn_positive (pos : ∀ tenant ∈ s.tenantQueues, 0 < s.weightOf tenant) (tenant : TenantId)
    (known : tenant ∈ t.tenantQueues) : 0 < t.weightOf tenant := by
  by_cases old : tenant ∈ s.tenantQueues
  · rw [shares.turn_weight turn tenant old]
    exact pos tenant old
  · rcases shares.turn_known turn coh tenant known with before | ⟨spec, task, added, rfl, _⟩
    · exact absurd before old
    · rw [accepted_weight added]
      exact Nat.pos_of_ne_zero fun zero => added.valid.1 (UInt32.toNat_inj.mp zero)

theorem turn_order (tenant : TenantId) (known : tenant ∈ s.tenantOrder) : tenant ∈ t.tenantOrder := by
  cases turn with
  | kept round order => exact order ▸ known
  | accepted spec task added =>
    rw [added.order]
    split
    · exact known
    · exact List.mem_append_left _ known
  | idle round => exact (shares.ring.round_retuned round coh).order ▸ known
  | started id task next chosen round picked spec order =>
    rw [order, picked.taken.order]
    exact known

theorem newcomer_idle
    (after : Coherent t) (known : ¬ (a ∈ s.tenantOrder ∧ b ∈ s.tenantOrder)) (nextA : a ∈ t.tenantOrder)
    (nextB : b ∈ t.tenantOrder) : started = none := by
  have joined : ∀ tenant, tenant ∉ s.tenantOrder → tenant ∈ t.tenantOrder → started = none := by
    intro tenant absent present
    rcases shares.turn_known turn coh tenant ((after.orderKeys tenant).mp present) with old | ⟨_, _, _, _, nothing⟩
    · exact absurd ((coh.orderKeys tenant).mpr old) absent
    · exact nothing
  by_cases oldA : a ∈ s.tenantOrder
  · exact joined b (fun oldB => known ⟨oldA, oldB⟩) nextB
  · exact joined a oldA nextA

-- What two busy tenants were served is paid for by their credits and their places in the scan.
theorem turn_balance (fine : Fine s) (knownA : a ∈ s.tenantOrder) (knownB : b ∈ s.tenantOrder) (ne : a ≠ b) :
    Conserved credit price s t a b (started.map snapshotSpec) := by
  intro busyA busyB
  have weightA := shares.turn_weight turn a ((coh.orderKeys a).mp knownA)
  have weightB := shares.turn_weight turn b ((coh.orderKeys b).mp knownB)
  cases turn with
  | kept round order =>
    have here : t.tenantOrder[t.tenantCursor]? = s.tenantOrder[s.tenantCursor]? := by rw [order, round.cursor]
    simp [balance, charge, weightA, weightB, shares.reads (round.accounts a) here round.budget,
      shares.reads (round.accounts b) here round.budget, lead, order, round.cursor]
  | accepted spec task added =>
    have here : t.tenantOrder[t.tenantCursor]? = s.tenantOrder[s.tenantCursor]? := by
      rw [added.order, added.cursor]
      split
      · rfl
      · exact List.getElem?_append_left (cursor_in_range coh (List.ne_nil_of_mem knownA))
    simp [balance, charge, weightA, weightB, accepted_lead added knownA knownB,
      shares.reads (accepted_account added ((coh.orderKeys a).mp knownA)) here added.budget,
      shares.reads (accepted_account added ((coh.orderKeys b).mp knownB)) here added.budget]
  | idle round => exact shares.round_balance round coh fine knownA knownB ne busyA busyB
  | started id task next chosen round picked spec order =>
    have deque : ∀ tenant, t.dequeOf tenant = chosen.dequeOf tenant :=
      fun tenant => by rw [dequeOf, picked.queues, dequeOf]
    have credits : ∀ tenant, credit t tenant = credit chosen tenant := fun tenant =>
      shares.reads (by rw [picked.queues]) (by rw [order, picked.cursor]) picked.budget
    have same : t.balance credit a b = chosen.balance credit a b := by
      simp [balance, lead, weightOf, picked.queues, credits, order, picked.cursor]
    have served : s.servedSpec (some id) = some (snapshotSpec (snapshot id next)) := by
      simp only [servedSpec, Option.bind_some, picked.taken.found, Option.map_some, ← spec]
      rfl
    rw [deque] at busyA busyB
    have law := shares.round_balance round coh fine knownA knownB ne busyA busyB
    rwa [served, ← same] at law

end

end

variable (ops : List SchedulerOp) (turns : ∀ {s : Scheduler}, Invariant s → Fine s → ∀ op,
  Turn Visit s (s.apply op) (s.dispatchedBy op) ∧ Fine (s.apply op))

include turns

theorem run_known (inv : Invariant s) (fine : Fine s) (tenant : TenantId) (known : tenant ∈ s.tenantOrder) :
    tenant ∈ (s.run ops).tenantOrder := by
  induction ops generalizing s with
  | nil => exact known
  | cons op rest ih =>
    obtain ⟨turn, next⟩ := turns inv fine op
    exact ih (step_invariant (apply_step inv op) inv) next (shares.turn_order turn inv.coherent tenant known)

theorem segment_balance (inv : Invariant s) (fine : Fine s) (knownA : a ∈ s.tenantOrder) (knownB : b ∈ s.tenantOrder)
    (ne : a ≠ b) (busy : ∀ t ∈ s.statesAfter ops, t.HasQueued a ∧ t.HasQueued b) :
    (s.run ops).weightOf a = s.weightOf a ∧ (s.run ops).weightOf b = s.weightOf b ∧
      (s.run ops).balance credit a b + s.weightOf b * paid price (s.weightOf a) (s.dispatchLog ops) a -
        s.weightOf a * paid price (s.weightOf b) (s.dispatchLog ops) b = s.balance credit a b := by
  have charged : ∀ weight tenant (started : Option TaskSnapshot),
      charge price weight tenant (started.map snapshotSpec) = paid price weight started.toList tenant := by
    intro weight tenant started
    cases started with
    | none => rfl
    | some snap => by_cases mine : snap.tenantId = tenant <;> simp [charge, snapshotSpec, paid, servedTo, mine]
  induction ops generalizing s with
  | nil => simp [run, dispatchLog, paid, servedTo]
  | cons op rest ih =>
    have step := apply_step inv op
    have after := step_invariant step inv
    obtain ⟨turn, next⟩ := turns inv fine op
    obtain ⟨queuedA, queuedB⟩ := busy (s.apply op) (by simp [statesAfter])
    obtain ⟨nextA, busyA⟩ := queued_tenant_busy after.coherent queuedA
    obtain ⟨nextB, busyB⟩ := queued_tenant_busy after.coherent queuedB
    have weightA := shares.turn_weight turn a ((inv.coherent.orderKeys a).mp knownA)
    have weightB := shares.turn_weight turn b ((inv.coherent.orderKeys b).mp knownB)
    have law := shares.turn_balance turn inv.coherent fine knownA knownB ne busyA busyB
    obtain ⟨finalA, finalB, later⟩ := ih after next nextA nextB
      (fun t mem => busy t (by simp [statesAfter, mem]))
    have split : ∀ weight tenant, paid price weight (s.dispatchLog (op :: rest)) tenant =
        paid price weight (s.dispatchedBy op).toList tenant + paid price weight ((s.apply op).dispatchLog rest) tenant :=
      fun _ _ => by simp [paid, servedTo, dispatchLog]
    have whole : s.run (op :: rest) = (s.apply op).run rest := rfl
    rw [charged, charged] at law
    rw [weightA, weightB] at later
    rw [whole, split, split]
    refine ⟨finalA.trans weightA, finalB.trans weightB, ?_⟩
    push_cast at law later ⊢
    linear_combination law + later

end Shares

def deficitOf (s : Scheduler) (tenant : TenantId) : Nat :=
  ((s.tenantQueues.lookup tenant).map fun queue => queue.deficit.toNat).getD 0

variable {s t : Scheduler} {outcome : Option TaskId} {task : TaskRecord}

theorem quantum_nat {weight : UInt32} : weight.toUInt64.toNat = weight.toNat := UInt32.toNat_toUInt64 weight

theorem accrue_exact {deficit : UInt64} {cost : UInt32} {weight : UInt32} (dear : deficit < cost.toUInt64) :
    (accrueDeficit deficit weight.toUInt64).toNat = deficit.toNat + weight.toNat := by
  have costBound := UInt32.toNat_lt cost
  have weightBound := UInt32.toNat_lt weight
  rw [UInt64.lt_iff_toNat_lt, quantum_nat] at dear
  have below : ¬ deficit > maxBytes - weight.toUInt64 := by
    rw [gt_iff_lt, UInt64.lt_iff_toNat_lt, room_left, quantum_nat]
    omega
  rw [accrueDeficit, if_neg below, UInt64.toNat_add, quantum_nat]
  exact Nat.mod_eq_of_lt (by omega)

theorem deficit_set_queue {s : Scheduler} {tenant query : TenantId} {queue : TenantQueue} :
    (s.setQueue tenant queue).deficitOf query = if query = tenant then queue.deficit.toNat else s.deficitOf query := by
  simp only [deficitOf, setQueue, KeyedMap.lookup_insert_cases]
  split <;> rfl

theorem same_account (tenant : TenantId)
    (same : (t.tenantQueues.lookup tenant).map TenantQueue.account =
      (s.tenantQueues.lookup tenant).map TenantQueue.account) :
    t.weightOf tenant = s.weightOf tenant ∧ t.deficitOf tenant = s.deficitOf tenant := by
  have read : ∀ u : Scheduler, u.deficitOf tenant =
      (((u.tenantQueues.lookup tenant).map TenantQueue.account).map fun entry => entry.2.toNat).getD 0 := by
    intro u
    rw [Option.map_map]
    rfl
  exact ⟨same_weight same, by rw [read, read, same]⟩

theorem visit_weight (visit : DeficitVisit s outcome t) {tenant : TenantId} : t.weightOf tenant = s.weightOf tenant := by
  cases visit with
  | passed owner queue here lookup empty => exact weight_kept lookup (by rfl) tenant
  | earned owner queue id rest task here head dear | served owner queue id rest task here head affordable =>
    exact weight_kept head.lookup (by rfl) tenant

-- What serving a task costs its tenant: the work paid from the deficit, and
-- the quantum that the serving visit did not bring.
def deficitPrice (weight : Nat) (spec : TaskSpec) : Nat := spec.workUnits.toNat + weight

theorem visit_deficit (visit : DeficitVisit s outcome t) {tenant : TenantId} (busy : t.dequeOf tenant ≠ some []) :
    t.deficitOf tenant + charge deficitPrice (s.weightOf tenant) tenant (s.servedSpec outcome) =
      s.deficitOf tenant + s.weightOf tenant * if s.tenantOrder[s.tenantCursor]? = some tenant then 1 else 0 := by
  cases visit with
  | passed owner queue here lookup empty =>
    change (s.setQueue owner _).dequeOf tenant ≠ some [] at busy
    rw [deque_of_set_queue] at busy
    have other : tenant ≠ owner := fun same => busy (if_pos same)
    change (s.setQueue owner _).deficitOf tenant + _ = _
    rw [deficit_set_queue, if_neg other]
    simp [servedSpec, charge, here, Ne.symm other]
  | earned owner queue id rest task here head dear =>
    change (s.setQueue owner _).deficitOf tenant + _ = _
    rw [deficit_set_queue]
    by_cases same : tenant = owner
    · subst same
      rw [if_pos rfl, accrue_exact dear]
      simp [servedSpec, charge, here, weightOf, deficitOf, head.lookup]
    · rw [if_neg same]
      simp [servedSpec, charge, here, Ne.symm same]
  | served owner queue id rest task here head affordable =>
    change (s.setQueue owner _).deficitOf tenant + _ = _
    rw [deficit_set_queue]
    by_cases same : tenant = owner
    · subst same
      have paid := UInt64.le_iff_toNat_le.mp affordable
      rw [if_pos rfl, UInt64.toNat_sub_of_le _ _ affordable]
      rw [quantum_nat] at paid ⊢
      simp [servedSpec, charge, deficitPrice, here, weightOf, deficitOf, head.lookup, head.found, head.owner]
      omega
    · rw [if_neg same]
      simp [servedSpec, charge, here, Ne.symm same, head.found, head.owner]

theorem deficit_shares : Shares DeficitVisit selectDeficitFrom deficitOffer (fun s => s.policy = .deficitRoundRobin)
      (fun s tenant => s.deficitOf tenant) deficitPrice where
  ring := deficit_ring
  fine coh deficit visit := (deficit_ring.retuned coh visit).config.policy.trans deficit
  weight := visit_weight
  law _ visit inRange := by
    refine ⟨true, deficit_visit_cursor visit inRange, fun tenant busy => ?_⟩
    simpa using congrArg (Nat.cast : Nat → ℤ) (visit_deficit visit busy)
  reads same _ _ := congrArg Nat.cast (same_account _ same).2

section
variable (inv : Invariant s) (deficit : s.policy = .deficitRoundRobin) (op : SchedulerOp)
include inv deficit op

theorem apply_turn : Turn DeficitVisit s (s.apply op) (s.dispatchedBy op) := by
  refine (apply_effect_turn inv op).2 DeficitVisit (by simp [deficit]) ?_
  rw [selectNextTask, deficit]
  exact deficit_ring.round _ s inv.coherent (Nat.le_refl _)

theorem deficit_turns :
    Turn DeficitVisit s (s.apply op) (s.dispatchedBy op) ∧ (s.apply op).policy = .deficitRoundRobin :=
  ⟨apply_turn inv deficit op, (step_configuration (apply_step inv op)).policy.trans deficit⟩

end

def servedWork (log : List TaskSnapshot) (tenant : TenantId) : Nat :=
  ((servedTo log tenant).map fun snap => snap.workUnits.toNat).sum

theorem served_append {log more : List TaskSnapshot} (tenant : TenantId) :
    servedWork (log ++ more) tenant = servedWork log tenant + servedWork more tenant ∧
      (servedTo (log ++ more) tenant).length = (servedTo log tenant).length + (servedTo more tenant).length := by
  simp [servedWork, servedTo]

theorem paid_deficit {weight : Nat} {log : List TaskSnapshot} {tenant : TenantId} :
    paid deficitPrice weight log tenant = servedWork log tenant + weight * (servedTo log tenant).length := by
  unfold paid servedWork
  induction servedTo log tenant with
  | nil => rfl
  | cons snap rest ih =>
    simp only [List.map_cons, List.sum_cons, List.length_cons, ih, Nat.mul_succ]
    show snap.workUnits.toNat + weight + _ = _
    omega

end Glimmer.Core.Scheduler
