import Glimmer.Core.QuotaLedger

namespace Glimmer.Control

open Glimmer.Core

abbrev DeviceId := Int

-- ProcessMemoryQuota charges every device to one ledger, the other stores keep one for each device.
structure QuotaStore where
  pool : DeviceId → Nat
  ledger : Nat → QuotaLedger
  healthy : Bool := true

namespace QuotaStore

variable (store : QuotaStore) (device : DeviceId)

def usage : QuotaLedger :=
  if device < 0 then ⟨0, 0, 0⟩ else store.ledger (store.pool device)

def put (ledger : QuotaLedger) : QuotaStore :=
  { store with ledger := Function.update store.ledger (store.pool device) ledger }

-- refused stands for the reasons outside the ledger: a lock, an allocation.
def tryReserve (refused : Bool) (device : DeviceId) (bytes : MemoryBytes) : Option QuotaReservation × QuotaStore :=
  if device < 0 ∨ refused = true then (none, store)
  else match (store.usage device).tryReserve bytes with
    | (none, _) => (none, store)
    | (some reservation, ledger) => (some reservation, store.put device ledger)

-- A reservation keeps the ledger that issued it.
def cancel (reservation : QuotaReservation) : QuotaReservation × QuotaStore :=
  let (left, ledger) := reservation.cancel (store.ledger (store.pool device))
  (left, store.put device ledger)

def commit (refused : Bool) (device : DeviceId) (reservation : QuotaReservation) :
    Bool × QuotaReservation × QuotaStore :=
  if refused then (false, reservation, store)
  else
    let (done, left, ledger) := reservation.commit (store.ledger (store.pool device))
    (done, left, store.put device ledger)

def release (refused : Bool) (device : DeviceId) (bytes : MemoryBytes) : Bool × QuotaStore :=
  if device < 0 ∨ refused = true then (false, store)
  else
    let (done, ledger) := (store.usage device).release bytes
    (done, store.put device ledger)

theorem reserve_granted_iff (device : DeviceId) {bytes : MemoryBytes} (pos : 0 < bytes) :
    (store.tryReserve false device bytes).1.isSome = true ↔ bytes ≤ (store.usage device).availableBytes := by
  by_cases foreign : device < 0
  · have nothing : (store.usage device).availableBytes = 0 := by rw [usage, if_pos foreign]; rfl
    simp [tryReserve, foreign, nothing, (UInt64.ne_of_lt pos).symm]
  · by_cases excess : bytes > (store.usage device).availableBytes
    · simp [tryReserve, foreign, QuotaLedger.tryReserve, excess]
    · simp [tryReserve, foreign, QuotaLedger.tryReserve, excess, UInt64.not_lt.mp excess]

end QuotaStore

def leastUsage (aggregate task : QuotaLedger) : QuotaLedger :=
  { limitBytes := min aggregate.limitBytes task.limitBytes
    reservedBytes := min aggregate.reservedBytes task.reservedBytes
    allocatedBytes := min aggregate.allocatedBytes task.allocatedBytes }

def processMemoryQuota (ledger : QuotaLedger) : QuotaStore where
  pool _ := 0
  ledger _ := ledger

structure CompositeReservation where
  device : DeviceId
  memoryBytes : MemoryBytes
  aggregate : QuotaReservation
  task : QuotaReservation

structure CompositeQuota where
  aggregate : QuotaStore
  task : Option QuotaStore
  healthy : Bool := true

namespace CompositeQuota

variable (quota : CompositeQuota) (aggregateRefused taskRefused : Bool)

def isHealthy : Bool :=
  quota.healthy && quota.aggregate.healthy && quota.task.all (·.healthy)

-- The aggregate's reservation goes out of scope when the task store refuses.
-- Without a task store the second reservation is a null pointer.
def tryReserve (device : DeviceId)
    (bytes : MemoryBytes) : Option CompositeReservation × CompositeQuota :=
  if quota.isHealthy then
    match quota.aggregate.tryReserve aggregateRefused device bytes with
    | (none, aggregate) => (none, { quota with aggregate := aggregate })
    | (some reservation, aggregate) =>
      match quota.task with
      | none => (some ⟨device, bytes, reservation, .spent⟩, { quota with aggregate := aggregate })
      | some task =>
        match task.tryReserve taskRefused device bytes with
        | (none, task) =>
          (none, { quota with aggregate := (aggregate.cancel device reservation).2, task := some task })
        | (some other, task) =>
          (some ⟨device, bytes, reservation, other⟩, { quota with aggregate := aggregate, task := some task })
  else (none, quota)

def usage (device : DeviceId) : QuotaLedger :=
  if quota.isHealthy then
    match quota.task with
    | none => quota.aggregate.usage device
    | some task => leastUsage (quota.aggregate.usage device) (task.usage device)
  else ⟨0, 0, 0⟩

-- A refused second commit gives the aggregate's bytes back, or leaves the composite unhealthy.
def commit (aggregateRefused taskRefused releaseRefused : Bool) (held : CompositeReservation) :
    Bool × CompositeReservation × CompositeQuota :=
  match quota.aggregate.commit aggregateRefused held.device held.aggregate with
  | (false, left, aggregate) => (false, { held with aggregate := left }, { quota with aggregate := aggregate })
  | (true, left, aggregate) =>
    match quota.task with
    | none => (true, { held with aggregate := left }, { quota with aggregate := aggregate })
    | some task =>
      match task.commit taskRefused held.device held.task with
      | (true, other, task) =>
        (true, { held with aggregate := left, task := other }, { quota with aggregate := aggregate, task := some task })
      | (false, other, task) =>
        let (returned, aggregate) := aggregate.release releaseRefused held.device held.memoryBytes
        (false, { held with aggregate := left, task := other },
          { aggregate := aggregate, task := some task, healthy := quota.healthy && returned })

def cancel (held : CompositeReservation) : CompositeReservation × CompositeQuota :=
  let (left, aggregate) := quota.aggregate.cancel held.device held.aggregate
  match quota.task with
  | none => ({ held with aggregate := left }, { quota with aggregate := aggregate })
  | some task =>
    let (other, task) := task.cancel held.device held.task
    ({ held with aggregate := left, task := other }, { quota with aggregate := aggregate, task := some task })

def release (device : DeviceId) (bytes : MemoryBytes) :
    Bool × CompositeQuota :=
  if quota.healthy then
    match quota.aggregate.release aggregateRefused device bytes with
    | (false, aggregate) => (false, { quota with aggregate := aggregate, healthy := false })
    | (true, aggregate) =>
      match quota.task with
      | none => (true, { quota with aggregate := aggregate })
      | some task =>
        let (returned, task) := task.release taskRefused device bytes
        (returned, { aggregate := aggregate, task := some task, healthy := returned })
  else (false, quota)

theorem composite_granted_iff {quota : CompositeQuota} (healthy : quota.isHealthy = true) (device : DeviceId)
    {bytes : MemoryBytes} (pos : 0 < bytes) :
    (quota.tryReserve false false device bytes).1.isSome = true ↔
      bytes ≤ (quota.aggregate.usage device).availableBytes ∧
        ∀ task ∈ quota.task, bytes ≤ (task.usage device).availableBytes := by
  rw [tryReserve, if_pos healthy, ← quota.aggregate.reserve_granted_iff device pos]
  split
  · next refused => simp [refused]
  next granted =>
  split
  · next alone => simp [alone, granted]
  next task here =>
  simp only [here, Option.mem_some_iff, forall_eq', ← task.reserve_granted_iff device pos, granted]
  split
  · next refused => simp [refused]
  · next other => simp [other]

end CompositeQuota

-- The member that has the least to give is also the least in every count.
def Tighter (a b : QuotaLedger) : Prop :=
  a.limitBytes ≤ b.limitBytes ∧ a.reservedBytes ≤ b.reservedBytes ∧ a.allocatedBytes ≤ b.allocatedBytes ∧
    a.availableBytes ≤ b.availableBytes
deriving Decidable

-- The smaller limit is used up by the smaller counts alone.
def UsedUp (a b : QuotaLedger) : Prop :=
  min a.limitBytes.toNat b.limitBytes.toNat ≤
    min a.reservedBytes.toNat b.reservedBytes.toNat + min a.allocatedBytes.toNat b.allocatedBytes.toNat

theorem min_bytes_toNat {a b : MemoryBytes} : (min a b).toNat = min a.toNat b.toNat := by
  show (if a ≤ b then a else b).toNat = _
  split <;> next order => rw [UInt64.le_iff_toNat_le] at order; omega

theorem least_usage_agrees_iff {a b : QuotaLedger} :
    (∀ bytes > 0, (bytes ≤ a.availableBytes ∧ bytes ≤ b.availableBytes ↔
        bytes ≤ (leastUsage a b).availableBytes)) ↔
      Tighter a b ∨ Tighter b a ∨ UsedUp a b := by
  have left := a.available_bytes_exact
  have right := b.available_bytes_exact
  have least := (leastUsage a b).available_bytes_exact
  generalize (leastUsage a b).availableBytes = most at least ⊢
  simp only [leastUsage, min_bytes_toNat] at least
  simp only [Tighter, UsedUp, UInt64.le_iff_toNat_le, gt_iff_lt, UInt64.lt_iff_toNat_lt, UInt64.toNat_zero]
  constructor
  · intro every
    by_cases some : 0 < most.toNat
    · have both := (every most some).mpr (Nat.le_refl _)
      omega
    · omega
  · intro tighter bytes pos
    omega

theorem composite_usage_agrees_iff (quota : CompositeQuota) (healthy : quota.isHealthy = true) (device : DeviceId) :
    (∀ bytes > 0, ((quota.tryReserve false false device bytes).1.isSome = true ↔
      bytes ≤ (quota.usage device).availableBytes)) ↔
      ∀ task ∈ quota.task, Tighter (quota.aggregate.usage device) (task.usage device) ∨
        Tighter (task.usage device) (quota.aggregate.usage device) ∨
        UsedUp (quota.aggregate.usage device) (task.usage device) := by
  have granted := fun (bytes : MemoryBytes) (pos : 0 < bytes) =>
    quota.composite_granted_iff healthy device pos
  cases here : quota.task with
  | none =>
    simp only [here, Option.mem_def, reduceCtorEq, false_implies, implies_true, and_true, iff_true] at granted ⊢
    intro bytes pos
    rw [granted bytes pos, CompositeQuota.usage, if_pos healthy, here]
  | some task =>
    simp only [here, Option.mem_some_iff, forall_eq'] at granted ⊢
    have combined : quota.usage device = leastUsage (quota.aggregate.usage device) (task.usage device) := by
      rw [CompositeQuota.usage, if_pos healthy, here]
    rw [combined, ← least_usage_agrees_iff]
    exact forall₂_congr fun bytes pos => by rw [granted bytes pos]

theorem composite_usage_agrees_under_task_limit :
    let quota : CompositeQuota := ⟨processMemoryQuota ⟨100, 0, 0⟩, some (processMemoryQuota ⟨40, 0, 0⟩), true⟩
    ∀ bytes > 0, ((quota.tryReserve false false 0 bytes).1.isSome = true ↔ bytes ≤ (quota.usage 0).availableBytes) := by
  intro quota
  refine (composite_usage_agrees_iff quota rfl 0).mpr fun task here => .inr (.inl ?_)
  cases here
  decide

theorem composite_usage_overstates :
    let quota : CompositeQuota := ⟨processMemoryQuota ⟨100, 0, 80⟩, some (processMemoryQuota ⟨200, 0, 0⟩), true⟩
    quota.isHealthy = true ∧ (quota.tryReserve false false 0 50).1 = none ∧
      (50 : MemoryBytes) ≤ (quota.usage 0).availableBytes := by
  decide

end Glimmer.Control
