import Mathlib.Tactic.Common

namespace Glimmer.Core

abbrev MemoryBytes := UInt64

def maxBytes : MemoryBytes := 18446744073709551615

-- Every operation runs under the state's mutex, so it is one function on the three counters.
structure QuotaLedger where
  limitBytes : MemoryBytes
  reservedBytes : MemoryBytes := 0
  allocatedBytes : MemoryBytes := 0
deriving DecidableEq

-- The shared state pointer of a reservation is either the ledger that issued it or null; active records which.
structure QuotaReservation where
  active : Bool
  memoryBytes : MemoryBytes
deriving DecidableEq

namespace QuotaLedger

variable (ledger : QuotaLedger)

def usedBytes : MemoryBytes :=
  if ledger.reservedBytes > maxBytes - ledger.allocatedBytes then maxBytes
  else ledger.reservedBytes + ledger.allocatedBytes

def availableBytes : MemoryBytes :=
  if ledger.usedBytes ≥ ledger.limitBytes then 0 else ledger.limitBytes - ledger.usedBytes

def tryReserve (bytes : MemoryBytes) : Option QuotaReservation × QuotaLedger :=
  if bytes > ledger.availableBytes then (none, ledger)
  else (some ⟨true, bytes⟩, { ledger with reservedBytes := ledger.reservedBytes + bytes })

def release (bytes : MemoryBytes) : Bool × QuotaLedger :=
  if bytes > ledger.allocatedBytes then (false, ledger)
  else (true, { ledger with allocatedBytes := ledger.allocatedBytes - bytes })

def commitReservation (bytes : MemoryBytes) : Bool × QuotaLedger :=
  if bytes > ledger.reservedBytes then (false, ledger)
  else (true, { ledger with
    reservedBytes := ledger.reservedBytes - bytes
    allocatedBytes := ledger.allocatedBytes + bytes })

def cancelReservation (bytes : MemoryBytes) : Bool × QuotaLedger :=
  if bytes > ledger.reservedBytes then (false, ledger)
  else (true, { ledger with reservedBytes := ledger.reservedBytes - bytes })

end QuotaLedger

namespace QuotaReservation

def spent : QuotaReservation := ⟨false, 0⟩

def commit (reservation : QuotaReservation) (ledger : QuotaLedger) : Bool × QuotaReservation × QuotaLedger :=
  if reservation.active then
    match ledger.commitReservation reservation.memoryBytes with
    | (true, next) => (true, spent, next)
    | (false, next) => (false, reservation, next)
  else (false, reservation, ledger)

def cancel (reservation : QuotaReservation) (ledger : QuotaLedger) : QuotaReservation × QuotaLedger :=
  if reservation.active then
    match ledger.cancelReservation reservation.memoryBytes with
    | (true, next) => (spent, next)
    | (false, next) => (reservation, next)
  else (reservation, ledger)

end QuotaReservation

-- Both counters fit under the limit, hence under 64 bits.
def QuotaLedger.Bounded (ledger : QuotaLedger) : Prop :=
  ledger.reservedBytes.toNat + ledger.allocatedBytes.toNat ≤ ledger.limitBytes.toNat

theorem room_left (used : MemoryBytes) : (maxBytes - used).toNat = 18446744073709551615 - used.toNat := by
  have cap := UInt64.toNat_lt used
  rw [UInt64.toNat_sub_of_le]
  · rfl
  · rw [UInt64.le_iff_toNat_le, show maxBytes.toNat = 18446744073709551615 from rfl]
    omega

namespace QuotaLedger

variable (ledger : QuotaLedger)

theorem limit_bound : ledger.limitBytes.toNat < 18446744073709551616 :=
  UInt64.toNat_lt ledger.limitBytes

theorem used_bytes_exact : ledger.usedBytes.toNat =
      min (ledger.reservedBytes.toNat + ledger.allocatedBytes.toNat) 18446744073709551615 := by
  have cap := UInt64.toNat_lt ledger.allocatedBytes
  have room := room_left ledger.allocatedBytes
  unfold usedBytes
  split
  · next wraps =>
    rw [gt_iff_lt, UInt64.lt_iff_toNat_lt, room] at wraps
    rw [show maxBytes.toNat = 18446744073709551615 from rfl]
    omega
  · next fits =>
    rw [gt_iff_lt, UInt64.lt_iff_toNat_lt, room] at fits
    rw [UInt64.toNat_add]
    omega

theorem available_bytes_exact : ledger.availableBytes.toNat =
      ledger.limitBytes.toNat - (ledger.reservedBytes.toNat + ledger.allocatedBytes.toNat) := by
  have used := ledger.used_bytes_exact
  have cap := ledger.limit_bound
  unfold availableBytes
  split
  · next full =>
    rw [ge_iff_le, UInt64.le_iff_toNat_le] at full
    simp only [UInt64.toNat_zero]
    omega
  · next free =>
    rw [ge_iff_le, UInt64.le_iff_toNat_le] at free
    rw [UInt64.toNat_sub_of_le _ _ (UInt64.le_iff_toNat_le.mpr (by omega)), used]
    omega

section
variable (bytes : MemoryBytes)
include bytes

theorem try_reserve_granted (reservation : QuotaReservation)
    (bounded : ledger.Bounded) (granted : (ledger.tryReserve bytes).1 = some reservation) :
    reservation = ⟨true, bytes⟩ ∧
      (ledger.tryReserve bytes).2.limitBytes = ledger.limitBytes ∧
      (ledger.tryReserve bytes).2.reservedBytes.toNat = ledger.reservedBytes.toNat + bytes.toNat ∧
      (ledger.tryReserve bytes).2.allocatedBytes = ledger.allocatedBytes ∧
      ledger.reservedBytes.toNat + bytes.toNat + ledger.allocatedBytes.toNat ≤ ledger.limitBytes.toNat := by
  have cap := ledger.limit_bound
  have available := ledger.available_bytes_exact
  unfold Bounded at bounded
  by_cases excess : bytes > ledger.availableBytes
  · simp [tryReserve, excess] at granted
  have same : (⟨true, bytes⟩ : QuotaReservation) = reservation := by simpa [tryReserve, excess] using granted
  simp only [tryReserve, if_neg excess]
  rw [gt_iff_lt, UInt64.lt_iff_toNat_lt, available] at excess
  refine ⟨same.symm, trivial, ?_, trivial, by omega⟩
  rw [UInt64.toNat_add]
  exact Nat.mod_eq_of_lt (by omega)

theorem release_exact (covered : bytes.toNat ≤ ledger.allocatedBytes.toNat) :
    ledger.release bytes = (true, { ledger with allocatedBytes := ledger.allocatedBytes - bytes }) ∧
      (ledger.allocatedBytes - bytes).toNat = ledger.allocatedBytes.toNat - bytes.toNat := by
  have le : bytes ≤ ledger.allocatedBytes := UInt64.le_iff_toNat_le.mpr covered
  refine ⟨?_, UInt64.toNat_sub_of_le _ _ le⟩
  rw [release, if_neg (by rw [gt_iff_lt, UInt64.lt_iff_toNat_lt]; omega)]

theorem cancel_reservation_exact (covered : bytes.toNat ≤ ledger.reservedBytes.toNat) :
    ledger.cancelReservation bytes = (true, { ledger with reservedBytes := ledger.reservedBytes - bytes }) ∧
      (ledger.reservedBytes - bytes).toNat = ledger.reservedBytes.toNat - bytes.toNat := by
  have le : bytes ≤ ledger.reservedBytes := UInt64.le_iff_toNat_le.mpr covered
  refine ⟨?_, UInt64.toNat_sub_of_le _ _ le⟩
  rw [cancelReservation, if_neg (by rw [gt_iff_lt, UInt64.lt_iff_toNat_lt]; omega)]

theorem commit_reservation_exact (bounded : ledger.Bounded) (covered : bytes.toNat ≤ ledger.reservedBytes.toNat) :
    ledger.commitReservation bytes = (true, { ledger with
        reservedBytes := ledger.reservedBytes - bytes
        allocatedBytes := ledger.allocatedBytes + bytes }) ∧
      (ledger.reservedBytes - bytes).toNat = ledger.reservedBytes.toNat - bytes.toNat ∧
      (ledger.allocatedBytes + bytes).toNat = ledger.allocatedBytes.toNat + bytes.toNat := by
  have cap := ledger.limit_bound
  unfold Bounded at bounded
  have le : bytes ≤ ledger.reservedBytes := UInt64.le_iff_toNat_le.mpr covered
  refine ⟨?_, UInt64.toNat_sub_of_le _ _ le, ?_⟩
  · rw [commitReservation, if_neg (by rw [gt_iff_lt, UInt64.lt_iff_toNat_lt]; omega)]
  · rw [UInt64.toNat_add]
    exact Nat.mod_eq_of_lt (by omega)

end

end QuotaLedger

end Glimmer.Core
