import Glimmer.Control.CompositeQuota
import Glimmer.Lib.KeyedMap

namespace Glimmer.Control

open Glimmer.Core Lib CompositeQuota KeyedMap

-- The reservation objects not destroyed yet, and what was committed and released.
structure CompositeSystem where
  quota : CompositeQuota
  objects : KeyedMap Nat CompositeReservation := ∅
  nextObject : Nat := 0
  committed : List (DeviceId × MemoryBytes) := []
  released : List (DeviceId × MemoryBytes) := []

inductive CompositeOp where
  | reserve (aggregateRefused taskRefused : Bool) (device : DeviceId) (bytes : MemoryBytes)
  | commit (object : Nat) (aggregateRefused taskRefused releaseRefused : Bool)
  | cancel (object : Nat)
  | destroy (object : Nat)
  | release (aggregateRefused taskRefused : Bool) (device : DeviceId) (bytes : MemoryBytes)

namespace CompositeSystem

-- The destructor cancels.
def step (sys : CompositeSystem) : CompositeOp → CompositeSystem
  | .reserve aggregateRefused taskRefused device bytes =>
    match sys.quota.tryReserve aggregateRefused taskRefused device bytes with
    | (none, quota) => { sys with quota := quota }
    | (some held, quota) =>
      { sys with quota := quota, objects := sys.objects.insert sys.nextObject held, nextObject := sys.nextObject + 1 }
  | .commit object aggregateRefused taskRefused releaseRefused =>
    match sys.objects.lookup object with
    | none => sys
    | some held =>
      match sys.quota.commit aggregateRefused taskRefused releaseRefused held with
      | (done, left, quota) =>
        { sys with
          quota := quota
          objects := sys.objects.insert object left
          committed := if done then (held.device, held.memoryBytes) :: sys.committed else sys.committed }
  | .cancel object =>
    match sys.objects.lookup object with
    | none => sys
    | some held =>
      match sys.quota.cancel held with
      | (left, quota) => { sys with quota := quota, objects := sys.objects.insert object left }
  | .destroy object =>
    match sys.objects.lookup object with
    | none => sys
    | some held => { sys with quota := (sys.quota.cancel held).2, objects := sys.objects.erase object }
  | .release aggregateRefused taskRefused device bytes =>
    match sys.quota.release aggregateRefused taskRefused device bytes with
    | (done, quota) =>
      { sys with quota := quota, released := if done then (device, bytes) :: sys.released else sys.released }

def run (sys : CompositeSystem) (ops : List CompositeOp) : CompositeSystem := ops.foldl step sys

end CompositeSystem

def QuotaStore.fresh (pool : DeviceId → Nat) (limits : Nat → MemoryBytes) : QuotaStore where
  pool := pool
  ledger index := ⟨limits index, 0, 0⟩

variable {device : DeviceId} {bytes : MemoryBytes}

section Counts
variable (pool : DeviceId → Nat)

def charged (device : DeviceId) (bytes : MemoryBytes) (index : Nat) : Nat :=
  if index = pool device then bytes.toNat else 0

def share (device : DeviceId) (held : QuotaReservation) (index : Nat) : Nat :=
  if held.active then charged pool device held.memoryBytes index else 0

def booked (entries : List (DeviceId × MemoryBytes)) (index : Nat) : Nat :=
  (entries.map fun entry => charged pool entry.1 entry.2 index).sum

theorem booked_cons {entries : List (DeviceId × MemoryBytes)} {index : Nat} :
    booked pool ((device, bytes) :: entries) index = charged pool device bytes index + booked pool entries index := rfl

variable (part : CompositeReservation → QuotaReservation)

def outstanding (objects : KeyedMap Nat CompositeReservation) (index : Nat) : Nat :=
  KeyedMap.total (fun _ held => share pool held.device (part held) index) objects

variable {pool part} {objects : KeyedMap Nat CompositeReservation} {key : Nat} {held : CompositeReservation}

theorem outstanding_fresh (absent : objects.lookup key = none) :
    outstanding pool part (objects.insert key held) =
      fun index => outstanding pool part objects index + share pool held.device (part held) index :=
  funext fun _ => (total_insert_fresh _ objects held absent).trans (Nat.add_comm _ _)

theorem outstanding_erase (found : objects.lookup key = some held) :
    outstanding pool part objects =
      fun index => outstanding pool part (objects.erase key) index + share pool held.device (part held) index :=
  funext fun _ => (total_erase _ objects found).symm

theorem outstanding_insert (found : objects.lookup key = some held) {left : CompositeReservation} :
    outstanding pool part (objects.insert key left) =
      fun index => outstanding pool part (objects.erase key) index + share pool left.device (part left) index := by
  funext index
  have erased := total_erase (fun _ held => share pool held.device (part held) index) objects found
  have inserted := total_insert_known (fun _ held => share pool held.device (part held) index) objects
    left found
  simp only [outstanding] at erased inserted ⊢
  omega

def QuotaStore.Shows (store : QuotaStore) (reserved allocated : Nat → Nat) : Prop :=
  ∀ index, (store.ledger index).Bounded ∧ (store.ledger index).reservedBytes.toNat = reserved index ∧
    (store.ledger index).allocatedBytes.toNat = allocated index

variable {store : QuotaStore} {a : Nat → Nat} {left : CompositeReservation}

theorem shows_unspent (found : objects.lookup key = some held) (same : left.device = held.device)
    (part_same : part left = part held) (shows : store.Shows (outstanding pool part objects) a) :
    store.Shows (outstanding pool part (objects.insert key left)) a := by
  rw [outstanding_insert found, same, part_same, ← outstanding_erase found]
  exact shows

theorem shows_spent (found : objects.lookup key = some held) (spent : (part left).active = false)
    (shows : store.Shows (outstanding pool part (objects.erase key)) a) :
    store.Shows (outstanding pool part (objects.insert key left)) a := by
  rw [outstanding_insert found]
  simpa [share, spent] using shows

end Counts

namespace QuotaStore

variable {store : QuotaStore} {r a : Nat → Nat} (device : DeviceId)

theorem put_same : store.put device (store.ledger (store.pool device)) = store := by
  simp [put]

theorem put_shows (shows : store.Shows r a) {ledger : QuotaLedger} {p q : Nat → Nat} (bounded : ledger.Bounded)
    (reserved : ledger.reservedBytes.toNat = p (store.pool device))
    (allocated : ledger.allocatedBytes.toNat = q (store.pool device))
    (others : ∀ index, index ≠ store.pool device → p index = r index ∧ q index = a index) :
    (store.put device ledger).Shows p q := by
  intro index
  by_cases here : index = store.pool device
  · subst here
    simpa [put] using ⟨bounded, reserved, allocated⟩
  · simpa [put, here, others index here] using shows index

theorem reserve_cases (shows : store.Shows r a) (refused : Bool) (bytes : MemoryBytes) :
    store.tryReserve refused device bytes = (none, store) ∨
      ∃ ledger, store.tryReserve refused device bytes = (some ⟨true, bytes⟩, store.put device ledger) ∧
        (store.put device ledger).Shows (fun index => r index + share store.pool device ⟨true, bytes⟩ index) a ∧
        ((store.put device ledger).cancel device ⟨true, bytes⟩).2 = store := by
  obtain ⟨bounded, reserved, allocated⟩ := shows (store.pool device)
  by_cases off : device < 0 ∨ refused = true
  · exact .inl (by simp [tryReserve, off])
  have here : store.usage device = store.ledger (store.pool device) := if_neg fun foreign => off (.inl foreign)
  have granted := (store.ledger (store.pool device)).try_reserve_granted bytes ⟨true, bytes⟩ bounded
  rw [tryReserve, if_neg off, here]
  unfold QuotaLedger.tryReserve at granted ⊢
  by_cases excess : bytes > (store.ledger (store.pool device)).availableBytes
  · exact .inl (by simp [excess])
  simp only [if_neg excess] at granted ⊢
  obtain ⟨_, _, more, _, within⟩ := granted trivial
  refine .inr ⟨_, rfl, put_shows device shows ?_ ?_ allocated fun index away => ?_, ?_⟩
  · unfold QuotaLedger.Bounded
    rw [more]
    exact within
  · simp [share, charged, more, reserved]
  · simp [share, charged, away]
  · have undone := QuotaLedger.cancel_reservation_exact
      ⟨(store.ledger (store.pool device)).limitBytes, (store.ledger (store.pool device)).reservedBytes + bytes,
        (store.ledger (store.pool device)).allocatedBytes⟩ bytes (by rw [more]; omega)
    simp [cancel, put, QuotaReservation.cancel, undone.1]

theorem cancel_spec {held : QuotaReservation}
    (shows : store.Shows (fun index => r index + share store.pool device held index) a) :
    ∃ left ledger, store.cancel device held = (left, store.put device ledger) ∧ left.active = false ∧
      (store.put device ledger).Shows r a := by
  obtain ⟨bounded, reserved, allocated⟩ := shows (store.pool device)
  cases active : held.active with
  | false =>
    refine ⟨held, store.ledger (store.pool device), by simp [cancel, QuotaReservation.cancel, active], active, ?_⟩
    rw [put_same]
    simpa [share, active] using shows
  | true =>
    simp only [share, charged, active, if_true] at reserved
    obtain ⟨cancelled, fewer⟩ := (store.ledger (store.pool device)).cancel_reservation_exact held.memoryBytes (by omega)
    refine ⟨.spent, { store.ledger (store.pool device) with
        reservedBytes := (store.ledger (store.pool device)).reservedBytes - held.memoryBytes },
      by simp [cancel, QuotaReservation.cancel, active, cancelled], rfl,
      put_shows device shows ?_ ?_ allocated fun index away => ?_⟩
    · simp only [QuotaLedger.Bounded, fewer] at bounded ⊢
      omega
    · rw [fewer]
      omega
    · simp [share, charged, away]

theorem commit_cases {held : QuotaReservation} (refused : Bool)
    (shows : store.Shows (fun index => r index + share store.pool device held index) a) :
    store.commit refused device held = (false, held, store) ∨ (held.active = true ∧
      ∃ ledger, store.commit refused device held = (true, .spent, store.put device ledger) ∧
        (store.put device ledger).Shows r fun index => a index + charged store.pool device held.memoryBytes index) := by
  obtain ⟨bounded, reserved, allocated⟩ := shows (store.pool device)
  cases refused with
  | true => exact .inl (by simp [commit])
  | false =>
    cases active : held.active with
    | false => exact .inl (by simp [commit, QuotaReservation.commit, active, put_same])
    | true =>
      simp only [share, charged, active, if_true] at reserved
      obtain ⟨committed, fewer, more⟩ :=
        (store.ledger (store.pool device)).commit_reservation_exact held.memoryBytes bounded (by omega)
      refine .inr ⟨rfl, _, by simp only [commit, QuotaReservation.commit, active, if_true, committed,
        Bool.false_eq_true, if_false]; rfl, put_shows device shows ?_ ?_ ?_ fun index away => ?_⟩
      · simp only [QuotaLedger.Bounded, fewer, more] at bounded ⊢
        omega
      · rw [fewer]
        omega
      · simp [charged, more, allocated]
      · simp [share, charged, away]

theorem release_cases (shows : store.Shows r a) (refused : Bool) (bytes : MemoryBytes) :
    store.release refused device bytes = (false, store) ∨
      ∃ ledger b, store.release refused device bytes = (true, store.put device ledger) ∧
        (store.put device ledger).Shows r b ∧ ∀ index, b index + charged store.pool device bytes index = a index := by
  obtain ⟨bounded, reserved, allocated⟩ := shows (store.pool device)
  by_cases off : device < 0 ∨ refused = true
  · exact .inl (by simp [release, off])
  have here : store.usage device = store.ledger (store.pool device) := if_neg fun foreign => off (.inl foreign)
  rw [release, if_neg off, here]
  by_cases covered : bytes.toNat ≤ (store.ledger (store.pool device)).allocatedBytes.toNat
  · obtain ⟨released, fewer⟩ := (store.ledger (store.pool device)).release_exact bytes covered
    refine .inr ⟨{ store.ledger (store.pool device) with
        allocatedBytes := (store.ledger (store.pool device)).allocatedBytes - bytes },
      fun index => a index - charged store.pool device bytes index, by rw [released],
      put_shows device shows ?_ reserved ?_ fun index away => ?_, fun index => ?_⟩
    · simp only [QuotaLedger.Bounded, fewer] at bounded ⊢
      omega
    · simp [charged, fewer, allocated]
    · simp [charged, away]
    · simp only [charged]
      split
      · next same =>
        rw [same]
        omega
      · rfl
  · have excess : bytes > (store.ledger (store.pool device)).allocatedBytes := by
      rw [gt_iff_lt, UInt64.lt_iff_toNat_lt]
      omega
    exact .inl (by simp [QuotaLedger.release, excess, put_same])

end QuotaStore

def CompositeReservation.Sized (held : CompositeReservation) : Prop :=
  (held.aggregate.active = true → held.aggregate.memoryBytes = held.memoryBytes) ∧
    (held.task.active = true → held.task.memoryBytes = held.memoryBytes)

namespace CompositeSystem

-- A store holds the active parts of the outstanding objects and, under health, what is committed.
def Keeps (sys : CompositeSystem) (pool : DeviceId → Nat) (part : CompositeReservation → QuotaReservation)
    (store : QuotaStore) : Prop :=
  store.pool = pool ∧ store.healthy = true ∧ ∃ allocated, store.Shows (outstanding pool part sys.objects) allocated ∧
    (sys.quota.healthy = true → ∀ index, allocated index + booked pool sys.released index =
      booked pool sys.committed index)

structure Sound (p q : DeviceId → Nat) (sys : CompositeSystem) : Prop where
  aggregate : sys.Keeps p (·.aggregate) sys.quota.aggregate
  task : ∃ task, sys.quota.task = some task ∧ sys.Keeps q (·.task) task
  sized : ∀ key held, sys.objects.lookup key = some held → held.Sized
  fresh : ∀ key, sys.nextObject ≤ key → sys.objects.lookup key = none

variable {p q : DeviceId → Nat} {sys : CompositeSystem} {object : Nat} {held left : CompositeReservation}

section
variable (sound : sys.Sound p q)
include sound

theorem Sound.sized_insert (fits : left.Sized) (object key : Nat) (other : CompositeReservation)
    (found : (sys.objects.insert object left).lookup key = some other) : other.Sized := by
  rw [lookup_insert_cases] at found
  split at found
  · cases found
    exact fits
  · exact sound.sized key other found

section
variable (found : sys.objects.lookup object = some held)
include found

theorem Sound.fresh_insert (key : Nat)
    (beyond : sys.nextObject ≤ key) : (sys.objects.insert object left).lookup key = none := by
  rw [lookup_insert_cases, if_neg, sound.fresh key beyond]
  rintro rfl
  cases (sound.fresh _ beyond).symm.trans found

omit found in
theorem Sound.reserve_spec (aggregateRefused taskRefused : Bool) (device : DeviceId) (bytes : MemoryBytes) :
    sys.quota.tryReserve aggregateRefused taskRefused device bytes = (none, sys.quota) ∨
      ((sys.quota.tryReserve aggregateRefused taskRefused device bytes).1.isSome = true ∧
        (sys.step (.reserve aggregateRefused taskRefused device bytes)).Sound p q) := by
  have ⟨⟨pooled, well, a, aggregate, books⟩, ⟨task, here, placed, fine, b, shows, entries⟩, _, fresh⟩ := sound
  cases pooled
  cases placed
  by_cases healthy : sys.quota.isHealthy = true
  · simp only [step, tryReserve, if_pos healthy, here]
    have absent := fresh sys.nextObject (Nat.le_refl _)
    rcases QuotaStore.reserve_cases device aggregate aggregateRefused bytes with refused | ⟨_, granted, more, undone⟩
    · exact .inl (by simp [refused, ← here])
    rcases QuotaStore.reserve_cases device shows taskRefused bytes with refused | ⟨_, given, extra, _⟩
    · exact .inl (by simp [granted, refused, undone, ← here])
    simp only [granted, given]
    refine .inr ⟨rfl, ⟨rfl, well, a, ?_, books⟩, ⟨_, rfl, rfl, fine, b, ?_, entries⟩,
      sound.sized_insert ⟨fun _ => rfl, fun _ => rfl⟩ _, fun key beyond => ?_⟩
    · rw [outstanding_fresh absent]
      exact more
    · rw [outstanding_fresh absent]
      exact extra
    · rw [lookup_insert_cases, if_neg (Nat.ne_of_gt beyond), fresh key (Nat.le_of_succ_le beyond)]
  · exact .inl (by rw [tryReserve, if_neg healthy])

theorem commit_sound (aggregateRefused taskRefused releaseRefused : Bool) :
    (sys.step (.commit object aggregateRefused taskRefused releaseRefused)).Sound p q := by
  have ⟨⟨pooled, well, a, aggregate, books⟩, ⟨task, here, placed, fine, b, shows, entries⟩, sized, _⟩ := sound
  cases pooled
  cases placed
  have ⟨whole, other⟩ := sized object held found
  simp only [step, found, commit, here]
  rcases QuotaStore.commit_cases held.device aggregateRefused (outstanding_erase found ▸ aggregate) with
    refused | ⟨active, _, done, kept⟩
  · simp only [refused]
    exact ⟨⟨rfl, well, a, shows_unspent found rfl rfl aggregate, books⟩,
      ⟨task, rfl, rfl, fine, b, shows_unspent found rfl rfl shows, entries⟩, sound.sized_insert ⟨whole, other⟩ _,
      sound.fresh_insert found⟩
  simp only [done]
  rcases QuotaStore.commit_cases held.device taskRefused (outstanding_erase found ▸ shows) with
    refused | ⟨live, _, given, extra⟩
  · simp only [refused]
    have unspent : CompositeReservation.Sized { held with aggregate := .spent } := ⟨nofun, other⟩
    rcases QuotaStore.release_cases held.device kept releaseRefused held.memoryBytes with lost | ⟨_, _, back, less, exact⟩
    · simp only [lost, Bool.and_false]
      exact ⟨⟨rfl, well, _, shows_spent found rfl kept, nofun⟩,
        ⟨task, rfl, rfl, fine, b, shows_unspent found rfl rfl shows, nofun⟩, sound.sized_insert unspent _,
        sound.fresh_insert found⟩
    · simp only [back, Bool.and_true]
      refine ⟨⟨rfl, well, _, shows_spent found rfl less, fun healthy index => ?_⟩,
        ⟨task, rfl, rfl, fine, b, shows_unspent found rfl rfl shows, entries⟩, sound.sized_insert unspent _,
        sound.fresh_insert found⟩
      have returned := exact index
      rw [whole active] at returned
      rw [Nat.add_right_cancel returned]
      exact books healthy index
  · simp only [given, if_true]
    refine ⟨⟨rfl, well, _, shows_spent found rfl kept, fun healthy index => ?_⟩,
      ⟨_, rfl, rfl, fine, _, shows_spent found rfl extra, fun healthy index => ?_⟩,
      sound.sized_insert ⟨Bool.noConfusion, Bool.noConfusion⟩ _, sound.fresh_insert found⟩
    · rw [booked_cons, ← books healthy index, whole active, Nat.add_right_comm, Nat.add_comm]
    · rw [booked_cons, ← entries healthy index, other live, Nat.add_right_comm, Nat.add_comm]

theorem cancel_sound : (sys.step (.cancel object)).Sound p q ∧ (sys.step (.destroy object)).Sound p q := by
  have ⟨⟨pooled, well, a, aggregate, books⟩, ⟨task, here, placed, fine, b, shows, entries⟩, sized, fresh⟩ := sound
  cases pooled
  cases placed
  obtain ⟨left, _, done, gone, less⟩ := QuotaStore.cancel_spec held.device (outstanding_erase found ▸ aggregate)
  obtain ⟨other, _, given, spent, fewer⟩ := QuotaStore.cancel_spec held.device (outstanding_erase found ▸ shows)
  simp only [step, found, cancel, here, done, given]
  refine ⟨⟨⟨rfl, well, a, shows_spent found gone less, books⟩,
    ⟨_, rfl, rfl, fine, b, shows_spent found spent fewer, entries⟩,
    sound.sized_insert ⟨by simp [gone], by simp [spent]⟩ _, sound.fresh_insert found⟩,
    ⟨rfl, well, a, less, books⟩, ⟨_, rfl, rfl, fine, b, fewer, entries⟩, fun key other present => ?_,
      fun key beyond => ?_⟩
  · rw [lookup_erase_cases] at present
    split at present
    · cases present
    · exact sized key other present
  · rw [lookup_erase_cases, fresh key beyond, ite_self]

end

theorem release_sound (aggregateRefused taskRefused : Bool) (device : DeviceId)
    (bytes : MemoryBytes) : (sys.step (.release aggregateRefused taskRefused device bytes)).Sound p q := by
  have ⟨⟨pooled, well, a, aggregate, books⟩, ⟨task, here, placed, fine, b, shows, entries⟩, sized, fresh⟩ := sound
  cases pooled
  cases placed
  cases up : sys.quota.healthy with
  | false =>
    simp only [step, release, up]
    exact sound
  | true =>
    simp only [step, release, up, if_true, here]
    rcases QuotaStore.release_cases device aggregate aggregateRefused bytes with lost | ⟨_, _, back, less, exact⟩
    · simp only [lost]
      exact ⟨⟨rfl, well, a, aggregate, nofun⟩, ⟨task, rfl, rfl, fine, b, shows, nofun⟩, sized, fresh⟩
    rcases QuotaStore.release_cases device shows taskRefused bytes with lost | ⟨_, _, given, fewer, returned⟩
    · simp only [back, lost]
      exact ⟨⟨rfl, well, _, less, nofun⟩, ⟨task, rfl, rfl, fine, b, shows, nofun⟩, sized, fresh⟩
    simp only [back, given, if_true]
    refine ⟨⟨rfl, well, _, less, fun _ index => ?_⟩, ⟨_, rfl, rfl, fine, _, fewer, fun _ index => ?_⟩, sized, fresh⟩
    · rw [booked_cons, ← books up index, ← exact index, Nat.add_assoc]
    · rw [booked_cons, ← entries up index, ← returned index, Nat.add_assoc]

theorem step_sound (op : CompositeOp) : (sys.step op).Sound p q := by
  cases op with
  | reserve aggregateRefused taskRefused device bytes =>
    rcases sound.reserve_spec aggregateRefused taskRefused device bytes with refused | ⟨_, admitted⟩
    · simp only [step, refused]
      exact sound
    · exact admitted
  | commit object aggregateRefused taskRefused releaseRefused =>
    cases found : sys.objects.lookup object with
    | none =>
      simp only [step, found]
      exact sound
    | some held => exact commit_sound sound found aggregateRefused taskRefused releaseRefused
  | cancel object =>
    cases found : sys.objects.lookup object with
    | none =>
      simp only [step, found]
      exact sound
    | some held => exact (cancel_sound sound found).1
  | destroy object =>
    cases found : sys.objects.lookup object with
    | none =>
      simp only [step, found]
      exact sound
    | some held => exact (cancel_sound sound found).2
  | release aggregateRefused taskRefused device bytes =>
    exact release_sound sound aggregateRefused taskRefused device bytes

end

theorem run_sound (ops : List CompositeOp) (sound : sys.Sound p q) : (sys.run ops).Sound p q := by
  induction ops generalizing sys with
  | nil => exact sound
  | cons op rest ih => exact ih (step_sound sound op)

theorem unhealthy_refuses {quota : CompositeQuota} (down : quota.healthy = false) {aggregateRefused taskRefused : Bool} :
    quota.tryReserve aggregateRefused taskRefused device bytes = (none, quota) := by
  simp [tryReserve, isHealthy, down]

theorem step_unhealthy (down : sys.quota.healthy = false) (op : CompositeOp) : (sys.step op).quota.healthy = false := by
  cases op with
  | reserve => simpa only [step, unhealthy_refuses down] using down
  | release => simp [step, release, down]
  | commit =>
    simp only [step]
    split
    · exact down
    · simp only [commit, down, Bool.false_and]
      repeat' split
      all_goals rfl
  | cancel | destroy =>
    simp only [step]
    split
    · exact down
    · simp only [cancel, down]
      split <;> rfl

theorem run_unhealthy (ops : List CompositeOp) (down : sys.quota.healthy = false) :
    (sys.run ops).quota.healthy = false := by
  induction ops generalizing sys with
  | nil => exact down
  | cons op rest ih => exact ih (step_unhealthy down op)

end CompositeSystem

def freshComposite (p q : DeviceId → Nat) (limits taskLimits : Nat → MemoryBytes) : CompositeSystem where
  quota := ⟨.fresh p limits, some (.fresh q taskLimits), true⟩

theorem fresh_sound (p q : DeviceId → Nat) (limits taskLimits : Nat → MemoryBytes) :
    (freshComposite p q limits taskLimits).Sound p q := by
  have shows : ∀ pool part limits, (QuotaStore.fresh pool limits).Shows (outstanding pool part ∅) fun _ => 0 :=
    fun _ _ _ _ => ⟨Nat.zero_le _, rfl, rfl⟩
  exact ⟨⟨rfl, rfl, _, shows _ _ _, fun _ _ => rfl⟩, ⟨_, rfl, rfl, rfl, _, shows _ _ _, fun _ _ => rfl⟩, nofun,
    fun _ _ => rfl⟩

theorem composite_all_or_nothing (p q : DeviceId → Nat) (limits taskLimits : Nat → MemoryBytes) (ops : List CompositeOp) :
    let sys := (freshComposite p q limits taskLimits).run ops
    ∃ task, sys.quota.task = some task ∧
      (∀ aggregateRefused taskRefused device bytes,
        (sys.quota.tryReserve aggregateRefused taskRefused device bytes).1 = none →
          (sys.quota.tryReserve aggregateRefused taskRefused device bytes).2 = sys.quota) ∧
      (∀ index, (sys.quota.aggregate.ledger index).reservedBytes.toNat = outstanding p (·.aggregate) sys.objects index ∧
        (task.ledger index).reservedBytes.toNat = outstanding q (·.task) sys.objects index) ∧
      (sys.quota.isHealthy = true → (∀ index,
        (sys.quota.aggregate.ledger index).allocatedBytes.toNat + booked p sys.released index =
            booked p sys.committed index ∧
          (task.ledger index).allocatedBytes.toNat + booked q sys.released index = booked q sys.committed index) ∧
        (p = q → ∀ device, (sys.quota.aggregate.usage device).allocatedBytes = (task.usage device).allocatedBytes)) ∧
      (sys.quota.isHealthy = false → ∀ later aggregateRefused taskRefused device bytes,
        (sys.run later).quota.isHealthy = false ∧
          ((sys.run later).quota.tryReserve aggregateRefused taskRefused device bytes).1 = none) := by
  intro sys
  have sound : sys.Sound p q := CompositeSystem.run_sound ops (fresh_sound p q limits taskLimits)
  have ⟨⟨pooled, well, a, aggregate, books⟩, ⟨task, here, placed, fine, b, shows, entries⟩, _, _⟩ := sound
  have reports : sys.quota.isHealthy = sys.quota.healthy := by
    simp [CompositeQuota.isHealthy, here, well, fine]
  refine ⟨task, here, fun aggregateRefused taskRefused device bytes failed => ?_,
    fun index => ⟨(aggregate index).2.1, (shows index).2.1⟩, fun healthy => ?_, fun down later aggregateRefused
      taskRefused device bytes => ?_⟩
  · rcases sound.reserve_spec aggregateRefused taskRefused device bytes with same | ⟨admitted, _⟩
    · rw [same]
    · simp [failed] at admitted
  · rw [reports] at healthy
    have books : ∀ index, _ := fun index => (aggregate index).2.2 ▸ books healthy index
    have entries : ∀ index, _ := fun index => (shows index).2.2 ▸ entries healthy index
    refine ⟨fun index => ⟨books index, entries index⟩, fun same device => ?_⟩
    subst same
    unfold QuotaStore.usage
    split
    · rfl
    · rw [pooled, placed, ← UInt64.toNat_inj]
      exact Nat.add_right_cancel ((books _).trans (entries _).symm)
  · have still := CompositeSystem.run_unhealthy later (reports ▸ down)
    exact ⟨by simp [CompositeQuota.isHealthy, still], by rw [CompositeSystem.unhealthy_refuses still]⟩

theorem composite_keeps_lost_bytes :
    let lost := (freshComposite Int.toNat Int.toNat (fun _ => 100) fun _ => 100).run
      [.reserve false false 0 10, .commit 0 false true true, .destroy 0]
    let mixed := (freshComposite Int.toNat (fun _ => 0) (fun _ => 100) fun _ => 100).run
      [.reserve false false 0 10, .commit 0 false false false, .destroy 0]
    (lost.quota.isHealthy = false ∧ lost.committed = [] ∧ (lost.quota.aggregate.usage 0).allocatedBytes = 10) ∧
      mixed.quota.isHealthy = true ∧ (mixed.quota.aggregate.usage 1).allocatedBytes = 0 ∧
      mixed.quota.task.map (·.usage 1 |>.allocatedBytes) = some 10 := by
  decide +kernel

end Glimmer.Control
