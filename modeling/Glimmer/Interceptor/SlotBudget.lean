import Glimmer.Control.GateWork
import Glimmer.Interceptor.LaunchSlots

namespace Glimmer.Interceptor

open Lib Glimmer.Core Control Scheduler LaunchSystem KeyedMap

namespace LaunchSystem

theorem phase_of_move (sys : LaunchSystem) (thread other : ThreadId) (phase : LaunchPhase) :
    (sys.move thread phase).phaseOf other = if other = thread then phase else sys.phaseOf other := by
  unfold move phaseOf
  rw [lookup_insert_cases]
  split <;> rfl

-- A task on its way to a thread: queued or granted by the gate, not yet a batch.
inductive Claims (sys : LaunchSystem) (thread : ThreadId) (id : TaskId) : Prop where
  | admitted (phase : sys.phaseOf thread = .admitted id)
  | waiting (waiter : Waiter) (listed : sys.gate.waiting.lookup thread = some waiter) (mine : waiter.taskId = id)

end LaunchSystem

open LaunchSystem

-- What a batch has admitted and what it may still admit add up to its size.
structure Budgeted (config : LaunchConfig) (sys : LaunchSystem) : Prop where
  invariant : Invariant sys.gate.scheduler
  capacity : sys.gate.scheduler.maxRunningTasks = config.gate.maxConcurrentLaunches
  size : sys.batchSize = config.batchSize
  waits : ∀ thread, (sys.gate.waiting.lookup thread).isSome = true ↔ sys.phaseOf thread = .waiting
  issued : ∀ id : Nat, sys.gate.scheduler.nextTaskId ≤ id → sys.batches.lookup id = none ∧ sys.admissions.count id = 0
  claimed : ∀ thread (id : Nat), sys.Claims thread id →
    id < sys.gate.scheduler.nextTaskId ∧ sys.batches.lookup id = none ∧ sys.admissions.count id = 0
  apart : ∀ first second id, sys.Claims first id → sys.Claims second id → first = second
  balance : ∀ id batch, sys.batches.lookup id = some batch →
    sys.admissions.count id + batch.remainingLaunches = sys.batchSize
  bound : ∀ id, sys.admissions.count id ≤ sys.batchSize

variable {config : LaunchConfig} {sys : LaunchSystem}

section Steps
variable {next : LaunchSystem} {thread : ThreadId} {ended : Option TaskId} {id : TaskId}

section
variable (budgeted : Budgeted config sys) (size : next.batchSize = sys.batchSize)
  (log : next.admissions = sys.admissions) (gate : Preserves sys.gate.scheduler next.gate.scheduler ended)
  (batches : ∀ id batch, next.batches.lookup id = some batch → ∃ old, sys.batches.lookup id = some old ∧
    old.remainingLaunches = batch.remainingLaunches)
include budgeted size log gate batches

theorem budget_kept (waits : ∀ thread, (next.gate.waiting.lookup thread).isSome = true ↔ next.phaseOf thread = .waiting)
    (claims : ∀ thread id, next.Claims thread id → sys.Claims thread id) : Budgeted config next := by
  have gone : ∀ id, sys.batches.lookup id = none → next.batches.lookup id = none := by
    intro id absent
    by_contra present
    obtain ⟨batch, found⟩ := Option.ne_none_iff_exists'.mp present
    obtain ⟨old, known, _⟩ := batches id batch found
    cases absent.symm.trans known
  refine ⟨gate.invariant, gate.config.maxRunning.trans budgeted.capacity, size.trans budgeted.size, waits,
    fun id fresh => ?_, fun thread id claim => ?_, ?_, ?_, ?_⟩
  · obtain ⟨absent, unused⟩ := budgeted.issued id (Nat.le_trans gate.issued fresh)
    exact ⟨gone id absent, by rw [log]; exact unused⟩
  · obtain ⟨issued, absent, unused⟩ := budgeted.claimed thread id (claims thread id claim)
    exact ⟨Nat.lt_of_lt_of_le issued gate.issued, gone id absent, by rw [log]; exact unused⟩
  · exact fun first second id here there => budgeted.apart first second id (claims first id here) (claims second id there)
  · intro id batch found
    obtain ⟨old, known, same⟩ := batches id batch found
    rw [log, size, ← same]
    exact budgeted.balance id old known
  · intro id
    rw [log, size]
    exact budgeted.bound id

theorem budget_moved {phase : LaunchPhase}
    (aside : sys.phaseOf thread ≠ .waiting ∧ phase ≠ .waiting ∧ ∀ id, phase ≠ .admitted id)
    (phases : next.phases = (sys.move thread phase).phases) (waiting : next.gate.waiting = sys.gate.waiting) :
    Budgeted config next := by
  have phaseOf : ∀ other, next.phaseOf other = if other = thread then phase else sys.phaseOf other := by
    intro other
    rw [← sys.phase_of_move]
    simp [phaseOf, phases]
  refine budget_kept budgeted size log gate batches (fun other => ?_) (fun other id claim => ?_)
  · rw [waiting, phaseOf, budgeted.waits]
    split
    · next here =>
      subst here
      exact ⟨fun now => absurd now aside.1, fun now => absurd now aside.2.1⟩
    · exact Iff.rfl
  · cases claim with
    | admitted held =>
      rw [phaseOf] at held
      split at held
      · exact absurd held (aside.2.2 id)
      · exact .admitted held
    | waiting waiter listed mine => exact .waiting waiter (waiting ▸ listed) mine

end

theorem erased_batches (batches : KeyedMap TaskId LaunchBatchState) (gone id : TaskId) (batch : LaunchBatchState)
    (found : (batches.erase gone).lookup id = some batch) :
    ∃ old, batches.lookup id = some old ∧ old.remainingLaunches = batch.remainingLaunches := by
  rw [lookup_erase_cases] at found
  split at found
  · cases found
  · exact ⟨batch, found, rfl⟩

theorem same_batches (batches : KeyedMap TaskId LaunchBatchState) (id : TaskId) (batch : LaunchBatchState)
    (found : batches.lookup id = some batch) :
    ∃ old, batches.lookup id = some old ∧ old.remainingLaunches = batch.remainingLaunches := ⟨batch, found, rfl⟩

variable {batch : LaunchBatchState} {phase : LaunchPhase} {order : List TaskId}

section
variable (budgeted : Budgeted config sys)
include budgeted

theorem begin_launch_budgeted (before : sys.phaseOf thread ≠ .waiting) {id : TaskId}
    {final : Bool} (balance : sys.admissions.count id + 1 + batch.remainingLaunches = sys.batchSize)
    (known : (id : Nat) < sys.gate.scheduler.nextTaskId)
    (owner : ∀ other, sys.Claims other id → other = thread ∧ sys.phaseOf thread = .admitted id) :
    Budgeted config (sys.beginLaunch thread id batch final) := by
  have phaseOf : ∀ other, (sys.beginLaunch thread id batch final).phaseOf other =
      if other = thread then .launching id else sys.phaseOf other := fun other => sys.phase_of_move thread other _
  have claims : ∀ other task, (sys.beginLaunch thread id batch final).Claims other task →
      task ≠ id ∧ sys.Claims other task := by
    intro other task claim
    cases claim with
    | admitted held =>
      rw [phaseOf] at held
      split at held
      · cases held
      next ne =>
      refine ⟨?_, .admitted held⟩
      rintro rfl
      exact ne (owner other (.admitted held)).1
    | waiting waiter listed mine =>
      refine ⟨?_, .waiting waiter listed mine⟩
      rintro rfl
      obtain ⟨here, granted⟩ := owner other (.waiting waiter listed mine)
      subst here
      exact before ((budgeted.waits other).mp (by rw [show sys.gate.waiting.lookup other = some waiter from listed]; rfl))
  have counted : ∀ task, (id :: sys.admissions).count task = sys.admissions.count task + if task = id then 1 else 0 := by
    intro task
    by_cases same : task = id
    · simp [same]
    · rw [List.count_cons_of_ne (Ne.symm same), if_neg same, Nat.add_zero]
  refine ⟨budgeted.invariant, budgeted.capacity, budgeted.size, fun other => ?_, fun task fresh => ?_,
    fun other task claim => ?_, ?_, ?_, ?_⟩
  · rw [phaseOf]
    refine (budgeted.waits other).trans ?_
    split
    · next here =>
      subst here
      exact ⟨fun now => absurd now before, nofun⟩
    · exact Iff.rfl
  · have other : task ≠ id := fun same => Nat.lt_irrefl _ (Nat.lt_of_lt_of_le known (same ▸ fresh))
    obtain ⟨absent, unused⟩ := budgeted.issued task fresh
    change (sys.batches.insert id batch).lookup task = none ∧ (id :: sys.admissions).count task = 0
    rw [lookup_insert_cases, if_neg other, counted, if_neg other]
    exact ⟨absent, unused⟩
  · obtain ⟨ne, old⟩ := claims other task claim
    obtain ⟨issued, absent, unused⟩ := budgeted.claimed other task old
    change _ ∧ (sys.batches.insert id batch).lookup task = none ∧ (id :: sys.admissions).count task = 0
    rw [lookup_insert_cases, if_neg ne, counted, if_neg ne]
    exact ⟨issued, absent, unused⟩
  · exact fun first second task here there => budgeted.apart first second task (claims _ _ here).2 (claims _ _ there).2
  · intro task stored found
    change (sys.batches.insert id batch).lookup task = some stored at found
    change (id :: sys.admissions).count task + stored.remainingLaunches = sys.batchSize
    rw [lookup_insert_cases] at found
    rw [counted]
    split at found
    · next here =>
      cases found
      subst here
      rw [if_pos rfl]
      omega
    · next here =>
      rw [if_neg here]
      exact budgeted.balance task stored found
  · intro task
    change (id :: sys.admissions).count task ≤ sys.batchSize
    rw [counted]
    split
    · next here =>
      subst here
      omega
    · exact budgeted.bound task

variable {gate : LaunchGate} {clock : Nat → TimePoint}

section
variable (preserves : Preserves sys.gate.scheduler gate.scheduler none)
  (unused : sys.batches.lookup id = none ∧ sys.admissions.count id = 0)
  (distinct : ∀ other, sys.Claims other id → other = thread)
include preserves unused distinct

theorem gate_move_budgeted (waits : (gate.waiting.lookup thread).isSome = true ↔ phase = .waiting)
    (others : ∀ other, other ≠ thread → gate.waiting.lookup other = sys.gate.waiting.lookup other)
    (mine : ∀ task : Nat, Claims { sys.move thread phase with gate := gate } thread task →
      task = id ∧ task < gate.scheduler.nextTaskId) : Budgeted config { sys.move thread phase with gate := gate } := by
  have phaseOf : ∀ other, phaseOf { sys.move thread phase with gate := gate } other =
      if other = thread then phase else sys.phaseOf other := fun other => sys.phase_of_move thread other _
  have elsewhere : ∀ other task, other ≠ thread →
      Claims { sys.move thread phase with gate := gate } other task → sys.Claims other task := by
    intro other task ne claim
    cases claim with
    | admitted held =>
      rw [phaseOf, if_neg ne] at held
      exact .admitted held
    | waiting waiter listed same => exact .waiting waiter ((others other ne).symm.trans listed) same
  refine ⟨preserves.invariant, preserves.config.maxRunning.trans budgeted.capacity, budgeted.size, fun other => ?_,
    fun task fresh => budgeted.issued task (Nat.le_trans preserves.issued fresh), fun other task claim => ?_,
    fun first second task here there => ?_, budgeted.balance, budgeted.bound⟩
  · rw [phaseOf]
    split
    · next here =>
      subst here
      exact waits
    · next here =>
      rw [show (gate.waiting.lookup other) = _ from others other here]
      exact budgeted.waits other
  · by_cases here : other = thread
    · subst here
      obtain ⟨same, issued⟩ := mine task claim
      exact ⟨issued, same ▸ unused⟩
    · obtain ⟨issued, rest⟩ := budgeted.claimed other task (elsewhere other task here claim)
      exact ⟨Nat.lt_of_lt_of_le issued preserves.issued, rest⟩
  · by_cases left : first = thread
    · by_cases right : second = thread
      · exact left.trans right.symm
      · subst left
        have same := (mine task here).1
        subst same
        exact (distinct second (elsewhere second _ right there)).symm
    · by_cases right : second = thread
      · subst right
        have same := (mine task there).1
        subst same
        exact distinct first (elsewhere first _ left here)
      · exact budgeted.apart first second task (elsewhere first task left here) (elsewhere second task right there)

theorem answer_budgeted {result : AcquireResult} (admitted : Admitted sys.gate gate thread id result)
    (issued : result ≠ .refused → (id : Nat) < gate.scheduler.nextTaskId) :
    Budgeted config (sys.takeAnswer thread (result, gate)) := by
  have phaseOf : ∀ phase, phaseOf { sys.move thread phase with gate := gate } thread = phase := by
    intro phase
    exact (sys.phase_of_move thread thread phase).trans (if_pos rfl)
  cases admitted with
  | granted running others left =>
    refine gate_move_budgeted budgeted preserves unused distinct (by simp [left]) others fun task claim => ?_
    cases claim with
    | admitted held =>
      rw [phaseOf] at held
      cases held
      exact ⟨rfl, issued (by simp)⟩
    | waiting waiter listed _ => cases left.symm.trans listed
  | waiting others joined =>
    obtain ⟨waiter, listed, same⟩ := Option.map_eq_some_iff.mp joined
    refine gate_move_budgeted budgeted preserves unused distinct (by simp [listed]) others fun task claim => ?_
    cases claim with
    | admitted held =>
      rw [phaseOf] at held
      cases held
    | waiting found again mine =>
      cases listed.symm.trans again
      subst mine
      exact ⟨same, same ▸ issued (by simp)⟩
  | refused others left | expired others left =>
    refine gate_move_budgeted budgeted preserves unused distinct (by simp [left]) others fun task claim => ?_
    cases claim with
    | admitted held =>
      rw [phaseOf] at held
      cases held
    | waiting waiter listed _ => cases left.symm.trans listed

end

theorem acquire_budgeted (requesting : sys.phaseOf thread = .requesting) {now : TimePoint} :
    Budgeted config (sys.takeAnswer thread (sys.gate.acquire thread false now clock)) := by
  have outside : sys.gate.waiting.lookup thread = none := by
    have waits := budgeted.waits thread
    rw [requesting] at waits
    simpa using waits
  obtain ⟨preserves, grown, admitted⟩ := acquire_spec budgeted.invariant clock false now outside
  refine answer_budgeted budgeted preserves (budgeted.issued _ (Nat.le_refl _)) (fun other claim => ?_) admitted grown
  exact absurd (budgeted.claimed other _ claim).1 (Nat.lt_irrefl _)

theorem wake_budgeted (waiting : sys.phaseOf thread = .waiting) :
    Budgeted config (sys.takeAnswer thread (sys.gate.wake thread false clock)) := by
  obtain ⟨waiter, waits⟩ := Option.isSome_iff_exists.mp ((budgeted.waits thread).mpr waiting)
  obtain ⟨preserves, admitted⟩ := wake_spec budgeted.invariant clock false waits
  have mine : sys.Claims thread waiter.taskId := .waiting waiter waits rfl
  obtain ⟨issued, unused⟩ := budgeted.claimed thread waiter.taskId mine
  refine answer_budgeted budgeted preserves unused ?_ admitted (fun _ => Nat.lt_of_lt_of_le issued preserves.issued)
  exact fun other claim => budgeted.apart other thread _ claim mine

end

theorem open_batch_found (found : sys.openBatch order = some (id, batch)) :
    sys.batches.lookup id = some batch ∧ batch.remainingLaunches ≠ 0 := by
  obtain ⟨other, _, answer⟩ := List.exists_of_findSome?_eq_some found
  obtain ⟨stored, kept, same⟩ := Option.map_eq_some_iff.mp answer
  cases same
  obtain ⟨listed, usable⟩ := Option.filter_eq_some_iff.mp kept
  exact ⟨listed, (of_decide_eq_true usable).1⟩

section
variable (budgeted : Budgeted config sys)
include budgeted

theorem enter_budgeted (idle : sys.phaseOf thread = .idle) : Budgeted config (sys.enter thread order) := by
  unfold enter
  split
  · exact budget_moved budgeted rfl rfl (preserves_refl budgeted.invariant) (same_batches _) (by simp [idle]) rfl rfl
  next id batch found =>
  split at found
  · obtain ⟨stored, left⟩ := open_batch_found found
    have balance := budgeted.balance id batch stored
    refine begin_launch_budgeted budgeted (by simp [idle]) (by dsimp only; omega) ?_ fun other claim => ?_
    · by_contra unissued
      exact absurd (stored.symm.trans (budgeted.issued id (Nat.le_of_not_lt unissued)).1) (by simp)
    · cases stored.symm.trans (budgeted.claimed other id claim).2.1
  · cases found

theorem emplace_budgeted (admitted : sys.phaseOf thread = .admitted id)
    {allocated : Bool} : Budgeted config (sys.emplace thread id allocated) := by
  obtain ⟨issued, _, unused⟩ := budgeted.claimed thread id (.admitted admitted)
  have pos : 0 < sys.batchSize := budgeted.size ▸ config.someLaunch
  unfold emplace
  split
  · refine begin_launch_budgeted budgeted (by simp [admitted]) (by dsimp only; omega) issued fun other claim => ?_
    exact ⟨budgeted.apart other thread id claim (.admitted admitted), admitted⟩
  · exact budget_moved budgeted rfl rfl (preserves_refl budgeted.invariant) (same_batches _) (by simp [admitted]) rfl rfl

omit budgeted in
theorem end_task_spec {g : LaunchGate} (inv : Invariant g.scheduler) (id : TaskId) (completes : Bool)
    (now : TimePoint) (clock : Nat → TimePoint) :
    Preserves g.scheduler (endTask g id completes now clock).scheduler (some id) ∧
      (endTask g id completes now clock).waiting = g.waiting := by
  unfold endTask
  split
  · exact finish_locked_spec inv clock .complete now
  · exact gate_fail_spec inv clock id now

theorem thread_budgeted (aside : sys.phaseOf thread ≠ .waiting ∧ phase ≠ .waiting ∧ ∀ id, phase ≠ .admitted id)
    (size : next.batchSize = sys.batchSize)
    (log : next.admissions = sys.admissions) (phases : next.phases = (sys.move thread phase).phases)
    (gate : next.gate = sys.gate) (batches : next.batches = sys.batches) : Budgeted config next :=
  budget_moved budgeted size log (by rw [gate]; exact preserves_refl budgeted.invariant)
    (by rw [batches]; exact same_batches _) aside phases (by rw [gate])

theorem launch_budgeted (launching : sys.phaseOf thread = .launching id)
    {succeeded : Bool} : Budgeted config (sys.launch thread id succeeded) := by
  unfold launch
  split <;> exact thread_budgeted budgeted (by simp [launching]) rfl rfl rfl rfl rfl

theorem drop_failed_budgeted (failed : sys.phaseOf thread = .failed id) :
    Budgeted config (sys.dropFailed thread id) := by
  unfold dropFailed
  split <;> exact budget_moved budgeted rfl rfl (preserves_refl budgeted.invariant) (erased_batches _ id)
    (by simp [failed]) rfl rfl

end

theorem after_fail_phase (id : TaskId) (rejected : Bool) :
    afterFail id rejected ≠ .waiting ∧ ∀ other, afterFail id rejected ≠ .admitted other := by
  cases rejected <;> simp [afterFail]

variable (budgeted : Budgeted config sys)
include budgeted

theorem fail_tracker_budgeted {rejected : Bool}
    (failing : sys.phaseOf thread = .failing id rejected) : Budgeted config (sys.failTracker thread id rejected) := by
  unfold failTracker
  split
  · exact thread_budgeted budgeted (by simp [failing]) rfl rfl rfl rfl rfl
  · exact thread_budgeted budgeted ⟨by simp [failing], after_fail_phase id rejected⟩ rfl rfl rfl rfl rfl

theorem drop_rejected_budgeted (dropping : sys.phaseOf thread = .dropping id) :
    Budgeted config (sys.dropRejected thread id) := by
  unfold dropRejected
  split
  · exact budget_moved budgeted rfl rfl (preserves_refl budgeted.invariant) (erased_batches _ id)
      (by simp [dropping]) rfl rfl
  · exact thread_budgeted budgeted (by simp [dropping]) rfl rfl rfl rfl rfl

theorem track_budgeted {kernel : KernelId}
    (launched : sys.phaseOf thread = .launched id kernel) : Budgeted config (sys.track thread id kernel) := by
  unfold track
  split <;> exact thread_budgeted budgeted (by simp [launched]) rfl rfl rfl rfl rfl

theorem finish_budgeted (tracked : sys.phaseOf thread = .tracked id) : Budgeted config (sys.finish thread id) := by
  have left : ∀ {next : LaunchSystem}, next.batchSize = sys.batchSize → next.admissions = sys.admissions →
      next.phases = (sys.move thread .idle).phases → _ := thread_budgeted budgeted (by simp [tracked])
  unfold finish
  split
  · next marker batch _ stored =>
    split
    · exact left rfl rfl rfl rfl rfl
    split
    · exact left rfl rfl rfl rfl rfl
    dsimp only
    split
    · exact budget_moved budgeted rfl rfl (preserves_refl budgeted.invariant) (erased_batches _ id)
        (by simp [tracked]) rfl rfl
    refine budget_moved budgeted rfl rfl (preserves_refl budgeted.invariant) (fun other found present => ?_)
      (by simp [tracked]) rfl rfl
    simp only [lookup_insert_cases] at present
    split at present
    · next here =>
      cases present
      exact ⟨batch, here ▸ stored, rfl⟩
    · exact ⟨found, present, rfl⟩
  · split <;> exact left rfl rfl rfl rfl rfl
  · exact left rfl rfl rfl rfl rfl

theorem close_budgeted (closing : sys.phaseOf thread = .closing id) : Budgeted config (sys.close thread id) := by
  unfold close
  split <;> exact thread_budgeted budgeted (by simp [closing]) rfl rfl rfl rfl rfl

theorem monitored_budgeted (size : next.batchSize = sys.batchSize)
    (log : next.admissions = sys.admissions) (phases : next.phases = sys.phases) (batches : next.batches = sys.batches)
    (gate : Preserves sys.gate.scheduler next.gate.scheduler ended) (waiting : next.gate.waiting = sys.gate.waiting) :
    Budgeted config next := by
  have phaseOf : ∀ thread, next.phaseOf thread = sys.phaseOf thread := by
    intro thread
    rw [phaseOf, phases]
    rfl
  refine budget_kept budgeted size log gate (by rw [batches]; exact same_batches _)
    (fun thread => ?_) fun thread id claim => ?_
  · rw [waiting, phaseOf]
    exact budgeted.waits thread
  · cases claim with
    | admitted held => exact .admitted (phaseOf thread ▸ held)
    | waiting waiter listed mine => exact .waiting waiter (waiting ▸ listed) mine

theorem monitor_step_budgeted {step : LaunchStep} : Budgeted config (sys.monitorStep step) := by
  have aside : ∀ monitor tracker kernels,
      Budgeted config { sys with monitor := monitor, tracker := tracker, kernels := kernels } :=
        fun monitor tracker kernels =>
    monitored_budgeted budgeted rfl rfl rfl rfl (preserves_refl budgeted.invariant) rfl
  unfold monitorStep
  split
  · split
    · exact aside _ _ sys.kernels
    · exact budgeted
  · split
    · split <;> exact aside _ sys.tracker sys.kernels
    · exact budgeted
  · split
    · split <;> exact aside _ sys.tracker sys.kernels
    · exact budgeted
  · split
    · split <;> exact aside _ _ sys.kernels
    · exact budgeted
  · next now clock =>
    split
    · next candidate _ =>
      obtain ⟨preserves, waiting⟩ := gate_fail_spec budgeted.invariant clock candidate.taskId now
      exact monitored_budgeted budgeted rfl rfl rfl rfl preserves waiting
    · exact budgeted
  · split
    · split
      · exact aside _ sys.tracker _
      · exact aside _ sys.tracker sys.kernels
    · exact budgeted
  · split
    · split <;> exact aside _ _ sys.kernels
    · exact budgeted
  · next now clock =>
    split
    · next id completes _ =>
      obtain ⟨preserves, waiting⟩ := end_task_spec budgeted.invariant id completes now clock
      exact monitored_budgeted budgeted rfl rfl rfl rfl preserves waiting
    · exact budgeted
  · exact budgeted

end Steps

theorem step_budgeted (budgeted : Budgeted config sys) (step : LaunchStep) : Budgeted config (sys.step step) := by
  cases step <;> simp only [step] <;> try (split <;> try exact budgeted)
  · next idle => exact enter_budgeted budgeted idle
  · next requesting => exact acquire_budgeted budgeted requesting
  · next waiting => exact wake_budgeted budgeted waiting
  · next admitted => exact emplace_budgeted budgeted admitted
  · next launching => exact launch_budgeted budgeted launching
  · next failed => exact drop_failed_budgeted budgeted failed
  · next failing => exact fail_tracker_budgeted budgeted failing
  · next thread now clock _ id rejected failing =>
    obtain ⟨preserves, waiting⟩ := gate_fail_spec budgeted.invariant clock id now
    exact budget_moved budgeted rfl rfl preserves (same_batches _)
      ⟨by simp [failing], after_fail_phase id rejected⟩ rfl waiting
  · next dropping => exact drop_rejected_budgeted budgeted dropping
  · next launched => exact track_budgeted budgeted launched
  · next tracked => exact finish_budgeted budgeted tracked
  · next closing => exact close_budgeted budgeted closing
  · next thread now clock _ id completes closing =>
    obtain ⟨preserves, waiting⟩ := end_task_spec budgeted.invariant id completes now clock
    exact budget_moved budgeted rfl rfl preserves (same_batches _) (by simp [closing]) rfl waiting
  all_goals exact monitor_step_budgeted budgeted

theorem run_budgeted (budgeted : Budgeted config sys) (steps : List LaunchStep) : Budgeted config (sys.run steps) := by
  induction steps generalizing sys with
  | nil => exact budgeted
  | cons step rest ih => exact ih (step_budgeted budgeted step)

theorem new_budgeted (config : LaunchConfig) : Budgeted config (LaunchSystem.new config) := by
  refine ⟨new_invariant _ _, max_eq_left config.someSlot, rfl, ?_, ?_, ?_, ?_, ?_, ?_⟩
  · intro thread
    simp [LaunchSystem.new, LaunchGate.new, LaunchSystem.phaseOf]
  · intro id _
    exact ⟨rfl, rfl⟩
  · rintro thread id (held | ⟨waiter, listed, _⟩)
    · cases held
    · cases listed
  · rintro first second id (held | ⟨waiter, listed, _⟩)
    · cases held
    · cases listed
  · intro id batch found
    cases found
  · intro _
    exact Nat.zero_le _

end Glimmer.Interceptor
