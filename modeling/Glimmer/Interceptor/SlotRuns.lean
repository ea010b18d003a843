import Glimmer.Interceptor.SlotMonitor

namespace Glimmer.Interceptor

open Lib Glimmer.Core Control Scheduler LaunchSystem

section Admission
variable {sys : LaunchSystem} {thread : ThreadId} {id : TaskId}

theorem granted_valid {c : Card} (valid : c.Valid) (free : ¬ c.Held) : (c.shift none (some .admitted)).Valid := by
  have unbatched : c.batch = none := by
    by_contra batch
    exact free ⟨.inl batch⟩
  have bare : c.entry = none := by
    by_contra entry
    exact free ⟨.inr (.inl entry)⟩
  have alone : c.holders = 0 := Nat.eq_zero_of_not_pos fun holders => free ⟨.inr (.inr holders)⟩
  simp only [Card.holders] at alone
  refine ⟨valid.noStray, valid.counted, ?_, fun _ => unbatched, valid.failedClosed, ?_, valid.entered, fun _ => bare,
    valid.listedEntry⟩
  · simp [Card.shift, Card.holders]
    omega
  · intro entry stored
    cases stored.symm.trans bare

variable {gate : LaunchGate} {clock : Nat → TimePoint}

section
variable (covered : Covered sys) (preserves : Preserves sys.gate.scheduler gate.scheduler none)
  (distinct : ∀ other waiter, other ≠ thread → sys.gate.waiting.lookup other = some waiter → waiter.taskId ≠ id)
include covered preserves distinct

theorem gate_move_covered {phase : LaunchPhase}
    (unlaunched : ∀ id kernel, sys.phaseOf thread ≠ .launched id kernel ∧ phase ≠ .launched id kernel)
    (calls : ∀ id role, phase.seat = some (role, id) → role ≠ .early ∧ role ≠ .settled)
    (others : ∀ other, other ≠ thread → gate.waiting.lookup other = sys.gate.waiting.lookup other)
    (cards : ∀ other, other ≠ id → (sys.move thread phase).card other = sys.card other)
    (valid : ((sys.move thread phase).card id).Valid) (held : ((sys.move thread phase).card id).Held → gate.Running id)
    (joined : ∀ waiter, gate.waiting.lookup thread = some waiter → waiter.taskId = id ∧
      ¬ ((sys.move thread phase).card id).Held) : Covered { sys.move thread phase with gate := gate } := by
  refine ⟨fun other => ?_, fun other holds => ?_,
    marked_moved covered phase sys.markers (fun _ _ => rfl) fun task role seat call => ?_,
    fun other waiter listed => ?_, { traced_moved covered.traced thread phase unlaunched with }⟩
  · by_cases here : other = id
    · exact here ▸ valid
    · exact (cards other here) ▸ covered.valid other
  · by_cases here : other = id
    · subst here
      exact held holds
    · change ((sys.move thread phase).card other).Held at holds
      rw [cards other here] at holds
      exact preserves.running other (covered.held other holds) (by simp)
  · rcases call with early | settled
    · exact absurd early (calls task role seat).1
    · exact absurd settled (calls task role seat).2
  · change ¬ ((sys.move thread phase).card waiter.taskId).Held
    by_cases here : other = thread
    · subst here
      obtain ⟨same, unheld⟩ := joined waiter listed
      rw [same]
      exact unheld
    · have before := (others other here).symm.trans listed
      rw [cards _ (distinct other waiter here before)]
      exact covered.unclaimed other waiter before

theorem answer_covered (seat : (sys.phaseOf thread).seat = none)
    (unlaunched : ∀ id kernel, sys.phaseOf thread ≠ .launched id kernel) {result : AcquireResult}
    (admitted : Admitted sys.gate gate thread id result) (free : ¬ (sys.card id).Held) :
    Covered (sys.takeAnswer thread (result, gate)) := by
  have unseated : ∀ phase : LaunchPhase, phase.seat = none → ∀ other,
    (sys.move thread phase).card other = sys.card other := by
    intro phase outside other
    rw [card_move, unseated_role seat, unseated_role outside, Card.shift_none]
  cases admitted with
  | granted running others left =>
    have card : (sys.move thread (.admitted id)).card id = (sys.card id).shift none (some .admitted) := by
      rw [card_move, unseated_role seat, seated_role rfl, if_pos rfl]
    refine gate_move_covered covered preserves distinct (by simpa using unlaunched) ?_ others (fun other here => ?_) ?_
      (fun _ => running) (fun waiter listed => by rw [left] at listed; cases listed)
    · rintro _ _ ⟨_, _⟩
      exact ⟨by simp, by simp⟩
    · rw [card_move, unseated_role seat, seated_role rfl, if_neg here, Card.shift_none]
    · rw [card]
      exact granted_valid (covered.valid id) free
  | waiting others joined =>
    obtain ⟨waiter, listed, same⟩ := Option.map_eq_some_iff.mp joined
    have card := unseated .waiting rfl
    refine gate_move_covered covered preserves distinct (by simpa using unlaunched) nofun others
      (fun other _ => card other) ((card id).symm ▸ covered.valid id) (fun held => absurd (card id ▸ held) free)
      (fun other again => ?_)
    rw [listed] at again
    cases again
    exact ⟨same, card id ▸ free⟩
  | refused others left | expired others left =>
    have card := unseated .idle rfl
    exact gate_move_covered covered preserves distinct (by simpa using unlaunched) nofun others
      (fun other _ => card other) ((card id).symm ▸ covered.valid id) (fun held => absurd (card id ▸ held) free)
      (fun waiter listed => by rw [left] at listed; cases listed)

end

variable {config : LaunchConfig} (budgeted : Budgeted config sys) (covered : Covered sys)
include budgeted covered

theorem acquire_covered (requesting : sys.phaseOf thread = .requesting) {now : TimePoint} :
    Covered (sys.takeAnswer thread (sys.gate.acquire thread false now clock)) := by
  have outside : sys.gate.waiting.lookup thread = none := by
    have waits := budgeted.waits thread
    rw [requesting] at waits
    simpa using waits
  obtain ⟨preserves, _, admitted⟩ := acquire_spec budgeted.invariant clock false now outside
  refine answer_covered covered preserves ?_ (by rw [requesting]; rfl) (by simp [requesting]) admitted ?_
  · intro other waiter _ listed same
    exact Nat.lt_irrefl _ (budgeted.claimed other _ (.waiting waiter listed same)).1
  · intro held
    obtain ⟨task, found, _⟩ := (budgeted.invariant.coherent.runningExact _).mp (covered.held _ held)
    exact Nat.lt_irrefl _ (budgeted.invariant.coherent.issued _ task found).2

theorem wake_covered (waiting : sys.phaseOf thread = .waiting) :
    Covered (sys.takeAnswer thread (sys.gate.wake thread false clock)) := by
  obtain ⟨waiter, waits⟩ := Option.isSome_iff_exists.mp ((budgeted.waits thread).mpr waiting)
  obtain ⟨preserves, admitted⟩ := wake_spec budgeted.invariant clock false waits
  refine answer_covered covered preserves ?_ (by rw [waiting]; rfl) (by simp [waiting]) admitted
    (covered.unclaimed thread waiter waits)
  intro other record here listed same
  exact here (budgeted.apart other thread _ (.waiting record listed same) (.waiting waiter waits rfl))

end Admission

def LaunchSystem.FailsShared (sys : LaunchSystem) : LaunchStep → Prop
  | .dropFailed thread => ∃ id batch, sys.phaseOf thread = .failed id ∧ sys.batches.lookup id = some batch ∧
      batch.activeCalls ≠ 1
  | _ => False

variable {config : LaunchConfig} {sys : LaunchSystem}

theorem step_covered (budgeted : Budgeted config sys) (covered : Covered sys)
    {step : LaunchStep} (alone : ¬ sys.FailsShared step) : Covered (sys.step step) := by
  have inv := budgeted.invariant
  cases step <;> simp only [step] <;> try (split <;> try exact covered)
  · next idle => exact enter_covered covered idle
  · next requesting => exact acquire_covered budgeted covered requesting
  · next waiting => exact wake_covered budgeted covered waiting
  · next admitted => exact emplace_covered covered admitted
  · next launching => exact launch_covered covered launching
  · next failed =>
    refine drop_failed_covered covered failed fun batch found => ?_
    by_contra shared
    exact alone ⟨_, batch, failed, found, shared⟩
  · next failing => exact fail_tracker_covered covered failing
  · next failing => exact fail_gate_covered covered inv failing
  · next dropping => exact absurd (by rw [dropping]; rfl) (stray_free covered _ _)
  · next launched => exact track_covered covered launched
  · next tracked => exact finish_covered covered tracked
  · next closing => exact close_covered covered closing
  · next closing =>
    obtain ⟨preserves, waiting⟩ := end_task_spec inv _ _ _ _
    exact ending_covered covered (by rw [closing]; rfl) (by simp [closing]) preserves waiting
  all_goals exact monitor_step_covered covered inv

def LaunchSystem.NeverFailsShared : LaunchSystem → List LaunchStep → Prop
  | _, [] => True
  | sys, step :: rest => ¬ sys.FailsShared step ∧ NeverFailsShared (sys.step step) rest

theorem run_covered (budgeted : Budgeted config sys) (covered : Covered sys)
    {steps : List LaunchStep} (alone : sys.NeverFailsShared steps) : Covered (sys.run steps) := by
  induction steps generalizing sys with
  | nil => exact covered
  | cons step rest ih => exact ih (step_budgeted budgeted step) (step_covered budgeted covered alone.1) alone.2

theorem new_covered (config : LaunchConfig) : Covered (LaunchSystem.new config) := by
  have blank : ∀ id, (LaunchSystem.new config).card id = ⟨none, none, false, fun _ => 0, 0⟩ := fun _ => rfl
  refine ⟨fun id => ?_, fun id held => ?_, fun thread id role seat => ?_, fun thread waiter listed => ?_, ?_⟩
  · rw [blank]
    constructor <;> simp [Card.calls, Card.holders]
  · rw [blank] at held
    obtain ⟨batch | entry | holders⟩ := held
    · exact absurd rfl batch
    · exact absurd rfl entry
    · exact absurd holders (Nat.lt_irrefl 0)
  · cases seat
  · cases listed
  · constructor <;> simp [LaunchSystem.new, LaunchSystem.phaseOf, MonitorPhase.candidate]

theorem admitted_under_seat {phase : LaunchPhase} : phase.admittedUnder = phase.seat.map Prod.snd := by
  cases phase with
  | failing id rejected | failingGate id rejected => cases rejected <;> rfl
  | _ => rfl

theorem in_flight_held (covered : Covered sys) {id : TaskId} (flying : sys.InFlight id) : (sys.card id).Held := by
  have seated : ∀ thread, (sys.phaseOf thread).admittedUnder = some id → (sys.card id).Held := by
    intro thread inside
    rw [admitted_under_seat, Option.map_eq_some_iff] at inside
    obtain ⟨⟨role, _⟩, seat, rfl⟩ := inside
    exact seat_held covered seat
  rcases flying with ⟨thread, inside⟩ | ⟨kernel, unseen⟩
  · exact seated thread inside
  · rcases covered.traced.kernels kernel id unseen with ⟨thread, launched⟩ | ⟨launch, pending, _, same⟩
    · exact seated thread (by rw [launched]; rfl)
    · refine ⟨.inr (.inl ((covered.valid id).listedEntry ?_))⟩
      exact List.any_eq_true.mpr ⟨launch, pending, by simp [same]⟩

theorem launch_slots_cover (config : LaunchConfig) (steps : List LaunchStep) :
    let sys := (LaunchSystem.new config).run steps
    (∀ id, sys.admissions.count id ≤ config.batchSize) ∧
      ((LaunchSystem.new config).NeverFailsShared steps →
        (∀ id, sys.InFlight id → sys.gate.scheduler.taskState id = some .running) ∧
        ∀ ids : List TaskId, ids.Nodup → (∀ id ∈ ids, sys.InFlight id) →
        ids.length ≤ config.gate.maxConcurrentLaunches) := by
  intro sys
  have budgeted : Budgeted config sys := run_budgeted (new_budgeted config) steps
  refine ⟨fun id => ?_, fun alone => ?_⟩
  · exact budgeted.size ▸ budgeted.bound id
  · have covered : Covered sys := run_covered (new_budgeted config) (new_covered config) alone
    have running : ∀ id, sys.InFlight id → id ∈ sys.gate.scheduler.runningTaskIds := fun id flying =>
      covered.held id (in_flight_held covered flying)
    refine ⟨fun id flying => (running_state budgeted.invariant.coherent id).mpr (running id flying),
      fun ids distinct flying => ?_⟩
    calc ids.length ≤ sys.gate.scheduler.runningTaskIds.length :=
          (List.subperm_of_subset distinct fun id mem => running id (flying id mem)).length_le
      _ ≤ sys.gate.scheduler.maxRunningTasks := budgeted.invariant.coherent.runningBound
      _ = config.gate.maxConcurrentLaunches := budgeted.capacity

def pairConfig : LaunchConfig := ⟨{}, 2, Nat.one_pos, Nat.two_pos⟩

def pairSteps : List LaunchStep :=
  [.enter 1 [], .acquire 1 0 fun _ => 0, .emplace 1 true, .enter 2 [], .launch 1 true, .launch 2 true, .track 1]

theorem launch_slots_cover_pair : let sys := (LaunchSystem.new pairConfig).run pairSteps
    sys.phaseOf 2 = .launched 1 1 ∧ sys.gate.scheduler.taskState 1 = some .running := by
  have second : ((LaunchSystem.new pairConfig).run pairSteps).phaseOf 2 = .launched 1 1 := by decide +kernel
  have alone : (LaunchSystem.new pairConfig).NeverFailsShared pairSteps :=
    ⟨id, id, id, id, id, id, id, trivial⟩
  exact ⟨second, ((launch_slots_cover pairConfig pairSteps).2 alone).1 1 (.inl ⟨2, by rw [second]; rfl⟩)⟩

-- The first call fails while the second is in the driver: the task ends under
-- it, and the freed slot goes to a third call.
def sharedFailureSteps : List LaunchStep :=
  [.enter 1 [], .acquire 1 0 fun _ => 0, .emplace 1 true, .enter 2 [], .launch 1 false, .dropFailed 1, .failTracker 1,
    .failGate 1 0 fun _ => 0, .enter 3 [], .acquire 3 0 fun _ => 0, .emplace 3 true]

theorem shared_failure_uncovers_launch : let sys := (LaunchSystem.new pairConfig).run sharedFailureSteps
    sys.InFlight 1 ∧ sys.gate.scheduler.taskState 1 ≠ some .running ∧
      sys.InFlight 2 ∧ pairConfig.gate.maxConcurrentLaunches = 1 := by
  have second : ((LaunchSystem.new pairConfig).run sharedFailureSteps).phaseOf 2 = .launching 1 := by decide +kernel
  have third : ((LaunchSystem.new pairConfig).run sharedFailureSteps).phaseOf 3 = .launching 2 := by decide +kernel
  exact ⟨.inl ⟨2, by rw [second]; rfl⟩, by decide +kernel, .inl ⟨3, by rw [third]; rfl⟩, rfl⟩

end Glimmer.Interceptor
