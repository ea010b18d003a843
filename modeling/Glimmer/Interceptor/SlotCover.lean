import Glimmer.Interceptor.SlotBudget

namespace Glimmer.Interceptor

open Lib Glimmer.Core Control Scheduler LaunchSystem Card KeyedMap

def MonitorPhase.candidate : MonitorPhase → Option PendingLaunch
  | .picked candidate | .beating candidate | .querying candidate | .observed candidate => some candidate
  | _ => none

def Marked (phase : LaunchPhase) (marker : Option ThreadLaunchBatch) : Prop :=
  ∀ id role, phase.seat = some (role, id) → role = .early ∨ role = .settled →
    marker.map ThreadLaunchBatch.taskId = some id

-- A kernel that no event has shown complete belongs to a call that is about to
-- register its event, or to a registered one.
structure Traced (sys : LaunchSystem) : Prop where
  kernels : ∀ kernel id, sys.kernels.lookup kernel = some id → (∃ thread, sys.phaseOf thread = .launched id kernel) ∨
    ∃ launch ∈ sys.tracker.pending, launch.event = kernel ∧ launch.taskId = id
  launched : ∀ thread id kernel, sys.phaseOf thread = .launched id kernel → kernel < sys.nextKernel
  events : ∀ launch ∈ sys.tracker.pending, launch.event < sys.nextKernel
  sequences : (sys.tracker.pending.map PendingLaunch.sequence).Nodup
  numbered : ∀ launch ∈ sys.tracker.pending, launch.sequence < sys.tracker.nextSequence
  lost : ∀ launch ∈ sys.tracker.pending, launch.leaseLost = true →
    ∃ entry, sys.tracker.batches.lookup launch.taskId = some entry ∧ entry.closed = true
  candidate : ∀ candidate, sys.monitor.candidate = some candidate → ∃ launch ∈ sys.tracker.pending,
    launch.taskId = candidate.taskId ∧ launch.sequence = candidate.sequence ∧ launch.event = candidate.event ∧
      (candidate.leaseLost = true → launch.leaseLost = true)
  observed : ∀ candidate, sys.monitor = .observed candidate → sys.kernels.lookup candidate.event = none
  calm : ∀ candidate, sys.monitor ≠ .failing candidate ∧ sys.monitor ≠ .failingGate candidate

structure Covered (sys : LaunchSystem) : Prop where
  valid : ∀ id, (sys.card id).Valid
  held : ∀ id, (sys.card id).Held → sys.gate.Running id
  marked : ∀ thread, Marked (sys.phaseOf thread) (sys.markers.lookup thread)
  unclaimed : ∀ thread waiter, sys.gate.waiting.lookup thread = some waiter → ¬ (sys.card waiter.taskId).Held
  traced : Traced sys

variable {sys next : LaunchSystem} {thread : ThreadId} {id : TaskId} {phase : LaunchPhase} {role : Role}

-- A section that works on one held task. It may end that task at the gate, but only if nothing holds it afterwards.
theorem covered_step (covered : Covered sys)
    (running : ∀ other, other ≠ id ∨ (next.card id).Held → sys.gate.Running other → next.gate.Running other)
    (waiting : next.gate.waiting = sys.gate.waiting) (others : ∀ other, other ≠ id → next.card other = sys.card other)
    (was : (sys.card id).Held) (valid : (next.card id).Valid)
    (marked : ∀ other, Marked (next.phaseOf other) (next.markers.lookup other)) (traced : Traced next) :
    Covered next := by
  refine ⟨fun other => ?_, fun other held => ?_, marked, fun thread waiter waits => ?_, traced⟩
  · by_cases here : other = id
    · exact here ▸ valid
    · rw [others other here]
      exact covered.valid other
  · by_cases here : other = id
    · subst here
      exact running other (.inr held) (covered.held other was)
    · rw [others other here] at held
      exact running other (.inl here) (covered.held other held)
  · rw [waiting] at waits
    have free := covered.unclaimed thread waiter waits
    rw [others waiter.taskId (fun same => free (same ▸ was))]
    exact free

theorem seated_role (seat : phase.seat = some (role, id)) (other : TaskId) :
    phase.roleOn other = if other = id then some role else none := by
  unfold LaunchPhase.roleOn
  rw [seat]
  by_cases here : other = id
  · simp [here]
  · simp [here, Ne.symm here]

variable {other : TaskId} {pending : List PendingLaunch} {launch : PendingLaunch} {rejected : Bool} {kernel : KernelId}

theorem unseated_role (seat : phase.seat = none) : phase.roleOn other = none := by
  simp [LaunchPhase.roleOn, seat]

theorem marked_moved (covered : Covered sys) (phase : LaunchPhase) (markers : KeyedMap ThreadId ThreadLaunchBatch)
    (kept : ∀ other, other ≠ thread → markers.lookup other = sys.markers.lookup other)
    (marked : Marked phase (markers.lookup thread)) (other : ThreadId) :
    Marked ((sys.move thread phase).phaseOf other) (markers.lookup other) := by
  rw [phase_of_move]
  by_cases here : other = thread
  · subst here
    rw [if_pos rfl]
    exact marked
  · rw [if_neg here, kept other here]
    exact covered.marked other

theorem traced_moved (traced : Traced sys) (thread : ThreadId) (phase : LaunchPhase)
    (unlaunched : ∀ id kernel, sys.phaseOf thread ≠ .launched id kernel ∧ phase ≠ .launched id kernel) :
    Traced (sys.move thread phase) := by
  obtain ⟨kernels, launched, events, sequences, numbered, lost, candidate, observed, calm⟩ := traced
  refine ⟨fun kernel id running => (kernels kernel id running).imp_left ?_, ?_, events, sequences, numbered, lost,
    candidate, observed, calm⟩
  · rintro ⟨other, holds⟩
    have ne : other ≠ thread := fun same => (unlaunched id kernel).1 (same ▸ holds)
    exact ⟨other, by rw [phase_of_move, if_neg ne, holds]⟩
  · intro other id kernel moved
    rw [phase_of_move] at moved
    split at moved
    · exact absurd moved (unlaunched id kernel).2
    · exact launched other id kernel moved

section
variable (seat : (sys.phaseOf thread).seat = some (role, id))
include seat

theorem card_moved_here : (sys.move thread phase).card id = (sys.card id).shift (some role) (phase.roleOn id) := by
  rw [card_move, seated_role seat, if_pos rfl]

theorem card_moved_other (here : other ≠ id)
    (after : phase.roleOn other = none) : (sys.move thread phase).card other = sys.card other := by
  rw [card_move, seated_role seat, if_neg here, after, shift_none]

theorem seat_counted : 0 < (sys.card id).seats role :=
  seat_taken sys (by rw [seated_role seat, if_pos rfl])

end

section
variable (covered : Covered sys)
include covered

theorem stray_free (thread : ThreadId) (id : TaskId) : (sys.phaseOf thread).seat ≠ some (.stray, id) := by
  intro seat
  have counted := seat_counted seat
  rw [(covered.valid id).noStray] at counted
  exact absurd counted (Nat.lt_irrefl 0)

theorem covered_same (gate : next.gate = sys.gate) (cards : ∀ id, next.card id = sys.card id)
    (marked : ∀ other, Marked (next.phaseOf other) (next.markers.lookup other)) (traced : Traced next) :
    Covered next := by
  refine ⟨fun id => cards id ▸ covered.valid id, fun id held => ?_, marked, fun thread waiter waits => ?_, traced⟩
  · rw [cards] at held
    rw [gate]
    exact covered.held id held
  · rw [gate] at waits
    rw [cards]
    exact covered.unclaimed thread waiter waits

theorem begin_launch_covered (unlaunched : ∀ id kernel, sys.phaseOf thread ≠ .launched id kernel)
    (elsewhere : ∀ other, other ≠ id → (sys.phaseOf thread).roleOn other = none) (batch : LaunchBatchState) (final : Bool)
    (step : CallStep (sys.card id)
      { (sys.card id).shift ((sys.phaseOf thread).roleOn id) (some .early) with batch := some batch }) :
    Covered (sys.beginLaunch thread id batch final) := by
  have moved := sys.card_move thread (.launching id)
  have enters := seated_role (show LaunchPhase.seat (.launching id) = some (.early, id) from rfl)
  have cards : ∀ other, (sys.beginLaunch thread id batch final).card other =
      { (sys.move thread (.launching id)).card other with batch := (sys.batches.insert id batch).lookup other } :=
    fun _ => rfl
  refine covered_step covered (fun _ _ runs => runs) rfl (fun other here => ?_) (call_step_was_held step) ?_ ?_ ?_
  · rw [cards, moved, lookup_insert_cases, if_neg here, elsewhere other here, enters, if_neg here, shift_none]
    rfl
  · rw [cards, moved, lookup_insert_cases, if_pos rfl, enters, if_pos rfl]
    exact call_step_valid step (covered.valid id)
  · refine marked_moved covered (.launching id) (sys.markers.insert thread ⟨id, final⟩) (fun other here => ?_) ?_
    · rw [lookup_insert_cases, if_neg here]
    · rintro _ _ ⟨_, _⟩ _
      simp
  · have traced := traced_moved covered.traced thread (.launching id) (by simpa using unlaunched)
    exact { traced with }

theorem enter_covered (idle : sys.phaseOf thread = .idle) {order : List TaskId} : Covered (sys.enter thread order) := by
  have request : Covered (sys.move thread .requesting) := by
    refine covered_same covered rfl (fun id => ?_) ?_ (traced_moved covered.traced thread _ (by simp [idle]))
    · rw [card_move, idle]
      exact shift_none
    · exact marked_moved covered .requesting sys.markers (fun _ _ => rfl) nofun
  unfold enter
  split
  · exact request
  next id batch chosen =>
  have found : sys.batches.lookup id = some batch := by
    split at chosen
    · exact (open_batch_found chosen).1
    · cases chosen
  have outside := fun other => role_on_idle other
  refine begin_launch_covered covered (by simp [idle]) (fun other _ => by rw [idle, outside]) _ _ ?_
  rw [idle, outside]
  exact .joined batch _ found rfl

theorem emplace_covered (admitted : sys.phaseOf thread = .admitted id) {allocated : Bool} :
    Covered (sys.emplace thread id allocated) := by
  have seat : (sys.phaseOf thread).seat = some (.admitted, id) := by rw [admitted]; rfl
  have sits := seat_counted seat
  unfold emplace
  split
  · refine begin_launch_covered covered (by simp [admitted])
      (fun other here => by rw [seated_role seat, if_neg here]) _ _ ?_
    rw [seated_role seat, if_pos rfl]
    exact .emplaced sits _ rfl
  · have step : CallStep (sys.card id) ((sys.move thread (.failingGate id false)).card id) := by
      rw [card_moved_here seat, seated_role rfl, if_pos rfl]
      exact .refused sits
    refine covered_step covered (fun _ _ runs => runs) rfl (fun other here => ?_)
      (call_step_was_held step) (call_step_valid step (covered.valid id)) ?_
      (traced_moved covered.traced thread _ (by simp [admitted]))
    · exact card_moved_other seat here (by rw [seated_role rfl, if_neg here])
    · refine marked_moved covered _ sys.markers (fun _ _ => rfl) ?_
      rintro _ _ ⟨_, _⟩ (role | role) <;> cases role

theorem seat_held (seat : (sys.phaseOf thread).seat = some (role, id)) : (sys.card id).Held := by
  have sits := seat_counted seat
  have valid := covered.valid id
  have holding : 0 < (sys.card id).holders → (sys.card id).Held := fun holders => ⟨.inr (.inr holders)⟩
  have calling : 0 < (sys.card id).calls → (sys.card id).Held := fun calls =>
    ⟨.inl fun none => by
      obtain ⟨batch, found, _⟩ := call_batched valid calls
      simp [none] at found⟩
  cases role with
  | early | settled => exact calling (by simp only [calls]; omega)
  | stray => exact absurd seat (stray_free covered _ _)
  | _ => exact holding (by simp only [holders]; omega)

end

def movedCard (sys next : LaunchSystem) (id : TaskId) (before after : Option Role) : Card :=
  { (sys.card id).shift before after with
    batch := next.batches.lookup id
    entry := next.tracker.batches.lookup id
    listed := next.tracker.hasPending id }

structure Reseated (sys next : LaunchSystem) (thread : ThreadId) (id : TaskId) (role : Role) (phase : LaunchPhase)
    (after : Option Role) : Prop where
  lands : phase.seat = after.map (·, id)
  phases : next.phases = (sys.move thread phase).phases
  monitor : next.monitor = sys.monitor
  batches : ∀ other, other ≠ id → next.batches.lookup other = sys.batches.lookup other
  entries : ∀ other, other ≠ id → next.tracker.batches.lookup other = sys.tracker.batches.lookup other
  listed : ∀ other, other ≠ id → next.tracker.hasPending other = sys.tracker.hasPending other
  valid : (movedCard sys next id (some role) after).Valid
  traced : Traced next

section
variable (covered : Covered sys) (seat : (sys.phaseOf thread).seat = some (role, id)) (phase : LaunchPhase)
  (after : Option Role) (moved : Reseated sys next thread id role phase after)
  (running : ∀ other, other ≠ id ∨ (movedCard sys next id (some role) after).Held → sys.gate.Running other →
    next.gate.Running other) (waiting : next.gate.waiting = sys.gate.waiting)
include covered seat moved running waiting

theorem seat_step_covered
    (marked : ∀ other, Marked ((sys.move thread phase).phaseOf other) (next.markers.lookup other)) : Covered next := by
  obtain ⟨lands, phases, monitor, batches, entries, listed, valid, traced⟩ := moved
  have roles : ∀ other, phase.roleOn other = if other = id then after else none := by
    intro other
    cases after with
    | none => rw [unseated_role lands, ite_self]
    | some role => exact seated_role lands other
  have card : next.card id = movedCard sys next id (some role) after := by
    rw [movedCard, ← (roles id).trans (if_pos rfl), ← card_moved_here seat]
    simp only [LaunchSystem.card, LaunchSystem.seats, phases, monitor]
    rfl
  rw [← card] at valid running
  refine covered_step covered running waiting (fun other here => ?_) (seat_held covered seat) valid ?_ traced
  · rw [← card_moved_other seat here ((roles other).trans (if_neg here))]
    simp only [LaunchSystem.card, LaunchSystem.seats, phases, monitor, batches other here, entries other here,
      listed other here]
    rfl
  · intro other
    have same : next.phaseOf other = (sys.move thread phase).phaseOf other := by simp [LaunchSystem.phaseOf, phases]
    rw [same]
    exact marked other

theorem seat_left_covered (outside : after ≠ some .early ∧ after ≠ some .settled)
    (markers : ∀ other, other ≠ thread → next.markers.lookup other = sys.markers.lookup other) : Covered next := by
  refine seat_step_covered covered seat phase after moved running waiting
    (marked_moved covered phase _ markers (fun task role sits call => ?_))
  rw [moved.lands] at sits
  obtain ⟨_, here, same⟩ := Option.map_eq_some_iff.mp sits
  cases same
  rcases call with rfl | rfl
  · exact absurd here outside.1
  · exact absurd here outside.2

end

theorem drop_failed_covered (covered : Covered sys) (failed : sys.phaseOf thread = .failed id)
    (alone : ∀ batch, sys.batches.lookup id = some batch → batch.activeCalls = 1) :
    Covered (sys.dropFailed thread id) := by
  have seat : (sys.phaseOf thread).seat = some (.early, id) := by rw [failed]; rfl
  have sits := seat_counted seat
  obtain ⟨batch, found, _⟩ := call_batched (covered.valid id) (by simp only [calls]; omega)
  have marker := covered.marked thread id .early seat (.inl rfl)
  have marks : sys.marks thread id = true := by
    obtain ⟨stored, lookup, same⟩ := Option.map_eq_some_iff.mp marker
    simp [marks, lookup, same]
  have dropped : sys.dropFailed thread id =
      { sys.move thread (.failing id false) with
        batches := sys.batches.erase id
        markers := sys.markers.erase thread } := by
    simp only [dropFailed, marks, if_true]
    rfl
  rw [dropped]
  refine seat_left_covered covered seat (.failing id false)
    (some .failing) ⟨rfl, rfl, rfl, fun other here => by simp [here], fun _ _ => rfl, fun _ _ => rfl, ?_,
    { traced_moved covered.traced thread (.failing id false) (by simp [failed]) with }⟩
    (fun _ _ runs => runs) rfl (by simp) (fun other here => by simp [here])
  have step := call_step_valid (.dropped sits batch found (alone batch found)) (covered.valid id)
  simp only [movedCard, AList.lookup_erase]
  exact step

open LaunchCompletionTracker

theorem mem_lose_leases :
    launch ∈ loseLeases pending id ↔ ∃ old ∈ pending,
      launch = if old.taskId = id then { old with leaseLost := true } else old := by
  simp [loseLeases, List.mem_map, eq_comm]

theorem lose_leases_sequences {id : TaskId} :
    (loseLeases pending id).map PendingLaunch.sequence = pending.map PendingLaunch.sequence := by
  rw [loseLeases, List.map_map]
  refine List.map_congr_left fun launch _ => ?_
  simp only [Function.comp]
  split <;> rfl

theorem lose_leases_listed (pending : List PendingLaunch) (id other : TaskId) :
    (loseLeases pending id).any (fun launch => launch.taskId = other) =
      pending.any fun launch => launch.taskId = other := by
  rw [loseLeases, List.any_map]
  congr 1
  funext launch
  simp only [Function.comp]
  split <;> rfl

theorem lose_leases_traced (traced : Traced sys) (batches : KeyedMap TaskId BatchState) (entry : BatchState)
    (here : batches.lookup id = some entry) (closed : entry.closed = true)
    (others : ∀ other, other ≠ id → batches.lookup other = sys.tracker.batches.lookup other) :
    Traced { sys with
      tracker := { sys.tracker with batches := batches, pending := loseLeases sys.tracker.pending id } } := by
  have image : ∀ old ∈ sys.tracker.pending, ∃ launch ∈ loseLeases sys.tracker.pending id, launch.taskId = old.taskId ∧
      launch.sequence = old.sequence ∧ launch.event = old.event ∧ (old.leaseLost = true → launch.leaseLost = true) := by
    intro old mem
    refine ⟨_, mem_lose_leases.mpr ⟨old, mem, rfl⟩, ?_⟩
    split <;> simp
  obtain ⟨kernels, launched, events, sequences, numbered, lost, candidate, observed, calm⟩ := traced
  refine ⟨fun kernel id running => (kernels kernel id running).imp_right ?_, launched, ?_, ?_, ?_, ?_, ?_, observed, calm⟩
  · rintro ⟨old, mem, event, task⟩
    obtain ⟨launch, kept, sameTask, _, sameEvent, _⟩ := image old mem
    exact ⟨launch, kept, sameEvent.trans event, sameTask.trans task⟩
  · intro launch mem
    obtain ⟨old, known, same⟩ := mem_lose_leases.mp mem
    have bound := events old known
    rw [same]
    split <;> exact bound
  · rw [lose_leases_sequences]
    exact sequences
  · intro launch mem
    obtain ⟨old, known, same⟩ := mem_lose_leases.mp mem
    have bound := numbered old known
    rw [same]
    split <;> exact bound
  · intro launch mem gone
    obtain ⟨old, known, same⟩ := mem_lose_leases.mp mem
    by_cases mine : old.taskId = id
    · rw [if_pos mine] at same
      subst same
      exact ⟨entry, by rw [mine]; exact here, closed⟩
    · rw [if_neg mine] at same
      subst same
      obtain ⟨stored, found, shut⟩ := lost launch known gone
      exact ⟨stored, (others _ mine).trans found, shut⟩
  · intro picked watches
    obtain ⟨old, known, task, sequence, event, lease⟩ := candidate picked watches
    obtain ⟨launch, kept, sameTask, sameSequence, sameEvent, sameLease⟩ := image old known
    exact ⟨launch, kept, sameTask.trans task, sameSequence.trans sequence, sameEvent.trans event,
      fun gone => sameLease (lease gone)⟩

theorem unlisted_absent {t : LaunchCompletionTracker} (unlisted : t.hasPending id = false)
    (mem : launch ∈ t.pending) : launch.taskId ≠ id := by
  intro same
  have listed : t.hasPending id = true := List.any_eq_true.mpr ⟨launch, mem, by simp [same]⟩
  rw [unlisted] at listed
  cases listed

theorem entry_traced (traced : Traced sys) (id : TaskId) (batches : KeyedMap TaskId BatchState)
    (others : ∀ other, other ≠ id → batches.lookup other = sys.tracker.batches.lookup other)
    (mine : ∀ launch ∈ sys.tracker.pending, launch.taskId = id → launch.leaseLost = true →
      ∃ entry, batches.lookup id = some entry ∧ entry.closed = true) :
    Traced { sys with tracker := { sys.tracker with batches := batches } } := by
  refine { traced with lost := fun launch mem gone => ?_ }
  by_cases same : launch.taskId = id
  · rw [same]
    exact mine launch mem same gone
  · obtain ⟨entry, found, closed⟩ := traced.lost launch mem gone
    exact ⟨entry, (others _ same).trans found, closed⟩

theorem fail_tracker_covered (covered : Covered sys)
    (failing : sys.phaseOf thread = .failing id rejected) : Covered (sys.failTracker thread id rejected) := by
  have honest : rejected = false := by
    cases rejected with
    | false => rfl
    | true => exact absurd (by rw [failing]; rfl) (stray_free covered thread id)
  subst honest
  have seat : (sys.phaseOf thread).seat = some (.failing, id) := by rw [failing]; rfl
  have sits := seat_counted seat
  unfold failTracker LaunchCompletionTracker.fail
  by_cases listed : sys.tracker.hasPending id = true
  · simp only [listed, if_true]
    refine seat_left_covered covered seat .idle none ⟨rfl, rfl, rfl, fun _ _ => rfl, fun other here => by simp [here],
      fun other _ => lose_leases_listed _ _ _, ?_, ?_⟩ (fun _ _ runs => runs) rfl (by simp) (fun _ _ => rfl)
    · have step := tracker_step_valid (.lost sits listed) (covered.valid id)
      have same : (loseLeases sys.tracker.pending id).any (fun launch => launch.taskId = id) =
        sys.tracker.hasPending id :=
        lose_leases_listed _ _ _
      simp only [movedCard, AList.lookup_insert, hasPending, same]
      exact step
    · have traced := traced_moved covered.traced thread .idle (by simp [failing])
      exact lose_leases_traced traced _ { closed := true, failed := true } (by simp) rfl
        (fun other here => by simp [move, here])
  · have unlisted : sys.tracker.hasPending id = false := by simpa using listed
    simp only [unlisted, Bool.false_eq_true, if_false]
    refine seat_left_covered covered seat (.failingGate id false) (some .ending) ⟨rfl, rfl, rfl, fun _ _ => rfl,
      fun other here => by simp [here], fun _ _ => rfl, ?_, ?_⟩ (fun _ _ runs => runs) rfl (by simp) (fun _ _ => rfl)
    · have step := tracker_step_valid (.withdrawn sits unlisted) (covered.valid id)
      simp only [movedCard, AList.lookup_erase]
      exact step
    · have traced := traced_moved covered.traced thread (.failingGate id false) (by simp [failing])
      exact entry_traced traced id _ (fun other here => by simp [move, here])
        (fun launch mem same => absurd same (unlisted_absent unlisted mem))

theorem ending_released {c : Card} (valid : c.Valid) (sits : 0 < c.seats .ending) :
    (c.shift (some .ending) none).Valid ∧ ¬ (c.shift (some .ending) none).Held := by
  refine ⟨Card.call_step_valid (.left sits) valid, ?_⟩
  have sole := valid.sole
  have unbatched := valid.unbatched (by simp only [Card.holders]; omega)
  have bare := valid.ended (by omega)
  rintro ⟨batch | entry | holders⟩
  · exact batch unbatched
  · exact entry bare
  · simp [Card.shift, Card.holders] at holders sole
    omega

theorem ending_covered (covered : Covered sys) (seat : (sys.phaseOf thread).seat = some (.ending, id))
    (unlaunched : ∀ id kernel, sys.phaseOf thread ≠ .launched id kernel) {gate : LaunchGate}
    (preserves : Preserves sys.gate.scheduler gate.scheduler (some id))
    (waiting : gate.waiting = sys.gate.waiting) : Covered { sys.move thread .idle with gate := gate } := by
  obtain ⟨valid, released⟩ := ending_released (covered.valid id) (seat_counted seat)
  refine seat_left_covered covered seat .idle none ⟨rfl, rfl, rfl, fun _ _ => rfl, fun _ _ => rfl, fun _ _ => rfl, valid,
    { traced_moved covered.traced thread .idle (by simpa using unlaunched) with }⟩ ?_ waiting (by simp) (fun _ _ => rfl)
  exact fun other kept runs => preserves.running other runs (by simpa [eq_comm] using kept.resolve_right released)

section Gate
variable (covered : Covered sys) (inv : Invariant sys.gate.scheduler)
include covered inv

theorem fail_gate_covered {now : TimePoint} {clock : Nat → TimePoint}
    (failing : sys.phaseOf thread = .failingGate id rejected) : Covered (sys.failGate thread id rejected now clock) := by
  cases rejected with
  | true => exact absurd (by rw [failing]; rfl) (stray_free covered thread id)
  | false =>
    obtain ⟨preserves, waiting⟩ := gate_fail_spec inv clock id now
    exact ending_covered covered (by rw [failing]; rfl) (by simp [failing]) preserves waiting

end Gate

theorem same_seat_card {role : Role} (seat : (sys.phaseOf thread).seat = some (role, id))
    (same : phase.seat = some (role, id)) (other : TaskId) : (sys.move thread phase).card other = sys.card other := by
  by_cases here : other = id
  · subst here
    have sits := seat_counted seat
    rw [card_moved_here seat, seated_role same, if_pos rfl]
    unfold shift
    congr 1
    funext turn
    split
    · next mine =>
      cases mine
      exact Nat.sub_add_cancel sits
    · rfl
  · exact card_moved_other seat here (by rw [seated_role same, if_neg here])

theorem launch_covered (covered : Covered sys) (launching : sys.phaseOf thread = .launching id) {succeeded : Bool} :
    Covered (sys.launch thread id succeeded) := by
  have seat : (sys.phaseOf thread).seat = some (.early, id) := by rw [launching]; rfl
  have marker := covered.marked thread id .early seat (.inl rfl)
  have marked : ∀ phase : LaunchPhase, phase.seat = some (.early, id) → ∀ other,
      Marked ((sys.move thread phase).phaseOf other) (sys.markers.lookup other) := by
    intro phase early
    refine marked_moved covered phase sys.markers (fun _ _ => rfl) (fun other role mine _ => ?_)
    cases early.symm.trans mine
    exact marker
  unfold launch
  split
  · refine covered_same covered rfl (same_seat_card seat rfl) (marked _ rfl) ?_
    obtain ⟨kernels, launched, events, sequences, numbered, lost, candidate, observed, calm⟩ := covered.traced
    have phases : ∀ other, phaseOf { sys.move thread (.launched id sys.nextKernel) with
        kernels := sys.kernels.insert sys.nextKernel id, nextKernel := sys.nextKernel + 1 } other =
        if other = thread then .launched id sys.nextKernel else sys.phaseOf other :=
      fun other => sys.phase_of_move thread other _
    refine ⟨?_, ?_, fun launch mem => Nat.lt_succ_of_lt (events launch mem), sequences, numbered, lost, candidate,
      ?_, calm⟩
    · intro kernel task running
      rw [lookup_insert_cases] at running
      split at running
      · next fresh =>
        cases running
        subst fresh
        exact .inl ⟨thread, by rw [phases, if_pos rfl]⟩
      · refine (kernels kernel task running).imp_left ?_
        rintro ⟨other, holds⟩
        have ne : other ≠ thread := by
          rintro rfl
          rw [launching] at holds
          cases holds
        exact ⟨other, by rw [phases, if_neg ne, holds]⟩
    · intro other task kernel moved
      rw [phases] at moved
      split at moved
      · cases moved
        exact Nat.lt_succ_self _
      · exact Nat.lt_succ_of_lt (launched other task kernel moved)
    · intro picked watches
      obtain ⟨launch, mem, _, _, event, _⟩ := candidate picked (by simp only [move] at watches; rw [watches]; rfl)
      have old := events launch mem
      rw [event] at old
      rw [lookup_insert_cases, if_neg (Nat.ne_of_lt old)]
      exact observed picked watches
  · exact covered_same covered rfl (same_seat_card seat rfl) (marked _ rfl)
      (traced_moved covered.traced thread _ (by simp [launching]))

theorem track_traced (traced : Traced sys) (launched : sys.phaseOf thread = .launched id kernel)
    (open_ : ∀ entry, sys.tracker.batches.lookup id = some entry → entry.closed = false) :
    Traced { sys.move thread (.tracked id) with
      tracker := { sys.tracker with
        batches := sys.tracker.batches.insert id ((sys.tracker.batches.lookup id).getD {})
        pending := sys.tracker.pending ++ [{ taskId := id, sequence := sys.tracker.nextSequence, event := kernel }]
        nextSequence := sys.tracker.nextSequence + 1 } } := by
  have fresh := traced.launched thread id kernel launched
  obtain ⟨kernels, others, events, sequences, numbered, lost, candidate, observed, calm⟩ := traced
  refine ⟨?_, ?_, ?_, ?_, ?_, ?_, ?_, observed, calm⟩
  · intro running task found
    rcases kernels running task found with ⟨other, holds⟩ | ⟨launch, mem, event, same⟩
    · by_cases here : other = thread
      · subst here
        cases launched.symm.trans holds
        exact .inr ⟨{ taskId := id, sequence := sys.tracker.nextSequence, event := kernel }, by simp, rfl, rfl⟩
      · exact .inl ⟨other, (sys.phase_of_move thread other _).trans (by rw [if_neg here, holds])⟩
    · exact .inr ⟨launch, List.mem_append_left _ mem, event, same⟩
  · intro other task running moved
    replace moved := (sys.phase_of_move thread other _).symm.trans moved
    split at moved
    · cases moved
    · exact others other task running moved
  · intro launch mem
    rcases List.mem_append.mp mem with old | new
    · exact events launch old
    · rw [List.mem_singleton.mp new]
      exact fresh
  · rw [List.map_append, List.map_cons, List.map_nil, List.nodup_append]
    refine ⟨sequences, List.nodup_singleton _, fun first known second new same => ?_⟩
    obtain ⟨launch, mem, rfl⟩ := List.mem_map.mp known
    have below := numbered launch mem
    rw [same, List.mem_singleton.mp new] at below
    exact Nat.lt_irrefl _ below
  · intro launch mem
    rcases List.mem_append.mp mem with old | new
    · exact Nat.lt_succ_of_lt (numbered launch old)
    · rw [List.mem_singleton.mp new]
      exact Nat.lt_succ_self _
  · intro launch mem gone
    rcases List.mem_append.mp mem with old | new
    · obtain ⟨entry, found, closed⟩ := lost launch old gone
      have elsewhere : launch.taskId ≠ id := fun same => by
        rw [same] at found
        rw [open_ entry found] at closed
        cases closed
      exact ⟨entry, by simpa [elsewhere] using found, closed⟩
    · rw [List.mem_singleton.mp new] at gone
      cases gone
  · intro picked watches
    obtain ⟨launch, mem, rest⟩ := candidate picked watches
    exact ⟨launch, List.mem_append_left _ mem, rest⟩

theorem track_covered (covered : Covered sys) (launched : sys.phaseOf thread = .launched id kernel) :
    Covered (sys.track thread id kernel) := by
  have seat : (sys.phaseOf thread).seat = some (.early, id) := by rw [launched]; rfl
  have sits := seat_counted seat
  obtain ⟨batch, found, _⟩ := call_batched (covered.valid id) (by simp only [calls]; omega)
  have opened := busy_open (covered.valid id) (.inl (by simp [found]))
  have accepted : (sys.tracker.batches.lookup id).any BatchState.failed = false := by
    cases stored : sys.tracker.batches.lookup id with
    | none => rfl
    | some entry => exact (opened entry stored).2
  unfold LaunchSystem.track LaunchCompletionTracker.track
  simp only [accepted, Bool.false_eq_true, if_false]
  refine seat_step_covered covered seat (.tracked id)
    (some .settled) ⟨rfl, rfl, rfl, fun _ _ => rfl, fun other here => by simp [here],
    fun other here => by simp [hasPending, Ne.symm here], ?_,
    track_traced covered.traced launched fun entry stored => (opened entry stored).1⟩
    (fun _ _ runs => runs) rfl ?_
  · have step := tracker_step_valid (.tracked sits) (covered.valid id)
    simp only [movedCard, AList.lookup_insert, hasPending, List.any_append, List.any_cons, decide_true, Bool.true_or,
      Bool.or_true]
    exact step
  · refine marked_moved covered (.tracked id) sys.markers (fun _ _ => rfl) ?_
    rintro _ _ ⟨_, _⟩ _
    exact covered.marked thread id .early seat (.inl rfl)

theorem finish_covered (covered : Covered sys) (tracked : sys.phaseOf thread = .tracked id) :
    Covered (sys.finish thread id) := by
  have seat : (sys.phaseOf thread).seat = some (.settled, id) := by rw [tracked]; rfl
  have sits := seat_counted seat
  obtain ⟨batch, found, active⟩ := call_batched (covered.valid id) (by simp only [calls]; omega)
  obtain ⟨marker, carries, mine⟩ := Option.map_eq_some_iff.mp (covered.marked thread id .settled seat (.inr rfl))
  have stored : sys.batches.lookup id = some batch := found
  unfold finish
  simp only [carries, stored, mine, ne_eq, not_true_eq_false, if_false, Nat.ne_of_gt active]
  split
  · next last =>
    refine seat_left_covered covered seat (.closing id)
      (some .closing) ⟨rfl, rfl, rfl, fun other here => by simp [here], fun _ _ => rfl,
      fun _ _ => rfl, ?_, { traced_moved covered.traced thread (.closing id) (by simp [tracked]) with }⟩
      (fun _ _ runs => runs) rfl (by simp) (fun other here => by simp [clearMarker, move, here])
    have step := call_step_valid (.lastReturned sits batch found (by omega)) (covered.valid id)
    simp only [movedCard, AList.lookup_erase]
    exact step
  · refine seat_left_covered covered seat .idle none ⟨rfl, rfl, rfl, fun other here => by simp [here],
      fun _ _ => rfl, fun _ _ => rfl, ?_, { traced_moved covered.traced thread .idle (by simp [tracked]) with }⟩
      (fun _ _ runs => runs) rfl (by simp) (fun other here => by simp [clearMarker, move, here])
    have fewer : batch.activeCalls = batch.activeCalls - 1 + 1 := by omega
    have step := call_step_valid (.returned sits batch { batch with
      activeCalls := batch.activeCalls - 1
      closeRequested := batch.closeRequested || marker.finalLaunch } found fewer) (covered.valid id)
    simp only [movedCard, AList.lookup_insert]
    exact step

theorem close_covered (covered : Covered sys) (closing : sys.phaseOf thread = .closing id) :
    Covered (sys.close thread id) := by
  have seat : (sys.phaseOf thread).seat = some (.closing, id) := by rw [closing]; rfl
  have sits := seat_counted seat
  obtain ⟨entry, found⟩ := Option.ne_none_iff_exists'.mp ((covered.valid id).entered (by omega))
  have stored : sys.tracker.batches.lookup id = some entry := found
  unfold close LaunchCompletionTracker.closeBatch
  by_cases listed : sys.tracker.hasPending id = true
  · simp only [stored, listed, if_true]
    refine seat_left_covered covered seat .idle none
      ⟨rfl, rfl, rfl, fun _ _ => rfl, fun other here => by simp [here], fun _ _ => rfl, ?_, ?_⟩
      (fun _ _ runs => runs) rfl (by simp) (fun _ _ => rfl)
    · have step := tracker_step_valid (.closed sits entry found) (covered.valid id)
      simp only [movedCard, AList.lookup_insert]
      exact step
    · have traced := traced_moved covered.traced thread .idle (by simp [closing])
      exact entry_traced traced id _ (fun other here => by simp [move, here])
        (fun _ _ _ _ => ⟨{ entry with closed := true }, by simp, rfl⟩)
  · have unlisted : sys.tracker.hasPending id = false := by simpa using listed
    simp only [stored, unlisted, Bool.false_eq_true, if_false]
    refine seat_left_covered covered seat (.closingGate id (!entry.failed)) (some .ending) ⟨rfl, rfl, rfl, fun _ _ => rfl,
      fun other here => by simp [here], fun _ _ => rfl, ?_, ?_⟩ (fun _ _ runs => runs) rfl (by simp) (fun _ _ => rfl)
    · have step := tracker_step_valid (.drained sits unlisted) (covered.valid id)
      simp only [movedCard, AList.lookup_erase]
      exact step
    · have traced := traced_moved covered.traced thread (.closingGate id (!entry.failed)) (by simp [closing])
      exact entry_traced traced id _ (fun other here => by simp [move, here])
        (fun launch mem same => absurd same (unlisted_absent unlisted mem))

end Glimmer.Interceptor
