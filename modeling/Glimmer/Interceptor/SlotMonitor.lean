import Glimmer.Interceptor.SlotCover

namespace Glimmer.Interceptor

open Lib Glimmer.Core Control Scheduler LaunchCompletionTracker LaunchSystem MonitorPhase

variable {sys next : LaunchSystem} {thread : ThreadId} {id : TaskId}

theorem monitor_covered (covered : Covered sys) (monitor : MonitorPhase) (tracker : LaunchCompletionTracker)
    (pending : tracker.pending = sys.tracker.pending) (batches : tracker.batches = sys.tracker.batches)
    (numbers : tracker.nextSequence = sys.tracker.nextSequence)
    (before : ∀ id, sys.monitor.finishes id = 0) (after : ∀ id, monitor.finishes id = 0)
    (candidate : ∀ candidate, monitor.candidate = some candidate → ∃ launch ∈ sys.tracker.pending,
      launch.taskId = candidate.taskId ∧ launch.sequence = candidate.sequence ∧ launch.event = candidate.event ∧
        (candidate.leaseLost = true → launch.leaseLost = true))
    (unobserved : ∀ candidate, monitor ≠ .observed candidate)
    (calm : ∀ candidate, monitor ≠ .failing candidate ∧ monitor ≠ .failingGate candidate) :
    Covered { sys with monitor := monitor, tracker := tracker } := by
  have traced := covered.traced
  refine covered_same covered rfl (fun id => ?_) covered.marked ?_
  · simp [card, seats, hasPending, pending, batches, before, after]
  refine ⟨?_, traced.launched, ?_, ?_, ?_, ?_, ?_, fun picked watches => absurd watches (unobserved picked), calm⟩
  · simp only [pending]
    exact traced.kernels
  · simp only [pending]
    exact traced.events
  · simp only [pending]
    exact traced.sequences
  · simp only [pending, numbers]
    exact traced.numbered
  · simp only [pending, batches]
    exact traced.lost
  · simp only [pending]
    exact candidate

variable {candidate : PendingLaunch} {other : TaskId}

theorem query_covered (covered : Covered sys) (querying : sys.monitor = .querying candidate) :
    Covered { sys with monitor := .observed candidate, kernels := sys.kernels.erase candidate.event } := by
  have traced := covered.traced
  have watched := traced.candidate candidate (by rw [querying]; rfl)
  refine covered_same covered rfl (fun id => ?_) covered.marked ?_
  · simp only [card, seats, querying]
    rfl
  refine ⟨fun kernel id running => ?_, traced.launched, traced.events, traced.sequences, traced.numbered, traced.lost,
    ?_, ?_, by simp⟩
  · simp only [KeyedMap.lookup_erase_cases] at running
    split at running
    · cases running
    · exact traced.kernels kernel id running
  · rintro _ ⟨rfl⟩
    exact watched
  · rintro _ ⟨rfl⟩
    simp

theorem erase_candidate_traced (traced : Traced sys) (observed : sys.monitor = .observed candidate) (index : Nat) :
    Traced { sys with
      monitor := .idle
      tracker := { sys.tracker with
        pending := sys.tracker.pending.eraseP (isCandidate candidate)
        nextIndex := index } } := by
  have subset : ∀ launch ∈ sys.tracker.pending.eraseP (isCandidate candidate), launch ∈ sys.tracker.pending :=
    fun launch mem => List.mem_of_mem_eraseP mem
  obtain ⟨own, listed, _, sequence, event, _⟩ := traced.candidate candidate (by rw [observed]; rfl)
  have only : ∀ launch ∈ sys.tracker.pending, isCandidate candidate launch = true → launch.event = candidate.event := by
    intro launch mem matching
    have same : launch = own := by
      refine List.inj_on_of_nodup_map traced.sequences mem listed ?_
      rw [sequence]
      simp only [isCandidate, decide_eq_true_eq] at matching
      exact matching.2
    rw [same, event]
  refine ⟨fun kernel id running => (traced.kernels kernel id running).imp_right ?_, traced.launched,
    fun launch mem => traced.events launch (subset launch mem), ?_,
    fun launch mem => traced.numbered launch (subset launch mem),
    fun launch mem => traced.lost launch (subset launch mem), nofun, nofun, by simp⟩
  · rintro ⟨launch, mem, same, mine⟩
    have other : ¬ isCandidate candidate launch = true := by
      intro matching
      have gone := traced.observed candidate observed
      rw [← only launch mem matching, same] at gone
      rw [running] at gone
      cases gone
    exact ⟨launch, (List.mem_eraseP_of_neg other).mpr mem, same, mine⟩
  · exact (List.Sublist.map _ List.eraseP_sublist).nodup traced.sequences

theorem erase_candidate_listed {pending : List PendingLaunch}
    (here : other ≠ candidate.taskId) :
    (pending.eraseP (isCandidate candidate)).any (fun launch => launch.taskId = other) =
      pending.any fun launch => launch.taskId = other := by
  rw [Bool.eq_iff_iff, List.any_eq_true, List.any_eq_true]
  refine exists_congr fun launch => and_congr_left fun same => ?_
  have unlike : ¬ isCandidate candidate launch = true := by
    simp only [isCandidate, decide_eq_true_eq]
    exact fun matching => here ((of_decide_eq_true same).symm.trans matching.1)
  exact List.mem_eraseP_of_neg unlike

def retiredTracker (t : LaunchCompletionTracker) (candidate : PendingLaunch) : LaunchCompletionTracker :=
  let rest := t.pending.eraseP (isCandidate candidate)
  let index := t.pending.findIdx (isCandidate candidate)
  { t with
    pending := if candidate.leaseLost then loseLeases rest candidate.taskId else rest
    nextIndex := if index = t.pending.length then t.nextIndex else if rest = [] then 0 else index % rest.length }

theorem retire_eq {t : LaunchCompletionTracker} {entry : BatchState}
    (found : t.batches.lookup candidate.taskId = some entry) :
    t.retire candidate =
      let kept := retiredTracker t candidate
      let failed := entry.failed || candidate.leaseLost
      if !kept.hasPending candidate.taskId && entry.closed then
        (some (!failed), { kept with batches := t.batches.erase candidate.taskId })
      else (none, { kept with batches := t.batches.insert candidate.taskId { entry with failed := failed } }) := by
  unfold retire retiredTracker
  split <;> simp_all

theorem retired_listed (t : LaunchCompletionTracker)
    (here : other ≠ candidate.taskId) : (retiredTracker t candidate).hasPending other = t.hasPending other := by
  unfold retiredTracker hasPending
  split
  · rw [lose_leases_listed, erase_candidate_listed here]
  · rw [erase_candidate_listed here]

theorem retired_traced (traced : Traced sys) (observed : sys.monitor = .observed candidate) :
    Traced { sys with monitor := .idle, tracker := retiredTracker sys.tracker candidate } := by
  have erased := fun index => erase_candidate_traced traced observed index
  unfold retiredTracker
  split
  · next gone =>
    obtain ⟨own, listed, task, _, _, lost⟩ := traced.candidate candidate (by rw [observed]; rfl)
    obtain ⟨entry, found, closed⟩ := traced.lost own listed (lost gone)
    exact lose_leases_traced (erased _) sys.tracker.batches entry (task ▸ found) closed (fun _ _ => rfl)
  · exact erased _

theorem retire_covered (covered : Covered sys) (observed : sys.monitor = .observed candidate) :
    Covered (sys.monitorStep .retire) := by
  have traced := covered.traced
  have valid := covered.valid candidate.taskId
  obtain ⟨own, listed, task, _, _, lost⟩ := traced.candidate candidate (by rw [observed]; rfl)
  have pending : sys.tracker.hasPending candidate.taskId = true := List.any_eq_true.mpr ⟨own, listed, by simp [task]⟩
  obtain ⟨entry, found⟩ := Option.ne_none_iff_exists'.mp (valid.listedEntry pending)
  have stored : sys.tracker.batches.lookup candidate.taskId = some entry := found
  have blamed : (entry.failed || candidate.leaseLost) = true → entry.closed = true := by
    intro failed
    rcases Bool.or_eq_true_iff.mp failed with earlier | gone
    · exact valid.failedClosed entry found earlier
    obtain ⟨same, known, closed⟩ := traced.lost own listed (lost gone)
    rw [task] at known
    cases stored.symm.trans known
    exact closed
  have kept := retired_traced traced observed
  have was : (sys.card candidate.taskId).Held := ⟨.inr (.inl (by simp [found]))⟩
  simp only [monitorStep, observed, retire_eq stored]
  split
  · next matched ended =>
    split at ended
    · next last =>
      cases ended
      obtain ⟨unlisted, closed⟩ : (retiredTracker sys.tracker candidate).hasPending candidate.taskId = false ∧
          entry.closed = true := by simpa using last
      refine covered_step covered (fun _ _ runs => runs) rfl (fun other here => ?_) was ?_ covered.marked ?_
      · have same := retired_listed sys.tracker here
        simp only [hasPending] at same
        simp [card, seats, hasPending, same, observed, MonitorPhase.finishes,
          if_neg (Ne.symm here), KeyedMap.lookup_erase_cases, if_neg here]
      · have step := Card.tracker_step_valid (.lastRetired entry found closed) valid
        simp only [hasPending] at unlisted
        simp only [card, hasPending, unlisted, AList.lookup_erase, MonitorPhase.finishes, if_true]
        exact step
      · have traced := entry_traced kept candidate.taskId (sys.tracker.batches.erase candidate.taskId)
          (fun other here => by simp [retiredTracker, here])
          (fun launch mem same => absurd same (unlisted_absent unlisted mem))
        exact { traced with candidate := by simp [MonitorPhase.candidate], observed := by simp, calm := by simp }
    · cases ended
  · next matched ended =>
    split at ended
    · cases ended
    cases ended
    refine covered_step covered (fun _ _ runs => runs) rfl (fun other here => ?_) was ?_ covered.marked ?_
    · have same := retired_listed sys.tracker here
      simp only [hasPending] at same
      simp [card, seats, hasPending, same, observed, MonitorPhase.finishes, KeyedMap.lookup_insert_cases, if_neg here]
    · have step := Card.tracker_step_valid (.retired entry { entry with failed := entry.failed || candidate.leaseLost }
        ((retiredTracker sys.tracker candidate).hasPending candidate.taskId) found rfl blamed) valid
      simp only [card, observed, MonitorPhase.finishes, AList.lookup_insert] at step ⊢
      exact step
    · refine entry_traced kept candidate.taskId _ (fun other here => by simp [retiredTracker, here]) ?_
      intro launch mem same gone
      obtain ⟨again, known, closed⟩ := kept.lost launch mem gone
      rw [same] at known
      cases stored.symm.trans known
      exact ⟨{ entry with failed := entry.failed || candidate.leaseLost }, by simp, closed⟩

variable (covered : Covered sys) (inv : Invariant sys.gate.scheduler)
include covered inv

theorem finish_gate_covered {completes : Bool} (finishing : sys.monitor = .finishing id completes)
    (now : TimePoint) (clock : Nat → TimePoint) :
    Covered { sys with monitor := .idle, gate := endTask sys.gate id completes now clock } := by
  obtain ⟨preserves, waiting⟩ := end_task_spec inv id completes now clock
  have valid := covered.valid id
  have one : (sys.card id).finishing = 1 := by simp [card, finishing, finishes]
  have sole := valid.sole
  have holding : 0 < (sys.card id).holders := by simp only [Card.holders]; omega
  have unbatched := valid.unbatched holding
  have bare := valid.ended (by omega)
  have traced := covered.traced
  refine covered_step covered (fun other kept runs => preserves.running other runs ?_) waiting (fun other here => ?_)
    ⟨.inr (.inr holding)⟩ ?_ covered.marked
    { traced with candidate := by simp [candidate], observed := by simp, calm := by simp }
  · rintro ⟨rfl⟩
    obtain ⟨batch | entry | holders⟩ := kept.resolve_left (fun apart => apart rfl)
    · exact batch unbatched
    · exact entry bare
    · change 0 < (sys.card id).seats .admitted + (sys.card id).seats .failing + (sys.card id).seats .closing +
        (sys.card id).seats .ending + 0 at holders
      simp only [Card.holders] at sole
      omega
  · simp [card, seats, finishing, finishes, if_neg (Ne.symm here)]
  · exact Card.tracker_step_valid (.finished one) valid

theorem monitor_step_covered {step : LaunchStep} : Covered (sys.monitorStep step) := by
  have traced := covered.traced
  cases step with
  | pick =>
    simp only [monitorStep]
    split
    · next candidate tracker idle picked =>
      have shape : candidate ∈ sys.tracker.pending ∧ tracker.pending = sys.tracker.pending ∧
          tracker.batches = sys.tracker.batches ∧ tracker.nextSequence = sys.tracker.nextSequence := by
        unfold LaunchCompletionTracker.pick at picked
        dsimp only at picked
        split at picked
        · cases picked
        · next chosen =>
          cases picked
          exact ⟨List.mem_of_getElem? chosen, rfl, rfl, rfl⟩
      refine monitor_covered covered _ _ shape.2.1 shape.2.2.1 shape.2.2.2 (by simp [idle, MonitorPhase.finishes])
        (by simp [MonitorPhase.finishes]) ?_ (by simp) (by simp)
      rintro _ ⟨rfl⟩
      exact ⟨candidate, shape.1, rfl, rfl, rfl, fun gone => gone⟩
    · exact covered
  | beat due =>
    simp only [monitorStep]
    split
    · next candidate picked =>
      have watched := traced.candidate candidate (by rw [picked]; rfl)
      split
      all_goals
        refine monitor_covered covered _ _ rfl rfl rfl (by simp [picked, MonitorPhase.finishes])
          (by simp [MonitorPhase.finishes]) ?_ (by simp) (by simp)
        rintro _ ⟨rfl⟩
        exact watched
    · exact covered
  | heartbeat =>
    simp only [monitorStep]
    split
    · next candidate beating =>
      have watched := traced.candidate candidate (by rw [beating]; rfl)
      obtain ⟨own, listed, task, _⟩ := watched
      have pending : sys.tracker.hasPending candidate.taskId = true :=
        List.any_eq_true.mpr ⟨own, listed, by simp [task]⟩
      have held : (sys.card candidate.taskId).Held :=
        ⟨.inr (.inl ((covered.valid candidate.taskId).listedEntry pending))⟩
      rw [if_pos ((running_state inv.coherent _).mpr (covered.held _ held))]
      refine monitor_covered covered _ _ rfl rfl rfl (by simp [beating, MonitorPhase.finishes])
        (by simp [MonitorPhase.finishes]) ?_ (by simp) (by simp)
      rintro _ ⟨rfl⟩
      exact traced.candidate candidate (by rw [beating]; rfl)
    · exact covered
  | failBeat | failBeatGate =>
    simp only [monitorStep]
    split
    · next candidate failing => simp [traced.calm candidate] at failing
    · exact covered
  | query done =>
    simp only [monitorStep]
    split
    · next candidate querying =>
      split
      · exact query_covered covered querying
      · exact monitor_covered covered .idle sys.tracker rfl rfl rfl (by simp [querying, MonitorPhase.finishes])
          (by simp [MonitorPhase.finishes]) (by simp [MonitorPhase.candidate]) (by simp) (by simp)
    · exact covered
  | retire =>
    by_cases seen : ∃ candidate, sys.monitor = .observed candidate
    · obtain ⟨candidate, observed⟩ := seen
      exact retire_covered covered observed
    simp only [monitorStep]
    split
    · next candidate observed => exact absurd ⟨candidate, observed⟩ seen
    · exact covered
  | finishGate now clock =>
    simp only [monitorStep]
    split
    · next id completes finishing => exact finish_gate_covered covered inv finishing now clock
    · exact covered
  | _ => exact covered

end Glimmer.Interceptor
