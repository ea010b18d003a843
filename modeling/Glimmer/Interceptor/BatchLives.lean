import Glimmer.Interceptor.SlotMonitor

namespace Glimmer.Interceptor

open Lib Glimmer.Core LaunchCompletionTracker

-- What happened to a task since its last gate outcome; settled lists the events that were queried successful and
-- destroyed, and a task is revived by an event that is tracked after a failure of it was decided.
structure BatchLife where
  tracked : List Nat := []
  settled : List Nat := []
  closed : Bool := false
  failed : Bool := false
  revived : Bool := false
deriving DecidableEq

-- The sections of track, close_batch, fail and the monitor, of any threads in any order. A track whose event could not
-- be created or recorded, or that was refused, goes on with a fail, and so does the monitor when a heartbeat is lost.
inductive TrackerSection where
  | track (id : TaskId) (event : KernelId)
  | closeBatch (id : TaskId)
  | fail (id : TaskId)
  | pick
  | notReady
  | settle (succeeded destroyed : Bool)

structure TrackedBatches where
  tracker : LaunchCompletionTracker := {}
  candidate : Option PendingLaunch := none
  lives : TaskId → BatchLife := fun _ => {}
  outcomes : List (TaskId × Bool × BatchLife) := []

namespace TrackedBatches

variable (s : TrackedBatches)

def record (id : TaskId) (life : BatchLife) (result : Option Bool × LaunchCompletionTracker) : TrackedBatches :=
  { s with
    tracker := result.2
    lives := Function.update s.lives id (if result.1.isSome then {} else life)
    outcomes := (result.1.map fun completes => (id, completes, life)).toList ++ s.outcomes }

def step : TrackerSection → TrackedBatches
  | .track id event =>
    let life := s.lives id
    match s.tracker.track id event with
    | (true, tracker) =>
      let revived := life.revived || s.outcomes.any fun outcome => outcome.1 = id && !outcome.2.1
      s.record id { life with tracked := s.tracker.nextSequence :: life.tracked, revived := revived } (none, tracker)
    | (false, _) => s
  | .closeBatch id =>
    if (s.tracker.batches.lookup id).isSome then
      s.record id { s.lives id with closed := true } (s.tracker.closeBatch id)
    else s
  | .fail id =>
    let result := s.tracker.fail id
    s.record id { s.lives id with failed := true } (if result.1 then some false else none, result.2)
  | .pick => match s.candidate with
      | some _ => s
      | none => { s with candidate := s.tracker.pick.1, tracker := s.tracker.pick.2 }
  | .notReady => { s with candidate := none }
  | .settle succeeded destroyed => match s.candidate with
      | none => s
      | some candidate =>
        let life := s.lives candidate.taskId
        let settled := if succeeded ∧ destroyed then { life with settled := candidate.sequence :: life.settled }
          else { life with failed := true }
        -- An event that failed or could not be destroyed counts as a lost lease.
        { s.record candidate.taskId settled (s.tracker.retire
            { candidate with leaseLost := !destroyed || !succeeded || candidate.leaseLost }) with candidate := none }

def run (sections : List TrackerSection) : TrackedBatches := sections.foldl step {}

def Lists (pending : List PendingLaunch) (id : TaskId) (sequence : Nat) : Prop :=
  ∃ launch ∈ pending, launch.taskId = id ∧ launch.sequence = sequence

structure Healthy (batch : BatchState) (pending : List PendingLaunch) (outcomes : List (TaskId × Bool × BatchLife))
    (id : TaskId) (life : BatchLife) : Prop where
  closed : batch.closed = true → life.closed = true
  unfailed : life.failed = false
  settled : ∀ sequence ∈ life.tracked, Lists pending id sequence ∨ sequence ∈ life.settled
  revived : ∀ old, (id, false, old) ∈ outcomes → life.revived = true

structure Sound (s : TrackedBatches) : Prop where
  absent : ∀ id, s.tracker.batches.lookup id = none ↔ s.lives id = {}
  healthy : ∀ id batch, s.tracker.batches.lookup id = some batch → batch.failed = false →
    Healthy batch s.tracker.pending s.outcomes id (s.lives id)
  waiting : ∀ id batch, s.tracker.batches.lookup id = some batch → batch.closed = true →
    ∃ sequence, Lists s.tracker.pending id sequence
  outcomes : ∀ id life, (id, true, life) ∈ s.outcomes →
    life.closed = true ∧ life.failed = false ∧ ∀ sequence ∈ life.tracked, sequence ∈ life.settled
  ordered : s.outcomes.Pairwise fun newer older =>
    newer.1 = older.1 → newer.2.1 = true → newer.2.2.revived = false → older.2.1 = true

variable {s : TrackedBatches} {id other : TaskId} {sequence : Nat} {pending : List PendingLaunch}

theorem has_pending_iff (t : LaunchCompletionTracker) (id : TaskId) :
    t.hasPending id = true ↔ ∃ sequence, Lists t.pending id sequence := by
  simp [hasPending, Lists]

theorem snoc_lists {launch : PendingLaunch} : Lists (pending ++ [launch]) id sequence ↔
    Lists pending id sequence ∨ launch.taskId = id ∧ launch.sequence = sequence := by
  simp [Lists, or_and_right, exists_or]

theorem lost_lists (lists : Lists pending id sequence) : Lists (loseLeases pending other) id sequence := by
  obtain ⟨launch, mem, task, number⟩ := lists
  refine ⟨_, List.mem_map_of_mem mem, ?_⟩
  split <;> exact ⟨task, number⟩

section Records

variable (after : LaunchCompletionTracker) {batch : BatchState} {life : BatchLife} (sound : Sound s)
  (others : ∀ other, other ≠ id → ∀ sequence, Lists s.tracker.pending other sequence →
    Lists after.pending other sequence)

include sound others

theorem kept_sound (named : life ≠ {}) (waits : batch.closed = true → ∃ sequence, Lists after.pending id sequence)
    (healthy : batch.failed = false → Healthy batch after.pending s.outcomes id life) :
    Sound (s.record id life (none, { after with batches := s.tracker.batches.insert id batch })) := by
  constructor <;> simp only [record, KeyedMap.lookup_insert_cases, Function.update_apply] <;> grind [Sound, Healthy]

theorem ended_sound {completes : Bool} (fine : completes = true →
      (life.closed = true ∧ life.failed = false ∧ ∀ sequence ∈ life.tracked, sequence ∈ life.settled) ∧
        ∀ old, (id, false, old) ∈ s.outcomes → life.revived = true) :
    Sound (s.record id life (some completes, { after with batches := s.tracker.batches.erase id })) := by
  constructor <;> simp only [record, KeyedMap.lookup_erase_cases, Function.update_apply] <;> grind [Sound, Healthy]

end Records

section
variable (sound : Sound s)
include sound

theorem track_sound {event : KernelId} : Sound (s.step (.track id event)) := by
  rw [step, LaunchCompletionTracker.track]
  split
  next tracker tracked =>
    split at tracked <;> cases tracked
    refine kept_sound { s.tracker with
      pending := s.tracker.pending ++ [{ taskId := id, sequence := s.tracker.nextSequence, event := event }]
      nextSequence := s.tracker.nextSequence + 1 } sound ?_ (by simp) ?_ ?_
    · grind [snoc_lists]
    · exact fun _ => ⟨_, snoc_lists.mpr (.inr ⟨rfl, rfl⟩)⟩
    · cases found : s.tracker.batches.lookup id <;> grind [snoc_lists, Sound, Healthy]
  · exact sound

theorem close_batch_sound : Sound (s.step (.closeBatch id)) := by
  have pending := has_pending_iff s.tracker id
  rw [step, closeBatch]
  cases found : s.tracker.batches.lookup id with
  | none => exact sound
  | some batch =>
    cases listed : s.tracker.hasPending id with
    | true =>
      refine kept_sound s.tracker sound (fun _ _ _ lists => lists) (by simp) (fun _ => pending.mp listed) ?_
      grind [Sound, Healthy]
    | false =>
      refine ended_sound s.tracker sound (fun _ _ _ lists => lists) fun completes => ?_
      grind [Sound, Healthy]

theorem fail_sound : Sound (s.step (.fail id)) := by
  rw [step, LaunchCompletionTracker.fail]
  cases listed : s.tracker.hasPending id with
  | true =>
    exact kept_sound { s.tracker with pending := loseLeases s.tracker.pending id } sound (fun _ _ _ => lost_lists)
      (by simp) (fun _ => ((has_pending_iff _ _).mp listed).imp fun _ => lost_lists) nofun
  | false => exact ended_sound s.tracker sound (fun _ _ _ lists => lists) nofun

theorem retire_sound (candidate : PendingLaunch) {life : BatchLife} (named : life ≠ {})
    (honest : candidate.leaseLost = false →
      life = { s.lives candidate.taskId with settled := candidate.sequence :: (s.lives candidate.taskId).settled }) :
    Sound (s.record candidate.taskId life (s.tracker.retire candidate)) := by
  have erased : ∀ id sequence, Lists s.tracker.pending id sequence →
      Lists (s.tracker.pending.eraseP (isCandidate candidate)) id sequence ∨
        candidate.taskId = id ∧ candidate.sequence = sequence := by
    rintro id sequence ⟨launch, mem, task, number⟩
    by_cases same : isCandidate candidate launch = true
    · simp only [isCandidate, decide_eq_true_eq] at same
      exact .inr ⟨same.1.symm.trans task, same.2.symm.trans number⟩
    · exact .inl ⟨launch, (List.mem_eraseP_of_neg same).mpr mem, task, number⟩
  cases found : s.tracker.batches.lookup candidate.taskId with
  | none =>
    simp only [retire, found]
    constructor <;> simp only [record, Function.update_apply] <;> grind [Sound, Healthy]
  | some batch =>
    have kept : ∀ id sequence, Lists s.tracker.pending id sequence →
        Lists (retiredTracker s.tracker candidate).pending id sequence ∨
          candidate.taskId = id ∧ candidate.sequence = sequence := by
      intro id sequence lists
      rw [retiredTracker]
      split
      · exact (erased id sequence lists).imp_left lost_lists
      · exact erased id sequence lists
    have others := fun id (here : id ≠ candidate.taskId) sequence lists =>
      (kept id sequence lists).resolve_right fun same => here same.1.symm
    have listed := has_pending_iff (retiredTracker s.tracker candidate) candidate.taskId
    rw [retire_eq found]
    dsimp only
    split
    · refine ended_sound _ sound others ?_
      grind [Sound, Healthy]
    · refine kept_sound _ sound others named ?_ ?_ <;> grind [Sound, Healthy]

theorem step_sound (next : TrackerSection) : Sound (s.step next) := by
  cases next with
  | track id event => exact track_sound sound
  | closeBatch id => exact close_batch_sound sound
  | fail id => exact fail_sound sound
  | pick =>
    rw [step, pick]
    split
    · exact sound
    · split <;> exact { sound with }
  | notReady => exact { sound with }
  | settle succeeded destroyed =>
    rw [step]
    split
    · exact sound
    next candidate _ =>
      let lost := !destroyed || !succeeded || candidate.leaseLost
      refine { retire_sound sound { candidate with leaseLost := lost } ?_ ?_ with }
      · split <;> simp
      · simp +contextual [lost]

end

theorem run_sound (sections : List TrackerSection) : Sound (run sections) := by
  have start : Sound {} := ⟨fun _ => ⟨fun _ => rfl, fun _ => rfl⟩, nofun, nofun, nofun, .nil⟩
  exact List.foldlRecOn sections step start fun _ sound next _ => step_sound sound next

def relaunchedBatch : List TrackerSection :=
  [.fail 8, .track 7 0, .closeBatch 7, .pick, .settle true true, .track 7 1, .pick, .settle true true, .closeBatch 7]

end TrackedBatches

end Glimmer.Interceptor
