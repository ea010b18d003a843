import Glimmer.Core.SchedulerRuns

namespace Glimmer.Core.Scheduler

open Lib

-- Dispatches are numbered upward. The counter stands still at the last number,
-- and a task that got it is never queued again.
structure Sequenced (s : Scheduler) : Prop where
  bounded : s.nextDispatchSequence ≤ maxU64
  numbered : ∀ id task, s.tasks.lookup id = some task →
    task.dispatchSequence < s.nextDispatchSequence ∨ (task.dispatchSequence = maxU64 ∧ task.state ≠ .queued)

variable {edit : List TaskId → List TaskId} {granted : Option TaskSpec} {returned : Option TaskId}

section Steps
variable {s t : Scheduler} {id : TaskId} {task next : TaskRecord} (sequenced : Sequenced s)
include sequenced

theorem retuned_sequenced (retuned : Retuned s t) : Sequenced t := by
  refine ⟨retuned.nextSequence ▸ sequenced.bounded, fun id task found => ?_⟩
  rw [retuned.tasks] at found
  rw [retuned.nextSequence]
  exact sequenced.numbered id task found

theorem moved_sequenced (moved : Moved s t id task next edit)
    (same : t.nextDispatchSequence = s.nextDispatchSequence) (sequence : next.dispatchSequence = task.dispatchSequence)
    (resting : task.dispatchSequence = maxU64 → next.state ≠ .queued) : Sequenced t := by
  refine ⟨same ▸ sequenced.bounded, fun other record found => ?_⟩
  rw [same]
  rw [moved_lookup moved] at found
  split at found
  · cases found
    rw [sequence]
    rcases sequenced.numbered id task moved.found with below | spent
    · exact .inl below
    · exact .inr ⟨spent.1, resting spent.1⟩
  · exact sequenced.numbered other record found

theorem dispatched_sequenced (started : Dispatched s t id task next) : Sequenced t := by
  have bounded := sequenced.bounded
  have grown : s.nextDispatchSequence ≤ t.nextDispatchSequence ∧ t.nextDispatchSequence ≤ maxU64 := by
    rw [started.counter, followingSequence]
    split <;> omega
  refine ⟨grown.2, fun other record found => ?_⟩
  rw [moved_lookup started.moved] at found
  split at found
  · cases found
    rw [started.sequence, started.counter, followingSequence, started.running]
    split
    · next last => exact .inr ⟨last, by decide⟩
    · exact .inl (Nat.lt_succ_self _)
  · rcases sequenced.numbered other record found with below | spent
    · exact .inl (Nat.lt_of_lt_of_le below grown.1)
    · exact .inr spent

theorem step_sequenced (inv : Invariant s) (step : Step s t granted returned) : Sequenced t := by
  cases step with
  | retuned same => exact retuned_sequenced sequenced same
  | accepted spec task added =>
    refine ⟨added.nextSequence ▸ sequenced.bounded, fun other found lookup => ?_⟩
    rw [added.nextSequence]
    rw [accepted_lookup added] at lookup
    split at lookup
    · cases lookup
      rw [added.undispatched]
      exact .inl inv.quota.sequence
    · exact sequenced.numbered other found lookup
  | dispatched id task next started ready => exact dispatched_sequenced sequenced started
  | suspended id task next stopped =>
    exact moved_sequenced sequenced stopped.moved stopped.nextSequence stopped.sequence
      (fun last => absurd last stopped.unspent)
  | finished id task next ended =>
    exact moved_sequenced sequenced ended.moved ended.nextSequence ended.sequence (fun _ => ended.notQueued)
  | forgotten id task erased =>
    refine ⟨erased.nextSequence ▸ sequenced.bounded, fun other found lookup => ?_⟩
    rw [erased.nextSequence]
    rw [forgotten_lookup erased] at lookup
    split at lookup
    · cases lookup
    · exact sequenced.numbered other found lookup

end Steps

structure Spent (s : Scheduler) (id : TaskId) (number : Nat) : Prop where
  issued : id < s.nextTaskId
  reached : ∀ task, s.tasks.lookup id = some task → number ≤ task.dispatchSequence

section Spending
variable {s : Scheduler} {id : TaskId} {number : Nat}

theorem moved_spent {t : Scheduler} {other : TaskId} {task next : TaskRecord}
    (spent : Spent s id number) (moved : Moved s t other task next edit)
    (reached : task.dispatchSequence ≤ next.dispatchSequence) : Spent t id number := by
  refine ⟨moved.nextId ▸ spent.issued, fun record found => ?_⟩
  rw [moved_lookup moved] at found
  split at found
  · next same =>
    subst same
    cases found
    exact (spent.reached task moved.found).trans reached
  · exact spent.reached record found

theorem step_spent {t : Scheduler} (sequenced : Sequenced s)
    (step : Step s t granted returned) (spent : Spent s id number) : Spent t id number := by
  cases step with
  | retuned same => exact ⟨same.nextId ▸ spent.issued, same.tasks ▸ spent.reached⟩
  | accepted spec task added =>
    refine ⟨Nat.lt_of_lt_of_le spent.issued (added.nextId ▸ Nat.le_succ _), fun record found => ?_⟩
    rw [accepted_lookup added, if_neg (Nat.ne_of_lt spent.issued)] at found
    exact spent.reached record found
  | dispatched other task next started ready =>
    refine moved_spent spent started.moved ?_
    rw [started.sequence]
    rcases sequenced.numbered other task started.moved.found with below | ⟨_, resting⟩
    · exact Nat.le_of_lt below
    · exact absurd started.queued resting
  | suspended _ _ _ change | finished _ _ _ change => exact moved_spent spent change.moved change.sequence.ge
  | forgotten other task erased =>
    refine ⟨erased.nextId ▸ spent.issued, fun record found => ?_⟩
    rw [forgotten_lookup erased] at found
    split at found
    · cases found
    · exact spent.reached record found

theorem run_sequenced (inv : Invariant s) (sequenced : Sequenced s) (ops : List SchedulerOp) :
    Invariant (s.run ops) ∧ Sequenced (s.run ops) := by
  refine ⟨run_invariant ops inv, run_keeps inv sequenced fun op _ t before sequenced => ?_⟩
  exact step_sequenced sequenced before (apply_step before op)

theorem run_spent (inv : Invariant s) (sequenced : Sequenced s) (spent : Spent s id number) (ops : List SchedulerOp) :
    Spent (s.run ops) id number := by
  induction ops generalizing s with
  | nil => exact spent
  | cons op rest ih =>
    have step := apply_step inv op
    exact ih (step_invariant step inv) (step_sequenced sequenced inv step) (step_spent sequenced step spent)

end Spending

theorem new_sequenced (limit : MemoryBytes) (options : SchedulerOptions) : Sequenced (new limit options) :=
  ⟨show 1 ≤ maxU64 by decide, nofun⟩

section Log
variable {s : Scheduler} {op : SchedulerOp} {snap : TaskSnapshot}

theorem dispatched_number (inv : Invariant s) (sequenced : Sequenced s) (started : s.dispatchedBy op = some snap) :
    snap.dispatchSequence = s.nextDispatchSequence ∧
    (∀ number, Spent s snap.taskId number → number < snap.dispatchSequence) ∧
      Spent (s.apply op) snap.taskId snap.dispatchSequence ∧
      (s.apply op).nextDispatchSequence = followingSequence snap.dispatchSequence := by
  obtain ⟨task, next, shown, begun, _⟩ := dispatched_by_spec inv started
  have number : snap.dispatchSequence = next.dispatchSequence := congrArg TaskSnapshot.dispatchSequence shown
  rw [number, begun.sequence]
  refine ⟨rfl, fun earlier spent => ?_, ⟨?_, fun record found => ?_⟩, begun.counter⟩
  · rcases sequenced.numbered _ task begun.moved.found with below | ⟨_, resting⟩
    · exact Nat.lt_of_le_of_lt (spent.reached task begun.moved.found) below
    · exact absurd begun.queued resting
  · rw [begun.moved.nextId]
    exact (inv.coherent.issued _ task begun.moved.found).2
  · rw [moved_lookup begun.moved, if_pos rfl] at found
    cases found
    exact begun.sequence.ge

theorem step_counter {t : Scheduler} (step : Step s t granted returned) :
    s.nextDispatchSequence ≤ t.nextDispatchSequence := by
  cases step with
  | retuned change | accepted _ _ change | suspended _ _ _ change | finished _ _ _ change | forgotten _ _ change =>
    exact change.nextSequence.ge
  | dispatched id task next started ready =>
    rw [started.counter, followingSequence]
    split <;> omega

theorem log_numbered (inv : Invariant s) (sequenced : Sequenced s) {ops : List SchedulerOp}
    (mem : snap ∈ s.dispatchLog ops) : s.nextDispatchSequence ≤ snap.dispatchSequence ∧
      ∀ number, Spent s snap.taskId number → number < snap.dispatchSequence := by
  induction ops generalizing s with
  | nil => cases mem
  | cons op rest ih =>
    have step := apply_step inv op
    rcases List.mem_append.mp mem with here | later
    · obtain ⟨number, fresh, _⟩ := dispatched_number inv sequenced (Option.mem_toList.mp here)
      exact ⟨number.ge, fresh⟩
    · obtain ⟨above, fresh⟩ := ih (step_invariant step inv) (step_sequenced sequenced inv step) later
      exact ⟨(step_counter step).trans above, fun number spent => fresh number (step_spent sequenced step spent)⟩

theorem log_increases (inv : Invariant s) (sequenced : Sequenced s) (ops : List SchedulerOp) :
    (s.dispatchLog ops).Pairwise fun first later =>
      (first.dispatchSequence ≠ maxU64 → first.dispatchSequence < later.dispatchSequence) ∧
        (first.taskId = later.taskId → first.dispatchSequence < later.dispatchSequence) := by
  induction ops generalizing s with
  | nil => exact .nil
  | cons op rest ih =>
    have step := apply_step inv op
    have after := step_sequenced sequenced inv step
    have tail := ih (step_invariant step inv) after
    rw [dispatchLog]
    cases started : s.dispatchedBy op with
    | none => exact tail
    | some first =>
      obtain ⟨_, _, spent, counter⟩ := dispatched_number inv sequenced started
      refine .cons (fun snap mem => ?_) tail
      obtain ⟨above, fresh⟩ := log_numbered (step_invariant step inv) after mem
      refine ⟨fun room => ?_, fun same => fresh _ (same ▸ spent)⟩
      rw [counter, followingSequence, if_neg room] at above
      exact above

end Log

theorem dispatch_numbers_never_repeat (limit : MemoryBytes) (options : SchedulerOptions) (ops : List SchedulerOp) :
    let start := new limit options
    ((start.dispatchLog ops).Pairwise fun first later =>
        (first.dispatchSequence ≠ maxU64 → first.dispatchSequence < later.dispatchSequence) ∧
          (first.taskId = later.taskId → first.dispatchSequence < later.dispatchSequence)) ∧
      ∀ before id now after t task, ops = before ++ .suspend id now :: after →
        (start.run before).suspend id now = (true, t) → t.tasks.lookup id = some task →
        ∀ snap ∈ t.dispatchLog after, snap.taskId = id → task.dispatchSequence < snap.dispatchSequence := by
  have inv := new_invariant limit options
  have sequenced := new_sequenced limit options
  refine ⟨log_increases inv sequenced ops, ?_⟩
  rintro before id now after t task rfl suspended found snap mem rfl
  obtain ⟨kept, numbered⟩ := run_sequenced inv sequenced before
  have step := apply_step kept (.suspend snap.taskId now)
  rw [apply, suspended] at step
  refine (log_numbered (step_invariant step kept) (step_sequenced numbered kept step) mem).2 _
    ⟨((step_invariant step kept).coherent.issued _ task found).2, fun record same => ?_⟩
  cases found.symm.trans same
  exact Nat.le_refl _

end Glimmer.Core.Scheduler
