import Glimmer.Core.Selection
import Mathlib.Data.List.MinMax
import Mathlib.Data.Prod.Lex

namespace Glimmer.Core

open Lib

variable (tasks : KeyedMap TaskId TaskRecord)

def isQueued (id : TaskId) : Bool := (queuedRecord tasks id).isSome

def queuedPriority (id : TaskId) : UInt32 :=
  ((queuedRecord tasks id).map fun task => task.spec.priority).getD 0

def priorityRank (id : TaskId) : ℕᵒᵈ ×ₗ ℕ :=
  toLex (OrderDual.toDual (queuedPriority tasks id).toNat, id)

theorem priority_rank_lt (a b : TaskId) :
    priorityRank tasks a < priorityRank tasks b ↔
      (queuedPriority tasks b).toNat < (queuedPriority tasks a).toNat ∨
        queuedPriority tasks a = queuedPriority tasks b ∧ a < b := by
  simp [priorityRank, Prod.Lex.toLex_lt_toLex, UInt32.toNat_inj]

theorem priority_rank_injective (a b : TaskId) (same : priorityRank tasks a = priorityRank tasks b) : a = b :=
  congrArg Prod.snd (toLex.injective same)

theorem earlier_fold_argmin {ids : List TaskId} :
    ids.foldl (earlierTask tasks) none = (ids.filter (isQueued tasks)).argmin fun candidate => candidate := by
  rw [List.argmin, List.foldl_filter]
  congr 1
  funext selected candidate
  cases found : queuedRecord tasks candidate <;> cases selected <;> simp [earlierTask, isQueued, found, List.argAux]

theorem preferred_task_rank {candidate : TaskId} (best : TaskId) (queued : isQueued tasks candidate = true) :
    preferredTask tasks (some best, queuedPriority tasks best) candidate =
      if priorityRank tasks candidate < priorityRank tasks best then (some candidate, queuedPriority tasks candidate)
      else (some best, queuedPriority tasks best) := by
  obtain ⟨task, found⟩ := Option.isSome_iff_exists.mp queued
  have own : task.spec.priority = queuedPriority tasks candidate := by simp [queuedPriority, found]
  simp only [preferredTask, found, own, priority_rank_lt, UInt32.lt_iff_toNat_lt]
  rcases Nat.lt_trichotomy (queuedPriority tasks candidate).toNat (queuedPriority tasks best).toNat with
    lower | same | higher
  · rw [if_pos (.inl lower), if_neg]
    rintro (higher | ⟨same, _⟩)
    · exact Nat.lt_asymm higher lower
    · simp [same] at lower
  · have equal := UInt32.toNat_inj.mp same
    simp only [equal, Nat.lt_irrefl, false_or, true_and]
    rcases Nat.lt_trichotomy candidate best with earlier | here | later
    · rw [if_neg (Nat.lt_asymm earlier), if_pos earlier]
    · simp [here]
    · rw [if_pos later, if_neg (Nat.lt_asymm later)]
  · rw [if_neg, if_pos (.inl higher)]
    rintro (lower | ⟨same, _⟩)
    · exact Nat.lt_asymm higher lower
    · simp [same] at higher

theorem preferred_fold_some (ids : List TaskId) (best : TaskId) :
    (ids.foldl (preferredTask tasks) (some best, queuedPriority tasks best)).1 =
      (ids.filter (isQueued tasks)).foldl
        (List.argAux fun a b => priorityRank tasks a < priorityRank tasks b) (some best) := by
  induction ids generalizing best with
  | nil => rfl
  | cons candidate rest ih =>
    rw [List.foldl_cons, List.filter_cons]
    by_cases queued : isQueued tasks candidate = true
    · rw [if_pos queued, List.foldl_cons, preferred_task_rank tasks best queued, List.argAux]
      dsimp only
      split
      · exact ih candidate
      · exact ih best
    · have absent : queuedRecord tasks candidate = none := by simpa [isQueued] using queued
      rw [if_neg queued]
      simpa only [preferredTask, absent] using ih best

theorem preferred_fold_argmin (ids : List TaskId) :
    (ids.foldl (preferredTask tasks) (none, 0)).1 = (ids.filter (isQueued tasks)).argmin (priorityRank tasks) := by
  induction ids with
  | nil => rfl
  | cons candidate rest ih =>
    rw [List.foldl_cons, List.filter_cons]
    cases found : queuedRecord tasks candidate with
    | none => simpa [preferredTask, isQueued, found] using ih
    | some task =>
      have own : task.spec.priority = queuedPriority tasks candidate := by simp [queuedPriority, found]
      simp only [preferredTask, found, own, isQueued, Option.isSome_some, if_true]
      exact preferred_fold_some tasks rest candidate

theorem is_queued_iff {id : TaskId} :
    isQueued tasks id = true ↔ ∃ task, tasks.lookup id = some task ∧ task.state = .queued := by
  simp [isQueued, Option.isSome_iff_exists, queued_record_iff]

theorem argmin_injective_iff {β : Type} [LinearOrder β] (rank : TaskId → β) (ids : List TaskId)
    (injective : ∀ a b, rank a = rank b → a = b) (best : TaskId) :
    ids.argmin rank = some best ↔ best ∈ ids ∧ ∀ other ∈ ids, rank best ≤ rank other := by
  rw [List.argmin_eq_some_iff]
  refine and_congr_right fun _ => ⟨fun least => least.1, fun least => ⟨least, ?_⟩⟩
  intro other mem notAbove
  exact Nat.le_of_eq (congrArg ids.idxOf (injective best other (le_antisymm (least other mem) notAbove)))

namespace Scheduler

variable {s : Scheduler}

section
variable (coh : Coherent s)
include coh

theorem mem_queued_deque_ids {id : TaskId} :
    id ∈ s.dequeIds.filter (isQueued s.tasks) ↔ isQueued s.tasks id = true := by
  rw [List.mem_filter, mem_deque_ids_iff coh, isQueued, Option.isSome_iff_exists, and_self]

theorem peek_fifo_iff (id : TaskId) :
    s.peekFifoTask = some id ↔ isQueued s.tasks id = true ∧ ∀ other, isQueued s.tasks other = true → id ≤ other := by
  rw [peekFifoTask, earlier_fold_argmin, argmin_injective_iff _ _ fun _ _ same => same]
  simp [mem_queued_deque_ids coh]

theorem peek_priority_iff (id : TaskId) :
    s.peekPriorityTask = some id ↔ isQueued s.tasks id = true ∧
      ∀ other, isQueued s.tasks other = true → priorityRank s.tasks id ≤ priorityRank s.tasks other := by
  rw [peekPriorityTask, preferred_fold_argmin, argmin_injective_iff _ _ (priority_rank_injective s.tasks)]
  simp [mem_queued_deque_ids coh]

theorem peek_fifo_none : s.peekFifoTask = none ↔ ∀ id, isQueued s.tasks id = false := by
  rw [peekFifoTask, earlier_fold_argmin, List.argmin_eq_none, List.eq_nil_iff_forall_not_mem]
  simp [mem_queued_deque_ids coh, Bool.not_eq_true]

theorem peek_priority_none : s.peekPriorityTask = none ↔ ∀ id, isQueued s.tasks id = false := by
  rw [peekPriorityTask, preferred_fold_argmin, List.argmin_eq_none, List.eq_nil_iff_forall_not_mem]
  simp [mem_queued_deque_ids coh, Bool.not_eq_true]

theorem peek_weighted_eq :
    s.peekWeightedRoundRobinTask = (s.tenantOrder.rotate s.tenantCursor).findSome? s.weightedOffer := by
  by_cases empty : s.tenantOrder = []
  · simp [peekWeightedRoundRobinTask, empty, peekWeightedFrom]
  · have inRange := cursor_in_range coh empty
    rw [peekWeightedRoundRobinTask, peek_weighted_scan s _ _ inRange, scan_full_turn inRange]

theorem peek_deficit_eq :
    s.peekDeficitRoundRobinTask = (s.tenantOrder.rotate s.tenantCursor).findSome? s.deficitOffer := by
  by_cases empty : s.tenantOrder = []
  · simp [peekDeficitRoundRobinTask, empty, peekDeficitFrom]
  · have inRange := cursor_in_range coh empty
    rw [peekDeficitRoundRobinTask, peek_deficit_scan s _ _ inRange, scan_full_turn inRange]

end

theorem take_full_turn {s : Scheduler} :
    (s.tenantOrder.rotate s.tenantCursor).take s.tenantOrder.length = s.tenantOrder.rotate s.tenantCursor :=
  List.take_of_length_le (by simp)

theorem take_peeked_first {peeked : Option TaskId}
    (queued : ∀ id, peeked = some id → isQueued s.tasks id = true) : (s.takePeekedTask peeked).1 = peeked := by
  cases peeked with
  | none => rfl
  | some id =>
    obtain ⟨task, found⟩ := Option.isSome_iff_exists.mp (queued id rfl)
    simp [takePeekedTask, found]

section
variable (coh : Coherent s)
include coh

theorem select_next_first : s.selectNextTask.1 = s.peekNextTask := by
  unfold selectNextTask peekNextTask
  cases s.policy with
  | fifo => exact take_peeked_first fun id peeked => ((peek_fifo_iff coh id).mp peeked).1
  | priority => exact take_peeked_first fun id peeked => ((peek_priority_iff coh id).mp peeked).1
  | weightedRoundRobin =>
    rw [selectWeightedRoundRobinTask, weighted_ring.first _ s coh (Nat.le_refl _), take_full_turn,
      peek_weighted_eq coh]
  | deficitRoundRobin =>
    rw [selectDeficitRoundRobinTask, deficit_ring.first _ s coh (Nat.le_refl _), take_full_turn,
      peek_deficit_eq coh]

theorem select_next_cases :
    (∃ t, s.selectNextTask = (none, t) ∧ Retuned s t) ∨
      ∃ id task t, s.selectNextTask = (some id, t) ∧ Taken s t id task := by
  have shared : ∀ peeked, (∃ t, s.takePeekedTask peeked = (none, t) ∧ Retuned s t) ∨
      ∃ id task t, s.takePeekedTask peeked = (some id, t) ∧ Taken s t id task := by
    intro peeked
    rcases take_peeked_cases coh peeked with ⟨same, _⟩ | ⟨id, task, after, _, selected, taken⟩
    · exact .inl ⟨s, same, retuned_refl coh⟩
    · exact .inr ⟨id, task, after, selected, taken⟩
  unfold selectNextTask
  cases s.policy with
  | fifo | priority => exact shared _
  | weightedRoundRobin => exact weighted_ring.cases s coh
  | deficitRoundRobin => exact deficit_ring.cases s coh

theorem peek_next_queued {id : TaskId} (peeked : s.peekNextTask = some id) : isQueued s.tasks id = true := by
  rw [← select_next_first coh] at peeked
  rcases select_next_cases coh with ⟨t, selected, _⟩ | ⟨other, task, t, selected, taken⟩
  · rw [selected] at peeked
    cases peeked
  · rw [selected] at peeked
    cases peeked
    exact (is_queued_iff _).mpr ⟨task, taken.found, taken.queued⟩

theorem peek_none_nothing (policy : s.policy ≠ .deficitRoundRobin)
    (nobody : s.peekNextTask = none) (id : TaskId) : isQueued s.tasks id = false := by
  unfold peekNextTask at nobody
  cases kind : s.policy with
  | deficitRoundRobin => exact absurd kind policy
  | fifo =>
    rw [kind] at nobody
    exact (peek_fifo_none coh).mp nobody id
  | priority =>
    rw [kind] at nobody
    exact (peek_priority_none coh).mp nobody id
  | weightedRoundRobin =>
    rw [kind] at nobody
    rw [peek_weighted_eq coh, List.findSome?_eq_none_iff] at nobody
    by_contra waiting
    obtain ⟨task, found, queued⟩ := (is_queued_iff _).mp (Bool.not_eq_false _ ▸ waiting)
    obtain ⟨ids, deque, mem⟩ := coh.placed id task found queued
    have listed := (coh.orderKeys _).mpr (coh.tenantKnown id task found)
    have silent := nobody task.spec.tenantId (List.mem_rotate.mpr listed)
    cases ids with
    | nil => cases mem
    | cons first rest => cases silent.symm.trans ((weighted_offer_iff coh first).mpr ⟨rest, deque⟩)

end

end Scheduler

end Glimmer.Core
