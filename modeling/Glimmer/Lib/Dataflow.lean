import Mathlib.Logic.Function.Basic

namespace Glimmer.Lib

variable {ν σ : Type} [DecidableEq ν] [DecidableEq σ]

-- A forward problem: what a node leaves behind, given what every node has left behind so far.
structure Dataflow (ν σ : Type) where
  successors : ν → List ν
  transfer : ν → (ν → σ) → σ
  cost : ν → Nat

def requeue (nodes pending : List ν) : List ν :=
  nodes.foldl (fun queue node => if node ∈ queue then queue else node :: queue) pending

theorem mem_requeue (nodes pending : List ν) (node : ν) :
    node ∈ requeue nodes pending ↔ node ∈ nodes ∨ node ∈ pending := by
  induction nodes generalizing pending with
  | nil => simp [requeue]
  | cons first rest ih =>
    have step : node ∈ requeue (first :: rest) pending ↔
        node ∈ rest ∨ node ∈ (if first ∈ pending then pending else first :: pending) := ih _
    rw [step]
    split
    · next queued =>
      constructor
      · rintro (later | old)
        · exact .inl (List.mem_cons_of_mem _ later)
        · exact .inr old
      · rintro (mem | old)
        · rcases List.mem_cons.mp mem with same | later
          · exact .inr (same ▸ queued)
          · exact .inl later
        · exact .inr old
    · rw [List.mem_cons, List.mem_cons, or_left_comm, or_assoc]

namespace Dataflow

-- Worklist iteration; the head of pending is the next node. Evaluations and
-- work are both bounded, and running out of either refuses the problem.
def settle (flow : Dataflow ν σ) (limit : Nat) : Nat → List ν → (ν → σ) → Nat → Option ((ν → σ) × Nat × Nat)
  | evaluations, [], outputs, work => some (outputs, evaluations, work)
  | 0, _ :: _, _, _ => none
  | evaluations + 1, node :: pending, outputs, work =>
    if flow.cost node > limit - work then none
    else
      let state := flow.transfer node outputs
      if state = outputs node then flow.settle limit evaluations pending outputs (work + flow.cost node)
      else
        flow.settle limit evaluations (requeue (flow.successors node) pending) (Function.update outputs node state)
          (work + flow.cost node)

-- A node reads only what its predecessors have left behind.
def Local (flow : Dataflow ν σ) : Prop :=
  ∀ node (before after : ν → σ), (∀ other, node ∈ flow.successors other → after other = before other) →
    flow.transfer node after = flow.transfer node before

structure Unsettled (flow : Dataflow ν σ) (nodes : ν → Prop) (pending : List ν) (outputs : ν → σ) : Prop where
  settled : ∀ node, nodes node → node ∈ pending ∨ outputs node = flow.transfer node outputs

omit [DecidableEq σ] in
theorem update_unsettled {flow : Dataflow ν σ} (reads : flow.Local) {nodes : ν → Prop} {node : ν} {pending : List ν}
    {outputs : ν → σ} (before : flow.Unsettled nodes (node :: pending) outputs) :
    flow.Unsettled nodes (requeue (flow.successors node) pending)
      (Function.update outputs node (flow.transfer node outputs)) := by
  refine ⟨fun other known => ?_⟩
  rw [mem_requeue]
  by_cases follows : other ∈ flow.successors node
  · exact .inl (.inl follows)
  have same : flow.transfer other (Function.update outputs node (flow.transfer node outputs)) =
    flow.transfer other outputs := by
    refine reads other outputs _ fun source edge => Function.update_of_ne ?_ _ _
    rintro rfl
    exact follows edge
  rw [same]
  by_cases here : other = node
  · subst here
    exact .inr (Function.update_self _ _ _)
  rw [Function.update_of_ne here]
  rcases before.settled other known with queued | done
  · exact .inl (.inr ((List.mem_cons.mp queued).resolve_left here))
  · exact .inr done

theorem settle_solves {flow : Dataflow ν σ} (reads : flow.Local) (limit : Nat) (nodes : ν → Prop) (evaluations : Nat)
    (pending : List ν) (outputs final : ν → σ) (work left spent : Nat) (before : flow.Unsettled nodes pending outputs)
    (finished : flow.settle limit evaluations pending outputs work = some (final, left, spent)) :
    ∀ node, nodes node → final node = flow.transfer node final := by
  induction evaluations generalizing pending outputs work with
  | zero =>
    cases pending with
    | nil =>
      obtain ⟨rfl, _⟩ := finished
      exact fun node known => (before.settled node known).resolve_left (by simp)
    | cons node pending => simp [settle] at finished
  | succ evaluations ih =>
    cases pending with
    | nil =>
      obtain ⟨rfl, _⟩ := finished
      exact fun node known => (before.settled node known).resolve_left (by simp)
    | cons node pending =>
      simp only [settle] at finished
      split at finished
      · cases finished
      split at finished
      · next same =>
        refine ih pending outputs _ ⟨fun other known => ?_⟩ finished
        rcases before.settled other known with queued | done
        · rcases List.mem_cons.mp queued with here | later
          · exact .inr (here ▸ same.symm)
          · exact .inl later
        · exact .inr done
      · exact ih _ _ _ (update_unsettled reads before) finished

end Dataflow

end Glimmer.Lib
