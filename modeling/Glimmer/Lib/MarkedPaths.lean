import Mathlib.Data.List.Chain
import Mathlib.Data.List.Sort

namespace Glimmer.Lib

open Relation

variable {ν : Type} (edge : ν → ν → Prop) (mark : ν → Bool) (final : ν → Prop) (root : ν)

structure Walk (path : List ν) : Prop where
  chained : path.IsChain edge
  rooted : ∀ node, path.head? = some node → node = root

-- No marked node lies on a cycle, and none is missed on the way to a final one.
structure Dominating : Prop where
  acyclic : ∀ node, mark node = true → ¬ TransGen edge node node
  met : ∀ node path last, mark node = true → Walk edge root path → path.getLast? = some last → final last →
    node ∈ path

variable {edge mark final root} {front path : List ν}

theorem walk_take {back : List ν} (walk : Walk edge root (front ++ back)) : Walk edge root front := by
  refine ⟨walk.chained.left_of_append, fun node head => walk.rooted node ?_⟩
  cases front with
  | nil => cases head
  | cons first rest => exact head

theorem walk_reroute {other rest : List ν} {node : ν} {tail : List ν} (here : Walk edge root (front ++ node :: tail))
    (there : Walk edge root (other ++ node :: rest)) : Walk edge root (front ++ node :: rest) := by
  have step := List.isChain_append.mp here.chained
  refine ⟨List.isChain_append.mpr ⟨step.1, there.chained.right_of_append, step.2.2⟩,
    fun first head => here.rooted first ?_⟩
  cases front with
  | nil => exact head
  | cons first rest => exact head

theorem walk_pairwise (walk : Walk edge root path) : path.Pairwise (TransGen edge) :=
  List.isChain_iff_pairwise.mp (walk.chained.imp fun _ _ => TransGen.single)

theorem marks_ordered (walk : Walk edge root path) : (path.filter mark).Pairwise (TransGen edge) :=
  (walk_pairwise walk).filter _

variable (dominating : Dominating edge mark final root)
include dominating

theorem marks_distinct (walk : Walk edge root path) : (path.filter mark).Nodup := by
  refine (marks_ordered walk).imp_of_mem fun {first second} here _ related same => ?_
  subst same
  exact dominating.acyclic first (List.mem_filter.mp here).2 related

variable {here there : List ν} {goal : ν}

theorem final_marks_eq {last : ν}
    (walk : Walk edge root here) (other : Walk edge root there) (ends : here.getLast? = some last) (finishes : final last)
    (stops : there.getLast? = some goal) (done : final goal) : here.filter mark = there.filter mark := by
  have same : (here.filter mark).Perm (there.filter mark) := by
    refine (List.perm_ext_iff_of_nodup (marks_distinct dominating walk)
      (marks_distinct dominating other)).mpr fun node => ?_
    rw [List.mem_filter, List.mem_filter]
    exact ⟨fun seen => ⟨dominating.met node there goal seen.2 other stops done, seen.2⟩,
      fun seen => ⟨dominating.met node here last seen.2 walk ends finishes, seen.2⟩⟩
  refine same.eq_of_pairwise (fun first second mem _ before after => ?_) (marks_ordered walk) (marks_ordered other)
  exact absurd (before.trans after) (dominating.acyclic first (List.mem_filter.mp mem).2)

theorem walk_marks_begin (walk : Walk edge root here) (other : Walk edge root there)
    (stops : there.getLast? = some goal) (done : final goal) : here.filter mark <+: there.filter mark := by
  induction here using List.reverseRecOn with
  | nil => exact List.nil_prefix
  | append_singleton front node ih =>
    by_cases marked : mark node = true
    · obtain ⟨before, after, split⟩ := List.append_of_mem (dominating.met node there goal marked other stops done)
      subst split
      have rerouted : Walk edge root (front ++ node :: after) := walk_reroute walk other
      have finishes : (front ++ node :: after).getLast? = some goal := by
        rw [List.getLast?_append_of_ne_nil _ (by simp)] at stops ⊢
        exact stops
      rw [← final_marks_eq dominating rerouted other finishes done stops done, List.append_cons front node after]
      exact (List.prefix_append (front ++ [node]) after).filter mark
    · rw [List.filter_append, List.filter_cons_of_neg marked, List.filter_nil, List.append_nil]
      exact ih (walk_take walk)

theorem walk_marks_comparable {first second : List ν} (walk : Walk edge root first)
    (other : Walk edge root second) (full : Walk edge root there) (stops : there.getLast? = some goal)
    (done : final goal) : first.filter mark <+: second.filter mark ∨ second.filter mark <+: first.filter mark :=
  List.prefix_or_prefix_of_prefix (walk_marks_begin dominating walk full stops done)
    (walk_marks_begin dominating other full stops done)

end Glimmer.Lib
