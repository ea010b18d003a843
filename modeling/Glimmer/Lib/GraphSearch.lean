import Mathlib.Algebra.BigOperators.Group.List.Basic
import Mathlib.Tactic.Linarith

namespace Glimmer.Lib

variable {ν : Type} [DecidableEq ν]

inductive Search (ν : Type) where
  | refused
  | hit (work : Nat)
  | done (visited : List ν) (work : Nat)

-- Depth-first search with an explicit stack whose top is the head of pending.
-- Every visit is charged to a budget; the fuel bounds the number of pops.
def explore (successors : ν → List ν) (stop hit : ν → Bool) (cost : ν → Nat) (limit : Nat) :
    Nat → List ν → List ν → Nat → Search ν
  | _, [], visited, work => .done visited work
  | 0, _ :: _, _, _ => .refused
  | fuel + 1, node :: pending, visited, work =>
    if stop node ∨ node ∈ visited then explore successors stop hit cost limit fuel pending visited work
    else if hit node then .hit work
    else if cost node > limit - work then .refused
    else explore successors stop hit cost limit fuel ((successors node).reverse ++ pending) (visited ++ [node])
      (work + cost node)

-- A search that nobody charges for, with a pop for every stacked node and edge.
def search (successors : ν → List ν) (stop hit : ν → Bool) (nodes pending : List ν) : Search ν :=
  explore successors stop hit (fun _ => 0) 0
    (pending.length + (nodes.map fun node => (successors node).length).sum) pending
    [] 0

variable {successors : ν → List ν} {stop hit : ν → Bool} {cost : ν → Nat} {limit : Nat}

-- What a finished search has seen: everything asked for, and everything that
-- follows from what it visited, up to the nodes it stops at.
structure Explored (successors : ν → List ν) (stop hit : ν → Bool) (pending before after : List ν) : Prop where
  kept : ∀ node ∈ before, node ∈ after
  asked : ∀ node ∈ pending, stop node = true ∨ node ∈ after
  closed : ∀ node ∈ after, node ∈ before ∨ stop node = false ∧ hit node = false ∧
    ∀ next ∈ successors node, stop next = true ∨ next ∈ after

theorem explore_done (fuel : Nat) (pending before after : List ν) (work spent : Nat)
    (finished : explore successors stop hit cost limit fuel pending before work = .done after spent) :
    Explored successors stop hit pending before after := by
  induction fuel generalizing pending before work with
  | zero =>
    cases pending with
    | nil =>
      simp only [explore, Search.done.injEq] at finished
      exact ⟨fun _ => finished.1 ▸ id, by simp, fun _ known => .inl (finished.1 ▸ known)⟩
    | cons node pending => simp [explore] at finished
  | succ fuel ih =>
    cases pending with
    | nil =>
      simp only [explore, Search.done.injEq] at finished
      exact ⟨fun _ => finished.1 ▸ id, by simp, fun _ known => .inl (finished.1 ▸ known)⟩
    | cons node pending =>
      simp only [explore] at finished
      split at finished
      · next skipped =>
        obtain ⟨kept, asked, closed⟩ := ih pending before work finished
        refine ⟨kept, fun other mem => ?_, closed⟩
        rcases List.mem_cons.mp mem with same | later
        · exact same ▸ skipped.imp_right (kept node)
        · exact asked other later
      next fresh =>
      split at finished
      · cases finished
      next missed =>
      split at finished
      · cases finished
      obtain ⟨kept, asked, closed⟩ := ih _ _ _ finished
      rw [not_or, Bool.not_eq_true] at fresh
      have visited : node ∈ after := kept node (by simp)
      refine ⟨fun other known => kept other (List.mem_append_left _ known), fun other mem => ?_,
        fun other known => ?_⟩
      · rcases List.mem_cons.mp mem with same | later
        · exact .inr (same ▸ visited)
        · exact asked other (List.mem_append_right _ later)
      rcases closed other known with old | rest
      · rcases List.mem_append.mp old with before | here
        · exact .inl before
        · rw [List.mem_singleton] at here
          subst here
          refine .inr ⟨fresh.1, by simpa using missed, fun next edge => asked next ?_⟩
          exact List.mem_append_left _ (List.mem_reverse.mpr edge)
      · exact .inr rest

inductive Reaches (successors : ν → List ν) (stop : ν → Bool) (sources : List ν) : ν → Prop where
  | source (node : ν) (mem : node ∈ sources) (free : stop node = false) : Reaches successors stop sources node
  | edge (node next : ν) (before : Reaches successors stop sources node) (edge : next ∈ successors node)
      (free : stop next = false) : Reaches successors stop sources next

omit [DecidableEq ν] in
theorem explored_reaches {pending after : List ν} (explored : Explored successors stop hit pending [] after) {node : ν}
    (reached : Reaches successors stop pending node) : hit node = false := by
  have mem : node ∈ after := by
    induction reached with
    | source node mem free => exact (explored.asked node mem).resolve_left (by simp [free])
    | edge node next _ edge free ih =>
      rcases explored.closed node ih with before | ⟨_, _, closed⟩
      · cases before
      · exact (closed next edge).resolve_left (by simp [free])
  rcases explored.closed node mem with before | ⟨_, missed, _⟩
  · cases before
  · exact missed

theorem explore_hit (fuel : Nat) (sources pending visited : List ν) (work spent : Nat)
    (asked : ∀ node ∈ pending, stop node = false → Reaches successors stop sources node)
    (found : explore successors stop hit cost limit fuel pending visited work = .hit spent) :
    ∃ node, Reaches successors stop sources node ∧ hit node = true := by
  induction fuel generalizing pending visited work with
  | zero => cases pending <;> simp [explore] at found
  | succ fuel ih =>
    cases pending with
    | nil => simp [explore] at found
    | cons node pending =>
      simp only [explore] at found
      split at found
      · exact ih pending visited work (fun other later => asked other (List.mem_cons_of_mem _ later)) found
      next fresh =>
      rw [not_or, Bool.not_eq_true] at fresh
      have reached := asked node (by simp) fresh.1
      split at found
      · next hits => exact ⟨node, reached, hits⟩
      split at found
      · cases found
      refine ih _ _ _ (fun other mem free => ?_) found
      rcases List.mem_append.mp mem with edge | later
      · exact .edge node other reached (List.mem_reverse.mp edge) free
      · exact asked other (List.mem_cons_of_mem _ later) free

-- The pops that are left: the stack, and the edges of what is not yet visited.
def popsLeft (successors : ν → List ν) (nodes pending visited : List ν) : Nat :=
  pending.length + ((nodes.filter fun node => node ∉ visited).map fun node => (successors node).length).sum

theorem pops_left_visit (successors : ν → List ν) {nodes : List ν} (pending : List ν) {visited : List ν} {node : ν}
    (distinct : nodes.Nodup) (known : node ∈ nodes) (fresh : node ∉ visited) :
    popsLeft successors nodes ((successors node).reverse ++ pending) (visited ++ [node]) + 1 =
      popsLeft successors nodes (node :: pending) visited := by
  have unvisited : (nodes.filter fun other => other ∉ visited ++ [node]) =
      (nodes.filter fun other => other ∉ visited).erase node := by
    rw [List.Nodup.erase_eq_filter (distinct.filter _), List.filter_filter]
    refine List.filter_congr fun other _ => ?_
    by_cases same : other = node
    · simp [same]
    · simp [same, bne]
  have mem : node ∈ nodes.filter fun other => other ∉ visited := by simp [known, fresh]
  have sum := List.sum_map_erase (fun other => (successors other).length) mem
  simp only [popsLeft, unvisited, List.length_append, List.length_reverse, List.length_cons]
  omega

theorem explore_free_enough (nodes : List ν) (distinct : nodes.Nodup)
    (inside : ∀ node ∈ nodes, ∀ next ∈ successors node, next ∈ nodes)
    (fuel : Nat) (pending visited : List ν) (known : ∀ node ∈ pending, node ∈ nodes)
    (enough : popsLeft successors nodes pending visited ≤ fuel) :
    explore successors stop hit (fun _ => 0) 0 fuel pending visited 0 ≠ .refused := by
  induction fuel generalizing pending visited with
  | zero =>
    cases pending with
    | nil => simp [explore]
    | cons node pending => simp [popsLeft] at enough
  | succ fuel ih =>
    cases pending with
    | nil => simp [explore]
    | cons node pending =>
      simp only [explore]
      split
      · refine ih pending visited (fun other later => known other (List.mem_cons_of_mem _ later)) ?_
        simp only [popsLeft, List.length_cons] at enough ⊢
        omega
      next fresh =>
      rw [not_or] at fresh
      have here := known node (by simp)
      have paid := pops_left_visit successors pending distinct here fresh.2
      split
      · simp
      rw [if_neg (by simp)]
      refine ih _ _ (fun other mem => ?_) (by omega)
      rcases List.mem_append.mp mem with edge | later
      · exact inside node here other (List.mem_reverse.mp edge)
      · exact known other (List.mem_cons_of_mem _ later)

variable {nodes pending : List ν} (distinct : nodes.Nodup)
  (inside : ∀ node ∈ nodes, ∀ next ∈ successors node, next ∈ nodes)
  (known : ∀ node ∈ pending, node ∈ nodes)

include distinct inside known

theorem search_not_refused : search successors stop hit nodes pending ≠ .refused :=
  explore_free_enough nodes distinct inside _ pending [] known (by simp [popsLeft])

theorem search_hit_iff : (∃ work, search successors stop hit nodes pending = .hit work) ↔
    ∃ node, Reaches successors stop pending node ∧ hit node = true := by
  constructor
  · rintro ⟨work, found⟩
    exact explore_hit _ pending pending [] 0 work .source found
  rintro ⟨node, reached, hits⟩
  cases outcome : search successors stop hit nodes pending with
  | hit work => exact ⟨work, rfl⟩
  | refused => exact absurd outcome (search_not_refused distinct inside known)
  | done visited work =>
    have missed := explored_reaches (explore_done _ _ _ _ _ _ outcome) reached
    rw [hits] at missed
    cases missed

theorem search_finishes (never : ∀ node, hit node = false) : ∃ visited work,
    search successors stop hit nodes pending = .done visited work ∧ Explored successors stop hit pending [] visited := by
  cases outcome : search successors stop hit nodes pending with
  | hit work =>
    obtain ⟨node, _, hits⟩ := (search_hit_iff distinct inside known).mp ⟨work, outcome⟩
    rw [never] at hits
    cases hits
  | refused => exact absurd outcome (search_not_refused distinct inside known)
  | done visited work => exact ⟨visited, work, rfl, explore_done _ _ _ _ _ _ outcome⟩

end Glimmer.Lib
