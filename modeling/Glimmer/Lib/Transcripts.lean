import Mathlib.Data.List.Nodup

namespace Glimmer.Lib

section Machine
variable {σ ε α : Type} (serve : σ → ε → α × σ)

def stateAfter (state : σ) (calls : List ε) : σ := calls.foldl (fun current call => (serve current call).2) state

def transcript : σ → List ε → List (ε × α)
  | _, [] => []
  | state, call :: rest => (call, (serve state call).1) :: transcript (serve state call).2 rest

theorem transcript_invariant (keeps : σ → List (ε × α) → Prop)
    (preserved : ∀ state history call, keeps state history →
      keeps (serve state call).2 (history ++ [(call, (serve state call).1)]))
    {state : σ} (history : List (ε × α)) (initial : keeps state history) (calls : List ε) :
    keeps (stateAfter serve state calls) (history ++ transcript serve state calls) := by
  induction calls generalizing state history with
  | nil => exact (List.append_nil history).symm ▸ initial
  | cons call rest ih =>
    have reached := ih _ (preserved state history call initial)
    rw [List.append_assoc] at reached
    exact reached

end Machine

variable {α β : Type} {f : α → Option β} {list : List α} {item last : α}

theorem mem_snoc : item ∈ list ++ [last] ↔ item ∈ list ∨ item = last := by
  rw [List.mem_append, List.mem_singleton]

theorem nodup_snoc (distinct : list.Nodup) (fresh : last ∉ list) : (list ++ [last]).Nodup := by
  rw [← List.concat_eq_append]
  exact List.Nodup.concat fresh distinct

theorem filter_map_snoc : (list ++ [last]).filterMap f = list.filterMap f ++ (f last).toList := by
  rw [List.filterMap_append]
  cases taken : f last with
  | none => rw [List.filterMap_cons_none taken, List.filterMap_nil, Option.toList_none]
  | some value => rw [List.filterMap_cons_some taken, List.filterMap_nil, Option.toList_some]

theorem filter_map_snoc_none (silent : f last = none) : (list ++ [last]).filterMap f = list.filterMap f := by
  rw [filter_map_snoc, silent, Option.toList_none, List.append_nil]

end Glimmer.Lib
