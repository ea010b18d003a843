import Mathlib.Data.List.Basic

namespace Glimmer.Lib

variable {α β σ : Type} {entries : List α}

theorem mapM_some_entry {compute : α → Option β} {results : List β}
    (mapped : entries.mapM compute = some results) {index : Nat} {entry : α} (here : entries[index]? = some entry) :
    ∃ result, results[index]? = some result ∧ compute entry = some result := by
  induction entries generalizing results index with
  | nil => simp at here
  | cons first rest ih =>
    rw [List.mapM_cons] at mapped
    obtain ⟨head, computed, mapped⟩ := Option.bind_eq_some_iff.mp mapped
    obtain ⟨tail, traversed, same⟩ := Option.bind_eq_some_iff.mp mapped
    cases same
    cases index with
    | zero =>
      cases here
      exact ⟨head, rfl, computed⟩
    | succ index => exact ih traversed here

theorem foldlM_some_invariant {step : σ → α → Option σ} {start last : σ} (keeps : σ → Prop)
    (folded : entries.foldlM step start = some last) (initial : keeps start)
    (preserved : ∀ state entry next, entry ∈ entries → keeps state → step state entry = some next → keeps next) :
    keeps last := by
  induction entries generalizing start with
  | nil =>
    cases folded
    exact initial
  | cons first rest ih =>
    obtain ⟨next, stepped, folded⟩ := Option.bind_eq_some_iff.mp folded
    refine ih folded (preserved start first next (by simp) initial stepped) fun state entry after mem => ?_
    exact preserved state entry after (List.mem_cons_of_mem _ mem)

end Glimmer.Lib
