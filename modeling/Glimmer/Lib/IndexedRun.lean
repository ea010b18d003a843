import Mathlib.Data.List.Basic

namespace Glimmer.Lib

variable {σ ε : Type}

def stateAt (step : σ → ε → σ) (start : σ) (events : List ε) (time : Nat) : σ :=
  (events.take time).foldl step start

variable (step : σ → ε → σ) (start : σ) (events : List ε)

theorem state_at_succ {time : Nat} {event : ε} (here : events[time]? = some event) :
    stateAt step start events (time + 1) = step (stateAt step start events time) event := by
  unfold stateAt
  rw [List.take_add_one, here]
  simp

theorem state_at_invariant {keeps : Nat → σ → Prop} (initial : keeps 0 start)
    (preserved : ∀ time event, events[time]? = some event → keeps time (stateAt step start events time) →
      keeps (time + 1) (step (stateAt step start events time) event))
    {time : Nat} (within : time ≤ events.length) : keeps time (stateAt step start events time) := by
  induction time with
  | zero => exact initial
  | succ time ih =>
    have here := List.getElem?_eq_getElem (Nat.lt_of_succ_le within)
    rw [state_at_succ step start events here]
    exact preserved time _ here (ih (Nat.le_of_succ_le within))

end Glimmer.Lib
