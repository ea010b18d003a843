import Mathlib.Data.List.Infix

namespace Glimmer.Lib

variable {σ ε : Type}

-- A run of a labelled step relation, with the number of its steps and the events they emit.
inductive Run (step : σ → List ε → σ → Prop) : σ → Nat → List ε → σ → Prop where
  | nil (state : σ) : Run step state 0 [] state
  | cons {first second last : σ} {emitted events : List ε} {length : Nat} (head : step first emitted second)
      (tail : Run step second length events last) : Run step first (length + 1) (emitted ++ events) last

-- The two runs cannot be told apart by what they emit: one has emitted a part
-- of what the other has, and all of it if both are final.
structure Aligned (final : σ → Prop) (here there : List ε) (first second : σ) : Prop where
  comparable : here <+: there ∨ there <+: here
  complete : final first → final second → here = there

variable {final : σ → Prop} {here there : List ε} {first second : σ}

theorem aligned_silent_left (running : ¬ final first) : Aligned final [] there first second :=
  ⟨.inl List.nil_prefix, fun finished => absurd finished running⟩

theorem aligned_silent_right (running : ¬ final second) : Aligned final here [] first second :=
  ⟨.inr List.nil_prefix, fun _ finished => absurd finished running⟩

theorem aligned_append (emitted : List ε)
    (aligned : Aligned final here there first second) :
    Aligned final (emitted ++ here) (emitted ++ there) first second := by
  refine ⟨aligned.comparable.imp ?_ ?_, fun finished done => by rw [aligned.complete finished done]⟩
  · exact fun isPrefix => (List.prefix_append_right_inj emitted).mpr isPrefix
  · exact fun isPrefix => (List.prefix_append_right_inj emitted).mpr isPrefix

-- One of the two runs has not emitted anything, or both ended alike, or both came to another such pair.
inductive Meets (step : σ → List ε → σ → Prop) (final : σ → Prop) (sync : σ → σ → Prop) (length : Nat)
    (here there : List ε) (first second : σ) : Prop where
  | left (silent : here = []) (running : ¬ final first)
  | right (silent : there = []) (running : ¬ final second)
  | ended (same : here = there)
  | again (emitted before after : List ε) (left right : σ) (shorter more : Nat) (synced : sync left right)
      (run : Run step left shorter before first) (other : Run step right more after second)
      (less : shorter + more < length) (events : here = emitted ++ before) (others : there = emitted ++ after)

theorem lockstep_aligned {step : σ → List ε → σ → Prop} {sync : σ → σ → Prop}
    (meets : ∀ left right first second shorter more here there, sync left right → Run step left shorter here first →
      Run step right more there second → Meets step final sync (shorter + more) here there first second)
    {left right : σ} {shorter more : Nat} (synced : sync left right)
    (run : Run step left shorter here first) (other : Run step right more there second) :
    Aligned final here there first second := by
  induction total : shorter + more using Nat.strong_induction_on generalizing left right shorter more here there with
  | _ total ih =>
    rcases meets left right first second shorter more here there synced run other with
      ⟨silent, running⟩ | ⟨silent, running⟩ | same | ⟨emitted, before, after, left, right, less, least, again, front,
        back, smaller, events, others⟩
    · subst silent
      exact aligned_silent_left running
    · subst silent
      exact aligned_silent_right running
    · subst same
      exact ⟨.inl (List.prefix_refl _), fun _ _ => rfl⟩
    · subst events others
      exact aligned_append emitted (ih (less + least) (by omega) again front back rfl)

end Glimmer.Lib
