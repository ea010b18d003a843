import Mathlib.Logic.Function.Basic

namespace Glimmer.Lib

variable {σ τ κ : Type} [DecidableEq κ]

-- A thread's position in the wait protocol of a generation counter: read the counter, attempt, compare the counter
-- again, sleep until it moves. A thread whose attempt changed the shared state owes one increment.
inductive WaitPhase (τ : Type) where
  | idle
  | notifying
  | attempting (ticket : τ) (observed : Nat)
  | rechecking (ticket : τ) (observed : Nat)
  | asleep (ticket : τ) (observed : Nat)
deriving DecidableEq

structure Threads (σ τ κ : Type) where
  shared : σ
  phase : κ → WaitPhase τ

def Threads.move (sys : Threads σ τ κ) (thread : κ) (next : WaitPhase τ) (shared : σ) : Threads σ τ κ where
  shared := shared
  phase := Function.update sys.phase thread next

namespace WaitPhase

inductive Parked (ticket : τ) (observed : Nat) : WaitPhase τ → Prop where
  | rechecking : Parked ticket observed (.rechecking ticket observed)
  | asleep : Parked ticket observed (.asleep ticket observed)

inductive Observes (observed : Nat) : WaitPhase τ → Prop where
  | attempting (ticket : τ) : Observes observed (.attempting ticket observed)
  | parked (ticket : τ) {phase : WaitPhase τ} (parked : Parked ticket observed phase) : Observes observed phase

end WaitPhase

open WaitPhase

variable (generation : σ → Nat) (ready : σ → τ → Prop)

def Announced (sys : Threads σ τ κ) : Prop := ∃ thread, sys.phase thread = .notifying

-- Nobody has read a generation that is still to come, and whoever is parked at
-- the current one waits for something not ready or for an owed increment.
structure Attended (sys : Threads σ τ κ) : Prop where
  past : ∀ thread observed, Observes observed (sys.phase thread) → observed ≤ generation sys.shared
  covered : ∀ thread ticket, Parked ticket (generation sys.shared) (sys.phase thread) →
    ¬ ready sys.shared ticket ∨ Announced sys

-- Why a change of the shared state cannot strand the other threads.
inductive Heard (sys : Threads σ τ κ) (thread : κ) (next : WaitPhase τ) (shared : σ) : Prop where
  | owed (notifying : next = .notifying)
  | moved (later : generation sys.shared < generation shared)
  | quiet (kept : sys.phase thread ≠ .notifying) (same : ∀ other ticket observed, other ≠ thread →
      Parked ticket observed (sys.phase other) → ready shared ticket → ready sys.shared ticket)

variable {generation ready} {sys : Threads σ τ κ} {thread : κ} {next : WaitPhase τ} {shared : σ}

theorem announced_moved (announced : Announced sys) (kept : sys.phase thread ≠ .notifying) :
    Announced (sys.move thread next shared) := by
  obtain ⟨other, owes⟩ := announced
  have ne : other ≠ thread := fun same => kept (same ▸ owes)
  exact ⟨other, by simpa only [Threads.move, Function.update_of_ne ne] using owes⟩

section
variable (attended : Attended generation ready sys) (monotone : generation sys.shared ≤ generation shared)
include attended monotone

theorem attended_moved (past : ∀ observed, Observes observed next → observed ≤ generation shared)
    (unready : ∀ ticket, Parked ticket (generation shared) next →
      ¬ ready shared ticket ∨ Announced (sys.move thread next shared))
    (heard : Heard generation ready sys thread next shared) :
    Attended generation ready (sys.move thread next shared) := by
  constructor
  · intro other observed observes
    by_cases here : other = thread
    · subst here
      exact past observed (by simpa [Threads.move] using observes)
    · simp only [Threads.move, Function.update_of_ne here] at observes
      exact Nat.le_trans (attended.past other observed observes) monotone
  intro other ticket parked
  by_cases here : other = thread
  · subst here
    exact unready ticket (by simpa [Threads.move] using parked)
  simp only [Threads.move, Function.update_of_ne here] at parked
  have before := attended.past other _ (.parked ticket parked)
  cases heard with
  | owed notifying => exact .inr ⟨thread, by simp [Threads.move, notifying]⟩
  | moved later => omega
  | quiet kept same =>
    rw [Nat.le_antisymm before monotone] at parked
    have still := same other ticket _ here parked
    rcases attended.covered other ticket parked with waiting | announced
    · exact .inl fun ready => waiting (still ready)
    · exact .inr (announced_moved announced kept)

theorem attended_silent_move (silent : ∀ observed, ¬ Observes observed next)
    (heard : Heard generation ready sys thread next shared) : Attended generation ready (sys.move thread next shared) :=
  attended_moved attended monotone (fun observed observes => absurd observes (silent observed))
    (fun ticket parked => absurd (.parked ticket parked) (silent _)) heard

end

theorem observes_idle (observed : Nat) : ¬ Observes observed (.idle : WaitPhase τ) := by
  rintro (_ | ⟨_, _, _⟩)

theorem observes_notifying (observed : Nat) : ¬ Observes observed (.notifying : WaitPhase τ) := by
  rintro (_ | ⟨_, _, _⟩)

end Glimmer.Lib
