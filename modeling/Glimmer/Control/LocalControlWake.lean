import Glimmer.Lib.OptionFold

namespace Glimmer.Control

open Lib

-- notify sends between its exchange and its return; an interrupted send is tried once more.
inductive ProducerPhase where
  | idle
  | sending (attempt : Nat)
deriving DecidableEq

-- wait_until consumes before it blocks in ppoll, and again when ppoll has reported the wake socket readable.
inductive ConsumerPhase where
  | idle
  | receiving (polled : Bool)
  | rearming
  | blocked
deriving DecidableEq

inductive PollResult where
  | ready
  | due
  | interrupted
deriving DecidableEq

inductive WakeEvent (Producer : Type) where
  | exchange (thread : Producer)
  | send (thread : Producer) (interrupted : Bool)
  | waitUntil
  | receive (interrupted : Bool)
  | rearm
  | poll (result : PollResult)
deriving DecidableEq

-- Without I/O errors has_error_ stays false, and the socket holds wake bytes only.
structure LocalControlWake (Producer : Type) where
  hasPendingWake : Bool := false
  unread : Nat := 0
  producer : Producer → ProducerPhase := fun _ => .idle
  consumer : ConsumerPhase := .idle

namespace LocalControlWake

variable {Producer : Type} [DecidableEq Producer] (capacity : Nat) (w : LocalControlWake Producer)

def exchange (thread : Producer) : Option (LocalControlWake Producer) :=
  if w.producer thread ≠ .idle then none
  else some (if w.hasPendingWake then w
    else { w with hasPendingWake := true, producer := Function.update w.producer thread (.sending 0) })

-- A full socket refuses the byte and notify returns true all the same; a second interruption is an I/O error.
def send (thread : Producer) (interrupted : Bool) : Option (LocalControlWake Producer) :=
  match w.producer thread with
  | .idle => none
  | .sending attempt =>
    if interrupted then
      if attempt = 0 then some { w with producer := Function.update w.producer thread (.sending 1) } else none
    else some { w with
      producer := Function.update w.producer thread .idle
      unread := if w.unread < capacity then w.unread + 1 else w.unread }

def receive (interrupted : Bool) : Option (LocalControlWake Producer) :=
  match w.consumer with
  | .receiving polled =>
    if interrupted then some { w with consumer := .idle }
    else if w.unread = 0 then some { w with consumer := if polled then .idle else .blocked }
    else some { w with unread := w.unread - min w.unread 64, consumer := .rearming }
  | _ => none

-- A result without POLLIN on the wake socket ends the wait; ppoll is never due while the socket is readable.
def poll (result : PollResult) : Option (LocalControlWake Producer) :=
  if w.consumer ≠ .blocked ∨ (result = .due ∧ w.unread ≠ 0) then none
  else some { w with consumer := if result = .ready ∧ w.unread ≠ 0 then .receiving true else .idle }

-- The event of some thread; none if that thread is not at it.
def step : WakeEvent Producer → Option (LocalControlWake Producer)
  | .exchange thread => w.exchange thread
  | .send thread interrupted => w.send capacity thread interrupted
  | .waitUntil => if w.consumer = .idle then some { w with consumer := .receiving false } else none
  | .receive interrupted => w.receive interrupted
  | .rearm => if w.consumer = .rearming then some { w with hasPendingWake := false, consumer := .idle } else none
  | .poll result => w.poll result

def run (events : List (WakeEvent Producer)) : Option (LocalControlWake Producer) :=
  events.foldlM (step capacity) w

def returnsTrue : WakeEvent Producer → Bool
  | .exchange _ => w.hasPendingWake
  | .send _ interrupted => !interrupted
  | _ => false

-- One token stands for the pending wake: with the sender, in the socket, or with the consumer that has still to rearm.
inductive Token : Prop where
  | none (clear : w.hasPendingWake = false) (empty : w.unread = 0) (quiet : ∀ thread, w.producer thread = .idle)
      (armed : w.consumer ≠ .rearming)
  | sender (owner : Producer) (pending : w.hasPendingWake = true) (empty : w.unread = 0)
      (sends : w.producer owner ≠ .idle) (quiet : ∀ thread, thread ≠ owner → w.producer thread = .idle)
      (armed : w.consumer ≠ .rearming)
  | socket (pending : w.hasPendingWake = true) (one : w.unread = 1) (quiet : ∀ thread, w.producer thread = .idle)
      (armed : w.consumer ≠ .rearming)
  | consumer (pending : w.hasPendingWake = true) (empty : w.unread = 0) (quiet : ∀ thread, w.producer thread = .idle)
      (rearms : w.consumer = .rearming)

variable {capacity w} {next : LocalControlWake Producer} {event : WakeEvent Producer}

omit [DecidableEq Producer] in
theorem moved_token {phase : ConsumerPhase} (token : w.Token) (armed : w.consumer ≠ .rearming)
    (still : phase ≠ .rearming) : Token { w with consumer := phase } := by
  cases token with
  | none clear empty quiet => exact .none clear empty quiet still
  | sender owner pending empty sends quiet => exact .sender owner pending empty sends quiet still
  | socket pending one quiet => exact .socket pending one quiet still
  | consumer _ _ _ rearms => exact absurd rearms armed

omit [DecidableEq Producer] in
theorem sending_token {thread : Producer} (token : w.Token) (sends : w.producer thread ≠ .idle) :
    w.hasPendingWake = true ∧ w.unread = 0 ∧ (∀ other, other ≠ thread → w.producer other = .idle) ∧
      w.consumer ≠ .rearming := by
  cases token with
  | none _ _ quiet | socket _ _ quiet | consumer _ _ quiet => exact absurd (quiet thread) sends
  | sender owner pending empty _ quiet armed =>
    obtain rfl : thread = owner := by_contra fun apart => sends (quiet thread apart)
    exact ⟨pending, empty, quiet, armed⟩

theorem send_token {thread : Producer} {interrupted : Bool} (roomy : 0 < capacity) (token : w.Token)
    (stepped : w.send capacity thread interrupted = some next) : next.Token := by
  unfold send at stepped
  split at stepped
  · cases stepped
  next attempt sends =>
  obtain ⟨pending, empty, quiet, armed⟩ := sending_token token (by rw [sends]; simp)
  split at stepped
  · obtain ⟨_, ⟨⟩⟩ := Option.ite_none_right_eq_some.mp stepped
    exact .sender thread pending empty (by simp) (fun other apart => by simp [apart, quiet other apart]) armed
  · cases stepped
    refine .socket pending (by simp [empty, roomy]) (fun other => ?_) armed
    by_cases same : other = thread
    · simp [same]
    · simp [same, quiet other same]

theorem step_token (roomy : 0 < capacity) (token : w.Token) (stepped : w.step capacity event = some next) :
    next.Token := by
  cases event with
  | exchange thread =>
    obtain ⟨_, ⟨⟩⟩ := Option.ite_none_left_eq_some.mp stepped
    split
    · exact token
    next clear =>
    cases token with
    | none _ empty quiet armed =>
      exact .sender thread rfl empty (by simp) (fun other apart => by simp [apart, quiet other]) armed
    | sender _ pending | socket pending | consumer pending => exact absurd pending clear
  | send thread interrupted => exact send_token roomy token stepped
  | waitUntil =>
    obtain ⟨idle, ⟨⟩⟩ := Option.ite_none_right_eq_some.mp stepped
    exact moved_token token (by simp [idle]) nofun
  | receive interrupted =>
    simp only [step, receive] at stepped
    split at stepped
    · next polled receives =>
      have armed : w.consumer ≠ .rearming := by simp [receives]
      split at stepped
      · cases stepped
        exact moved_token token armed nofun
      split at stepped
      · cases stepped
        exact moved_token token armed (by split <;> nofun)
      · next loaded =>
        cases stepped
        cases token with
        | none _ empty | sender _ _ empty | consumer _ empty => exact absurd empty loaded
        | socket pending one quiet => exact .consumer pending (by simp [one]) quiet rfl
    · cases stepped
  | rearm =>
    obtain ⟨rearms, ⟨⟩⟩ := Option.ite_none_right_eq_some.mp stepped
    cases token with
    | none _ _ _ armed | sender _ _ _ _ _ armed | socket _ _ _ armed => exact absurd rearms armed
    | consumer _ empty quiet => exact .none rfl empty quiet nofun
  | poll result =>
    obtain ⟨blocked, ⟨⟩⟩ := Option.ite_none_left_eq_some.mp stepped
    refine moved_token token ?_ (by split <;> nofun)
    simp [not_not.mp (not_or.mp blocked).1]

theorem pending_kept (pending : w.hasPendingWake = true) (stepped : w.step capacity event = some next)
    (other : event ≠ .rearm) : next.hasPendingWake = true := by
  cases event <;> simp only [step, exchange, send, receive, poll] at stepped <;> grind

theorem returned_pending (token : w.Token) (stepped : w.step capacity event = some next)
    (returned : w.returnsTrue event = true) : next.hasPendingWake = true := by
  cases event with
  | exchange thread => exact pending_kept returned stepped nofun
  | send thread interrupted =>
    refine pending_kept (@sending_token _ _ thread token fun idle => ?_).1 stepped nofun
    simp [step, send, idle] at stepped
  | waitUntil | receive | rearm | poll => cases returned

theorem run_token (roomy : 0 < capacity) {events : List (WakeEvent Producer)}
    (reached : run capacity {} events = some w) : w.Token :=
  foldlM_some_invariant Token reached (.none rfl rfl (fun _ => rfl) nofun)
    fun _ _ _ _ token stepped => step_token roomy token stepped

theorem wakes_never_lost (roomy : 0 < capacity) {events : List (WakeEvent Producer)}
    (reached : run capacity {} events = some w) :
    w.unread ≤ 1 ∧
      (w.consumer = .blocked → w.unread = 0 → (∀ thread, w.producer thread = .idle) →
        ∀ earlier event later before, events = earlier ++ event :: later → run capacity {} earlier = some before →
          before.returnsTrue event = true → .rearm ∈ later) := by
  have token := run_token roomy reached
  refine ⟨by cases token <;> omega, fun blocked empty quiet earlier event later before whole started returned => ?_⟩
  have clear : w.hasPendingWake = false := by
    cases token with
    | none clear => exact clear
    | sender owner _ _ sends => exact absurd (quiet owner) sends
    | socket _ one => omega
    | consumer _ _ _ rearms => cases blocked.symm.trans rearms
  rw [whole, run, List.foldlM_append] at reached
  obtain ⟨_, same, reached⟩ := Option.bind_eq_some_iff.mp reached
  cases started.symm.trans same
  obtain ⟨next, stepped, reached⟩ := Option.bind_eq_some_iff.mp reached
  by_contra never
  have kept : w.hasPendingWake = true := foldlM_some_invariant (fun w => w.hasPendingWake = true) reached
    (returned_pending (run_token roomy started) stepped returned)
    fun _ _ _ mem pending stepped => pending_kept pending stepped fun same => never (same ▸ mem)
  cases clear.symm.trans kept

-- The second notify coalesces with the first one, whose byte the consumer then reads.
def coalescedEvents : List (WakeEvent Bool) :=
  [.exchange false, .exchange true, .send false false, .waitUntil, .receive false, .rearm, .waitUntil, .receive false]

theorem coalesced_wake_reported : ∃ w, run 1 {} coalescedEvents = some w ∧ w.consumer = .blocked ∧ w.unread ≤ 1 ∧
    .rearm ∈ coalescedEvents.drop 2 := by
  obtain ⟨few, reported⟩ := @wakes_never_lost Bool _ 1 _ (by decide) coalescedEvents rfl
  exact ⟨_, rfl, rfl, few, reported rfl rfl (by decide) [.exchange false] (.exchange true) _ _ rfl rfl rfl⟩

end LocalControlWake

end Glimmer.Control
