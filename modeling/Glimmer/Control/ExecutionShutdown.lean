import Glimmer.Control.ExecutionRequests

namespace Glimmer.Control

open Lib Glimmer.Core Scheduler

inductive ShutdownPhase where
  | accepting | pending | draining | failed
deriving DecidableEq

-- Where a thread stands in handle or in beginShutdown.
inductive EndpointThread where
  | idle
  -- handle: waits until no shutdown is pending, takes the gate shared, reads the phase under it, and serves.
  | awaiting (call : ExecutionCall)
  | entering (call : ExecutionCall)
  | inside (call : ExecutionCall)
  | serving (call : ExecutionCall) (rest : TaskExecutionEndpoint.Call TaskExecutionEndpoint.Response)
  -- beginShutdown: announces itself, takes the gate alone, stores the outcome, and waits for whoever decides it.
  | closing
  | locking
  | storing
  | unlocking
  | failing
  | joining

def EndpointThread.decides : EndpointThread → Bool
  | .locking | .storing | .failing => true
  | _ => false

-- The gate is a shared mutex: who holds it shared, and who holds it alone.
structure GatedEndpoint where
  shared : AuditedExecution
  phase : ShutdownPhase := .accepting
  readers : List Nat := []
  writer : Option Nat := none
  threads : Nat → EndpointThread := fun _ => .idle
  outcomes : List Bool := []

-- The service is the endpoint's own: beside the requests only its reaper and the sweep of terminal tasks reach it.
inductive Upkeep where
  | reapExpired (pendingOrder activeOrder : List TaskId)
  | forgetTerminal (id : TaskId)

def Upkeep.op : Upkeep → ExecutionOp
  | .reapExpired pendingOrder activeOrder => .reapExpired pendingOrder activeOrder
  | .forgetTerminal id => .forgetTerminal id

inductive EndpointEvent where
  | handle (thread : Nat) (call : ExecutionCall)
  | beginShutdown (thread : Nat)
  | advance (thread : Nat) (input : ExecutionInput) (throws : Bool)
  | upkeep (work : Upkeep) (input : ExecutionInput)

namespace GatedEndpoint

open AuditedExecution TaskExecutionEndpoint

variable (e : GatedEndpoint)

def move (thread : Nat) (place : EndpointThread) : GatedEndpoint :=
  { e with threads := Function.update e.threads thread place }

def leave (thread : Nat) : GatedEndpoint := { e with readers := e.readers.erase thread }

def admitted (call : ExecutionCall) : ExecutionCall :=
  { call with draining := decide (e.phase = .draining) }

def supportsCooperativeExecution : Bool := e.shared.service.options.bindLeasesToProcess

-- The next step of a thread. One that finds the shutdown pending, or the gate taken, stays where it is. Taking the gate
-- may throw, and so may a handler between two sections.
def advance (thread : Nat) (input : ExecutionInput) (throws : Bool) : GatedEndpoint :=
  match e.threads thread with
  | .idle => e
  | .awaiting call =>
    match e.phase with
    | .pending => e
    | .failed => e.move thread .idle
    | .accepting | .draining => e.move thread (.entering call)
  | .entering call =>
    if throws then e.move thread .idle
    else if e.writer.isSome then e
    else { e with readers := thread :: e.readers }.move thread (.inside call)
  | .inside call =>
    match e.phase with
    | .pending => (e.leave thread).move thread (.awaiting call)
    | .failed => (e.leave thread).move thread .idle
    | .accepting | .draining =>
      e.move thread (.serving (e.admitted call) (handle e.supportsCooperativeExecution (e.admitted call)))
  | .serving _ (.done _) => (e.leave thread).move thread .idle
  | .serving call (.enter op next) =>
    if throws then (e.leave thread).move thread .idle
    else { e with shared := (serve op input e.shared).2 }.move thread (.serving call (next (serve op input e.shared).1))
  | .closing =>
    match e.phase with
    | .accepting => { e with phase := .pending }.move thread .locking
    | .pending | .draining | .failed => e.move thread .joining
  | .locking =>
    if throws then e.move thread .failing
    else if e.writer.isSome ∨ e.readers ≠ [] then e
    else { e with writer := some thread }.move thread .storing
  | .storing => { e with phase := .draining }.move thread .unlocking
  | .unlocking => { e with writer := none }.move thread .joining
  | .failing => { e with phase := .failed }.move thread .joining
  | .joining =>
    match e.phase with
    | .pending => e
    | .accepting | .failed => { e with outcomes := e.outcomes ++ [false] }.move thread .idle
    | .draining => { e with outcomes := e.outcomes ++ [true] }.move thread .idle

def step : EndpointEvent → GatedEndpoint
  | .handle thread call =>
    match e.threads thread with
    | .idle => e.move thread (.awaiting call)
    | _ => e
  | .beginShutdown thread =>
    match e.threads thread with
    | .idle => e.move thread .closing
    | _ => e
  | .advance thread input throws => e.advance thread input throws
  | .upkeep work input => { e with shared := (serve work.op input e.shared).2 }

def run (events : List EndpointEvent) : GatedEndpoint := events.foldl step e

def new (limit : MemoryBytes) (settings : SchedulerOptions) (options : ExecutionOptions) : GatedEndpoint :=
  { shared := opened limit settings options }

open ExecutionAdmissionState

-- What each place relies on. A handler that runs while the endpoint drains neither creates nor dispatches.
def Placed (thread : Nat) : EndpointThread → Prop
  | .inside _ => thread ∈ e.readers
  | .serving _ rest => thread ∈ e.readers ∧ (e.phase = .draining → rest.Only fun op => op.advances = false)
  | .locking | .failing => e.phase = .pending
  | .storing => e.phase = .pending ∧ e.writer = some thread ∧ e.readers = []
  | .unlocking => e.writer = some thread
  | _ => True

structure Gated (e : GatedEndpoint) : Prop where
  regular : Regular e.shared.service
  placed : ∀ thread, Placed e thread (e.threads thread)
  decider : ∀ first second, (e.threads first).decides = true → (e.threads second).decides = true → first = second
  outcomes : true ∈ e.outcomes → e.phase = .draining

variable {e} {thread : Nat} {place : EndpointThread}

section Frames
variable {other : Nat}

theorem placed_move {f : GatedEndpoint} {mover : Nat} {target : EndpointThread} :
    Placed (f.move mover target) other place ↔ Placed f other place := by
  cases place <;> rfl

variable (placed : Placed e other place)
include placed

theorem placed_shared {shared : AuditedExecution} : Placed { e with shared := shared } other place := by
  cases place <;> exact placed

theorem placed_outcomes {outcomes : List Bool} : Placed { e with outcomes := outcomes } other place := by
  cases place <;> exact placed

theorem placed_enter (free : e.writer = none) : Placed { e with readers := thread :: e.readers } other place := by
  cases place with
  | inside call => exact List.mem_cons_of_mem _ placed
  | serving call rest => exact ⟨List.mem_cons_of_mem _ placed.1, placed.2⟩
  | storing =>
    rw [Placed, free] at placed
    cases placed.2.1
  | _ => exact placed

theorem placed_leave (apart : other ≠ thread) : Placed (e.leave thread) other place := by
  cases place with
  | inside call => exact (List.mem_erase_of_ne apart).mpr placed
  | serving call rest => exact ⟨(List.mem_erase_of_ne apart).mpr placed.1, placed.2⟩
  | storing => exact ⟨placed.1, placed.2.1, by rw [leave, placed.2.2]; rfl⟩
  | _ => exact placed

theorem placed_announce (accepting : e.phase = .accepting) : Placed { e with phase := .pending } other place := by
  cases place with
  | serving call rest => exact ⟨placed.1, nofun⟩
  | locking | failing | storing => simp [Placed, accepting] at placed
  | _ => exact placed

theorem placed_lock (free : e.writer = none) : Placed { e with writer := some thread } other place := by
  cases place with
  | storing | unlocking => simp [Placed, free] at placed
  | _ => exact placed

theorem placed_drain (empty : e.readers = []) (settled : place.decides = false) :
    Placed { e with phase := .draining } other place := by
  cases place with
  | serving call rest =>
    rw [Placed, empty] at placed
    cases placed.1
  | locking | failing | storing => cases settled
  | _ => exact placed

theorem placed_unlock (held : e.writer = some thread) (apart : other ≠ thread) :
    Placed { e with writer := none } other place := by
  cases place with
  | storing =>
    rw [Placed, held] at placed
    exact absurd (Option.some.inj placed.2.1).symm apart
  | unlocking =>
    rw [Placed, held] at placed
    exact absurd (Option.some.inj placed).symm apart
  | _ => exact placed

theorem placed_fail (settled : place.decides = false) : Placed { e with phase := .failed } other place := by
  cases place with
  | serving call rest => exact ⟨placed.1, nofun⟩
  | locking | failing | storing => cases settled
  | _ => exact placed

end Frames

section Steps
variable (gated : Gated e)
include gated

theorem gated_update {f : GatedEndpoint} (threads : f.threads = e.threads)
    (regular : Regular f.shared.service) (frame : ∀ other, other ≠ thread → Placed f other (e.threads other))
    (own : Placed f thread place)
    (alone : place.decides = true → ∀ other, other ≠ thread → (e.threads other).decides = false)
    (outcomes : true ∈ f.outcomes → f.phase = .draining) : Gated (f.move thread place) := by
  have elsewhere : ∀ other, other ≠ thread → (f.move thread place).threads other = e.threads other :=
    fun other apart => (Function.update_of_ne apart _ _).trans (congrFun threads other)
  have here : (f.move thread place).threads thread = place := Function.update_self _ _ _
  refine ⟨regular, fun other => ?_, fun first second one two => ?_, outcomes⟩
  · rw [placed_move]
    by_cases same : other = thread
    · rw [same, here]
      exact own
    · rw [elsewhere other same]
      exact frame other same
  by_cases firstSame : first = thread
  · by_cases secondSame : second = thread
    · rw [firstSame, secondSame]
    · rw [firstSame, here] at one
      rw [elsewhere second secondSame, alone one second secondSame] at two
      cases two
  · by_cases secondSame : second = thread
    · rw [secondSame, here] at two
      rw [elsewhere first firstSame, alone two first firstSame] at one
      cases one
    · rw [elsewhere first firstSame] at one
      rw [elsewhere second secondSame] at two
      exact gated.decider first second one two

theorem gated_place (own : Placed e thread place) (settled : place.decides = false) : Gated (e.move thread place) :=
  gated_update gated (by rfl) gated.regular (fun other _ => gated.placed other) own
    (fun decides => by rw [settled] at decides; cases decides) gated.outcomes

theorem gated_leave (own : Placed (e.leave thread) thread place) (settled : place.decides = false) :
    Gated ((e.leave thread).move thread place) := by
  refine gated_update gated (show (e.leave thread).threads = e.threads from rfl) gated.regular
    (fun other apart => placed_leave (gated.placed other) apart) own (fun decides => ?_) gated.outcomes
  rw [settled] at decides
  cases decides

theorem others_settled (decides : (e.threads thread).decides = true) (other : Nat) (apart : other ≠ thread) :
    (e.threads other).decides = false := by
  cases undecided : (e.threads other).decides with
  | false => rfl
  | true => exact absurd (gated.decider other thread undecided decides) apart

theorem nobody_deciding (idle : e.phase ≠ .pending) (other : Nat) : (e.threads other).decides = false := by
  have placed := gated.placed other
  cases place : e.threads other with
  | locking | failing =>
    rw [place] at placed
    exact absurd placed idle
  | storing =>
    rw [place] at placed
    exact absurd placed.1 idle
  | _ => rfl

omit gated in
theorem handler_drains (call : ExecutionCall) (drains : e.phase = .draining) :
    (handle e.supportsCooperativeExecution (e.admitted call)).Only fun op => op.advances = false := by
  have policy : RequestPolicy (fun op => op.advances = false) call.peer False := by
    refine ⟨fun op observes => ?_, fun _ _ retiring => retiring, False.elim⟩
    cases op <;> first | rfl | cases observes
  refine handle_only policy _ rfl (fun unlocked => ?_)
  rw [admitted, drains] at unlocked
  cases unlocked

theorem advance_gated (input : ExecutionInput) (throws : Bool) : Gated (e.advance thread input throws) := by
  have placed := gated.placed thread
  unfold advance
  cases place : e.threads thread with
  | idle => exact gated
  | awaiting call =>
    simp only
    split
    · exact gated
    · exact gated_place gated trivial rfl
    · exact gated_place gated trivial rfl
    · exact gated_place gated trivial rfl
  | entering call =>
    simp only
    split
    · exact gated_place gated trivial rfl
    split
    · exact gated
    next free =>
    have unlocked : e.writer = none := by simpa using free
    exact gated_update gated (by rfl) gated.regular (fun other _ => placed_enter (gated.placed other) unlocked)
      List.mem_cons_self nofun gated.outcomes
  | inside call =>
    rw [place] at placed
    simp only
    split
    · exact gated_leave gated trivial rfl
    · exact gated_leave gated trivial rfl
    · exact gated_place gated ⟨placed, handler_drains call⟩ rfl
    · exact gated_place gated ⟨placed, handler_drains call⟩ rfl
  | serving call rest =>
    rw [place] at placed
    cases rest with
    | done result => exact gated_leave gated trivial rfl
    | enter op next =>
      simp only
      split
      · exact gated_leave gated trivial rfl
      · exact gated_update gated (by rfl) (serve_regular gated.regular op input)
          (fun other _ => placed_shared (gated.placed other))
          ⟨placed.1, fun drains => (placed.2 drains).2 _⟩ nofun gated.outcomes
  | closing =>
    simp only
    split
    · next accepting =>
      refine gated_update gated (by rfl) gated.regular (fun other _ => placed_announce (gated.placed other) accepting) rfl
        (fun _ other _ => nobody_deciding gated (by rw [accepting]; decide) other) (fun returned => ?_)
      have drained := gated.outcomes returned
      rw [accepting] at drained
      cases drained
    · exact gated_place gated trivial rfl
    · exact gated_place gated trivial rfl
    · exact gated_place gated trivial rfl
  | locking =>
    rw [place] at placed
    simp only
    split
    · exact gated_update gated (by rfl) gated.regular (fun other _ => gated.placed other) placed
        (fun _ => others_settled gated (by rw [place]; rfl)) gated.outcomes
    split
    · exact gated
    next free =>
    obtain ⟨unheld, empty⟩ := not_or.mp free
    have unlocked : e.writer = none := by simpa using unheld
    exact gated_update gated (by rfl) gated.regular (fun other _ => placed_lock (gated.placed other) unlocked)
      ⟨placed, rfl, not_not.mp empty⟩ (fun _ => others_settled gated (by rw [place]; rfl)) gated.outcomes
  | storing =>
    rw [place] at placed
    have others := others_settled gated (show (e.threads thread).decides = true by rw [place]; rfl)
    exact gated_update gated (by rfl) gated.regular
      (fun other apart => placed_drain (gated.placed other) placed.2.2 (others other apart)) placed.2.1 nofun
      (fun _ => rfl)
  | unlocking =>
    rw [place] at placed
    exact gated_update gated (by rfl) gated.regular
      (fun other apart => placed_unlock (gated.placed other) placed apart) trivial nofun gated.outcomes
  | failing =>
    rw [place] at placed
    have others := others_settled gated (show (e.threads thread).decides = true by rw [place]; rfl)
    refine gated_update gated (by rfl) gated.regular
      (fun other apart => placed_fail (gated.placed other) (others other apart)) trivial nofun
      (fun returned => ?_)
    have drained := gated.outcomes returned
    rw [show e.phase = .pending from placed] at drained
    cases drained
  | joining =>
    simp only
    split
    · exact gated
    all_goals
      refine gated_update gated (by rfl) gated.regular (fun other _ => placed_outcomes (gated.placed other)) trivial nofun
        (fun returned => ?_)
    · exact gated.outcomes (by simpa using returned)
    · exact gated.outcomes (by simpa using returned)
    · next draining => exact draining

end Steps

section Runs

theorem step_gated (gated : Gated e) (event : EndpointEvent) : Gated (e.step event) := by
  cases event with
  | handle thread call | beginShutdown thread =>
    simp only [step]
    split
    · exact gated_place gated trivial rfl
    · exact gated
  | advance thread input throws => exact advance_gated gated input throws
  | upkeep work input =>
    exact ⟨serve_regular gated.regular work.op input, fun thread => placed_shared (gated.placed thread), gated.decider,
      gated.outcomes⟩

theorem run_gated (gated : Gated e) (events : List EndpointEvent) : Gated (e.run events) := by
  induction events generalizing e with
  | nil => exact gated
  | cons event rest ih => exact ih (step_gated gated event)

theorem new_gated (limit : MemoryBytes) (settings : SchedulerOptions) (options : ExecutionOptions) :
    Gated (new limit settings options) where
  regular := opened_regular limit settings options
  placed _ := trivial
  decider _ _ decides := by cases decides
  outcomes returned := by cases returned

theorem serve_settled {s : AuditedExecution} (regular : Regular s.service) {op : ExecutionOp}
    (retiring : op.advances = false)
    (input : ExecutionInput) : Settled s.service.scheduler (serve op input s).2.service.scheduler := by
  obtain ⟨_, _, ops, reached, retire⟩ := serve_drives s op input
  rw [reached]
  exact run_settled regular.invariant (retire retiring)

variable (gated : Gated e) (drains : e.phase = .draining)
include gated drains

theorem advance_settled (thread : Nat) (input : ExecutionInput)
    (throws : Bool) : Settled e.shared.service.scheduler (e.advance thread input throws).shared.service.scheduler ∧
      (e.advance thread input throws).phase = .draining := by
  have placed := gated.placed thread
  have same := settled_refl e.shared.service.scheduler
  unfold advance
  cases place : e.threads thread with
  | idle | unlocking => exact ⟨same, drains⟩
  | awaiting call | inside call | closing =>
    simp only [drains]
    exact ⟨same, drains⟩
  | entering call =>
    simp only
    split
    · exact ⟨same, drains⟩
    · split <;> exact ⟨same, drains⟩
  | serving call rest =>
    rw [place] at placed
    cases rest with
    | done result => exact ⟨same, drains⟩
    | enter op next =>
      simp only
      split
      · exact ⟨same, drains⟩
      · exact ⟨serve_settled gated.regular (placed.2 drains).1 input, drains⟩
  | locking | failing =>
    rw [place, Placed, drains] at placed
    cases placed
  | storing =>
    rw [place, Placed, drains] at placed
    cases placed.1
  | joining =>
    simp only [drains]
    exact ⟨same, rfl⟩

theorem step_settled (event : EndpointEvent) :
    Settled e.shared.service.scheduler (e.step event).shared.service.scheduler ∧ (e.step event).phase = .draining := by
  have same := settled_refl e.shared.service.scheduler
  cases event with
  | handle thread call | beginShutdown thread =>
    simp only [step]
    split <;> exact ⟨same, drains⟩
  | advance thread input throws => exact advance_settled gated drains thread input throws
  | upkeep work input =>
    refine ⟨serve_settled gated.regular ?_ input, drains⟩
    cases work <;> rfl

theorem run_settled (events : List EndpointEvent) :
    Settled e.shared.service.scheduler (e.run events).shared.service.scheduler ∧ (e.run events).phase = .draining := by
  induction events generalizing e with
  | nil => exact ⟨settled_refl _, drains⟩
  | cons event rest ih =>
    obtain ⟨now, still⟩ := step_settled gated drains event
    obtain ⟨later, stays⟩ := ih (step_gated gated event) still
    exact ⟨settled_trans now later, stays⟩

end Runs

def retiringLine (line : Bytes) : Bool :=
  if envelope line = kNativeEpochProtocolVersion then
    (parseNativeEpochRequest line).any fun request => request.operation ≠ .acquire ∧ request.operation ≠ .claim
  else match parseEnvelope line with
    | .ok (_, request) => !createsOrDispatches request.operation
    | .error _ => false

theorem handle_retiring (bound : Bool) {call : ExecutionCall} (retiring : retiringLine call.line = true)
    (draining : Bool) :
    handle bound { call with draining := draining } = handle bound { call with draining := false } := by
  unfold retiringLine at retiring
  unfold handle
  by_cases native : envelope call.line = kNativeEpochProtocolVersion
  · simp only [if_pos native] at retiring ⊢
    unfold handleNativeEpoch
    cases parsed : parseNativeEpochRequest call.line with
    | none => rfl
    | some request =>
      simp only [parsed, Option.any_some, decide_eq_true_eq] at retiring
      simp [retiring.1, retiring.2]
  · simp only [if_neg native] at retiring ⊢
    cases parsed : parseEnvelope call.line with
    | error error => rfl
    | ok both =>
      simp only [parsed, Bool.not_eq_true'] at retiring
      simp only [retiring, Bool.false_eq_true, and_false, if_false]
      rfl

theorem draining_is_one_way (limit : MemoryBytes) (settings : SchedulerOptions) (options : ExecutionOptions)
    (events : List EndpointEvent) (closed : true ∈ ((new limit settings options).run events).outcomes)
    (middle later : List EndpointEvent) :
    let before := ((new limit settings options).run events).run middle
    let after := before.run later
    Scheduler.Settled before.shared.service.scheduler after.shared.service.scheduler ∧
      ∀ thread call input, before.threads thread = .idle → before.writer = none → retiringLine call.line = true →
        (before.run [.handle thread call, .advance thread input false, .advance thread input false,
          .advance thread input false]).threads thread =
            .serving (before.admitted call)
              (handle before.supportsCooperativeExecution { call with draining := false }) := by
  have gated := run_gated (new_gated limit settings options) events
  have reached := run_settled gated (gated.outcomes closed) middle
  intro before after
  refine ⟨(run_settled (run_gated gated middle) reached.2 later).1, fun thread call input idle free retiring => ?_⟩
  rw [← handle_retiring before.supportsCooperativeExecution retiring (decide (before.phase = .draining))]
  have drains : before.phase = .draining := reached.2
  simp [run, step, advance, idle, drains, free, move, admitted, supportsCooperativeExecution]

def shutdownWhileRunning : List EndpointEvent :=
  [.handle 0 { line := ascii "GLIMMER_TASK_EXEC_V1 EXEC_ACQUIRE tenant 64 1 1", peer := some launchingProcess }] ++
    List.replicate 11 (.advance 0 {} false) ++ [.beginShutdown 1] ++ List.replicate 5 (.advance 1 {} false)

def lateSubmit : List EndpointEvent :=
  [.handle 2 { line := ascii "GLIMMER_TASK_EXEC_V1 SUBMIT tenant 64 1 1", peer := some launchingProcess }] ++
    List.replicate 4 (.advance 2 {} false)

def refusal : EndpointThread → Option TaskProtocolErrorCode
  | .serving _ (.done (some (.plain (.error error)))) => some error
  | _ => none

theorem shutdown_keeps_running_task :
    let before := (new 1024 {} bindingOptions).run shutdownWhileRunning
    before.shared.service.scheduler.taskState 1 = some .running ∧
      refusal ((before.run lateSubmit).threads 2) = some .invalidRequest ∧
      Scheduler.Settled before.shared.service.scheduler (before.run lateSubmit).shared.service.scheduler :=
  ⟨by decide +kernel, by decide +kernel,
    (draining_is_one_way 1024 {} bindingOptions shutdownWhileRunning (by decide +kernel) [] lateSubmit).1⟩

end GatedEndpoint

end Glimmer.Control
