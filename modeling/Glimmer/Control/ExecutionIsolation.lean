import Glimmer.Control.ExecutionRequests

namespace Glimmer.Control

open Lib Glimmer.Core

namespace ExecutionAdmissionState

variable {a b : ExecutionAdmissionState} {op : ExecutionOp} {submitters : KeyedMap TaskId TaskPeerIdentity}

-- Every task has a submitter on record, and its lease is that process's.
structure Credited (a : ExecutionAdmissionState) (submitters : KeyedMap TaskId TaskPeerIdentity) : Prop where
  leases : ∀ id lease, a.Leased id lease → submitters.lookup id = lease.owner
  records : ∀ id task, a.scheduler.tasks.lookup id = some task → (submitters.lookup id).isSome
  issued : ∀ (id : Nat) submitter, submitters.lookup id = some submitter → id < a.scheduler.nextTaskId

theorem still_credited (same : Still a b) (credited : Credited a submitters) : Credited b submitters := by
  refine ⟨fun id lease held => ?_, fun id task found => ?_, fun id submitter known => ?_⟩
  · rw [Leased, same.pending, same.active] at held
    exact credited.leases id lease held
  · rw [same.tasks] at found
    exact credited.records id task found
  · rw [same.nextId]
    exact credited.issued id submitter known

variable (bound : a.options.bindLeasesToProcess = true)
include bound

theorem move_credited (settled : op.submits = false) (move : Move op a b)
    (credited : Credited a submitters) : Credited b submitters := by
  cases move with
  | still same => exact still_credited same credited
  | turned other task next lease renewed turn lawful =>
    refine ⟨fun id held after => ?_, fun id record found => ?_, fun id submitter known => ?_⟩
    · rcases turned_leased turn after with ⟨rfl, rfl⟩ | ⟨_, earlier⟩
      · rw [turn.owner bound]
        exact credited.leases _ lease (turned_held turn)
      · exact credited.leases id held earlier
    · rw [turn.tasks] at found
      split at found
      · next same =>
        rw [same]
        exact credited.records other task turn.found
      · exact credited.records id record found
    · rw [turn.nextId]
      exact credited.issued id submitter known
  | arrived task lease new kindred own asked =>
    rw [settled] at asked
    cases asked
  | erased other gone asked =>
    refine ⟨fun id lease held => ?_, fun id task found => ?_, fun id submitter known => ?_⟩
    · rw [Leased, gone.pending, gone.active] at held
      exact credited.leases id lease held
    · rw [gone.tasks] at found
      split at found
      · cases found
      · exact credited.records id task found
    · rw [gone.nextId]
      exact credited.issued id submitter known

theorem moves_credited (settled : op.submits = false) (moves : Moves op a b)
    (credited : Credited a submitters) : Credited b submitters := by
  induction moves with
  | refl => exact credited
  | tail earlier last ih => exact move_credited ((moves_options earlier).symm ▸ bound) settled last ih

end ExecutionAdmissionState

namespace AuditedExecution

open ExecutionAdmissionState

structure Bound (s : AuditedExecution) : Prop where
  bound : s.service.options.bindLeasesToProcess = true
  mirrors : Mirrors s.service
  credited : Credited s.service s.submitters

def Untouched (peer : TaskPeer) (s t : AuditedExecution) : Prop :=
  ∀ id task, s.service.scheduler.tasks.lookup id = some task → s.submitters.lookup id ≠ peer →
    Unchanged s.service t.service id

variable {s : AuditedExecution}

theorem arrived_credited (sound : Bound s) {b : ExecutionAdmissionState} {owner : TaskPeerIdentity} {task : TaskRecord}
    {lease : Option ExecutionLease} (arrived : Arrived s.service b task lease)
    (own : ∀ held ∈ lease, held.owner = some owner) :
    Credited b (s.submitters.insert s.service.scheduler.nextTaskId owner) := by
  refine ⟨fun id held after => ?_, fun id record found => ?_, fun id submitter known => ?_⟩
  · rw [KeyedMap.lookup_insert_cases]
    rcases arrived_leased sound.mirrors arrived after with ⟨rfl, new⟩ | ⟨apart, earlier⟩
    · rw [if_pos rfl, own held new]
    · rw [if_neg apart]
      exact sound.credited.leases id held earlier
  · rw [KeyedMap.lookup_insert_cases]
    rw [arrived.tasks] at found
    split
    · rfl
    · next apart =>
      rw [if_neg apart] at found
      exact sound.credited.records id record found
  · rw [KeyedMap.lookup_insert_cases] at known
    rw [arrived.nextId]
    split at known
    · next same => exact same ▸ Nat.lt_succ_self _
    · exact Nat.lt_succ_of_lt (sound.credited.issued id submitter known)

theorem submission_credited (sound : Bound s) (peer : TaskPeer) (request : TaskSpec)
    (extent : Option NativeEpochExtent) (kind : ExecutionKind) (registered allocated : Bool) (now : TimePoint) :
    let outcome := s.service.submitImpl request peer extent kind registered allocated now
    Credited outcome.2 (s.withSubmission peer outcome).2.submitters := by
  intro outcome
  cases peer with
  | none =>
    have refused : outcome = ({ status := .invalidTask }, s.service) :=
      if_pos ⟨sound.bound, by simp [validPeerIdentity]⟩
    rw [refused]
    exact sound.credited
  | some owner =>
    have pos : s.service.scheduler.nextTaskId ≠ 0 := Nat.ne_of_gt
      (Nat.lt_of_le_of_lt (Nat.zero_le _) sound.mirrors.invariant.coherent.sizeBound)
    rcases submit_impl_cases request (some owner) extent kind sound.mirrors.invariant (fresh_leases sound.mirrors).1
        registered allocated now with
      ⟨status, _, result⟩ | ⟨t, u, task, final, b, result, withdrawn⟩ | ⟨t, task, b, result, submitted⟩ <;>
      rw [show outcome = _ from result]
    · exact sound.credited
    · simp only [withSubmission, if_pos pos]
      obtain ⟨m, arrived, rfl⟩ := withdrawn_arrived sound.mirrors withdrawn
      exact still_credited (still_notify arrived.invariant)
        (arrived_credited sound arrived (fun _ absent => by cases absent))
    · simp only [withSubmission, if_pos pos]
      refine arrived_credited sound (submitted_arrived sound.mirrors submitted) ?_
      rintro held ⟨⟩
      rfl

theorem serve_bound (sound : Bound s) (op : ExecutionOp) (i : ExecutionInput) : Bound (serve op i s).2 := by
  have moves := serve_moves sound.mirrors op i
  refine ⟨(moves_options moves).symm ▸ sound.bound, moves_mirrors moves sound.mirrors, ?_⟩
  have kept := fun settled => moves_credited sound.bound settled moves sound.credited
  cases op with
  | submit request peer => exact submission_credited sound peer request none .legacy i.registered i.allocated i.now
  | submitCooperative request peer =>
    exact submission_credited sound peer request none .cooperative i.registered i.allocated i.now
  | submitNativeEpoch request extent peer =>
    simp only [serve, submitNativeEpoch]
    split
    · exact submission_credited sound peer request (some extent) .native i.registered i.allocated i.now
    · cases peer with
      | none | some owner => exact sound.credited
  | _ => exact kept rfl

def Permitted (call : ExecutionCall) (op : ExecutionOp) (_ : AuditedExecution) : Prop :=
  op.peer = some call.peer ∨ op.observes = true

theorem serve_untouched (sound : Bound s) {call : ExecutionCall} {op : ExecutionOp} (i : ExecutionInput)
    (permitted : Permitted call op s) : Untouched call.peer s (serve op i s).2 := by
  intro id task found foreign
  rcases permitted with own | observes
  · refine moves_spared (serve_moves sound.mirrors op i) (sound.mirrors.invariant.coherent.issued id task found).2
      (by rintro rfl; cases own) fun _ _ _ lease same _ held lawful => foreign ?_
    rw [sound.credited.leases id lease held, lawful.owner (same ▸ sound.bound) _ own]
  cases op with
  | notifyStateChange =>
    simp only [serve, withService, notifyStateChange]
    split <;> exact ⟨rfl, rfl, rfl⟩
  | find | stats | rollback | builds | encodes | throws => exact ⟨rfl, rfl, rfl⟩
  | _ => cases observes

end AuditedExecution

namespace TaskExecutionEndpoint

open AuditedExecution ExecutionAdmissionState

abbrev Sessions := Pool AuditedExecution Nat ExecutionCall ExecutionOp.Reply Response

abbrev SessionEvent := PoolEvent Nat ExecutionCall ExecutionInput Outside

def step (bound : Bool) (sessions : Sessions) (event : SessionEvent) : Sessions :=
  Pool.step serve (handle bound) outside sessions event

def run (bound : Bool) (sessions : Sessions) (events : List SessionEvent) : Sessions :=
  Pool.run serve (handle bound) outside sessions events

theorem endpoint_discipline : Pool.Discipline serve (handle true) outside Bound (fun _ _ => True) Permitted where
  opened call := by
    refine ⟨fun _ => True, fun _ _ _ _ => trivial, fun _ _ => trivial, ?_⟩
    exact upholds_only (fun op allowed _ _ => allowed) (handle_only
      ⟨fun _ observes => .inr observes, fun _ own _ => .inl own, fun _ _ own => .inl own⟩ true rfl (fun _ => trivial))
  served _ op input _ sound _ := ⟨serve_bound sound op input, trivial⟩
  outer event _ sound := ⟨serve_bound sound event.op event.input, trivial⟩

theorem opened_bound (limit : MemoryBytes) (settings : SchedulerOptions) {options : ExecutionOptions}
    (bound : options.bindLeasesToProcess = true) : Bound (opened limit settings options) where
  bound := bound
  mirrors := opened_mirrors (by simp [opened, tracksLeases, bound])
  credited := by
    refine ⟨fun id lease held => ?_, fun _ _ found => ?_, fun _ _ known => ?_⟩
    · rcases held with held | held <;> cases held
    · cases found
    · cases known

theorem requests_leave_others_untouched (limit : MemoryBytes) (settings : SchedulerOptions)
    (options : ExecutionOptions) (bound : options.bindLeasesToProcess = true) (events : List SessionEvent) (thread : Nat)
    (call : ExecutionCall) (op : ExecutionOp) (input : ExecutionInput)
    (here : (run true (Pool.idle (opened limit settings options)) events).entering thread = some (call, op)) :
    let before := run true (Pool.idle (opened limit settings options)) events
    let after := step true before (.advance thread input)
    (∀ id task, before.shared.service.scheduler.tasks.lookup id = some task →
        ∃ submitter, before.shared.submitters.lookup id = some submitter) ∧
      Untouched call.peer before.shared after.shared := by
  have guarded := Pool.guarded_run endpoint_discipline events _
    (Pool.guarded_idle (opened_bound limit settings bound))
  have permitted : Permitted call op _ := Pool.guarded_allowed guarded here
  refine ⟨fun id task found => Option.isSome_iff_exists.mp (guarded.1.credited.records id task found), ?_⟩
  unfold step
  rw [Pool.advance_shared serve (handle true) outside here input]
  exact serve_untouched guarded.1 input permitted

def interloper : TaskPeerIdentity := { pid := 20, uid := 2, startTimeTicks := 200 }

def interloperAsks (line : String) : List SessionEvent :=
  [.start 0 { line := ascii "GLIMMER_TASK_EXEC_V1 EXEC_ACQUIRE tenant 64 1 1", peer := some launchingProcess },
    .advance 0 {}, .advance 0 {}, .advance 0 {}, .start 1 { line := ascii line, peer := some interloper }]

theorem interloper_fails_nothing :
    let before := run true (Pool.idle (opened 1024 {} bindingOptions))
      (interloperAsks "GLIMMER_TASK_EXEC_V1 EXEC_FAIL 1 1")
    before.shared.service.scheduler.taskState 1 = some .running ∧
      Untouched (some interloper) before.shared (step true before (.advance 1 {})).shared :=
  ⟨by decide +kernel,
    (requests_leave_others_untouched 1024 {} bindingOptions rfl (interloperAsks "GLIMMER_TASK_EXEC_V1 EXEC_FAIL 1 1") 1
      { line := ascii "GLIMMER_TASK_EXEC_V1 EXEC_FAIL 1 1", peer := some interloper }
      (.failExecution ⟨1, 1⟩ (some interloper)) {} (by decide +kernel)).2⟩

end TaskExecutionEndpoint

end Glimmer.Control
