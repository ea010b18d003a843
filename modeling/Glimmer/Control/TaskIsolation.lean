import Glimmer.Control.AdmissionFrames

namespace Glimmer.Control

open Lib Glimmer.Core Admission Custody AdmissionOptions

variable {request : RequestCall} {op : ServiceOp}

namespace AuditedAdmission

structure Sound (s : AuditedAdmission) : Prop where
  bound : s.service.options.bindLeasesToProcess = true
  legacy : s.service.options.flavour = .taskAdmissionService
  owned : Custody.Owned LeaseRecord.owner s.service.custody s.submitters

def Grows (s t : AuditedAdmission) : Prop :=
  ∀ id submitter, s.submitters.lookup id = some submitter → t.submitters.lookup id = some submitter

def Submitted (peer : TaskPeer) (id : TaskId) (s : AuditedAdmission) : Prop :=
  ∃ submitter, peer = some submitter ∧ s.submitters.lookup id = some submitter

def Untouched (peer : TaskPeer) (s t : AuditedAdmission) : Prop :=
  Custody.Untouched s.submitters peer s.service.custody t.service.custody

theorem submitted_lasting (peer : TaskPeer) (id : TaskId) : Lasting Grows (Submitted peer id) := by
  rintro s t grows ⟨submitter, named, known⟩
  exact ⟨submitter, named, grows id submitter known⟩

variable {s : AuditedAdmission} {b : Admission} {id : TaskId}

section
variable (sound : Sound s)
include sound

variable (request : TaskSpec) (registrar : Bool) (peer : TaskPeer) (input : SectionInput)

theorem sound_tends (tends : Tends s.service b id) : Sound { s with service := b } where
  bound := (congrArg bindLeasesToProcess tends.options).trans sound.bound
  legacy := (congrArg flavour tends.options).trans sound.legacy
  owned := tends_owned sound.owned tends

theorem sound_own {peer : TaskPeer} (own : OwnStep s.service b peer) : Sound { s with service := b } := by
  obtain ⟨same, owned⟩ := own_owned sound.owned own
  exact ⟨(congrArg bindLeasesToProcess same).trans sound.bound, (congrArg flavour same).trans sound.legacy, owned⟩

theorem next_id_positive : s.service.scheduler.nextTaskId ≠ 0 := by
  have size := sound.owned.invariant.coherent.sizeBound
  exact Nat.ne_zero_of_lt size

theorem vacant_next : s.service.pendingLeases.lookup s.service.scheduler.nextTaskId = none := by
  cases found : s.service.pendingLeases.lookup s.service.scheduler.nextTaskId with
  | none => rfl
  | some lease => exact absurd ⟨lease, .inl found, rfl⟩ (fresh_unheld sound.owned lease.owner)

theorem submit_spec :
    (∃ status, status ≠ .accepted ∧ s.submit request registrar peer input = ({ status := status }, s)) ∨
      ∃ submitter status b, peer = some submitter ∧
        s.submit request registrar peer input = ({ status := status, taskId := s.service.scheduler.nextTaskId },
          ⟨b, s.submitters.insert s.service.scheduler.nextTaskId submitter⟩) ∧
        Arrives LeaseRecord.owner s.service.custody b.custody submitter := by
  rcases submit_arrives sound.owned.invariant sound.legacy sound.bound (vacant_next sound) request
      (if registrar then some fun _ => input.registered else none) peer input.allocated input.now with
    ⟨status, refused, result⟩ | ⟨submitter, status, b, named, result, arrives⟩
  · refine .inl ⟨status, refused, ?_⟩
    simp only [submit, result, ne_eq, not_true_eq_false, if_false]
    cases peer <;> rfl
  · refine .inr ⟨submitter, status, b, named, ?_, arrives⟩
    subst named
    simp [submit, result, ne_eq, next_id_positive sound, not_false_eq_true]

theorem submit_sound :
    Sound (s.submit request registrar peer input).2 ∧ Grows s (s.submit request registrar peer input).2 := by
  rcases submit_spec sound request registrar peer input with
    ⟨status, _, result⟩ | ⟨submitter, status, b, _, result, arrives⟩
  · rw [result]
    exact ⟨sound, fun _ _ known => known⟩
  rw [result]
  refine ⟨⟨(congrArg bindLeasesToProcess arrives.options).trans sound.bound,
    (congrArg flavour arrives.options).trans sound.legacy,
    arrives_owned sound.owned arrives⟩, fun id name known => ?_⟩
  have fresh := fresh_submitter sound.owned
  have apart : id ≠ s.service.scheduler.nextTaskId := by
    intro same
    rw [same] at known
    cases known.symm.trans fresh
  exact (KeyedMap.lookup_insert_cases _ _ _ _).trans ((if_neg apart).trans known)

theorem serve_sound (op : ServiceOp) (input : SectionInput) :
    Sound (serve op input s).2 ∧ Grows s (serve op input s).2 := by
  have inv : Scheduler.Invariant s.service.scheduler := sound.owned.invariant
  have same : Grows s s := fun _ _ known => known
  cases op with
  | submit request registrar peer => exact submit_sound sound request registrar peer input
  | cancel id => exact ⟨sound_tends sound (cancel_tends inv id input.now), same⟩
  | cancelQueued id => exact ⟨sound_tends sound (cancel_queued_tends inv id none), same⟩
  | claimNext peer =>
    have unchanged := claim_next_bound sound.bound peer input.allocated input.now
    refine ⟨?_, same⟩
    simp only [serve, withService, unchanged]
    exact sound
  | claim id peer => exact ⟨sound_own sound (claim_own inv sound.bound id peer), same⟩
  | waitAttempt id peer => exact ⟨sound_own sound (wait_attempt_own inv sound.bound id peer), same⟩
  | heartbeat id peer => exact ⟨sound_own sound (heartbeat_own inv sound.bound id peer), same⟩
  | complete id peer =>
    exact ⟨sound_own sound (finish_own sound.bound peer
      (Scheduler.apply_confined inv (.complete id input.now) rfl)), same⟩
  | fail id peer =>
    exact ⟨sound_own sound (finish_own sound.bound peer
      (Scheduler.apply_confined inv (.fail id input.now) rfl)), same⟩
  | find id | stats => exact ⟨sound, same⟩
  | observeCompletion =>
    have step := Scheduler.apply_step inv (.setPriorityReservedSlots input.reservedSlots)
    have tends : Tends s.service (serve .observeCompletion input s).2.service 0 :=
      tends_scheduler ⟨Scheduler.step_invariant step inv, Scheduler.step_issued step,
        fun _ _ => Scheduler.apply_kept inv (.setPriorityReservedSlots _) (by simp [SchedulerOp.touches])⟩
    exact ⟨sound_tends sound tends, same⟩
  | notifyStateChange => exact ⟨sound_tends sound (tends_notify (tends_self inv 0)), same⟩
  | reapExpired pendingOrder activeOrder =>
    obtain ⟨id, tends⟩ := reap_expired_tends inv sound.legacy pendingOrder activeOrder input.now
    exact ⟨sound_tends sound tends, same⟩
  | observeExternalDispatch id observer =>
    exact ⟨sound_tends sound (observe_dispatch_tends inv sound.bound id observer), same⟩
  | observeExternalCompletion id terminal =>
    exact ⟨sound_tends sound (observe_completion_tends inv id terminal), same⟩

theorem outside_sound (event : Outside) : Sound (outside event s) ∧ Grows s (outside event s) := by
  cases event with
  | service op input => exact serve_sound sound op input
  | scheduler op =>
    have step := Scheduler.apply_step sound.owned.invariant op
    refine ⟨⟨sound.bound, sound.legacy, Scheduler.step_invariant step sound.owned.invariant, sound.owned.leases, ?_⟩,
      fun _ _ known => known⟩
    intro id submitter known
    exact lt_of_lt_of_le (sound.owned.issued id submitter known) (Scheduler.step_issued step)

end

def Permitted (request : RequestCall) : ServiceOp → AuditedAdmission → Prop
  | .submit _ _ peer, _ => peer = request.peer
  | .claimNext peer, _ => peer = request.peer
  | .claim _ peer, _ => peer = request.peer
  | .waitAttempt _ peer, _ => peer = request.peer
  | .heartbeat _ peer, _ => peer = request.peer
  | .complete _ peer, _ => peer = request.peer
  | .fail _ peer, _ => peer = request.peer
  | .cancel id, s => Submitted request.peer id s
  | .cancelQueued id, _ =>
    ∃ parsed, parseTaskProtocolRequest request.line = .ok parsed ∧ parsed.operation = .cancel ∧ parsed.taskId = id
  | .find _, _ => True
  | .stats, _ => True
  | .observeCompletion, _ => True
  | .notifyStateChange, _ => True
  | .reapExpired _ _, _ => False
  | .observeExternalDispatch _ _, _ => False
  | .observeExternalCompletion _ _, _ => False

def CancelsForeign (request : RequestCall) (op : ServiceOp) (s : AuditedAdmission) : Prop :=
  ∃ parsed submitter, parseTaskProtocolRequest request.line = .ok parsed ∧ parsed.operation = .cancel ∧
    op = .cancelQueued parsed.taskId ∧ s.service.scheduler.taskState parsed.taskId = some .queued ∧
    s.submitters.lookup parsed.taskId = some submitter ∧ request.peer ≠ some submitter

theorem cancel_queued_legacy (sound : Sound s) (id : TaskId) :
    (s.service.cancelQueued id none).2.scheduler = (s.service.scheduler.cancelQueued id).2 := by
  unfold cancelQueued
  split
  · next refused => simp [mayCancelQueued, sound.legacy] at refused
  split
  · next scheduler result => rw [result]
  · next scheduler result =>
    rw [result]
    exact congrArg Custody.scheduler (notify_custody)

theorem cancel_queued_untouched (sound : Sound s) {parsed : TaskProtocolRequest}
    (accepted : parseTaskProtocolRequest request.line = .ok parsed) (cancel : parsed.operation = .cancel)
    (input : SectionInput) :
    Untouched request.peer s (serve (.cancelQueued parsed.taskId) input s).2 ↔
      ¬ CancelsForeign request (.cancelQueued parsed.taskId) s := by
  have inv : Scheduler.Invariant s.service.scheduler := sound.owned.invariant
  have tends := cancel_queued_tends inv parsed.taskId none
  have scheduler := cancel_queued_legacy sound parsed.taskId
  constructor
  · rintro untouched ⟨other, submitter, same, _, _, queued, known, foreign⟩
    rw [accepted] at same
    cases same
    have kept : (s.service.cancelQueued parsed.taskId none).2.scheduler.tasks.lookup parsed.taskId =
        s.service.scheduler.tasks.lookup parsed.taskId := (untouched parsed.taskId submitter known foreign).1
    rw [scheduler] at kept
    rcases Scheduler.cancel_queued_cases inv parsed.taskId with ⟨_, unqueued⟩ | ⟨task, next, t, result, ended, _⟩
    · exact unqueued queued
    · rw [result, Scheduler.moved_lookup ended.moved, if_pos rfl] at kept
      rw [Scheduler.taskState, ← kept] at queued
      exact ended.notQueued (Option.some.inj queued)
  · intro harmless
    rcases Scheduler.cancel_queued_cases inv parsed.taskId with ⟨result, _⟩ | ⟨task, next, t, _, ended, _, queued⟩
    · have nothing : (s.service.cancelQueued parsed.taskId none).2 = s.service := by
        rw [cancelQueued, if_neg (by simp [mayCancelQueued, sound.legacy]), result]
      simp only [serve, withService, nothing]
      exact untouched_refl request.peer
    · refine tends_untouched tends (fun submitter known => ?_)
      by_contra foreign
      refine harmless ⟨parsed, submitter, accepted, cancel, rfl, ?_, known, foreign⟩
      rw [Scheduler.taskState, ended.moved.found]
      exact congrArg some queued

theorem serve_untouched_iff (sound : Sound s) (input : SectionInput) (permitted : Permitted request op s) :
    Untouched request.peer s (serve op input s).2 ↔ ¬ CancelsForeign request op s := by
  have inv : Scheduler.Invariant s.service.scheduler := sound.owned.invariant
  have harmless : (∀ id, op ≠ .cancelQueued id) → Untouched request.peer s (serve op input s).2 →
      (Untouched request.peer s (serve op input s).2 ↔ ¬ CancelsForeign request op s) := by
    intro other untouched
    refine ⟨fun _ cancels => ?_, fun _ => untouched⟩
    obtain ⟨parsed, _, _, _, same, _⟩ := cancels
    exact other parsed.taskId same
  have own : ∀ {b : Admission}, OwnStep s.service b request.peer →
      Untouched request.peer s { s with service := b } := fun step => own_untouched sound.owned step
  have unchanged : Untouched request.peer s s := untouched_refl request.peer
  cases op with
  | submit spec registrar peer =>
    refine harmless (by simp) ?_
    rcases submit_spec sound spec registrar peer input with
      ⟨status, _, result⟩ | ⟨submitter, status, b, _, result, arrives⟩
    · simp only [serve, result]
      exact unchanged
    · simp only [serve, result]
      exact arrives_untouched sound.owned arrives request.peer
  | cancel id =>
    obtain ⟨submitter, named, known⟩ := permitted
    refine harmless (by simp) (tends_untouched (cancel_tends inv id input.now) ?_)
    intro other found
    rw [known] at found
    exact named.trans found
  | cancelQueued id =>
    obtain ⟨parsed, accepted, cancel, rfl⟩ := permitted
    exact cancel_queued_untouched sound accepted cancel input
  | claimNext peer =>
    refine harmless (by simp) ?_
    simp only [serve, withService, claim_next_bound sound.bound]
    exact unchanged
  | claim id peer =>
    cases permitted
    exact harmless (by simp) (own (claim_own inv sound.bound id request.peer))
  | waitAttempt id peer =>
    cases permitted
    exact harmless (by simp) (own (wait_attempt_own inv sound.bound id request.peer))
  | heartbeat id peer =>
    cases permitted
    exact harmless (by simp) (own (heartbeat_own inv sound.bound id request.peer))
  | complete id peer =>
    cases permitted
    exact harmless (by simp) (own (finish_own sound.bound request.peer
      (Scheduler.apply_confined inv (.complete id input.now) rfl)))
  | fail id peer =>
    cases permitted
    exact harmless (by simp) (own (finish_own sound.bound request.peer
      (Scheduler.apply_confined inv (.fail id input.now) rfl)))
  | find id | stats => exact harmless (by simp) unchanged
  | observeCompletion =>
    refine harmless (by simp) (fun id submitter _ _ => ?_)
    refine ⟨?_, rfl, rfl⟩
    exact Scheduler.apply_kept inv (.setPriorityReservedSlots input.reservedSlots) (by simp [SchedulerOp.touches])
  | notifyStateChange =>
    refine harmless (by simp) ?_
    simp only [Untouched, serve, withService, notify_custody]
    exact unchanged
  | reapExpired pendingOrder activeOrder | observeExternalDispatch id observer | observeExternalCompletion id terminal =>
    exact absurd permitted (by simp [Permitted])

end AuditedAdmission

namespace TaskControlEndpoint

open AuditedAdmission CallTree

section Handlers
variable (request : RequestCall)

abbrev Confines {α : Type} (post : α → (AuditedAdmission → Prop) → Prop) (known : AuditedAdmission → Prop)
    (tree : Call α) : Prop :=
  Upholds serve Sound Grows (Permitted request) post known tree

abbrev Keeps {α : Type} (known : AuditedAdmission → Prop) (tree : Call α) : Prop :=
  Confines request (fun _ learnt => learnt = known) known tree

abbrev Ends (known : AuditedAdmission → Prop) (tree : Call TaskProtocolResponse) : Prop :=
  Confines request (fun _ _ => True) known tree

variable {request} {known : AuditedAdmission → Prop}

theorem bind_confines {α : Type} {first : Call α} {rest : α → Call TaskProtocolResponse}
    (before : Keeps request known first) (after : ∀ result, Ends request known (rest result)) :
    Ends request known (first >>= rest) := by
  refine upholds_bind (fun result learnt same => ?_) first known before
  rw [same]
  exact after result

variable (lasting : Lasting Grows known)
include lasting

theorem confines_enter {α : Type} {post : α → (AuditedAdmission → Prop) → Prop}
    {next : op.Reply → Call α} (permitted : ∀ s, known s → Permitted request op s)
    (tail : ∀ reply, Confines request post known (next reply)) : Confines request post known (.enter op next) :=
  upholds_enter lasting (fun s _ here => permitted s here) (fun input _ sound _ => (serve_sound sound op input).2) tail

theorem announced_confines (started : TaskSnapshot) : Keeps request known (announced started) :=
  confines_enter lasting (fun _ _ => trivial) (fun _ => rfl)

section
variable (id : TaskId)
include id

theorem claim_confines : Keeps request known (claim id request.peer) := by
  refine confines_enter lasting (fun _ _ => rfl) (fun reply => ?_)
  match reply with
  | .answered _ | .attempted none => rfl
  | .attempted (some started) => exact announced_confines lasting started

omit id in
theorem claim_next_confines : Keeps request known (claimNext request.peer) := by
  refine confines_enter lasting (fun _ _ => rfl) (fun reply => ?_)
  match reply with
  | some started => exact announced_confines lasting started
  | none => rfl

theorem wait_claim_confines (rounds : Nat) : Keeps request known (waitClaim id request.peer rounds) := by
  induction rounds with
  | zero =>
    unfold waitClaim
    refine confines_enter lasting (fun _ _ => rfl) (fun reply => ?_)
    match reply with
    | .answered _ | .attempted none => rfl
    | .attempted (some started) => exact announced_confines lasting started
  | succ rounds ih =>
    unfold waitClaim
    refine confines_enter lasting (fun _ _ => rfl) (fun reply => ?_)
    match reply with
    | .answered _ => rfl
    | .attempted (some started) => exact announced_confines lasting started
    | .attempted none => exact ih

omit id in
theorem concluded_confines (ended : Bool) : Keeps request known (concluded ended) := by
  cases ended with
  | true =>
    exact confines_enter lasting (fun _ _ => trivial)
      (fun _ => confines_enter lasting (fun _ _ => trivial) (fun _ => rfl))
  | false => exact rfl

theorem refused_confines : Ends request known (refused id) :=
  confines_enter lasting (fun _ _ => trivial) (fun _ => trivial)

theorem answered_confines (done : Bool) (state : TaskState) : Ends request known (answered id done state) := by
  cases done with
  | true => trivial
  | false => exact refused_confines lasting id

theorem claimed_confines : Ends request known (claimed id request.peer) := by
  unfold claimed
  split
  · refine bind_confines (claim_next_confines lasting) (fun reply => ?_)
    cases reply with
    | none | some started => trivial
  · refine bind_confines (claim_confines lasting id) (fun reply => ?_)
    cases reply with
    | none => exact confines_enter lasting (fun _ _ => trivial) (fun _ => trivial)
    | some started => trivial

theorem waited_confines (rounds : Nat) : Ends request known (waited id request.peer rounds) := by
  refine bind_confines (wait_claim_confines lasting id rounds) (fun reply => ?_)
  cases reply with
  | some started => trivial
  | none =>
    refine confines_enter lasting (fun _ _ => trivial) (fun current => ?_)
    cases current with
    | none | some existing => trivial

theorem acquired_confines (own : ∀ s, known s → Submitted request.peer id s) :
    Ends request known (acquired id request.peer) := by
  refine bind_confines (claim_confines lasting id) (fun reply => ?_)
  cases reply with
  | some started => trivial
  | none =>
    simp only [perform_bind]
    refine confines_enter lasting (fun _ _ => trivial) (fun current => ?_)
    split
    · trivial
    · exact confines_enter lasting own (fun _ => trivial)

end

end Handlers

theorem submitted_confines (admission : TaskSpec) {rest : TaskId → Call TaskProtocolResponse}
    (after : ∀ id, Ends request (Submitted request.peer id) (rest id)) :
    Ends request (fun _ => True) (submitted request admission rest) := by
  unfold submitted
  rw [perform_bind]
  refine ⟨fun _ _ _ => rfl, fun input s sound _ => ?_⟩
  rcases submit_spec sound admission request.registrar request.peer input with
    ⟨status, refused, result⟩ | ⟨submitter, status, b, named, result, _⟩
  · refine ⟨fun _ => True, fun _ _ _ _ => trivial, trivial, ?_⟩
    simp only [serve, result, ne_eq, refused, not_false_eq_true, if_true]
    trivial
  refine ⟨Submitted request.peer s.service.scheduler.nextTaskId, submitted_lasting _ _, ?_, ?_⟩
  · simp only [serve, result]
    exact ⟨submitter, named, (KeyedMap.lookup_insert_cases _ _ _ _).trans (if_pos rfl)⟩
  · simp only [serve, result]
    split
    · trivial
    · exact after s.service.scheduler.nextTaskId

theorem handle_confines (request : RequestCall) : Ends request (fun _ => True) (handle request) := by
  have always : Lasting Grows (fun _ : AuditedAdmission => True) := fun _ _ _ _ => trivial
  unfold handle
  split
  · trivial
  next parsed accepted =>
  unfold dispatch
  cases operation : parsed.operation with
  | submit => exact submitted_confines parsed.admission (fun _ => trivial)
  | acquire =>
    exact submitted_confines parsed.admission
      (fun id => acquired_confines (submitted_lasting request.peer id) id (fun _ own => own))
  | cancel =>
    refine confines_enter always (fun _ _ => ⟨parsed, accepted, operation, rfl⟩) (fun cancelled => ?_)
    exact answered_confines always parsed.taskId cancelled .cancelled
  | query =>
    refine confines_enter always (fun _ _ => trivial) (fun current => ?_)
    cases current with
    | none | some existing => trivial
  | claim => exact claimed_confines always parsed.taskId
  | wait => exact waited_confines always parsed.taskId request.rounds
  | heartbeat =>
    refine confines_enter always (fun _ _ => rfl) (fun renewed => ?_)
    exact answered_confines always parsed.taskId renewed .running
  | complete | fail =>
    refine bind_confines (confines_enter always (fun _ _ => rfl) (concluded_confines always)) (fun ended => ?_)
    exact answered_confines always parsed.taskId ended _
  | stats | metrics => exact confines_enter always (fun _ _ => trivial) (fun _ => trivial)

theorem endpoint_discipline : Pool.Discipline serve handle outside Sound Grows Permitted where
  opened request := ⟨fun _ => True, fun _ _ _ _ => trivial, fun _ _ => trivial, handle_confines request⟩
  served _ op input _ sound _ := serve_sound sound op input
  outer event _ sound := outside_sound sound event

abbrev Sessions := Pool AuditedAdmission Nat RequestCall ServiceOp.Reply TaskProtocolResponse

abbrev SessionEvent := PoolEvent Nat RequestCall SectionInput Outside

def boundEndpoint (limit : MemoryBytes) (settings : SchedulerOptions) (leaseTimeout : Nat)
    (completionObserver : Bool) : Sessions :=
  Pool.idle { service := {
    options := { leaseTimeout := leaseTimeout, bindLeasesToProcess := true, completionObserver := completionObserver }
    scheduler := .new limit settings } }

def step (sessions : Sessions) (event : SessionEvent) : Sessions := Pool.step serve handle outside sessions event

def run (sessions : Sessions) (events : List SessionEvent) : Sessions := Pool.run serve handle outside sessions events

theorem legacy_requests_untouched_iff (limit : MemoryBytes) (settings : SchedulerOptions) (leaseTimeout : Nat)
    (completionObserver : Bool) (events : List SessionEvent) (thread : Nat) (request : RequestCall) (op : ServiceOp)
    (input : SectionInput)
    (here : (run (boundEndpoint limit settings leaseTimeout completionObserver) events).entering thread =
      some (request, op)) :
    Untouched request.peer (run (boundEndpoint limit settings leaseTimeout completionObserver) events).shared
        (step (run (boundEndpoint limit settings leaseTimeout completionObserver) events)
          (.advance thread input)).shared ↔
      ¬ CancelsForeign request op (run (boundEndpoint limit settings leaseTimeout completionObserver) events).shared := by
  have sound : Sound (boundEndpoint limit settings leaseTimeout completionObserver).shared := by
    refine ⟨rfl, rfl, Scheduler.new_invariant limit settings, fun id peer held => ?_,
      fun id submitter known => by cases known⟩
    obtain ⟨lease, found | found, _⟩ := held
    · cases found
    · cases found
  have guarded := Pool.guarded_run endpoint_discipline events _ (Pool.guarded_idle sound)
  have permitted : Permitted request op _ := Pool.guarded_allowed guarded here
  unfold step
  rw [Pool.advance_shared serve handle outside here input]
  exact serve_untouched_iff guarded.1 input permitted

def submitterProcess : TaskPeerIdentity := { pid := 10, uid := 1, startTimeTicks := 100 }

def strangerProcess : TaskPeerIdentity := { pid := 20, uid := 2, startTimeTicks := 200 }

def smallEndpoint : Sessions := boundEndpoint 1024 {} 0 false

def strangerAsks (line : String) : List SessionEvent :=
  [.start 0 { line := ascii "GLIMMER_TASK_V1 SUBMIT tenant 64 1 1", peer := some submitterProcess }, .advance 0 {},
    .start 1 { line := ascii line, peer := some strangerProcess }]

theorem stranger_claim_untouched :
    Untouched (some strangerProcess) (run smallEndpoint (strangerAsks "GLIMMER_TASK_V1 CLAIM 1")).shared
      (step (run smallEndpoint (strangerAsks "GLIMMER_TASK_V1 CLAIM 1")) (.advance 1 {})).shared := by
  refine (legacy_requests_untouched_iff 1024 {} 0 false (strangerAsks "GLIMMER_TASK_V1 CLAIM 1") 1
    { line := ascii "GLIMMER_TASK_V1 CLAIM 1", peer := some strangerProcess } (.claim 1 (some strangerProcess)) {}
    (by decide +kernel)).mpr ?_
  rintro ⟨parsed, _, _, _, other, _⟩
  cases other

theorem stranger_cancels_queued_task : let before := run smallEndpoint (strangerAsks "GLIMMER_TASK_V1 CANCEL 1")
    let after := step before (.advance 1 {})
    submitterProcess ≠ strangerProcess ∧ before.shared.submitters.lookup 1 = some submitterProcess ∧
      before.entering 1 =
        some ({ line := ascii "GLIMMER_TASK_V1 CANCEL 1", peer := some strangerProcess }, .cancelQueued 1) ∧
      before.shared.service.scheduler.taskState 1 = some .queued ∧
      after.shared.service.scheduler.taskState 1 = some .cancelled := by
  decide +kernel

end TaskControlEndpoint

end Glimmer.Control
