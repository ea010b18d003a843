import Glimmer.Core.SchedulerRuns
import Glimmer.Control.TaskEndpoint

namespace Glimmer.Control

open Lib Glimmer.Core KeyedMap Scheduler

-- What an admission service keeps for its tasks, whatever its leases hold.
structure Custody (O L : Type) where
  options : O
  scheduler : Scheduler
  pending : KeyedMap TaskId L
  active : KeyedMap TaskId L

namespace Custody

variable {O L P : Type} (owner : L → Option P)

def Held (c : Custody O L) (id : TaskId) (peer : Option P) : Prop :=
  ∃ lease, (c.pending.lookup id = some lease ∨ c.active.lookup id = some lease) ∧ owner lease = peer

-- A change that concerns one task, and gives its lease to nobody new.
structure Tends (c d : Custody O L) (id : TaskId) : Prop where
  options : d.options = c.options
  scheduler : Scheduler.Confined c.scheduler d.scheduler id
  pending : ∀ other, other ≠ id → d.pending.lookup other = c.pending.lookup other
  active : ∀ other, other ≠ id → d.active.lookup other = c.active.lookup other
  holders : ∀ peer, Held owner d id peer → Held owner c id peer

def OwnStep (c d : Custody O L) (peer : Option P) : Prop := d = c ∨ ∃ id, Tends owner c d id ∧ Held owner c id peer

structure Owned (c : Custody O L) (submitters : KeyedMap TaskId P) : Prop where
  invariant : Scheduler.Invariant c.scheduler
  leases : ∀ id peer, Held owner c id peer → ∃ submitter, peer = some submitter ∧ submitters.lookup id = some submitter
  issued : ∀ (id : Nat) submitter, submitters.lookup id = some submitter → id < c.scheduler.nextTaskId

structure Arrives (c d : Custody O L) (submitter : P) : Prop where
  options : d.options = c.options
  scheduler : Scheduler.Confined c.scheduler d.scheduler c.scheduler.nextTaskId
  grown : c.scheduler.nextTaskId < d.scheduler.nextTaskId
  pending : ∀ other, other ≠ c.scheduler.nextTaskId → d.pending.lookup other = c.pending.lookup other
  active : d.active = c.active
  named : ∀ lease, d.pending.lookup c.scheduler.nextTaskId = some lease → owner lease = some submitter

def Untouched (submitters : KeyedMap TaskId P) (peer : Option P) (c d : Custody O L) : Prop :=
  ∀ id submitter, submitters.lookup id = some submitter → peer ≠ some submitter →
    d.scheduler.tasks.lookup id = c.scheduler.tasks.lookup id ∧ d.pending.lookup id = c.pending.lookup id ∧
      d.active.lookup id = c.active.lookup id

variable {owner} {c d e : Custody O L} {id : TaskId}

theorem tends_refl (inv : Invariant c.scheduler) (id : TaskId) : Tends owner c c id :=
  ⟨rfl, confined_refl inv id, fun _ _ => rfl, fun _ _ => rfl, fun _ held => held⟩

theorem tends_trans (first : Tends owner c d id) (second : Tends owner d e id) : Tends owner c e id where
  options := second.options.trans first.options
  scheduler := confined_trans first.scheduler second.scheduler
  pending other apart := (second.pending other apart).trans (first.pending other apart)
  active other apart := (second.active other apart).trans (first.active other apart)
  holders peer held := first.holders peer (second.holders peer held)

theorem tends_scheduler {after : Scheduler} (confined : Confined c.scheduler after id) :
    Tends owner c { c with scheduler := after } id :=
  ⟨rfl, confined, fun _ _ => rfl, fun _ _ => rfl, fun _ held => held⟩

variable {lease : L}

section Edits
variable (inv : Scheduler.Invariant c.scheduler)
include inv

theorem tends_leases {pending active : KeyedMap TaskId L}
    (waiting : ∀ other, other ≠ id → pending.lookup other = c.pending.lookup other)
    (running : ∀ other, other ≠ id → active.lookup other = c.active.lookup other)
    (held : ∀ lease, pending.lookup id = some lease ∨ active.lookup id = some lease → Held owner c id (owner lease)) :
    Tends owner c { c with pending := pending, active := active } id := by
  refine ⟨rfl, confined_refl inv id, waiting, running, ?_⟩
  rintro peer ⟨lease, found, rfl⟩
  exact held lease found

theorem tends_release_pending (id : TaskId) : Tends owner c { c with pending := c.pending.erase id } id := by
  refine tends_leases inv (fun other apart => by simp [apart]) (fun _ _ => rfl) ?_
  rintro lease (found | found)
  · simp at found
  · exact ⟨lease, .inr found, rfl⟩

theorem tends_release_active (id : TaskId) : Tends owner c { c with active := c.active.erase id } id := by
  refine tends_leases inv (fun _ _ => rfl) (fun other apart => by simp [apart]) ?_
  rintro lease (found | found)
  · exact ⟨lease, .inl found, rfl⟩
  · simp at found

variable (held : Held owner c id (owner lease))
include held

theorem tends_hold_pending : Tends owner c { c with pending := c.pending.insert id lease } id := by
  refine tends_leases inv (fun other apart => by simp [apart]) (fun _ _ => rfl) ?_
  rintro other (found | found)
  · simp_all
  · exact ⟨other, .inr found, rfl⟩

theorem tends_hold_active : Tends owner c { c with active := c.active.insert id lease } id := by
  refine tends_leases inv (fun _ _ => rfl) (fun other apart => by simp [apart]) ?_
  rintro other (found | found)
  · exact ⟨other, .inl found, rfl⟩
  · simp_all

theorem tends_pass_active :
    Tends owner c { c with pending := c.pending.erase id, active := c.active.insert id lease } id :=
  tends_trans (tends_hold_active inv held)
    (tends_release_pending (c := { c with active := c.active.insert id lease }) inv id)

end Edits

section Arrival
variable {after : Scheduler} {submitter : P} (confined : Scheduler.Confined c.scheduler after c.scheduler.nextTaskId)
  (grown : c.scheduler.nextTaskId < after.nextTaskId)

include confined grown

end Arrival

variable {submitters : KeyedMap TaskId P}

theorem tends_owned (owned : Owned owner c submitters) (tends : Tends owner c d id) : Owned owner d submitters := by
  refine ⟨tends.scheduler.invariant, fun other peer held => owned.leases other peer ?_,
    fun id submitter known => lt_of_lt_of_le (owned.issued id submitter known) tends.scheduler.issued⟩
  by_cases same : other = id
  · subst same
    exact tends.holders peer held
  · obtain ⟨lease, found, named⟩ := held
    rw [tends.pending other same, tends.active other same] at found
    exact ⟨lease, found, named⟩

variable {peer : Option P}

theorem tends_untouched (tends : Tends owner c d id)
    (own : ∀ submitter, submitters.lookup id = some submitter → peer = some submitter) :
    Untouched submitters peer c d := by
  intro other submitter known foreign
  have apart : other ≠ id := fun same => foreign (own submitter (same ▸ known))
  exact ⟨tends.scheduler.kept other apart, tends.pending other apart, tends.active other apart⟩

theorem untouched_refl (peer : Option P) : Untouched submitters peer c c := fun _ _ _ _ => ⟨rfl, rfl, rfl⟩

variable (owned : Owned owner c submitters)
include owned

theorem own_owned (own : OwnStep owner c d peer) : d.options = c.options ∧ Owned owner d submitters := by
  rcases own with rfl | ⟨id, tends, _⟩
  · exact ⟨rfl, owned⟩
  · exact ⟨tends.options, tends_owned owned tends⟩

theorem own_untouched (own : OwnStep owner c d peer) : Untouched submitters peer c d := by
  rcases own with rfl | ⟨id, tends, held⟩
  · exact untouched_refl peer
  · refine tends_untouched tends fun submitter known => ?_
    obtain ⟨name, rfl, found⟩ := owned.leases id peer held
    exact found.symm.trans known

theorem fresh_submitter : submitters.lookup c.scheduler.nextTaskId = none := by
  cases known : submitters.lookup c.scheduler.nextTaskId with
  | none => rfl
  | some submitter => exact absurd (owned.issued _ submitter known) (Nat.lt_irrefl _)

theorem fresh_unheld (peer : Option P) : ¬ Held owner c c.scheduler.nextTaskId peer := by
  intro held
  obtain ⟨submitter, _, known⟩ := owned.leases _ peer held
  rw [fresh_submitter owned] at known
  cases known

theorem arrives_owned {submitter : P} (arrives : Arrives owner c d submitter) :
    Owned owner d (submitters.insert c.scheduler.nextTaskId submitter) where
  invariant := arrives.scheduler.invariant
  leases id peer held := by
    obtain ⟨lease, found, own⟩ := held
    rw [lookup_insert_cases]
    by_cases same : id = c.scheduler.nextTaskId
    · rw [if_pos same]
      subst same
      rcases found with waiting | running
      · exact ⟨submitter, own ▸ arrives.named lease waiting, rfl⟩
      · rw [arrives.active] at running
        exact absurd ⟨lease, .inr running, own⟩ (fresh_unheld owned peer)
    · rw [if_neg same]
      rw [arrives.pending id same, arrives.active] at found
      exact owned.leases id peer ⟨lease, found, own⟩
  issued id other known := by
    rw [lookup_insert_cases] at known
    split at known
    · next same => exact same ▸ arrives.grown
    · exact lt_of_lt_of_le (owned.issued id other known) arrives.scheduler.issued

theorem arrives_untouched {submitter : P} (arrives : Arrives owner c d submitter)
    (peer : Option P) : Untouched submitters peer c d := by
  intro other name known _
  have apart : other ≠ c.scheduler.nextTaskId := by
    rintro rfl
    rw [fresh_submitter owned] at known
    cases known
  exact ⟨arrives.scheduler.kept other apart, arrives.pending other apart, by rw [arrives.active]⟩

end Custody

open Custody

namespace Admission

def custody (a : Admission) : Custody AdmissionOptions LeaseRecord :=
  ⟨a.options, a.scheduler, a.pendingLeases, a.activeLeases⟩

abbrev Holds (a : Admission) (id : TaskId) (peer : TaskPeer) : Prop :=
  Custody.Held LeaseRecord.owner a.custody id peer

abbrev Tends (a b : Admission) (id : TaskId) : Prop := Custody.Tends LeaseRecord.owner a.custody b.custody id

abbrev OwnStep (a b : Admission) (peer : TaskPeer) : Prop :=
  Custody.OwnStep LeaseRecord.owner a.custody b.custody peer

variable {a b : Admission} {id : TaskId} {peer : TaskPeer}

@[simp] theorem notify_custody {a : Admission} : a.notifyStateChange.custody = a.custody := by
  unfold notifyStateChange
  split <;> rfl

theorem tends_self (inv : Invariant a.scheduler) (id : TaskId) : Tends a a id :=
  tends_refl inv id

theorem tends_notify (tends : Tends a b id) : Tends a b.notifyStateChange id := by
  rw [Tends, notify_custody]
  exact tends

variable {lease : LeaseRecord}

theorem owner_matches_eq (bound : a.options.bindLeasesToProcess = true)
    (matched : a.ownerMatches lease peer = true) : lease.owner = peer := by
  unfold ownerMatches at matched
  cases peer <;> cases shape : lease.owner <;> simp_all [validPeerIdentity]

theorem pending_owner_holds (bound : a.options.bindLeasesToProcess = true)
    (matched : a.pendingOwnerMatches id peer = true) : a.Holds id peer := by
  unfold pendingOwnerMatches at matched
  rw [bound] at matched
  cases found : a.pendingLeases.lookup id with
  | none => simp [found] at matched
  | some lease =>
    simp only [found, Option.any_some, Bool.not_true, Bool.false_eq_true, if_false, Bool.and_eq_true] at matched
    exact ⟨lease, .inl found, owner_matches_eq bound matched.2⟩

variable {now : TimePoint}

section Sections
variable (inv : Scheduler.Invariant a.scheduler)
include inv

theorem cancel_tends (id : TaskId) (now : TimePoint) : Tends a (a.cancel id now).2 id := by
  have confined : Confined a.scheduler (a.scheduler.cancel id now).2 id :=
    apply_confined inv (.cancel id now) rfl
  unfold cancel
  split
  · exact tends_self inv id
  split
  · next scheduler result =>
    rw [result] at confined
    exact tends_scheduler confined
  · next scheduler result =>
    rw [result] at confined
    have moved : Tends a { a with scheduler := scheduler } id := tends_scheduler confined
    have inactive := tends_trans moved (tends_release_active confined.invariant id)
    exact tends_notify (tends_trans inactive (tends_release_pending confined.invariant id))

theorem cancel_queued_tends (id : TaskId) (peer : TaskPeer) : Tends a (a.cancelQueued id peer).2 id := by
  have confined : Confined a.scheduler (a.scheduler.cancelQueued id).2 id :=
    apply_confined inv (.cancelQueued id) rfl
  unfold cancelQueued
  split
  · exact tends_self inv id
  split
  · next scheduler result =>
    rw [result] at confined
    exact tends_scheduler confined
  · next scheduler result =>
    rw [result] at confined
    have moved : Tends a { a with scheduler := scheduler } id := tends_scheduler confined
    exact tends_notify (tends_trans moved (tends_release_pending confined.invariant id))

theorem revoke_tends (id : TaskId) (now : TimePoint) : Tends a (a.revokeDispatch id now).2 id :=
  tends_notify (tends_scheduler (apply_confined inv (.fail id now) rfl))

section
variable (bound : a.options.bindLeasesToProcess = true)
include bound

theorem record_lease_tends (started : TaskSnapshot) (peer : TaskPeer) (allocated : Bool) (now : TimePoint) :
    Tends a (a.recordLease (some started) peer allocated now).2 started.taskId := by
  have dropped : Tends a { a with pendingLeases := a.pendingLeases.erase started.taskId } started.taskId :=
    tends_release_pending inv started.taskId
  have revoked := tends_trans dropped
    (revoke_tends (a := { a with pendingLeases := a.pendingLeases.erase started.taskId })
    inv started.taskId now)
  unfold recordLease
  simp only
  split
  · exact tends_self inv _
  split
  · exact revoked
  next foreign =>
  split
  · next unbound => exact absurd bound unbound.1
  have held : a.Holds started.taskId peer := by
    refine pending_owner_holds bound ?_
    by_contra other
    exact foreign ⟨bound, other⟩
  unfold emplaceLease
  split
  · exact revoked
  next leases result =>
  split at result
  · cases result
    exact tends_pass_active inv held
  · cases result

theorem dispatch_lease_tends (id : TaskId) (peer : TaskPeer) (allocated : Bool) (now : TimePoint) :
    Tends a (a.dispatchLease id peer allocated now).2 id := by
  have confined : Confined a.scheduler (a.scheduler.dispatchTask id now).2 id :=
    apply_confined inv (.dispatchTask id now) rfl
  unfold dispatchLease
  rcases dispatch_task_cases inv id now with ⟨t, result, _⟩ | ⟨task, next, t, result, _⟩
  · rw [result] at confined ⊢
    exact tends_scheduler confined
  · rw [result] at confined ⊢
    exact tends_trans (tends_scheduler confined)
      (record_lease_tends (a := { a with scheduler := t }) confined.invariant bound
      (snapshot id next) peer allocated now)

variable {allocated : Bool} (id : TaskId) (peer : TaskPeer)

theorem claim_own : OwnStep a (a.claim id peer allocated now).2 peer := by
  unfold claim
  split
  · exact .inl rfl
  next unanswered =>
  refine .inr ⟨id, dispatch_lease_tends inv bound id peer allocated now, pending_owner_holds bound ?_⟩
  unfold claimAnswer at unanswered
  split at unanswered
  · cases unanswered
  split at unanswered
  · cases unanswered
  split at unanswered
  · cases unanswered
  · split at unanswered
    · next matched => exact matched
    · cases unanswered

theorem wait_attempt_own : OwnStep a (a.waitAttempt id peer allocated now).2 peer := by
  unfold waitAttempt
  split
  · exact .inl rfl
  split
  · exact .inl rfl
  next unanswered =>
  refine .inr ⟨id, dispatch_lease_tends inv bound id peer allocated now, pending_owner_holds bound ?_⟩
  unfold waitClaimAnswer at unanswered
  split at unanswered
  · cases unanswered
  split at unanswered
  · cases unanswered
  split at unanswered
  · cases unanswered
  split at unanswered
  · cases unanswered
  · split at unanswered
    · next matched => exact matched
    · cases unanswered

theorem heartbeat_own : OwnStep a (a.heartbeat id peer now).2 peer := by
  unfold heartbeat
  split
  · exact .inl rfl
  split
  · exact .inl rfl
  split
  · exact .inl rfl
  next lease found =>
  split
  · exact .inl rfl
  next own =>
  split
  · exact .inl rfl
  · have named : lease.owner = peer := owner_matches_eq bound (by simp_all)
    have held : a.Holds id lease.owner := ⟨lease, .inr found, rfl⟩
    exact .inr ⟨id, tends_hold_active inv held, named ▸ held⟩

theorem observe_dispatch_tends (dispatchObserver : Bool) :
    Tends a (a.observeExternalDispatch id dispatchObserver allocated now).2 id := by
  have unchanged := tends_self inv id
  unfold observeExternalDispatch
  split
  · exact unchanged
  split
  · exact unchanged
  split
  · exact unchanged
  next running seen =>
  have named : running.taskId = id := by
    obtain ⟨found, _⟩ := Option.filter_eq_some_iff.mp seen
    obtain ⟨task, _, shape⟩ := Option.map_eq_some_iff.mp found
    rw [← shape]
    rfl
  split
  · next unbound => simp [bound] at unbound
  · split
    · exact unchanged
    · next lease _ => exact named ▸ record_lease_tends inv bound running lease.owner allocated now

end

theorem observe_completion_tends (id : TaskId) (terminal : TaskState) :
    Tends a (a.observeExternalCompletion id terminal).2 id := by
  unfold observeExternalCompletion
  split
  · exact tends_self inv id
  · split
    · exact tends_self inv id
    · exact tends_release_active inv id

theorem reap_pending_tends (found : a.pendingLeases.lookup id = some lease) (now : TimePoint) :
    Tends a (a.reapPending id lease now).2 id := by
  have confined : Confined a.scheduler (a.scheduler.cancelQueued id).2 id :=
    apply_confined inv (.cancelQueued id) rfl
  unfold reapPending
  split
  · next scheduler result =>
    rw [result] at confined
    exact tends_trans (tends_scheduler confined) (tends_release_pending confined.invariant id)
  · next scheduler result =>
    rw [result] at confined
    exact tends_trans (tends_scheduler confined) (tends_hold_pending confined.invariant ⟨lease, .inl found, rfl⟩)

theorem reap_active_tends (found : a.activeLeases.lookup id = some lease) (now : TimePoint) :
    Tends a (a.reapActive id lease now).2 id := by
  have confined : Confined a.scheduler (a.scheduler.fail id now).2 id :=
    apply_confined inv (.fail id now) rfl
  unfold reapActive
  split
  next failed scheduler result =>
    rw [result] at confined
    split
    · exact tends_trans (tends_scheduler confined) (tends_release_active confined.invariant id)
    · exact tends_trans (tends_scheduler confined) (tends_hold_active confined.invariant ⟨lease, .inr found, rfl⟩)

end Sections

theorem finish_own (bound : a.options.bindLeasesToProcess = true) {id : TaskId} (peer : TaskPeer)
    {finish : Scheduler → TaskId → TimePoint → Bool × Scheduler}
    (confined : Confined a.scheduler (finish a.scheduler id now).2 id) :
    OwnStep a (a.finishLease id peer finish now).2 peer := by
  unfold finishLease
  simp only
  split
  · exact .inl rfl
  next own =>
  have held : a.Holds id peer := by
    cases found : a.activeLeases.lookup id with
    | none => exact absurd ⟨bound, .inr (by simp [found])⟩ own
    | some lease => exact ⟨lease, .inr found, owner_matches_eq bound (by simp_all)⟩
  refine .inr ⟨id, ?_, held⟩
  split
  · next scheduler result =>
    rw [result] at confined
    exact tends_scheduler confined
  · next scheduler result =>
    rw [result] at confined
    exact tends_trans (tends_scheduler confined) (tends_release_active confined.invariant id)

theorem claim_next_bound (bound : a.options.bindLeasesToProcess = true) (peer : TaskPeer)
    (allocated : Bool) (now : TimePoint) : (a.claimNext peer allocated now).2 = a := by
  rw [claimNext, if_pos bound]

theorem expired_active_found (legacy : a.options.flavour = .taskAdmissionService) (now : TimePoint) (ids : List TaskId)
    (leases : KeyedMap TaskId LeaseRecord) :
    (a.expiredActive now ids leases).2 = leases ∧
      ∀ id lease, (a.expiredActive now ids leases).1 = some (id, lease) → leases.lookup id = some lease := by
  induction ids with
  | nil => exact ⟨rfl, nofun⟩
  | cons first rest ih =>
    simp only [expiredActive, cooperative, legacy]
    split
    · exact ih
    next lease kept =>
    refine ⟨rfl, fun id other shape => ?_⟩
    cases shape
    exact (Option.filter_eq_some_iff.mp kept).1

theorem reap_expired_tends (inv : Invariant a.scheduler) (legacy : a.options.flavour = .taskAdmissionService)
    (pendingOrder activeOrder : List TaskId) (now : TimePoint) :
    ∃ id, Tends a (a.reapExpired pendingOrder activeOrder now).2 id := by
  unfold reapExpired
  split
  · exact ⟨0, tends_self inv 0⟩
  split
  · next id lease expired =>
    obtain ⟨_, _, shape⟩ := List.exists_of_findSome?_eq_some expired
    obtain ⟨_, kept, ⟨⟩⟩ := Option.map_eq_some_iff.mp shape
    exact ⟨id, reap_pending_tends inv (Option.filter_eq_some_iff.mp kept).1 now⟩
  obtain ⟨same, found⟩ := expired_active_found legacy now (walkOrder a.activeLeases activeOrder) a.activeLeases
  split
  · next leases result =>
    rw [result] at same
    cases same
    exact ⟨0, tends_self inv 0⟩
  · next id lease leases result =>
    rw [result] at same found
    cases same
    exact ⟨id, reap_active_tends inv (found id lease rfl) now⟩

section Arrival
variable {t : Scheduler} (submitter : TaskPeerIdentity)
  (vacant : a.pendingLeases.lookup a.scheduler.nextTaskId = none)
  (confined : Scheduler.Confined a.scheduler t a.scheduler.nextTaskId) (grown : a.scheduler.nextTaskId < t.nextTaskId)

include vacant confined grown

theorem withdraw_arrives (now : TimePoint) :
    Arrives LeaseRecord.owner a.custody
      (withdrawSubmission { a with scheduler := t } a.scheduler.nextTaskId now).2.custody submitter := by
  have cancelled : Confined t (t.cancel a.scheduler.nextTaskId now).2 a.scheduler.nextTaskId :=
    apply_confined confined.invariant (.cancel _ now) rfl
  rw [withdrawSubmission, notify_custody]
  exact ⟨rfl, confined_trans confined cancelled, lt_of_lt_of_le grown cancelled.issued, fun _ _ => rfl, rfl,
    fun _ found => absurd (found.symm.trans vacant) (by simp)⟩

theorem record_submission_arrives (legacy : a.options.flavour = .taskAdmissionService)
    (bound : a.options.bindLeasesToProcess = true) (registrar : TaskId → Bool) (allocated : Bool) (now : TimePoint) :
    ∃ status b, recordSubmission { a with scheduler := t } a.scheduler.nextTaskId .legacy registrar (some submitter)
        allocated now = ({ status := status, taskId := a.scheduler.nextTaskId }, b) ∧
      Arrives LeaseRecord.owner a.custody b.custody submitter := by
  have withdrawn := withdraw_arrives submitter vacant confined grown now
  have tracks : tracksLeases { a with scheduler := t } = true := by simp [tracksLeases, bound]
  simp only [recordSubmission, legacy, tracks, if_true]
  split
  · unfold emplaceLease
    split
    · exact ⟨_, _, rfl, withdrawn⟩
    next leases result =>
    refine ⟨_, _, rfl, ?_⟩
    split at result
    · cases result
      refine ⟨rfl, confined, grown, fun other apart => ?_, rfl, fun other found => ?_⟩
      · exact (KeyedMap.lookup_insert_cases ..).trans (if_neg apart)
      · cases ((KeyedMap.lookup_insert_cases ..).trans (if_pos rfl)).symm.trans found
        rfl
    · cases result
  · exact ⟨_, _, rfl, withdrawn⟩

end Arrival

theorem submit_arrives (inv : Invariant a.scheduler) (legacy : a.options.flavour = .taskAdmissionService)
    (bound : a.options.bindLeasesToProcess = true) (vacant : a.pendingLeases.lookup a.scheduler.nextTaskId = none)
    (request : TaskSpec) (registrar : Option (TaskId → Bool)) (peer : TaskPeer) (allocated : Bool) (now : TimePoint) :
    (∃ status, status ≠ .accepted ∧ a.submit request .legacy registrar peer allocated now = ({ status := status }, a)) ∨
      ∃ submitter status b, peer = some submitter ∧
        a.submit request .legacy registrar peer allocated now =
          ({ status := status, taskId := a.scheduler.nextTaskId }, b) ∧
        Arrives LeaseRecord.owner a.custody b.custody submitter := by
  unfold submit
  split
  · exact .inl ⟨_, by decide, rfl⟩
  next registrar =>
  split
  · exact .inl ⟨_, by decide, rfl⟩
  next known =>
  obtain ⟨submitter, rfl⟩ : ∃ submitter, peer = some submitter := by
    cases peer with
    | none => exact absurd ⟨bound, by decide⟩ known
    | some submitter => exact ⟨submitter, rfl⟩
  rcases submit_cases inv request now with ⟨status, refused, result⟩ | ⟨task, t, result, added⟩
  · rw [result]
    simp only [ne_eq, refused, not_false_eq_true, if_true]
    exact .inl ⟨status, refused, rfl⟩
  have confined : Confined a.scheduler t a.scheduler.nextTaskId := by
    have applied := apply_confined inv (.submit request now) rfl
    rwa [apply, result] at applied
  have grown : a.scheduler.nextTaskId < t.nextTaskId := by
    rw [added.nextId]
    exact Nat.lt_succ_self _
  obtain ⟨status, b, recorded, arrives⟩ := record_submission_arrives submitter vacant confined
    grown legacy bound registrar allocated now
  refine .inr ⟨submitter, status, b, rfl, ?_, arrives⟩
  rw [result]
  exact recorded

end Admission

end Glimmer.Control
