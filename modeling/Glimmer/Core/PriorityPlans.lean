import Glimmer.Core.ExecutionPriority
import Mathlib.Data.List.Induction
import Mathlib.Data.List.Nodup

namespace Glimmer.Core

open ExecutionPriorityPeer PlanFacts PeerScan

def HighestWork (peers : List ExecutionPriorityPeer) : Option Nat → Prop
  | none => ∀ peer ∈ peers, peer.hasWork = false
  | some top =>
    (∃ peer ∈ peers, peer.hasWork = true ∧ peer.priority = top) ∧
      ∀ peer ∈ peers, peer.hasWork = true → peer.priority ≤ top

structure Scanned (mode : ExecutionSchedulingMode) (seen : List ExecutionPriorityPeer) (scan : PeerScan) : Prop where
  named : ∀ peer ∈ seen, peer.session ≠ 0
  distinct : (seen.map (fun peer => peer.session)).Nodup
  unknown : scan.hasUnknown = seen.any (fun peer => peer.hasUnknownState)
  highest : isPriorityExecutionMode mode = true → HighestWork seen scan.selectedPriority

variable {peers : List ExecutionPriorityPeer} {mode : ExecutionSchedulingMode} {plan : ExecutionPriorityPlan}
  {scan : PeerScan} {peer : ExecutionPriorityPeer} {progress : ExecutionPriorityProgress}

theorem highest_work_add {seen : List ExecutionPriorityPeer} {scan : PeerScan} (peer : ExecutionPriorityPeer)
    (byPriority : isPriorityExecutionMode mode = true) (highest : HighestWork seen scan.selectedPriority) :
    HighestWork (seen ++ [peer]) (scan.add mode peer).selectedPriority := by
  have notShare : (mode == .prioritySpaceShare) = false := by
    cases mode <;> simp_all [isPriorityExecutionMode]
  cases selected : scan.selectedPriority with
  | none =>
    rw [selected] at highest
    cases working : peer.hasWork with
    | false => simpa [add, notShare, working, selected, HighestWork, or_imp, forall_and] using highest
    | true =>
      simp only [add, byPriority, working, selected, Bool.and_true, Bool.or_true, if_true]
      refine ⟨⟨peer, by simp, working, rfl⟩, List.forall_mem_append.mpr ⟨fun other earlier works => ?_, by simp⟩⟩
      cases (highest other earlier).symm.trans works
  | some top =>
    rw [selected] at highest
    obtain ⟨⟨best, mem, works, reached⟩, bounded⟩ := highest
    have kept := List.mem_append_left [peer] mem
    cases working : peer.hasWork with
    | false =>
      simp only [add, notShare, working, selected, Bool.and_false, Bool.or_false, Bool.false_eq_true, if_false]
      exact ⟨⟨best, kept, works, reached⟩, List.forall_mem_append.mpr ⟨bounded, by simp [working]⟩⟩
    | true =>
      simp only [add, byPriority, working, selected, Bool.and_true, Bool.or_true, if_true]
      constructor
      · rcases Nat.le_total top peer.priority with below | above
        · exact ⟨peer, by simp, working, (Nat.max_eq_right below).symm⟩
        · exact ⟨best, kept, works, reached.trans (Nat.max_eq_left above).symm⟩
      · refine List.forall_mem_append.mpr ⟨fun other earlier works => ?_,
          List.forall_mem_singleton.mpr fun _ => Nat.le_max_right _ _⟩
        exact Nat.le_trans (bounded other earlier works) (Nat.le_max_left _ _)

theorem rejected_iff (seen : List ExecutionPriorityPeer) (peer : ExecutionPriorityPeer) :
    peer.rejected seen = false ↔ peer.rejected [] = false ∧ ∀ other ∈ seen, other.session ≠ peer.session := by
  simp only [rejected, Bool.or_eq_false_iff, List.any_eq_false, beq_iff_eq, List.any_nil]
  tauto

-- The first pass looks at positions only to compare sessions, and what it gathers is a fold.
theorem scan_peers_iff (rest seen : List ExecutionPriorityPeer) (scan out : PeerScan) :
    scanPeers mode seen scan rest = some out ↔ (∀ peer ∈ rest, peer.rejected [] = false) ∧
      (rest.map (fun peer => peer.session)).Nodup ∧
      (∀ other ∈ seen, ∀ peer ∈ rest, other.session ≠ peer.session) ∧ rest.foldl (add mode) scan = out := by
  induction rest generalizing seen scan with
  | nil => simp [scanPeers]
  | cons peer rest ih =>
    unfold scanPeers
    cases kept : peer.rejected seen with
    | true =>
      simp only [if_true, reduceCtorEq, false_iff]
      rintro ⟨passed, _, apart, _⟩
      have accepted := (rejected_iff seen peer).mpr
        ⟨passed peer List.mem_cons_self, fun other mem => apart other mem peer List.mem_cons_self⟩
      cases kept.symm.trans accepted
    | false =>
      obtain ⟨passed, fresh⟩ := (rejected_iff seen peer).mp kept
      simp only [Bool.false_eq_true, if_false, ih, List.mem_append, List.mem_singleton, List.forall_mem_cons,
        List.map_cons, List.nodup_cons, List.mem_map, List.foldl_cons, passed, true_and]
      constructor
      · rintro ⟨all, distinct, apart, gathered⟩
        refine ⟨all, ⟨?_, distinct⟩, fun other mem => ⟨fresh other mem, apart other (.inl mem)⟩, gathered⟩
        rintro ⟨later, mem, same⟩
        exact apart peer (.inr rfl) later mem same.symm
      · rintro ⟨all, ⟨unseen, distinct⟩, apart, gathered⟩
        refine ⟨all, distinct, ?_, gathered⟩
        rintro other (mem | rfl) later here
        · exact (apart other mem).2 later here
        · exact fun same => unseen ⟨later, here, same.symm⟩

theorem gathered_scanned (peers : List ExecutionPriorityPeer) (mode : ExecutionSchedulingMode) :
    (peers.foldl (add mode) {}).hasUnknown = peers.any (fun peer => peer.hasUnknownState) ∧
      (isPriorityExecutionMode mode = true → HighestWork peers (peers.foldl (add mode) {}).selectedPriority) := by
  induction peers using List.reverseRecOn with
  | nil => simp [HighestWork]
  | append_singleton seen peer ih =>
    rw [List.foldl_append]
    exact ⟨by simp [add, ih.1], fun byPriority => highest_work_add peer byPriority (ih.2 byPriority)⟩

theorem scan_peers_scanned {scan : PeerScan} (found : scanPeers mode [] {} peers = some scan) :
    Scanned mode peers scan := by
  obtain ⟨passed, distinct, _, rfl⟩ := (scan_peers_iff peers [] {} scan).mp found
  obtain ⟨unknown, highest⟩ := gathered_scanned peers mode
  refine ⟨fun peer mem => ?_, distinct, unknown, highest⟩
  have kept := passed peer mem
  simp only [rejected, Bool.or_eq_false_iff, beq_eq_false_iff_ne] at kept
  exact kept.1.1.1

structure Planned (peers : List ExecutionPriorityPeer) (mode : ExecutionSchedulingMode) (plan : ExecutionPriorityPlan)
    (scan : PeerScan) : Prop where
  small : peers.length ≤ maxExecutionPriorityPeers
  scanned : Scanned mode peers scan
  bound : ∀ peer ∈ peers, progressAccepted peers peer = true
  shape : plan =
    { decisions := peers.map (planFacts mode peers scan).decision
      selectedPriority := scan.selectedPriority
      isValid := true }

theorem plan_cases (peers : List ExecutionPriorityPeer) (mode : ExecutionSchedulingMode) :
    planExecutionPriority peers mode = {} ∨ ∃ scan, Planned peers mode (planExecutionPriority peers mode) scan := by
  unfold planExecutionPriority
  split
  · exact .inl rfl
  next small =>
  split
  · exact .inl rfl
  next scan found =>
  split
  · next bound =>
    exact .inr ⟨scan, Nat.not_lt.mp small, scan_peers_scanned found, List.all_eq_true.mp bound, rfl⟩
  · exact .inl rfl

theorem plan_planned (valid : (planExecutionPriority peers mode).isValid = true) :
    ∃ scan, Planned peers mode (planExecutionPriority peers mode) scan := by
  rcases plan_cases peers mode with rejected | planned
  · rw [rejected] at valid
    cases valid
  · exact planned

-- A binding as the planner accepts it: all of it named, held by a peer with work, and owned by a listed reservation.
structure Bound (peers : List ExecutionPriorityPeer) (peer : ExecutionPriorityPeer)
    (progress : ExecutionPriorityProgress) : Prop where
  named : progress.reservation ≠ 0 ∧ progress.generation ≠ 0 ∧ progress.cutoff ≠ 0
  working : peer.hasWork = true
  owned : ∃ owner, findPeer peers progress.reservation = some owner ∧
    owner.reservationGeneration = progress.generation ∧
    (owner.hasPhysicalWork = true ∨ owner.hasUnknownState = true)

theorem find_peer_spec {session : Nat} {owner : ExecutionPriorityPeer}
    (found : findPeer peers session = some owner) : owner ∈ peers ∧ owner.session = session := by
  have hit := List.find?_some found
  exact ⟨List.mem_of_find?_eq_some found, by simpa using hit⟩

theorem progress_accepted_bound (peers : List ExecutionPriorityPeer) {peer : ExecutionPriorityPeer}
    {progress : ExecutionPriorityProgress} (held : peer.progress = some progress)
    (accepted : progressAccepted peers peer = true) : Bound peers peer progress := by
  simp only [progressAccepted, held] at accepted
  split at accepted
  · exact absurd accepted (by simp)
  next named =>
  simp only [Bool.or_eq_true, beq_iff_eq, Bool.not_eq_true', not_or, Bool.not_eq_false] at named
  split at accepted
  · exact absurd accepted (by simp)
  next owner found =>
  simp only [Bool.and_eq_true, beq_iff_eq, Bool.or_eq_true] at accepted
  exact ⟨⟨named.1.1.1, named.1.1.2, named.1.2⟩, named.2, owner, found, accepted⟩

section Decisions
variable (facts : PlanFacts) (peer : ExecutionPriorityPeer)

theorem decision_session : (facts.decision peer).session = peer.session := by
  unfold decision
  dsimp only
  split <;> rfl

theorem action_not_progress : facts.action peer ≠ .executeProgress := by
  unfold action priorityAction
  repeat' split
  all_goals simp

theorem decision_cases : (facts.hasUnknown = false ∧ peer.progress.isSome = true ∧ facts.action peer ≠ .execute ∧
      facts.decision peer = { session := peer.session, action := .executeProgress, progress := peer.progress }) ∨
    ((facts.hasUnknown = true ∨ peer.progress = none ∨ facts.action peer = .execute) ∧
      facts.decision peer =
        { session := peer.session
          action := facts.action peer
          command := if facts.action peer == .execute then peer.command else none }) := by
  unfold decision
  dsimp only
  split
  · next bound =>
    simp only [Bool.and_eq_true, Bool.not_eq_true', bne_iff_ne, ne_eq] at bound
    exact .inl ⟨bound.1.1, bound.1.2, bound.2, rfl⟩
  next free =>
  refine .inr ⟨?_, rfl⟩
  cases unknown : facts.hasUnknown with
  | true => exact .inl rfl
  | false =>
    cases held : peer.progress with
    | none => exact .inr (.inl rfl)
    | some progress => exact .inr (.inr (by simpa [unknown, held] using free))

theorem decision_command_exact :
    (facts.decision peer).command = if (facts.decision peer).action = .execute then peer.command else none := by
  rcases decision_cases facts peer with ⟨_, _, _, shape⟩ | ⟨_, shape⟩ <;> simp [shape]

theorem decision_execute (executes : (facts.decision peer).action = .execute) : facts.action peer = .execute := by
  rcases decision_cases facts peer with ⟨_, _, _, shape⟩ | ⟨_, shape⟩
  · rw [shape] at executes
    exact absurd executes (by simp)
  · rw [shape] at executes
    exact executes

theorem decision_of_bound (known : facts.hasUnknown = false) (held : peer.progress.isSome = true) :
    (facts.decision peer).action = .execute ∨
      ((facts.decision peer).action = .executeProgress ∧ (facts.decision peer).progress = peer.progress) := by
  rcases decision_cases facts peer with ⟨_, _, _, shape⟩ | ⟨unknown | unbound | executes, shape⟩
  · exact .inr (by rw [shape]; exact ⟨rfl, rfl⟩)
  · cases known.symm.trans unknown
  · simp [unbound] at held
  · exact .inl (by rw [shape]; exact executes)

variable (byPriority : isPriorityExecutionMode facts.mode = true) (known : facts.hasUnknown = false)
include byPriority known

theorem priority_action : facts.action peer = facts.priorityAction peer := by
  unfold action
  cases moded : facts.mode <;> simp_all [isPriorityExecutionMode]

theorem priority_action_execute :
    facts.action peer = .execute ↔
      facts.selectedPriority = some peer.priority ∧ (peer.hasReadyWork = true ∨ peer.hasPausedWork = true) ∧
        facts.hasLowerPhysical = false := by
  rw [priority_action facts peer byPriority known]
  unfold priorityAction
  cases facts.selectedPriority with
  | none => simp
  | some selected =>
    by_cases same : peer.priority = selected
    · subst same
      simp only [Nat.lt_irrefl, decide_false, Bool.false_and, Bool.false_eq_true, if_false, beq_self_eq_true,
        Bool.true_and, true_and]
      split
      · next executes => simpa using executes
      next waits =>
      have other : ¬ ((peer.hasReadyWork = true ∨ peer.hasPausedWork = true) ∧ facts.hasLowerPhysical = false) := by
        simpa using waits
      refine ⟨fun executes => ?_, fun executes => absurd executes other⟩
      split at executes <;> exact absurd executes (by simp)
    · have differs : ¬ selected = peer.priority := fun equal => same equal.symm
      have unequal : (peer.priority == selected) = false := beq_eq_false_iff_ne.mpr same
      simp only [Option.some.injEq, differs, false_and, iff_false, unequal, Bool.false_and]
      split
      · simp
      · simp only [Bool.false_eq_true, if_false]
        split <;> simp

end Decisions

section Entries

section
variable (planned : Planned peers mode plan scan)
include planned

theorem planned_decides {index : Nat} (listed : peers[index]? = some peer) :
    plan.decisions[index]? = some ((planFacts mode peers scan).decision peer) := by
  rw [planned.shape]
  simp [listed]

theorem planned_known (known : ∀ peer ∈ peers, peer.hasUnknownState = false) : scan.hasUnknown = false := by
  rw [planned.scanned.unknown]
  exact List.any_eq_false.mpr (fun peer mem => by simp [known peer mem])

theorem planned_bound (mem : peer ∈ peers) (held : peer.progress = some progress) : Bound peers peer progress :=
  progress_accepted_bound peers held (planned.bound peer mem)

end

theorem lower_physical_absent (peers : List ExecutionPriorityPeer) (top : Nat) :
    hasLowerPhysical peers (some top) = false ↔
      ∀ other ∈ peers, other.priority < top → other.hasPhysicalWork = false := by
  simp [hasLowerPhysical]

end Entries

structure OrdinaryDecision (peers : List ExecutionPriorityPeer) (selected : Option Nat) (peer : ExecutionPriorityPeer)
    (decision : ExecutionPriorityDecision) : Prop where
  execute : decision.action = .execute →
    (peer.hasReadyWork = true ∨ peer.hasPausedWork = true) ∧ selected = some peer.priority ∧
      ∀ other ∈ peers, other.priority < peer.priority → other.hasPhysicalWork = false
  retreat : ∀ top, selected = some top → peer.priority < top → peer.hasPhysicalWork = true →
    decision.action = if peer.progress.isSome then .executeProgress else .requestRetreat
  progress : decision.action = .executeProgress →
    ∃ progress, peer.progress = some progress ∧ decision.progress = some progress ∧
      ∃ owner ∈ peers, owner.session = progress.reservation ∧
        owner.reservationGeneration = progress.generation ∧ owner.hasPhysicalWork = true
  command : decision.command = if decision.action = .execute then peer.command else none

structure NoPriorityInversion (peers : List ExecutionPriorityPeer) (plan : ExecutionPriorityPlan) : Prop where
  paired : plan.decisions.map (fun decision => decision.session) = peers.map (fun peer => peer.session)
  quarantine : (∃ peer ∈ peers, peer.hasUnknownState = true) → ∀ decision ∈ plan.decisions,
    decision.action = .quarantined ∧ decision.command = none ∧ decision.progress = none
  selected : HighestWork peers plan.selectedPriority
  ordinary : (∀ peer ∈ peers, peer.hasUnknownState = false) → ∀ (index : Nat) peer decision,
    peers[index]? = some peer → plan.decisions[index]? = some decision →
    OrdinaryDecision peers plan.selectedPriority peer decision

-- A binding whose peer has no work, or without a listed owner of that generation that still has its reservation.
def BrokenBinding (peers : List ExecutionPriorityPeer) (peer : ExecutionPriorityPeer)
    (progress : ExecutionPriorityProgress) : Prop :=
  peer.hasWork = false ∨ ∀ owner ∈ peers, owner.session = progress.reservation →
      owner.reservationGeneration ≠ progress.generation ∨
        (owner.hasPhysicalWork = false ∧ owner.hasUnknownState = false)

section Priority
variable (planned : Planned peers mode plan scan)
include planned

theorem planned_ordinary (byPriority : isPriorityExecutionMode mode = true)
    (known : ∀ peer ∈ peers, peer.hasUnknownState = false) {index : Nat} {peer : ExecutionPriorityPeer}
    {decision : ExecutionPriorityDecision} (listed : peers[index]? = some peer)
    (decided : plan.decisions[index]? = some decision) :
    OrdinaryDecision peers plan.selectedPriority peer decision := by
  have mem : peer ∈ peers := List.mem_of_getElem? listed
  have healthy : (planFacts mode peers scan).hasUnknown = false := planned_known planned known
  have chosen : plan.selectedPriority = scan.selectedPriority := by rw [planned.shape]
  obtain rfl := Option.some.inj (decided.symm.trans (planned_decides planned listed))
  rw [chosen]
  refine ⟨?_, ?_, ?_, decision_command_exact _ peer⟩
  · intro executes
    obtain ⟨top, working, lower⟩ := (priority_action_execute _ peer byPriority healthy).mp
      (decision_execute _ peer executes)
    have absent : hasLowerPhysical peers (some peer.priority) = false := by
      rw [← top]
      exact lower
    exact ⟨working, top, (lower_physical_absent peers peer.priority).mp absent⟩
  · intro top selected lower physical
    have retreats : (planFacts mode peers scan).action peer = .requestRetreat := by
      rw [priority_action _ peer byPriority healthy]
      simp [priorityAction, show (planFacts mode peers scan).selectedPriority = some top from selected, lower, physical]
    rcases decision_cases (planFacts mode peers scan) peer with ⟨_, held, _, shape⟩ | ⟨free, shape⟩
    · simp [shape, held]
    rcases free with unknown | unbound | executes
    · cases healthy.symm.trans unknown
    · simp [shape, unbound, retreats]
    · cases retreats.symm.trans executes
  · intro progresses
    rcases decision_cases (planFacts mode peers scan) peer with ⟨_, held, _, shape⟩ | ⟨_, shape⟩
    rotate_left
    · rw [shape] at progresses
      exact absurd progresses (action_not_progress _ peer)
    obtain ⟨progress, held⟩ := Option.isSome_iff_exists.mp held
    obtain ⟨owner, found, current, alive⟩ := (planned_bound planned mem held).owned
    obtain ⟨owning, named⟩ := find_peer_spec found
    refine ⟨progress, held, by rw [shape, held], owner, owning, named, current, ?_⟩
    exact alive.resolve_right (by simp [known owner owning])

theorem planned_quarantine (unknown : ∃ peer ∈ peers, peer.hasUnknownState = true) {decision : ExecutionPriorityDecision}
    (decided : decision ∈ plan.decisions) :
    decision.action = .quarantined ∧ decision.command = none ∧ decision.progress = none := by
  have unhealthy : (planFacts mode peers scan).hasUnknown = true := by
    change scan.hasUnknown = true
    rw [planned.scanned.unknown]
    exact List.any_eq_true.mpr unknown
  rw [planned.shape] at decided
  obtain ⟨peer, _, rfl⟩ := List.mem_map.mp decided
  rcases decision_cases (planFacts mode peers scan) peer with ⟨known, _⟩ | ⟨_, shape⟩
  · cases known.symm.trans unhealthy
  · simp [shape, PlanFacts.action, unhealthy]

theorem planned_sessions :
    plan.decisions.map (fun decision => decision.session) = peers.map (fun peer => peer.session) := by
  rw [planned.shape, List.map_map]
  exact List.map_congr_left (fun peer _ => decision_session _ peer)

end Priority

theorem execution_plan_without_inversion (peers : List ExecutionPriorityPeer) (mode : ExecutionSchedulingMode)
    (byPriority : isPriorityExecutionMode mode = true) :
    ((planExecutionPriority peers mode).isValid = true →
      NoPriorityInversion peers (planExecutionPriority peers mode)) ∧
    ∀ peer ∈ peers, ∀ progress, peer.progress = some progress → BrokenBinding peers peer progress →
      (planExecutionPriority peers mode).isValid = false := by
  refine ⟨fun valid => ?_, fun peer mem progress held broken => Bool.eq_false_iff.mpr fun valid => ?_⟩
  · obtain ⟨scan, planned⟩ := plan_planned valid
    have selected : (planExecutionPriority peers mode).selectedPriority = scan.selectedPriority := by
      rw [planned.shape]
    refine ⟨planned_sessions planned, planned_quarantine planned, ?_, planned_ordinary planned byPriority⟩
    rw [selected]
    exact planned.scanned.highest byPriority
  · obtain ⟨scan, planned⟩ := plan_planned valid
    have bound := planned_bound planned mem held
    obtain ⟨owner, found, current, alive⟩ := bound.owned
    obtain ⟨owning, named⟩ := find_peer_spec found
    rcases broken with idle | stale
    · cases bound.working.symm.trans idle
    · rcases stale owner owning named with old | ⟨stopped, known⟩
      · exact absurd current old
      · simp [stopped, known] at alive

-- A low peer that still runs, bound to the reservation of a peer at its own priority, under a ready high peer.
def retreatingPeers : List ExecutionPriorityPeer :=
  [ { session := 1, priority := 0, hasPhysicalWork := true, reservationGeneration := 9 },
    { session := 2, priority := 0, hasPhysicalWork := true,
      progress := some { reservation := 1, generation := 9, cutoff := 17 } },
    { session := 3, priority := 100, hasReadyWork := true } ]

theorem retreating_plan_without_inversion : isPriorityExecutionMode .priority = true ∧
      NoPriorityInversion retreatingPeers (planExecutionPriority retreatingPeers .priority) :=
  ⟨rfl, (execution_plan_without_inversion retreatingPeers .priority rfl).1 (by decide +kernel)⟩

variable {mode : ExecutionSchedulingMode} {peers others : List ExecutionPriorityPeer}

theorem scan_add_comm (mode : ExecutionSchedulingMode) (scan : PeerScan) (first second : ExecutionPriorityPeer) :
    (scan.add mode first).add mode second = (scan.add mode second).add mode first := by
  simp only [PeerScan.add, PeerScan.mk.injEq]
  refine ⟨Bool.or_right_comm .., ?_⟩
  generalize (_ || _ && first.hasWork) = counted
  generalize (_ || _ && second.hasWork) = also
  cases counted <;> cases also <;> cases scan.selectedPriority <;> simp [Nat.max_comm, Nat.max_left_comm]

section Reordered
variable (reordered : peers.Perm others)
include reordered

theorem scan_peers_reordered : scanPeers mode [] {} peers = scanPeers mode [] {} others := by
  refine Option.ext fun out => ?_
  have gathered := reordered.foldl_eq' (fun first _ second _ scan => scan_add_comm mode scan first second) {}
  simp [scan_peers_iff, gathered, (reordered.map _).nodup_iff, reordered.mem_iff]

theorem find_peer_reordered (distinct : (peers.map (fun peer => peer.session)).Nodup) {session : Nat} :
    findPeer peers session = findPeer others session := by
  cases found : findPeer others session with
  | none =>
    refine List.find?_eq_none.mpr fun peer mem => ?_
    exact List.find?_eq_none.mp found peer (reordered.mem_iff.mp mem)
  | some owner =>
    obtain ⟨listed, named⟩ := find_peer_spec found
    have mem := reordered.mem_iff.mpr listed
    cases here : findPeer peers session with
    | none => exact absurd (List.find?_eq_none.mp here owner mem) (by simp [named])
    | some other =>
      obtain ⟨known, same⟩ := find_peer_spec here
      rw [List.inj_on_of_nodup_map distinct known mem (same.trans named.symm)]

theorem plan_facts_reordered (ordinary : mode ≠ .profile) (scan : PeerScan) :
    planFacts mode peers scan = planFacts mode others scan := by
  have lower : hasLowerPhysical peers scan.selectedPriority = hasLowerPhysical others scan.selectedPriority := by
    unfold hasLowerPhysical
    split
    · rfl
    · exact reordered.any_eq
  simp [planFacts, lower, profilePeer, ordinary]

theorem plan_order_free (ordinary : mode ≠ .profile) :
    let plan := planExecutionPriority peers mode
    let other := planExecutionPriority others mode
    (plan.isValid = true ↔ other.isValid = true) ∧ plan.selectedPriority = other.selectedPriority ∧
      ∀ peer (here there : Nat), peers[here]? = some peer → others[there]? = some peer →
        plan.decisions[here]? = other.decisions[there]? := by
  unfold planExecutionPriority
  rw [reordered.length_eq, scan_peers_reordered reordered]
  split
  · simp
  cases scanned : scanPeers mode [] {} others with
  | none => simp
  | some scan =>
    have distinct := ((scan_peers_iff others [] {} scan).mp scanned).2.1
    have bound : peers.all (progressAccepted peers) = others.all (progressAccepted others) := by
      have same : progressAccepted peers = progressAccepted others := funext fun peer => by
        simp only [progressAccepted, find_peer_reordered reordered ((reordered.map _).nodup_iff.mpr distinct)]
      rw [same, reordered.all_eq]
    simp only [bound, plan_facts_reordered reordered ordinary scan]
    split
    · refine ⟨Iff.rfl, rfl, fun peer here there listed again => ?_⟩
      simp [listed, again]
    · simp

end Reordered

theorem retreating_plan_order_free : (planExecutionPriority retreatingPeers .priority).decisions[0]? =
      (planExecutionPriority retreatingPeers.reverse .priority).decisions[2]? :=
  (plan_order_free (List.reverse_perm retreatingPeers).symm (by decide)).2.2 _ 0 2 rfl rfl

end Glimmer.Core
