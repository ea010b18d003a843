import Glimmer.Core.PriorityAdapters

namespace Glimmer.Core

open ExecutionPairProposal

def LoweredFrom (ordinary decision : ExecutionPriorityDecision) : Prop :=
  (ordinary.action = .execute → decision = { ordinary with action := .wait, command := none }) ∧
    (ordinary.action ≠ .execute → decision = ordinary)

structure GrantedLeg (peers : List ExecutionPriorityPeer) (mode : ExecutionSchedulingMode)
    (leg : ExecutionPairLeg) (index : Nat) (peer : ExecutionPriorityPeer) (context : ExecutionPairContext) : Prop where
  listed : peers[index]? = some peer
  session : peer.session = leg.session
  command : peer.command = some leg.command
  ordinary : ∃ decision, (planExecutionPriority peers mode).decisions[index]? = some decision ∧
    decision.action = .execute
  configured : peer.pairContext = some context
  materialized : context.isConfigurationMaterialized = true

structure SharedDomain (peers : List ExecutionPriorityPeer) (first second : ExecutionPairLeg) : Prop where
  distinct : first.session ≠ second.session
  workers : 0 < first.workers ∧ 0 < second.workers
  members : first.command.memberGeneration ≠ 0 ∧ second.command.memberGeneration ≠ 0 ∧
    first.command.memberGeneration ≠ second.command.memberGeneration
  epochs : first.command.physicalConfigurationEpoch = second.command.physicalConfigurationEpoch
  domain : ∃ left ∈ peers, ∃ right ∈ peers, ∃ mine yours : ExecutionPairContext,
    left.session = first.session ∧ right.session = second.session ∧
      left.pairContext = some mine ∧ right.pairContext = some yours ∧
      mine.executionDomain ≠ 0 ∧ mine.executionDomain = yours.executionDomain

structure ExactPair (peers : List ExecutionPriorityPeer) (proposal : ExecutionPairProposal)
    (mode : ExecutionSchedulingMode) (result : ExecutionPairPlan) : Prop where
  count : result.grants.length ≤ 2
  complete : result.priority.decisions.length = peers.length
  proposed : ∀ leg ∈ result.grants, leg ∈ proposal.legs.toList
  execute : ∀ (index : Nat) peer decision,
    peers[index]? = some peer → result.priority.decisions[index]? = some decision →
    (decision.action = .execute ↔ ∃ leg ∈ result.grants, leg.session = peer.session)
  command : ∀ (index : Nat) peer decision,
    peers[index]? = some peer → result.priority.decisions[index]? = some decision →
    decision.command = if decision.action = .execute then peer.command else none
  granted : ∀ leg ∈ result.grants, ∃ index peer context, GrantedLeg peers mode leg index peer context
  quiet : result.grants ≠ [] → QuietPeers peers
  shared : ∀ first second, result.grants = [first, second] → SharedDomain peers first second
  others : ∀ (index : Nat) peer ordinary decision,
    peers[index]? = some peer → (planExecutionPriority peers mode).decisions[index]? = some ordinary →
    result.priority.decisions[index]? = some decision → (∀ leg ∈ result.grants, leg.session ≠ peer.session) →
    LoweredFrom ordinary decision

section Granting

variable (legs : List Located) (decisions : List ExecutionPriorityDecision)

theorem grant_legs_length : (legs.foldl grantLeg decisions).length = decisions.length := by
  induction legs generalizing decisions with
  | nil => rfl
  | cons leg rest ih =>
    rw [List.foldl_cons, ih]
    simp [grantLeg]

theorem grant_legs_other (index : Nat)
    (apart : ∀ leg ∈ legs, leg.index ≠ index) : (legs.foldl grantLeg decisions)[index]? = decisions[index]? := by
  induction legs generalizing decisions with
  | nil => rfl
  | cons leg rest ih =>
    rw [List.foldl_cons, ih _ (fun other mem => apart other (List.mem_cons_of_mem _ mem))]
    simp [grantLeg, apart leg (by simp)]

theorem grant_legs_hit (distinct : (legs.map (fun leg => leg.index)).Nodup) (leg : Located) (mem : leg ∈ legs)
    (decision : ExecutionPriorityDecision) (decided : decisions[leg.index]? = some decision) :
    (legs.foldl grantLeg decisions)[leg.index]? =
      some { decision with action := .execute, command := some leg.leg.command } := by
  induction legs generalizing decisions decision with
  | nil => exact absurd mem (by simp)
  | cons first rest ih =>
    obtain ⟨fresh, tail⟩ := List.nodup_cons.mp distinct
    rw [List.foldl_cons]
    rcases List.mem_cons.mp mem with rfl | later
    · have apart : ∀ other ∈ rest, other.index ≠ leg.index := by
        intro other listed same
        exact fresh (List.mem_map.mpr ⟨other, listed, same⟩)
      rw [grant_legs_other rest _ leg.index apart]
      simp [grantLeg, decided]
    · have apart : first.index ≠ leg.index := by
        intro same
        exact fresh (List.mem_map.mpr ⟨leg, later, same.symm⟩)
      exact ih (grantLeg decisions first) tail later decision (by simp [grantLeg, apart, decided])

end Granting

variable {peers : List ExecutionPriorityPeer} {decision : ExecutionPriorityDecision}

section Sessions

theorem session_index_unique (distinct : (peers.map (fun peer => peer.session)).Nodup) {left right : Nat}
    {mine yours : ExecutionPriorityPeer} (listedLeft : peers[left]? = some mine)
    (listedRight : peers[right]? = some yours)
    (same : mine.session = yours.session) : left = right := by
  have within : left < (peers.map (fun peer => peer.session)).length := by
    rw [List.length_map]
    exact (List.getElem?_eq_some_iff.mp listedLeft).1
  refine (List.getElem?_inj within distinct).mp ?_
  simp [listedLeft, listedRight, same]

end Sessions

section Exact
variable {proposal : ExecutionPairProposal} {mode : ExecutionSchedulingMode}
  {scan : PeerScan} {first second : Located}

section
variable (paired : Paired peers proposal mode scan first second)
include paired

theorem ordinary_lowered {index : Nat} {ordinary : ExecutionPriorityDecision}
    (decided : (planExecutionPriority peers mode).decisions[index]? = some ordinary) :
    LoweredFrom ordinary (lowerExecute ordinary) := by
  refine ⟨fun executes => by simp [lowerExecute, executes], fun other => ?_⟩
  have empty : ordinary.command = none := by
    rw [paired.planned.shape, List.getElem?_map, Option.map_eq_some_iff] at decided
    obtain ⟨peer, _, rfl⟩ := decided
    rw [decision_command_exact, if_neg other]
  simp [lowerExecute, other, ← empty]

theorem granted_found {leg : Located} (mem : leg ∈ proposal.granted first second) :
    leg.leg ∈ proposal.legs.toList ∧ ∃ peer, FoundLeg peers proposal leg peer := by
  have either : leg = first ∨ leg = second := by
    unfold granted at mem
    split at mem
    · simpa using mem
    · split at mem
      · exact .inl (by simpa using mem)
      · exact .inr (by simpa using mem)
  rcases either with rfl | rfl
  · obtain ⟨same, found⟩ := locate_leg_found paired.foundFirst
    exact ⟨same ▸ Vector.mem_toList_iff.mpr (Vector.getElem_mem Nat.two_pos), found⟩
  · obtain ⟨same, found⟩ := locate_leg_found paired.foundSecond
    exact ⟨same ▸ Vector.mem_toList_iff.mpr (Vector.getElem_mem Nat.one_lt_two), found⟩

theorem legs_apart : first.leg.session ≠ second.leg.session := by
  rw [(locate_leg_found paired.foundFirst).1, (locate_leg_found paired.foundSecond).1]
  have accepted := paired.accepted
  simp only [rejected, Bool.or_eq_false_iff, beq_eq_false_iff_ne, ne_eq] at accepted
  exact accepted.2

theorem granted_indices_distinct : ((proposal.granted first second).map (fun leg => leg.index)).Nodup := by
  obtain ⟨_, mine, left⟩ := locate_leg_found paired.foundFirst
  obtain ⟨_, yours, right⟩ := locate_leg_found paired.foundSecond
  have apart : first.index ≠ second.index := by
    intro same
    have listed := left.listed
    rw [same, right.listed] at listed
    apply legs_apart paired
    rw [← left.session, ← right.session, Option.some.inj listed]
  unfold granted
  split
  · simp [apart]
  · split <;> simp

theorem granted_shared {left right : ExecutionPairLeg}
    (two : (proposal.granted first second).map (fun leg => leg.leg) = [left, right]) : SharedDomain peers left right := by
  have shared : proposal.isShared = true := by
    unfold granted at two
    split at two
    · assumption
    · split at two <;> simp at two
  simp only [granted, shared, if_true, List.map_cons, List.map_nil, List.cons.injEq, and_true] at two
  obtain ⟨rfl, rfl⟩ := two
  obtain ⟨_, mine, foundFirst⟩ := locate_leg_found paired.foundFirst
  obtain ⟨_, yours, foundSecond⟩ := locate_leg_found paired.foundSecond
  have domain := paired.domain shared
  simp only [sharedRejected, Bool.or_eq_false_iff, beq_eq_false_iff_ne, ne_eq, decide_eq_false_iff_not,
    Classical.not_not, foundFirst.observed, foundSecond.observed] at domain
  obtain ⟨⟨⟨⟨⟨named, same⟩, firstMember⟩, secondMember⟩, members⟩, epochs⟩ := domain
  refine ⟨legs_apart paired, ⟨foundFirst.workers shared, foundSecond.workers shared⟩,
    ⟨firstMember, secondMember, members⟩, epochs, ?_⟩
  exact ⟨mine, List.mem_of_getElem? foundFirst.listed, yours, List.mem_of_getElem? foundSecond.listed,
    first.context, second.context, foundFirst.session, foundSecond.session, foundFirst.context, foundSecond.context,
    named, same⟩

end

theorem lower_execute_waits (ordinary : ExecutionPriorityDecision) :
    (lowerExecute ordinary).action ≠ .execute ∧ (lowerExecute ordinary).command = none := by
  refine ⟨?_, rfl⟩
  simp only [lowerExecute, beq_iff_eq]
  split
  · simp
  · assumption

variable (paired : Paired peers proposal mode scan first second)
include paired

theorem lowered_plan_exact : ExactPair peers proposal mode (loweredPlan peers mode) := by
  have entry : ∀ (index : Nat) peer decision,
      peers[index]? = some peer → (loweredPlan peers mode).priority.decisions[index]? = some decision →
      decision.action ≠ .execute ∧ decision.command = none := by
    intro index peer decision _ decided
    simp only [loweredPlan, List.getElem?_map, Option.map_eq_some_iff] at decided
    obtain ⟨ordinary, _, rfl⟩ := decided
    exact lower_execute_waits ordinary
  refine ⟨by simp [loweredPlan], ?_, by simp [loweredPlan], ?_, ?_, by simp [loweredPlan], by simp [loweredPlan],
    by simp [loweredPlan], ?_⟩
  · simp [loweredPlan, paired.planned.shape]
  · intro index peer decision listed decided
    exact ⟨fun executes => absurd executes (entry index peer decision listed decided).1, by simp [loweredPlan]⟩
  · intro index peer decision listed decided
    obtain ⟨other, empty⟩ := entry index peer decision listed decided
    rw [if_neg other, empty]
  · intro index peer ordinary decision _ before decided _
    have same : decision = lowerExecute ordinary := by simpa [loweredPlan, before, eq_comm] using decided
    rw [same]
    exact ordinary_lowered paired before

theorem granted_plan_entry {index : Nat} {peer : ExecutionPriorityPeer} (listed : peers[index]? = some peer)
    (decided : (grantedPlan peers proposal mode (proposal.granted first second)).priority.decisions[index]? =
      some decision) :
    (∃ leg ∈ proposal.granted first second, leg.leg.session = peer.session ∧ decision.action = .execute ∧
      decision.command = peer.command) ∨ ((∀ leg ∈ proposal.granted first second, leg.leg.session ≠ peer.session) ∧
      ∃ ordinary, (planExecutionPriority peers mode).decisions[index]? = some ordinary ∧
        decision = lowerExecute ordinary) := by
  have before := planned_decides paired.planned listed
  by_cases hit : ∃ leg ∈ proposal.granted first second, leg.index = index
  · obtain ⟨leg, mem, rfl⟩ := hit
    obtain ⟨_, target, found⟩ := granted_found paired mem
    obtain rfl : target = peer := Option.some.inj (found.listed.symm.trans listed)
    have granted := grant_legs_hit (proposal.granted first second)
      ((planExecutionPriority peers mode).decisions.map lowerExecute) (granted_indices_distinct paired) leg mem _
      (by rw [List.getElem?_map, before]; rfl)
    have shape := Option.some.inj (decided.symm.trans granted)
    refine .inl ⟨leg, mem, found.session.symm, ?_, ?_⟩
    · rw [shape]
    · rw [shape, found.command]
  · refine .inr ⟨?_, _, before, ?_⟩
    · intro leg mem same
      obtain ⟨_, target, found⟩ := granted_found paired mem
      exact hit ⟨leg, mem, session_index_unique paired.planned.scanned.distinct found.listed listed
        (found.session.trans same)⟩
    · have kept := grant_legs_other (proposal.granted first second)
        ((planExecutionPriority peers mode).decisions.map lowerExecute) index
        (fun leg mem same => hit ⟨leg, mem, same⟩)
      have shape := decided.symm.trans kept
      rw [List.getElem?_map, before] at shape
      exact Option.some.inj shape

theorem granted_plan_exact (quiet : QuietPeers peers)
    (can : ∀ leg ∈ proposal.granted first second, canGrant (planExecutionPriority peers mode) leg = true) :
    ExactPair peers proposal mode (grantedPlan peers proposal mode (proposal.granted first second)) := by
  constructor
  · simp only [grantedPlan, List.length_map, granted]
    split
    · simp
    · split <;> simp
  · simp [grantedPlan, grant_legs_length, paired.planned.shape]
  · intro leg mem
    obtain ⟨located, listed, rfl⟩ := List.mem_map.mp mem
    exact (granted_found paired listed).1
  · intro index peer decision listed decided
    rcases granted_plan_entry paired listed decided with ⟨leg, mem, same, executes, _⟩ | ⟨apart, ordinary, _, lowered⟩
    · exact ⟨fun _ => ⟨leg.leg, List.mem_map.mpr ⟨leg, mem, rfl⟩, same⟩, fun _ => executes⟩
    · refine ⟨fun executes => absurd (lowered ▸ executes) (lower_execute_waits ordinary).1, ?_⟩
      rintro ⟨leg, mem, same⟩
      obtain ⟨located, granted, rfl⟩ := List.mem_map.mp mem
      exact absurd same (apart located granted)
  · intro index peer decision listed decided
    rcases granted_plan_entry paired listed decided with ⟨_, _, _, executes, command⟩ | ⟨_, ordinary, _, rfl⟩
    · rw [if_pos executes, command]
    · rw [if_neg (lower_execute_waits ordinary).1, (lower_execute_waits ordinary).2]
  · intro leg mem
    obtain ⟨located, listed, rfl⟩ := List.mem_map.mp mem
    obtain ⟨_, peer, found⟩ := granted_found paired listed
    have allowed := can located listed
    simp only [canGrant, Bool.and_eq_true, Option.any_eq_true, beq_iff_eq] at allowed
    exact ⟨located.index, peer, located.context, found.listed, found.session, found.command, allowed.1, found.context,
      allowed.2⟩
  · exact fun _ => quiet
  · exact fun _ _ two => granted_shared paired two
  · intro index peer ordinary decision listed before decided apart
    rcases granted_plan_entry paired listed decided with ⟨leg, mem, same, _, _⟩ | ⟨_, other, known, lowered⟩
    · exact absurd same (apart leg.leg (List.mem_map.mpr ⟨leg, mem, rfl⟩))
    · rw [lowered, ← Option.some.inj (before.symm.trans known)]
      exact ordinary_lowered paired before

end Exact

theorem pair_plan_exact (peers : List ExecutionPriorityPeer) (proposal : ExecutionPairProposal)
    (mode : ExecutionSchedulingMode) (valid : (planExecutionPair peers proposal mode).isValid = true) :
    ExactPair peers proposal mode (planExecutionPair peers proposal mode) := by
  obtain ⟨scan, first, second, paired, lowered | ⟨quiet, can, granted⟩⟩ := pair_cases valid
  · rw [lowered]
    exact lowered_plan_exact paired
  · rw [granted]
    exact granted_plan_exact paired quiet can

def domainCommand (mem : Nat) : ExecutionPriorityCommand :=
  { sequence := mem, acceptanceOrder := 1, geometryEpoch := 1, commandEpoch := 1, controlEpoch := 1,
    memberGeneration := mem, configurationEpoch := 2, physicalConfigurationEpoch := 3 }

def domainPeer (session : Nat) : ExecutionPriorityPeer :=
  { session := session, priority := 5, hasReadyWork := true, command := some (domainCommand session),
    pairContext := some
      { executionDomain := 4, catalogGeneration := 6, workers := 8, isConfigurationMaterialized := true } }

def domainLeg (session : Nat) : ExecutionPairLeg :=
  { session := session, command := domainCommand session, catalogGeneration := 6, workers := 8 }

theorem domain_pair_exact :
    (planExecutionPair [domainPeer 1, domainPeer 2] { legs := #v[domainLeg 1, domainLeg 2], isShared := true }
        .workloadAware).grants = [domainLeg 1, domainLeg 2] ∧
      ExactPair [domainPeer 1, domainPeer 2] { legs := #v[domainLeg 1, domainLeg 2], isShared := true } .workloadAware
        (planExecutionPair [domainPeer 1, domainPeer 2] { legs := #v[domainLeg 1, domainLeg 2], isShared := true }
          .workloadAware) :=
  ⟨by decide +kernel, pair_plan_exact _ _ _ (by decide +kernel)⟩

variable (peers) (proposal : ExecutionRebalanceProposal)

def IsLeg (peer : ExecutionPriorityPeer) : Prop :=
  ∃ leg ∈ proposal.usedLegs, leg.session = peer.session

structure CurrentTrigger (priority : Nat) (trigger : ExecutionRebalanceTrigger) (peer : ExecutionPriorityPeer) :
    Prop where
  listed : peer ∈ peers ∧ peer.session = trigger.session ∧ trigger.session ≠ 0
  ready : peer.hasReadyWork = true ∧ peer.hasPhysicalWork = false ∧ peer.hasPausedWork = false
  priority : peer.priority = priority
  command : peer.command = some trigger.command
  fresh : trigger.command.isResume = false ∧ trigger.command.physicalGeneration = 0 ∧ trigger.command.commandEpoch = 1
  apart : ¬ IsLeg proposal peer

structure Stopped (peer : ExecutionPriorityPeer) (before after : ExecutionPriorityDecision) : Prop where
  stops : after.action ≠ .execute
  retreats : after.action = .requestRetreat ↔ before.action = .requestRetreat ∨ IsLeg proposal peer
  leg : IsLeg proposal peer → after = { before with action := .requestRetreat, command := none }
  kept : ¬ IsLeg proposal peer → before.action ≠ .execute → after = before
  withdrawn : ¬ IsLeg proposal peer → before.action = .execute → after =
    if peer.progress.isSome then { before with action := .executeProgress, command := none, progress := peer.progress }
    else { before with action := .wait, command := none }

structure OnlyStops (ordinary result : ExecutionPriorityPlan) : Prop where
  complete : result.decisions.length = peers.length
  selected : result.selectedPriority = ordinary.selectedPriority
  decided : ∀ (index : Nat) peer, peers[index]? = some peer → ∃ before after,
    ordinary.decisions[index]? = some before ∧ result.decisions[index]? = some after ∧ Stopped proposal peer before after

variable {peers proposal}

theorem trigger_current {priority : Nat} (accepted : proposal.triggerAccepted peers (some priority) = true)
    {trigger : ExecutionRebalanceTrigger} (proposed : proposal.trigger = some trigger) :
    ∃ peer, CurrentTrigger peers proposal priority trigger peer := by
  simp only [ExecutionRebalanceProposal.triggerAccepted, proposed] at accepted
  split at accepted
  · cases accepted
  next peer found =>
  obtain ⟨listed, named⟩ := find_peer_spec found
  simp only [Bool.not_eq_true', Bool.or_eq_false_iff, beq_eq_false_iff_ne, bne_eq_false_iff_eq, decide_eq_false_iff_not,
    Classical.not_not, Bool.not_eq_false', Option.some.injEq, List.any_eq_false, beq_iff_eq] at accepted
  obtain ⟨⟨⟨⟨⟨⟨⟨⟨⟨nonzero, ready⟩, idle⟩, unpaused⟩, priority⟩, command⟩, first⟩, fresh⟩,
    epoch⟩, apart⟩ := accepted
  refine ⟨peer, ⟨listed, named, nonzero⟩, ⟨ready, idle, unpaused⟩, priority, command, ⟨first, fresh, epoch⟩, ?_⟩
  rintro ⟨leg, used, same⟩
  exact apart leg used (same.trans named)

theorem leg_index_iff (distinct : (peers.map (fun peer => peer.session)).Nodup) {priority index : Nat}
    {peer : ExecutionPriorityPeer} (legs : CurrentLegs peers proposal priority) (listed : peers[index]? = some peer) :
    index ∈ proposal.usedLegs.map (legIndex peers) ↔ IsLeg proposal peer := by
  rw [List.mem_map]
  constructor
  · rintro ⟨leg, used, rfl⟩
    obtain ⟨other, current⟩ := legs.current leg used
    cases listed.symm.trans current.listed
    exact ⟨leg, used, current.session.1.symm⟩
  · rintro ⟨leg, used, same⟩
    obtain ⟨other, current⟩ := legs.current leg used
    exact ⟨leg, used, session_index_unique distinct current.listed listed (current.session.1.trans same)⟩

theorem rebalanced_stops {scan : PeerScan} {priority : Nat} (legs : CurrentLegs peers proposal priority)
    (planned : Planned peers .priority (planExecutionPriority peers .priority) scan) :
    OnlyStops peers proposal (planExecutionPriority peers .priority)
      (rebalancedPlan peers (proposal.usedLegs.map (legIndex peers))) := by
  refine ⟨?_, rfl, fun index peer listed => ?_⟩
  · have sized : ∀ (indices : List Nat) (decisions : List ExecutionPriorityDecision),
        (indices.foldl (fun decisions index => decisions.modify index requestRetreat) decisions).length =
          decisions.length := by
      intro indices
      induction indices <;> simp_all
    rw [rebalancedPlan, sized, planned.shape]
    simp
  have before := planned_decides planned listed
  generalize (planFacts .priority peers scan).decision peer = decision at before
  have withdrawn := List.getElem?_zipWith_eq_some.mpr
    ⟨peer, decision, listed, before, @rfl _ (withdrawExecute peer decision)⟩
  have inside := leg_index_iff planned.scanned.distinct legs listed
  by_cases mine : IsLeg proposal peer
  · refine ⟨decision, requestRetreat decision, before, (retreats_at _ _ index).trans ?_, ?_⟩
    · obtain ⟨leg, used, rfl⟩ := List.mem_map.mp (inside.mpr mine)
      obtain ⟨other, current⟩ := legs.current leg used
      cases listed.symm.trans current.listed
      rw [if_pos (inside.mpr mine), withdrawn]
      simp only [Option.map_some, withdrawExecute, current.free.2]
      split <;> rfl
    · exact ⟨by simp [requestRetreat], by simp [requestRetreat, mine], fun _ => rfl, fun other => absurd mine other,
        fun other => absurd mine other⟩
  · refine ⟨decision, withdrawExecute peer decision, before, (retreats_at _ _ index).trans ?_, ?_⟩
    · rw [if_neg (fun retreats => mine (inside.mp retreats)), withdrawn]
    unfold withdrawExecute
    by_cases executes : decision.action = .execute
    · cases held : peer.progress with
      | none => constructor <;> simp [executes, mine, held]
      | some progress => constructor <;> simp [executes, mine, held]
    · constructor <;> simp [executes, mine]

theorem rebalance_only_stops (valid : (planExecutionRebalance peers proposal).isValid = true) :
    ∃ priority, CurrentLegs peers proposal priority ∧
      (∀ trigger, proposal.trigger = some trigger → ∃ peer, CurrentTrigger peers proposal priority trigger peer) ∧
      if (planExecutionPriority peers .priority).selectedPriority = some priority ∧
        ∀ peer ∈ peers, peer.hasUnknownState = false then
        OnlyStops peers proposal (planExecutionPriority peers .priority) (planExecutionRebalance peers proposal)
      else planExecutionRebalance peers proposal = planExecutionPriority peers .priority := by
  obtain ⟨scan, priority, planned, legs, accepted, same⟩ := rebalance_cases valid
  refine ⟨priority, legs, fun trigger => trigger_current accepted, ?_⟩
  split
  · next stops =>
    rw [same, if_neg (by simpa using stops)]
    exact rebalanced_stops legs planned
  · next other => rw [same, if_pos (by simpa [imp_iff_not_or] using other)]

-- A physical leg and a ready peer of the same priority, which is not bound to any progress.
def rebalancePeers : List ExecutionPriorityPeer :=
  [{ session := 1, priority := 5, hasPhysicalWork := true, physical := some ⟨1, 1⟩ }, batchPartner]

def rebalanceProposal : ExecutionRebalanceProposal :=
  { legs := #v[⟨1, 1, 1⟩, ⟨1, 1, 1⟩], size := 1 }

theorem rebalance_partner_stopped : (planExecutionRebalance rebalancePeers rebalanceProposal).isValid = true ∧
    ∃ priority, CurrentLegs rebalancePeers rebalanceProposal priority :=
  ⟨by decide +kernel, (rebalance_only_stops (by decide +kernel)).imp (fun _ stops => stops.1)⟩

theorem rebalance_partner_waits : (planExecutionRebalance rebalancePeers rebalanceProposal).isValid = true ∧
    (∀ peer ∈ rebalancePeers, peer.hasUnknownState = false) ∧
    (planExecutionPriority rebalancePeers .priority).selectedPriority = some 5 ∧
    (planExecutionPriority rebalancePeers .priority).decisions[1]? =
      some { session := 3, action := .execute, command := some (batchCommand 8) } ∧
    (planExecutionRebalance rebalancePeers rebalanceProposal).decisions[1]? = some { session := 3, action := .wait } := by
  decide +kernel

end Glimmer.Core
