import Glimmer.Core.PriorityPlans

namespace Glimmer.Core

open ExecutionPriorityIdleWindow

def DependenciesKept (peers : List ExecutionPriorityPeer) (decisions : List ExecutionPriorityDecision) : Prop :=
  ∀ (index : Nat) peer, peers[index]? = some peer → peer.progress.isSome = true →
    ∃ decision, decisions[index]? = some decision ∧
      (decision.action = .execute ∨ (decision.action = .executeProgress ∧ decision.progress = peer.progress))

variable {peers : List ExecutionPriorityPeer} {mode : ExecutionSchedulingMode} {plan : ExecutionPriorityPlan}
  {scan : PeerScan} {peer : ExecutionPriorityPeer}

section Planned

theorem planned_keeps (planned : Planned peers mode plan scan) (known : ∀ peer ∈ peers, peer.hasUnknownState = false) :
    DependenciesKept peers plan.decisions := fun _ peer listed held =>
  ⟨_, planned_decides planned listed, decision_of_bound _ peer (planned_known planned known) held⟩

end Planned

variable {decisions : List ExecutionPriorityDecision}

theorem rewriting_keeps {rewrite : ExecutionPriorityPeer → ExecutionPriorityDecision → ExecutionPriorityDecision}
    (others : ∀ peer decision, decision.action ≠ .execute → rewrite peer decision = decision)
    (narrows : ∀ peer decision, decision.action = .execute → peer.progress.isSome = true →
      (rewrite peer decision).action = .execute ∨
        ((rewrite peer decision).action = .executeProgress ∧ (rewrite peer decision).progress = peer.progress))
    (kept : DependenciesKept peers decisions) : DependenciesKept peers (List.zipWith rewrite peers decisions) := by
  intro index peer listed held
  obtain ⟨decision, decided, goes⟩ := kept index peer listed held
  refine ⟨rewrite peer decision, List.getElem?_zipWith_eq_some.mpr ⟨peer, decision, listed, decided, rfl⟩, ?_⟩
  by_cases executes : decision.action = .execute
  · exact narrows peer decision executes held
  · rw [others peer decision executes]
    exact goes

theorem withdraw_keeps (kept : DependenciesKept peers decisions) :
    DependenciesKept peers (List.zipWith withdrawExecute peers decisions) := by
  refine rewriting_keeps ?_ ?_ kept
  · intro peer decision other
    simp [withdrawExecute, other]
  · intro peer decision executes held
    exact .inr (by simp [withdrawExecute, executes, held])

section Window
variable (window : ExecutionPriorityIdleWindow) (peers : List ExecutionPriorityPeer) (nowNs : Nat)

inductive Narrowed (peers : List ExecutionPriorityPeer) (plan : ExecutionPriorityPlan) : ExecutionPriorityPlan → Prop
  | same : Narrowed peers plan plan
  | rejected : Narrowed peers plan {}
  | withheld (window : ExecutionPriorityIdleWindow) :
      Narrowed peers plan { plan with decisions := List.zipWith window.withhold peers plan.decisions }

theorem apply_narrows (mode : ExecutionSchedulingMode) (plan : ExecutionPriorityPlan) :
    Narrowed peers plan (window.apply peers mode nowNs plan).2 := by
  unfold apply
  split
  · exact .same
  split
  · exact .same
  split
  · exact .rejected
  · split
    · exact .rejected
    unfold accept
    dsimp only
    split
    · exact .same
    split
    · exact .same
    unfold settle
    split
    · exact .same
    dsimp only
    split
    · exact .same
    · exact .withheld _

theorem apply_keeps {mode : ExecutionSchedulingMode} (known : ∀ peer ∈ peers, peer.hasUnknownState = false)
    (valid : (window.apply peers mode nowNs (planExecutionPriority peers mode)).2.isValid = true) :
    DependenciesKept peers (window.apply peers mode nowNs (planExecutionPriority peers mode)).2.decisions := by
  have narrowed := apply_narrows window peers nowNs mode (planExecutionPriority peers mode)
  revert valid narrowed
  generalize (window.apply peers mode nowNs (planExecutionPriority peers mode)).2 = result
  intro valid narrowed
  cases narrowed with
  | rejected => exact absurd valid (by simp)
  | same =>
    obtain ⟨scan, planned⟩ := plan_planned valid
    exact planned_keeps planned known
  | withheld window =>
    obtain ⟨scan, planned⟩ := plan_planned valid
    refine rewriting_keeps ?_ ?_ (planned_keeps planned known)
    · intro peer decision other
      simp [withhold, other]
    · intro peer decision executes held
      unfold withhold
      split
      · exact .inl executes
      · exact .inr ⟨by simp, rfl⟩

end Window

section Rebalance
variable {proposal : ExecutionRebalanceProposal}

def legIndex (peers : List ExecutionPriorityPeer) (leg : ExecutionRebalanceLeg) : Nat :=
  peers.findIdx (fun peer => peer.session == leg.session)

-- A leg that names its peer's physical work as it is, with nothing of the peer reserved or bound.
structure CurrentLeg (peers : List ExecutionPriorityPeer) (priority : Nat) (leg : ExecutionRebalanceLeg)
    (peer : ExecutionPriorityPeer) : Prop where
  listed : peers[legIndex peers leg]? = some peer
  session : peer.session = leg.session ∧ leg.session ≠ 0
  physical : peer.hasPhysicalWork = true ∧ peer.physical = some leg.physical
  numbered : leg.physical.sequence ≠ 0 ∧ leg.physical.generation ≠ 0
  free : peer.reservationGeneration = 0 ∧ peer.progress = none
  priority : peer.priority = priority

structure CurrentLegs (peers : List ExecutionPriorityPeer) (proposal : ExecutionRebalanceProposal) (priority : Nat) :
    Prop where
  used : proposal.usedLegs ≠ []
  distinct : (proposal.usedLegs.map (fun leg => leg.session)).Nodup
  current : ∀ leg ∈ proposal.usedLegs, ∃ peer, CurrentLeg peers priority leg peer

theorem locate_leg_current {located next : ExecutionRebalanceProposal.Located} {target : ExecutionRebalanceLeg}
    (found : proposal.locateLeg peers located target = some next) :
    ∃ peer, CurrentLeg peers peer.priority target peer ∧
      next = { indices := located.indices ++ [legIndex peers target], priority := some peer.priority } ∧
      (located.priority = none ∨ located.priority = some peer.priority) ∧
      (located.indices = [] ∨ target.session ≠ (proposal.legs.get 0).session) := by
  obtain ⟨index, here, found⟩ := Option.bind_eq_some_iff.mp found
  obtain ⟨peer, listed, found⟩ := Option.bind_eq_some_iff.mp found
  split at found
  · exact absurd found (by simp)
  next kept =>
  cases found
  obtain ⟨within, matched, _⟩ := List.findIdx?_eq_some_iff_getElem.mp here
  have first : legIndex peers target = index := (List.findIdx?_eq_some_iff_findIdx_eq.mp here).2
  have same : peers[index] = peer := by simpa [List.getElem?_eq_getElem within] using listed
  rw [same] at matched
  simp only [Bool.or_eq_true, beq_iff_eq, Bool.not_eq_true', decide_eq_true_eq, bne_iff_ne, Bool.and_eq_true, not_or,
    not_and, Classical.not_not, Bool.not_eq_false, Bool.not_eq_true, List.isEmpty_eq_false_iff] at kept matched
  obtain ⟨⟨⟨⟨⟨⟨⟨⟨named, works⟩, held⟩, sequence⟩, generation⟩, unreserved⟩, unbound⟩, agreed⟩,
    apart⟩ := kept
  refine ⟨peer, ⟨by rw [first, listed], ⟨matched, named⟩, ⟨works, held⟩, ⟨sequence, generation⟩,
    ⟨unreserved, by simpa using unbound⟩, rfl⟩, by rw [first], ?_, ?_⟩
  · cases known : located.priority with
    | none => exact .inl rfl
    | some priority => exact .inr (by simpa [known] using agreed)
  · by_cases empty : located.indices = []
    · exact .inl empty
    · exact .inr (apart empty)

theorem legs_current {located : ExecutionRebalanceProposal.Located} (sized : proposal.size ≠ 0 ∧ proposal.size ≤ 2)
    (found : proposal.usedLegs.foldlM (proposal.locateLeg peers) {} = some located) :
    ∃ priority, CurrentLegs peers proposal priority ∧
      located = { indices := proposal.usedLegs.map (legIndex peers), priority := some priority } := by
  have whole : proposal.legs.toList = [proposal.legs.get 0, proposal.legs.get 1] := by
    match proposal.legs with
    | ⟨⟨[_, _]⟩, _⟩ => rfl
  rcases (by omega : proposal.size = 1 ∨ proposal.size = 2) with one | two
  · have used : proposal.usedLegs = [proposal.legs.get 0] := by simp [ExecutionRebalanceProposal.usedLegs, whole, one]
    obtain ⟨peer, current, rfl, _⟩ := locate_leg_current (by simpa [used] using found)
    exact ⟨_, ⟨by simp [used], by simp [used], by simpa [used] using ⟨_, current⟩⟩, by simp [used]⟩
  · have used : proposal.usedLegs = [proposal.legs.get 0, proposal.legs.get 1] := by
      simp [ExecutionRebalanceProposal.usedLegs, whole, two]
    rw [used] at found
    obtain ⟨_, first, found⟩ := Option.bind_eq_some_iff.mp found
    obtain ⟨_, second, found⟩ := Option.bind_eq_some_iff.mp found
    cases found
    obtain ⟨peer, current, rfl, _⟩ := locate_leg_current first
    obtain ⟨other, later, rfl, agreed, apart⟩ := locate_leg_current second
    have same : peer.priority = other.priority := by simpa using agreed
    rw [same] at current
    refine ⟨other.priority, ⟨by simp [used], ?_, ?_⟩, by simp [used]⟩
    · simpa [used, eq_comm] using apart
    · simpa [used] using ⟨⟨_, current⟩, ⟨_, later⟩⟩

theorem retreats_at (indices : List Nat) (decisions : List ExecutionPriorityDecision) (index : Nat) :
    (indices.foldl (fun decisions index => decisions.modify index requestRetreat) decisions)[index]? =
      if index ∈ indices then decisions[index]?.map requestRetreat else decisions[index]? := by
  induction indices generalizing decisions with
  | nil => simp
  | cons leg rest ih =>
    rw [List.foldl_cons, ih, List.getElem?_modify]
    by_cases here : leg = index
    · by_cases later : index ∈ rest
      · have twice : requestRetreat ∘ requestRetreat = requestRetreat := rfl
        simp [here, later, twice]
      · simp [here, later]
    · by_cases later : index ∈ rest <;> simp [here, Ne.symm here, later]

def rebalancedPlan (peers : List ExecutionPriorityPeer) (indices : List Nat) : ExecutionPriorityPlan :=
  { planExecutionPriority peers .priority with
    decisions := indices.foldl (fun decisions index => decisions.modify index requestRetreat)
      (List.zipWith withdrawExecute peers (planExecutionPriority peers .priority).decisions) }

theorem rebalance_cases (valid : (planExecutionRebalance peers proposal).isValid = true) :
    ∃ scan priority, Planned peers .priority (planExecutionPriority peers .priority) scan ∧
      CurrentLegs peers proposal priority ∧ proposal.triggerAccepted peers (some priority) = true ∧
      planExecutionRebalance peers proposal =
        if (planExecutionPriority peers .priority).selectedPriority ≠ some priority ||
          peers.any (fun peer => peer.hasUnknownState) then planExecutionPriority peers .priority
        else rebalancedPlan peers (proposal.usedLegs.map (legIndex peers)) := by
  revert valid
  unfold planExecutionRebalance
  dsimp only
  split
  · exact nofun
  next sized =>
  split
  · exact nofun
  next ordinary =>
  obtain ⟨scan, planned⟩ := plan_planned (by simpa using ordinary)
  split
  · exact nofun
  next located found =>
  obtain ⟨priority, current, rfl⟩ := legs_current (by simpa using sized) found
  split
  · exact nofun
  · next triggered => exact fun _ => ⟨scan, priority, planned, current, by simpa using triggered, rfl⟩

theorem rebalance_keeps (known : ∀ peer ∈ peers, peer.hasUnknownState = false)
    (valid : (planExecutionRebalance peers proposal).isValid = true) :
    DependenciesKept peers (planExecutionRebalance peers proposal).decisions := by
  obtain ⟨scan, priority, planned, legs, _, same⟩ := rebalance_cases valid
  have kept := planned_keeps planned known
  rw [same]
  split
  · exact kept
  intro index peer listed held
  obtain ⟨decision, decided, goes⟩ := withdraw_keeps kept index peer listed held
  refine ⟨decision, (retreats_at _ _ index).trans ?_, goes⟩
  rw [if_neg, decided]
  intro retreats
  obtain ⟨leg, used, rfl⟩ := List.mem_map.mp retreats
  obtain ⟨other, current⟩ := legs.current leg used
  cases listed.symm.trans current.listed
  simp [current.free.2] at held

end Rebalance

section Pair

open ExecutionPairProposal

-- A leg as the check has found it: its peer is listed and holds exactly the leg's command.
structure FoundLeg (peers : List ExecutionPriorityPeer) (proposal : ExecutionPairProposal) (located : Located)
    (peer : ExecutionPriorityPeer) : Prop where
  listed : peers[located.index]? = some peer
  session : peer.session = located.leg.session
  command : peer.command = some located.leg.command
  observed : located.command = located.leg.command
  context : peer.pairContext = some located.context
  workers : proposal.isShared = true → 0 < located.leg.workers

variable {proposal : ExecutionPairProposal}

theorem locate_leg_found {selected : ExecutionPairLeg} {located : Located}
    (found : proposal.locateLeg peers selected = some located) :
    located.leg = selected ∧ ∃ peer, FoundLeg peers proposal located peer := by
  obtain ⟨index, here, found⟩ := Option.bind_eq_some_iff.mp found
  obtain ⟨peer, listed, found⟩ := Option.bind_eq_some_iff.mp found
  obtain ⟨command, observed, found⟩ := Option.bind_eq_some_iff.mp found
  obtain ⟨context, known, found⟩ := Option.bind_eq_some_iff.mp found
  split at found
  · exact absurd found (by simp)
  next kept =>
  cases found
  obtain ⟨within, matched, _⟩ := List.findIdx?_eq_some_iff_getElem.mp here
  have same : peers[index] = peer := by simpa [List.getElem?_eq_getElem within] using listed
  simp only [Bool.or_eq_true, decide_eq_true_eq, not_or, Classical.not_not, Bool.and_eq_true, beq_iff_eq,
    not_and] at kept
  refine ⟨rfl, peer, listed, ?_, ?_, kept.1.1.1.1.1.1, known, ?_⟩
  · rw [same] at matched
    simpa using matched
  · rw [observed, kept.1.1.1.1.1.1]
  · intro shared
    exact Nat.pos_of_ne_zero (kept.2 shared)

structure Paired (peers : List ExecutionPriorityPeer) (proposal : ExecutionPairProposal) (mode : ExecutionSchedulingMode)
    (scan : PeerScan) (first second : Located) : Prop where
  accepted : proposal.rejected mode = false
  planned : Planned peers mode (planExecutionPriority peers mode) scan
  foundFirst : proposal.locateLeg peers (proposal.legs.get 0) = some first
  foundSecond : proposal.locateLeg peers (proposal.legs.get 1) = some second
  domain : proposal.isShared = true → sharedRejected first second = false

def QuietPeers (peers : List ExecutionPriorityPeer) : Prop :=
  ∀ peer ∈ peers, peer.hasPhysicalWork = false ∧ peer.hasUnknownState = false

def loweredPlan (peers : List ExecutionPriorityPeer) (mode : ExecutionSchedulingMode) : ExecutionPairPlan :=
  { priority :=
      { planExecutionPriority peers mode with
        decisions := (planExecutionPriority peers mode).decisions.map lowerExecute }
    isValid := true }

def grantedPlan (peers : List ExecutionPriorityPeer) (proposal : ExecutionPairProposal)
    (mode : ExecutionSchedulingMode) (legs : List Located) : ExecutionPairPlan :=
  { priority :=
      { planExecutionPriority peers mode with
        decisions := legs.foldl grantLeg ((planExecutionPriority peers mode).decisions.map lowerExecute) }
    grants := legs.map (fun located => located.leg)
    isValid := true
    isShared := proposal.isShared }

theorem pair_cases (valid : (planExecutionPair peers proposal mode).isValid = true) :
    ∃ scan first second, Paired peers proposal mode scan first second ∧
      (planExecutionPair peers proposal mode = loweredPlan peers mode ∨
        (QuietPeers peers ∧
          (∀ leg ∈ proposal.granted first second, canGrant (planExecutionPriority peers mode) leg = true) ∧
          planExecutionPair peers proposal mode = grantedPlan peers proposal mode (proposal.granted first second))) := by
  revert valid
  unfold planExecutionPair
  dsimp only
  split
  · exact nofun
  next accepted =>
  split
  · exact nofun
  next ordinary =>
  obtain ⟨scan, planned⟩ := plan_planned (by simpa using ordinary)
  split
  · next first second foundFirst foundSecond =>
    split
    · exact nofun
    next domain =>
    refine fun _ => ⟨scan, first, second, ⟨by simpa using accepted, planned, foundFirst, foundSecond, ?_⟩, ?_⟩
    · intro shared
      simpa [shared] using domain
    split
    · exact .inl rfl
    · next grants =>
      simp only [Bool.or_eq_true, Bool.not_eq_true', not_or, Bool.not_eq_true, Bool.not_eq_false] at grants
      refine .inr ⟨?_, List.all_eq_true.mp grants.2, rfl⟩
      intro peer mem
      simpa using List.any_eq_false.mp grants.1 peer mem
  · exact nofun

def OrdinaryIssue (peers : List ExecutionPriorityPeer) (mode : ExecutionSchedulingMode) (peer : ExecutionPriorityPeer) :
    Prop :=
  (peer.hasReadyWork = true ∨ peer.hasPausedWork = true) ∧ (isPriorityExecutionMode mode = true → ∀ other ∈ peers,
      (other.hasWork = true → other.priority ≤ peer.priority) ∧
      (other.priority < peer.priority → other.hasPhysicalWork = false))

theorem ordinary_issue_iff {plan : ExecutionPriorityPlan} {scan : PeerScan} (planned : Planned peers mode plan scan)
    (known : ∀ peer ∈ peers, peer.hasUnknownState = false) (unprofiled : mode ≠ .profile)
    (mem : peer ∈ peers) : (planFacts mode peers scan).action peer = .execute ↔ OrdinaryIssue peers mode peer := by
  have healthy : (planFacts mode peers scan).hasUnknown = false := planned_known planned known
  cases byPriority : isPriorityExecutionMode mode with
  | false =>
    have plain : (planFacts mode peers scan).action peer =
        if peer.hasReadyWork || peer.hasPausedWork then .execute
        else if peer.hasPhysicalWork then .wait
        else .idle := by
      unfold PlanFacts.action
      cases mode <;> simp_all [isPriorityExecutionMode, planFacts]
    rw [plain]
    unfold OrdinaryIssue
    split
    · next works => simpa [byPriority] using works
    · next idle =>
      refine ⟨fun executes => ?_, fun issue => absurd (by simpa using issue.1) idle⟩
      split at executes <;> exact absurd executes (by simp)
  | true =>
    rw [priority_action_execute _ peer byPriority healthy]
    constructor
    · rintro ⟨top, works, lower⟩
      have highest := planned.scanned.highest byPriority
      have chosen : scan.selectedPriority = some peer.priority := top
      have absent : hasLowerPhysical peers (some peer.priority) = false := by
        rw [← chosen]
        exact lower
      rw [chosen] at highest
      refine ⟨works, fun _ other listed => ⟨highest.2 other listed, ?_⟩⟩
      exact (lower_physical_absent peers peer.priority).mp absent other listed
    rintro ⟨works, others⟩
    have working : peer.hasWork = true := by
      rcases works with ready | paused
      · simp [ExecutionPriorityPeer.hasWork, ready]
      · simp [ExecutionPriorityPeer.hasWork, paused]
    have chosen : scan.selectedPriority = some peer.priority := by
      have highest := planned.scanned.highest byPriority
      cases selected : scan.selectedPriority with
      | none =>
        rw [selected] at highest
        exact absurd working (by simp [highest peer mem])
      | some top =>
        rw [selected] at highest
        obtain ⟨⟨best, listed, busy, reached⟩, bounded⟩ := highest
        have above := (others byPriority best listed).1 busy
        exact congrArg some (Nat.le_antisymm (reached ▸ above) (bounded peer mem working))
    refine ⟨chosen, works, ?_⟩
    change hasLowerPhysical peers scan.selectedPriority = false
    rw [chosen]
    exact (lower_physical_absent peers peer.priority).mpr (fun other listed => (others byPriority other listed).2)

theorem pair_unprofiled (accepted : proposal.rejected mode = false) : mode ≠ .profile := by
  rintro rfl
  simp [rejected] at accepted

-- A bound peer has a physical owner, so a pair plan with bindings grants nothing and lowers every Execute.
theorem bound_pair_lowered (valid : (planExecutionPair peers proposal mode).isValid = true) (mem : peer ∈ peers)
    (held : peer.progress.isSome = true) : planExecutionPair peers proposal mode = loweredPlan peers mode := by
  obtain ⟨scan, first, second, paired, lowered | ⟨quiet, _, _⟩⟩ := pair_cases valid
  · exact lowered
  · obtain ⟨progress, held⟩ := Option.isSome_iff_exists.mp held
    obtain ⟨owner, found, _, alive⟩ := (planned_bound paired.planned mem held).owned
    obtain ⟨owning, _⟩ := find_peer_spec found
    have stopped := quiet owner owning
    simp [stopped.1, stopped.2] at alive

theorem pair_keeps_iff (known : ∀ peer ∈ peers, peer.hasUnknownState = false)
    (valid : (planExecutionPair peers proposal mode).isValid = true) :
    DependenciesKept peers (planExecutionPair peers proposal mode).priority.decisions ↔
      ∀ peer ∈ peers, peer.progress.isSome = true → ¬ OrdinaryIssue peers mode peer := by
  obtain ⟨scan, first, second, paired, _⟩ := pair_cases valid
  have unprofiled := pair_unprofiled paired.accepted
  have entry : ∀ (index : Nat) peer, peers[index]? = some peer → peer.progress.isSome = true →
      (planExecutionPair peers proposal mode).priority.decisions[index]? =
        some (lowerExecute ((planFacts mode peers scan).decision peer)) := by
    intro index peer listed held
    rw [bound_pair_lowered valid (List.mem_of_getElem? listed) held]
    simp [loweredPlan, planned_decides paired.planned listed]
  constructor
  · intro kept peer mem held issue
    obtain ⟨index, within, here⟩ := List.mem_iff_getElem.mp mem
    have listed : peers[index]? = some peer := by rw [List.getElem?_eq_getElem within, here]
    obtain ⟨decision, decided, goes⟩ := kept index peer listed held
    rw [entry index peer listed held] at decided
    cases decided
    have executes := (ordinary_issue_iff paired.planned known unprofiled mem).mpr issue
    rcases decision_cases (planFacts mode peers scan) peer with ⟨_, _, other, _⟩ | ⟨_, shape⟩
    · exact other executes
    · simp [shape, executes, lowerExecute] at goes
  · intro withheld index peer listed held
    have mem := List.mem_of_getElem? listed
    refine ⟨_, entry index peer listed held, ?_⟩
    have other : (planFacts mode peers scan).action peer ≠ .execute := fun executes =>
      withheld peer mem held ((ordinary_issue_iff paired.planned known unprofiled mem).mp executes)
    rcases decision_of_bound (planFacts mode peers scan) peer (planned_known paired.planned known) held with
      executes | ⟨progresses, carried⟩
    · exact absurd (decision_execute _ peer executes) other
    · exact .inr ⟨by simp [lowerExecute, progresses], carried⟩

end Pair

theorem adapters_keep_dependencies (peers : List ExecutionPriorityPeer)
    (known : ∀ peer ∈ peers, peer.hasUnknownState = false) :
    (∀ (window : ExecutionPriorityIdleWindow) (mode : ExecutionSchedulingMode) (nowNs : Nat),
      (window.apply peers mode nowNs (planExecutionPriority peers mode)).2.isValid = true →
        DependenciesKept peers (window.apply peers mode nowNs (planExecutionPriority peers mode)).2.decisions) ∧
    (∀ proposal : ExecutionRebalanceProposal, (planExecutionRebalance peers proposal).isValid = true →
      DependenciesKept peers (planExecutionRebalance peers proposal).decisions) ∧
    ∀ (proposal : ExecutionPairProposal) (mode : ExecutionSchedulingMode),
      (planExecutionPair peers proposal mode).isValid = true →
        (DependenciesKept peers (planExecutionPair peers proposal mode).priority.decisions ↔
          ∀ peer ∈ peers, peer.progress.isSome = true → ¬ OrdinaryIssue peers mode peer) :=
  ⟨fun window _ nowNs => apply_keeps window peers nowNs known, fun _ => rebalance_keeps known,
    fun _ _ => pair_keeps_iff known⟩

-- The owner of a native batch and two ready peers, all of one priority; the first ready peer is bound to the batch.
def batchCommand (sequence : Nat) : ExecutionPriorityCommand :=
  { sequence := sequence, acceptanceOrder := 1, geometryEpoch := 1, commandEpoch := 1, controlEpoch := 1 }

def batchPartner : ExecutionPriorityPeer :=
  { session := 3, priority := 5, hasReadyWork := true, command := some (batchCommand 8),
    pairContext := some { catalogGeneration := 3, workers := 4 } }

def batchPeers : List ExecutionPriorityPeer :=
  [ { session := 1, priority := 5, hasPhysicalWork := true, reservationGeneration := 9 },
    { session := 2, priority := 5, hasReadyWork := true, command := some (batchCommand 7),
      progress := some { reservation := 1, generation := 9, cutoff := 17 },
      pairContext := some { catalogGeneration := 3, workers := 4 } },
    batchPartner ]

def batchProposal : ExecutionPairProposal :=
  { legs := #v[{ session := 2, command := batchCommand 7, catalogGeneration := 3, workers := 4 },
      { session := 3, command := batchCommand 8, catalogGeneration := 3, workers := 4 }] }

theorem pair_plan_withdraws_batch_progress : (∀ peer ∈ batchPeers, peer.hasUnknownState = false) ∧
      (planExecutionPair batchPeers batchProposal .priority).isValid = true ∧
      (planExecutionPriority batchPeers .priority).decisions[1]? =
        some { session := 2, action := .execute, command := some (batchCommand 7) } ∧
      (planExecutionPair batchPeers batchProposal .priority).priority.decisions[1]? =
        some { session := 2, action := .wait } ∧
      ¬ DependenciesKept batchPeers (planExecutionPair batchPeers batchProposal .priority).priority.decisions := by
  have waits : (planExecutionPair batchPeers batchProposal .priority).priority.decisions[1]? =
      some { session := 2, action := .wait } := by decide +kernel
  refine ⟨by decide +kernel, by decide +kernel, by decide +kernel, waits, ?_⟩
  intro kept
  obtain ⟨decision, decided, goes⟩ := kept 1 _ rfl rfl
  rw [waits] at decided
  cases decided
  rcases goes with executes | ⟨progresses, _⟩
  · exact absurd executes (by simp)
  · exact absurd progresses (by simp)

def lowBatchPeers : List ExecutionPriorityPeer :=
  batchPeers.map (fun peer => if peer.progress.isSome then { peer with priority := 1 } else peer)

theorem low_batch_dependencies_kept : (∀ peer ∈ lowBatchPeers, peer.hasUnknownState = false) ∧
      (planExecutionPair lowBatchPeers batchProposal .priority).isValid = true ∧
      DependenciesKept lowBatchPeers (planExecutionPair lowBatchPeers batchProposal .priority).priority.decisions := by
  refine ⟨by decide +kernel, by decide +kernel, ?_⟩
  refine ((adapters_keep_dependencies lowBatchPeers (by decide +kernel)).2.2 batchProposal .priority
    (by decide +kernel)).mpr ?_
  intro peer mem held issue
  have below : batchPartner.priority ≤ peer.priority := (issue.2 rfl batchPartner (by decide +kernel)).1 rfl
  have low : ∀ peer ∈ lowBatchPeers, peer.progress.isSome = true → peer.priority < batchPartner.priority := by
    decide +kernel
  exact Nat.not_lt.mpr below (low peer mem held)

end Glimmer.Core
