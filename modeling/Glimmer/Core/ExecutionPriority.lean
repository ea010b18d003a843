import Mathlib.Algebra.Group.Nat.Defs
import Mathlib.Data.List.Basic

namespace Glimmer.Core

def maxExecutionPriorityPeers : Nat := 64

inductive ExecutionSchedulingMode where
  | priority
  | naive
  | profile
  | workloadAgnostic
  | workloadAware
  | prioritySpaceShare
deriving DecidableEq

variable (mode : ExecutionSchedulingMode)

def isPriorityExecutionMode : Bool :=
  mode == .priority || mode == .workloadAware

structure ExecutionPriorityProgress where
  reservation : Nat
  generation : Nat
  cutoff : Nat
deriving DecidableEq

structure ExecutionPriorityCommand where
  sequence : Nat := 0
  acceptanceOrder : Nat := 0
  physicalGeneration : Nat := 0
  geometryEpoch : Nat := 0
  commandEpoch : Nat := 0
  controlEpoch : Nat := 0
  memberGeneration : Nat := 0
  configurationEpoch : Nat := 0
  physicalConfigurationEpoch : Nat := 0
  isResume : Bool := false
deriving DecidableEq

structure ExecutionPairContext where
  executionDomain : Nat := 0
  catalogGeneration : Nat := 0
  workers : Nat := 0
  isConfigurationMaterialized : Bool := false
deriving DecidableEq

structure ExecutionPriorityPhysical where
  sequence : Nat
  generation : Nat
deriving DecidableEq

structure ExecutionPriorityPeer where
  session : Nat
  priority : Nat
  hasReadyWork : Bool := false
  hasPhysicalWork : Bool := false
  hasPausedWork : Bool := false
  hasUnknownState : Bool := false
  progress : Option ExecutionPriorityProgress := none
  reservationGeneration : Nat := 0
  command : Option ExecutionPriorityCommand := none
  pairContext : Option ExecutionPairContext := none
  physical : Option ExecutionPriorityPhysical := none
deriving DecidableEq

inductive ExecutionPriorityAction where
  | idle
  | wait
  | requestRetreat
  | execute
  | quarantined
  | executeProgress
deriving DecidableEq

structure ExecutionPriorityDecision where
  session : Nat
  action : ExecutionPriorityAction := .idle
  progress : Option ExecutionPriorityProgress := none
  command : Option ExecutionPriorityCommand := none
deriving DecidableEq

-- The array and its size are one list. The default plan is the rejected one.
structure ExecutionPriorityPlan where
  decisions : List ExecutionPriorityDecision := []
  selectedPriority : Option Nat := none
  isValid : Bool := false
deriving DecidableEq

namespace ExecutionPriorityPeer

variable (peer : ExecutionPriorityPeer)

def hasWork : Bool :=
  peer.hasReadyWork || peer.hasPhysicalWork || peer.hasPausedWork

def physicalRejected : Bool :=
  match peer.physical with
  | none => false
  | some physical =>
    (!peer.hasPhysicalWork && !peer.hasUnknownState) || physical.sequence == 0 || physical.generation == 0 ||
      peer.reservationGeneration != 0

def commandRejected : Bool :=
  match peer.command with
  | none => false
  | some command =>
    let hasShared := command.memberGeneration != 0 || command.configurationEpoch != 0 ||
      command.physicalConfigurationEpoch != 0
    command.sequence == 0 || command.acceptanceOrder == 0 || command.geometryEpoch == 0 ||
      command.commandEpoch == 0 || command.controlEpoch == 0 ||
      (if command.isResume then command.physicalGeneration == 0 || !peer.hasPausedWork
        else command.physicalGeneration != 0 || !peer.hasReadyWork) ||
      (hasShared && (command.memberGeneration == 0 || command.configurationEpoch == 0 ||
        command.physicalConfigurationEpoch == 0))

def rejected (earlier : List ExecutionPriorityPeer) (peer : ExecutionPriorityPeer) : Bool :=
  peer.session == 0 || earlier.any (fun other => other.session == peer.session) || peer.physicalRejected ||
    peer.commandRejected

end ExecutionPriorityPeer

structure PeerScan where
  hasUnknown : Bool := false
  selectedPriority : Option Nat := none

def PeerScan.add (scan : PeerScan) (peer : ExecutionPriorityPeer) : PeerScan where
  hasUnknown := scan.hasUnknown || peer.hasUnknownState
  selectedPriority :=
    if mode == .prioritySpaceShare || (isPriorityExecutionMode mode && peer.hasWork) then
      match scan.selectedPriority with
      | none => some peer.priority
      | some selected => some (max selected peer.priority)
    else scan.selectedPriority

-- The first pass of the planner. A peer is checked against the peers before it.
def scanPeers (mode : ExecutionSchedulingMode) (earlier : List ExecutionPriorityPeer) (scan : PeerScan) :
    List ExecutionPriorityPeer → Option PeerScan
  | [] => some scan
  | peer :: rest =>
    if peer.rejected earlier then none else scanPeers mode (earlier ++ [peer]) (scan.add mode peer) rest

variable (peers : List ExecutionPriorityPeer)

def findPeer (session : Nat) : Option ExecutionPriorityPeer :=
  peers.find? (fun peer => peer.session == session)

def progressAccepted (peer : ExecutionPriorityPeer) : Bool :=
  match peer.progress with
  | none => true
  | some progress =>
    if progress.reservation == 0 || progress.generation == 0 || progress.cutoff == 0 || !peer.hasWork then false
    else
      match findPeer peers progress.reservation with
      | none => false
      | some owner =>
        owner.reservationGeneration == progress.generation && (owner.hasPhysicalWork || owner.hasUnknownState)

def profilePeer : Option Nat :=
  if mode == .profile && !peers.any (fun peer => peer.hasPhysicalWork) then
    ((peers.find? (fun peer => peer.hasPausedWork)).or (peers.find? (fun peer => peer.hasReadyWork))).map
      (fun peer => peer.session)
  else none

structure PlanFacts where
  mode : ExecutionSchedulingMode
  hasUnknown : Bool
  selectedPriority : Option Nat
  hasLowerPhysical : Bool
  profilePeer : Option Nat

variable (facts : PlanFacts) (peer : ExecutionPriorityPeer)

def PlanFacts.priorityAction : ExecutionPriorityAction :=
  match facts.selectedPriority with
  | none => .idle
  | some selected =>
    if peer.priority < selected && peer.hasPhysicalWork then .requestRetreat
    else if peer.priority == selected && (peer.hasReadyWork || peer.hasPausedWork) && !facts.hasLowerPhysical then
      .execute
    else if peer.hasWork then .wait
    else .idle

def PlanFacts.action : ExecutionPriorityAction :=
  if facts.hasUnknown then .quarantined
  else
    match facts.mode with
    | .profile =>
      if facts.profilePeer == some peer.session then .execute else if peer.hasWork then .wait else .idle
    | .naive | .workloadAgnostic | .prioritySpaceShare =>
      if peer.hasReadyWork || peer.hasPausedWork then .execute
      else if peer.hasPhysicalWork then .wait
      else .idle
    | .priority | .workloadAware => facts.priorityAction peer

def PlanFacts.decision : ExecutionPriorityDecision :=
  let action := facts.action peer
  if !facts.hasUnknown && peer.progress.isSome && action != .execute then
    { session := peer.session, action := .executeProgress, progress := peer.progress }
  else { session := peer.session, action := action, command := if action == .execute then peer.command else none }

def hasLowerPhysical (selectedPriority : Option Nat) : Bool :=
  match selectedPriority with
  | none => false
  | some selected => peers.any (fun peer => decide (peer.priority < selected) && peer.hasPhysicalWork)

def planFacts (scan : PeerScan) : PlanFacts where
  mode := mode
  hasUnknown := scan.hasUnknown
  selectedPriority := scan.selectedPriority
  hasLowerPhysical := hasLowerPhysical peers scan.selectedPriority
  profilePeer := profilePeer mode peers

def planExecutionPriority (mode : ExecutionSchedulingMode) : ExecutionPriorityPlan :=
  if peers.length > maxExecutionPriorityPeers then {}
  else
    match scanPeers mode [] {} peers with
    | none => {}
    | some scan =>
      if peers.all (progressAccepted peers) then
        { decisions := peers.map (planFacts mode peers scan).decision
          selectedPriority := scan.selectedPriority
          isValid := true }
      else {}

structure ExecutionPriorityIdleConfig where
  priority : Nat := 0
  durationNs : Nat := 0

structure ExecutionPriorityIdleWindow where
  config : ExecutionPriorityIdleConfig
  idleSinceNs : Option Nat := none
  lastNowNs : Option Nat := none
  hasActivity : Bool := false

namespace ExecutionPriorityIdleWindow

variable (window : ExecutionPriorityIdleWindow)

def enabled : Bool :=
  window.config.priority != 0 && window.config.durationNs != 0

def noteIssue (priority : Nat) : ExecutionPriorityIdleWindow :=
  if !window.enabled || priority < window.config.priority then window
  else { window with hasActivity := true, idleSinceNs := none }

def remainingNs (nowNs : Nat) : Nat :=
  match window.idleSinceNs with
  | none => 0
  | some since =>
    if nowNs < since then window.config.durationNs
    else
      let elapsed := nowNs - since
      if elapsed < window.config.durationNs then window.config.durationNs - elapsed else 0

def observePeers (window : ExecutionPriorityIdleWindow) (hasHighWork : Bool) :
    List ExecutionPriorityPeer → ExecutionPriorityIdleWindow × Bool
  | [] => (window, hasHighWork)
  | peer :: rest =>
    if peer.priority < window.config.priority then observePeers window hasHighWork rest
    else
      observePeers (if peer.hasPhysicalWork then window.noteIssue peer.priority else window)
        (hasHighWork || peer.hasWork) rest

def withhold (peer : ExecutionPriorityPeer) (decision : ExecutionPriorityDecision) : ExecutionPriorityDecision :=
  if peer.priority ≥ window.config.priority || decision.action != .execute then decision
  else
    { decision with
      command := none
      action := if peer.progress.isSome then .executeProgress else .wait
      progress := peer.progress }

def settle (peers : List ExecutionPriorityPeer) (nowNs : Nat)
    (plan : ExecutionPriorityPlan) : ExecutionPriorityIdleWindow × ExecutionPriorityPlan :=
  if !window.hasActivity then (window, plan)
  else
    let window := { window with idleSinceNs := some (window.idleSinceNs.getD nowNs) }
    if window.remainingNs nowNs == 0 then ({ window with hasActivity := false, idleSinceNs := none }, plan)
    else (window, { plan with decisions := List.zipWith window.withhold peers plan.decisions })

def accept (peers : List ExecutionPriorityPeer) (nowNs : Nat)
    (plan : ExecutionPriorityPlan) : ExecutionPriorityIdleWindow × ExecutionPriorityPlan :=
  let window := { window with lastNowNs := some nowNs }
  if peers.any (fun peer => peer.hasUnknownState) then ({ window with idleSinceNs := none }, plan)
  else
    let (window, hasHighWork) := window.observePeers false peers
    if hasHighWork then ({ window with idleSinceNs := none }, plan)
    else window.settle peers nowNs plan

def clockRegressed (nowNs : Nat) : Bool :=
  match window.lastNowNs with
  | none => false
  | some last => nowNs < last

def apply (peers : List ExecutionPriorityPeer) (mode : ExecutionSchedulingMode) (nowNs : Nat)
    (plan : ExecutionPriorityPlan) : ExecutionPriorityIdleWindow × ExecutionPriorityPlan :=
  if !window.enabled || !isPriorityExecutionMode mode then (window, plan)
  else if !plan.isValid then (window, plan)
  else if plan.decisions.length ≠ peers.length || peers.length > maxExecutionPriorityPeers ||
      window.clockRegressed nowNs then (window, {})
  else if plan.decisions.map (fun decision => decision.session) ≠ peers.map (fun peer => peer.session) then
    (window, {})
  else window.accept peers nowNs plan

end ExecutionPriorityIdleWindow

structure ExecutionRebalanceTrigger where
  session : Nat
  command : ExecutionPriorityCommand

structure ExecutionRebalanceLeg where
  session : Nat
  physical : ExecutionPriorityPhysical

structure ExecutionRebalanceProposal where
  trigger : Option ExecutionRebalanceTrigger := none
  legs : Vector ExecutionRebalanceLeg 2
  size : Nat

namespace ExecutionRebalanceProposal

variable (proposal : ExecutionRebalanceProposal)

def usedLegs : List ExecutionRebalanceLeg :=
  proposal.legs.toList.take proposal.size

-- What the loop over the legs has gathered: the indices of the legs and their common priority.
structure Located where
  indices : List Nat := []
  priority : Option Nat := none

def locateLeg (located : Located) (target : ExecutionRebalanceLeg) : Option Located := do
  let index ← peers.findIdx? (fun peer => peer.session == target.session)
  let found ← peers[index]?
  if target.session == 0 || !found.hasPhysicalWork || found.physical ≠ some target.physical ||
      target.physical.sequence == 0 || target.physical.generation == 0 || found.reservationGeneration != 0 ||
      found.progress.isSome || (located.priority.isSome && located.priority ≠ some found.priority) ||
      (!located.indices.isEmpty && target.session == proposal.legs[0].session) then none
  else some { indices := located.indices ++ [index], priority := some found.priority }

def triggerAccepted (priority : Option Nat) : Bool :=
  match proposal.trigger with
  | none => true
  | some trigger =>
    match findPeer peers trigger.session with
    | none => false
    | some found =>
      !(trigger.session == 0 || !found.hasReadyWork || found.hasPhysicalWork || found.hasPausedWork ||
        some found.priority ≠ priority || found.command ≠ some trigger.command || trigger.command.isResume ||
        trigger.command.physicalGeneration != 0 || trigger.command.commandEpoch != 1 ||
        proposal.usedLegs.any (fun leg => leg.session == trigger.session))

end ExecutionRebalanceProposal

variable (decision : ExecutionPriorityDecision)

def withdrawExecute : ExecutionPriorityDecision :=
  if decision.action != .execute then decision
  else if peer.progress.isSome then
    { decision with command := none, action := .executeProgress, progress := peer.progress }
  else { decision with command := none, action := .wait }

def requestRetreat : ExecutionPriorityDecision :=
  { decision with action := .requestRetreat, command := none }

def planExecutionRebalance (proposal : ExecutionRebalanceProposal) : ExecutionPriorityPlan :=
  if proposal.size == 0 || proposal.size > 2 then {}
  else
    let plan := planExecutionPriority peers .priority
    if !plan.isValid then {}
    else
      match proposal.usedLegs.foldlM (proposal.locateLeg peers) {} with
      | none => {}
      | some located =>
        if !proposal.triggerAccepted peers located.priority then {}
        else if plan.selectedPriority ≠ located.priority || peers.any (fun peer => peer.hasUnknownState) then plan
        else
          let withdrawn := List.zipWith withdrawExecute peers plan.decisions
          { plan with
            decisions := located.indices.foldl (fun decisions index => decisions.modify index requestRetreat)
              withdrawn }

structure ExecutionPairLeg where
  session : Nat
  command : ExecutionPriorityCommand
  catalogGeneration : Nat
  workers : Nat
deriving DecidableEq

structure ExecutionPairProposal where
  legs : Vector ExecutionPairLeg 2
  isShared : Bool := false
  firstSerial : Nat := 0

-- The granted legs and their count are one list.
structure ExecutionPairPlan where
  priority : ExecutionPriorityPlan := {}
  grants : List ExecutionPairLeg := []
  isValid : Bool := false
  isShared : Bool := false

namespace ExecutionPairProposal

variable (proposal : ExecutionPairProposal)

def rejected (mode : ExecutionSchedulingMode) : Bool :=
  mode == .profile || mode == .prioritySpaceShare || proposal.firstSerial > 1 ||
    (proposal.isShared && proposal.firstSerial != 0) || proposal.legs[0].session == 0 ||
    proposal.legs[0].session == proposal.legs[1].session

def maxWorkers : Nat := 2 ^ 31 - 1

-- A leg with its peer; the command and the context are the peer's, read through
-- the optionals that the check has found filled.
structure Located where
  leg : ExecutionPairLeg
  index : Nat
  command : ExecutionPriorityCommand
  context : ExecutionPairContext

def locateLeg (selected : ExecutionPairLeg) :
    Option Located := do
  let index ← peers.findIdx? (fun peer => peer.session == selected.session)
  let found ← peers[index]?
  let command ← found.command
  let context ← found.pairContext
  if command ≠ selected.command || selected.catalogGeneration == 0 ||
      selected.catalogGeneration ≠ context.catalogGeneration || selected.workers ≠ context.workers ||
      selected.workers > maxWorkers || (selected.command.isResume && selected.workers == 0) ||
      (proposal.isShared && selected.workers == 0) then none
  else some { leg := selected, index := index, command := command, context := context }

def sharedRejected (first second : Located) : Bool :=
  first.context.executionDomain == 0 || first.context.executionDomain ≠ second.context.executionDomain ||
    first.command.memberGeneration == 0 || second.command.memberGeneration == 0 ||
    first.command.memberGeneration == second.command.memberGeneration ||
    first.command.physicalConfigurationEpoch ≠ second.command.physicalConfigurationEpoch

def lowerExecute : ExecutionPriorityDecision :=
  { decision with
    action := if decision.action == .execute then .wait else decision.action
    command := none }

def grantLeg (decisions : List ExecutionPriorityDecision) (located : Located) : List ExecutionPriorityDecision :=
  decisions.modify located.index
    (fun decision => { decision with action := .execute, command := some located.leg.command })

def canGrant (ordinary : ExecutionPriorityPlan) (located : Located) : Bool :=
  (ordinary.decisions[located.index]?).any (fun decision => decision.action == .execute) &&
    located.context.isConfigurationMaterialized

def granted (first second : Located) : List Located :=
  if proposal.isShared then [first, second] else if proposal.firstSerial == 0 then [first] else [second]

end ExecutionPairProposal

def planExecutionPair (proposal : ExecutionPairProposal) (mode : ExecutionSchedulingMode) : ExecutionPairPlan :=
  if proposal.rejected mode then {}
  else
    let ordinary := planExecutionPriority peers mode
    if !ordinary.isValid then {}
    else
      match proposal.locateLeg peers proposal.legs[0], proposal.locateLeg peers proposal.legs[1] with
      | some first, some second =>
        if proposal.isShared && ExecutionPairProposal.sharedRejected first second then {}
        else
          let lowered := ordinary.decisions.map ExecutionPairProposal.lowerExecute
          let legs := proposal.granted first second
          if peers.any (fun peer => peer.hasPhysicalWork || peer.hasUnknownState) ||
              !legs.all (ExecutionPairProposal.canGrant ordinary) then
            { priority := { ordinary with decisions := lowered }, isValid := true }
          else
            { priority := { ordinary with decisions := legs.foldl ExecutionPairProposal.grantLeg lowered }
              grants := legs.map (fun located => located.leg)
              isValid := true
              isShared := proposal.isShared }
      | _, _ => {}

end Glimmer.Core
