import Glimmer.Core.PriorityAdapters
import Glimmer.Lib.IndexedRun

namespace Glimmer.Core

open Lib ExecutionPriorityIdleWindow

-- One call of the owner: the note of an issue, or the adaptation of the ordinary plan of a snapshot.
inductive IdleCall where
  | noteIssue (priority : Nat)
  | apply (peers : List ExecutionPriorityPeer) (mode : ExecutionSchedulingMode) (nowNs : Nat)

def IdleCall.byPriority : IdleCall → Prop
  | .noteIssue _ => True
  | .apply _ mode _ => isPriorityExecutionMode mode = true

def performIdleCall (window : ExecutionPriorityIdleWindow) :
    IdleCall → ExecutionPriorityIdleWindow × Option ExecutionPriorityPlan
  | .noteIssue priority => (window.noteIssue priority, none)
  | .apply peers mode nowNs =>
    let (window, plan) := window.apply peers mode nowNs (planExecutionPriority peers mode)
    (window, some plan)

variable (config : ExecutionPriorityIdleConfig) (calls : List IdleCall) (time : Nat)

def windowAt : ExecutionPriorityIdleWindow :=
  stateAt (fun window call => (performIdleCall window call).1) { config := config } calls time

def resultAt : Option ExecutionPriorityPlan :=
  calls[time]?.bind (fun call => (performIdleCall (windowAt config calls time) call).2)

def acceptedAt : Option (List ExecutionPriorityPeer × Nat) :=
  match calls[time]?, resultAt config calls time with
  | some (.apply peers _ nowNs), some plan => if plan.isValid then some (peers, nowNs) else none
  | _, _ => none

def QuietAbove (peers : List ExecutionPriorityPeer) : Prop :=
  ∀ peer ∈ peers, peer.hasUnknownState = false ∧ (config.priority ≤ peer.priority → peer.hasWork = false)

def HighPhysical (peers : List ExecutionPriorityPeer) : Prop :=
  ∃ peer ∈ peers, config.priority ≤ peer.priority ∧ peer.hasPhysicalWork = true

-- The guard is armed by the note of a high issue, or by a snapshot without unknown state that shows high physical work.
def Arms : Prop :=
  (∃ priority, calls[time]? = some (.noteIssue priority) ∧ config.priority ≤ priority) ∨
    ∃ peers nowNs, acceptedAt config calls time = some (peers, nowNs) ∧ HighPhysical config peers ∧
      ∀ peer ∈ peers, peer.hasUnknownState = false

-- A call that does not break a series: it notes no high issue and, if it is
-- accepted, saw no high work and no unknown state.
structure Calm : Prop where
  unissued : ∀ priority, calls[time]? = some (.noteIssue priority) → priority < config.priority
  quiet : ∀ peers nowNs, acceptedAt config calls time = some (peers, nowNs) → QuietAbove config peers

-- An unbroken series of quiet accepted calls that lasts the whole duration.
structure IdleSeries (first last : Nat) : Prop where
  order : first ≤ last
  lasting : ∃ earlier later firstNs lastNs, acceptedAt config calls first = some (earlier, firstNs) ∧
    acceptedAt config calls last = some (later, lastNs) ∧ firstNs + config.durationNs ≤ lastNs
  unbroken : ∀ time, first ≤ time → time ≤ last → Calm config calls time

def HighWork (peers : List ExecutionPriorityPeer) : Prop :=
  ∃ peer ∈ peers, config.priority ≤ peer.priority ∧ peer.hasWork = true

def ExecutesBelow : Prop :=
  ∃ peers mode nowNs plan, ∃ index : Nat, ∃ peer decision, calls[time]? = some (.apply peers mode nowNs) ∧
    resultAt config calls time = some plan ∧ peers[index]? = some peer ∧ plan.decisions[index]? = some decision ∧
    decision.action = .execute ∧ peer.priority < config.priority

structure LoweredBelow (peers : List ExecutionPriorityPeer) (ordinary plan : ExecutionPriorityPlan) : Prop where
  selected : plan.selectedPriority = ordinary.selectedPriority
  length : plan.decisions.length = ordinary.decisions.length
  decisions : ∀ (index : Nat) peer before after,
    peers[index]? = some peer → ordinary.decisions[index]? = some before → plan.decisions[index]? = some after →
    after = before ∨ (peer.priority < config.priority ∧ before.action = .execute ∧
      after = { before with
        action := if peer.progress.isSome then .executeProgress else .wait
        progress := peer.progress
        command := none })

variable {config} {calls} {time} {nowNs : Nat} {window : ExecutionPriorityIdleWindow}
  {peers : List ExecutionPriorityPeer} {plan : ExecutionPriorityPlan}
  {priority since : Nat} {out : ExecutionPriorityIdleWindow × ExecutionPriorityPlan}

theorem calm_not_arms (calm : Calm config calls time) : ¬ Arms config calls time := by
  rintro (⟨priority, noted, high⟩ | ⟨peers, nowNs, accepted, ⟨peer, mem, high, physical⟩, _⟩)
  · exact absurd (calm.unissued priority noted) (Nat.not_lt.mpr high)
  · have idle := (calm.quiet peers nowNs accepted peer mem).2 high
    simp [ExecutionPriorityPeer.hasWork, physical] at idle

variable {mode : ExecutionSchedulingMode} {armed : Nat}

section Window
variable (enabled : window.enabled = true)
include enabled

theorem note_issue_high (high : window.config.priority ≤ priority) :
    window.noteIssue priority = { window with hasActivity := true, idleSinceNs := none } := by
  simp [noteIssue, enabled, Nat.not_lt.mpr high]

theorem observe_peers_eq {hasHighWork : Bool} {peers : List ExecutionPriorityPeer} :
    window.observePeers hasHighWork peers =
      (if peers.any (fun peer => decide (window.config.priority ≤ peer.priority) && peer.hasPhysicalWork) then
          { window with hasActivity := true, idleSinceNs := none }
        else window,
        hasHighWork || peers.any (fun peer => decide (window.config.priority ≤ peer.priority) && peer.hasWork)) := by
  induction peers generalizing window hasHighWork with
  | nil => simp [observePeers]
  | cons peer rest ih =>
    unfold observePeers
    by_cases low : peer.priority < window.config.priority
    · rw [if_pos low, ih enabled]
      simp [Nat.not_le.mpr low]
    have high := Nat.not_lt.mp low
    rw [if_neg low]
    cases physical : peer.hasPhysicalWork with
    | false =>
      simp only [Bool.false_eq_true, if_false]
      rw [ih enabled]
      simp [physical, high, Bool.or_assoc]
    | true =>
      have armed : ({ window with hasActivity := true, idleSinceNs := none } :
          ExecutionPriorityIdleWindow).enabled = true := enabled
      simp only [if_true]
      rw [note_issue_high enabled high, ih armed]
      simp [physical, high, Bool.or_assoc]

theorem apply_ordinary (peers : List ExecutionPriorityPeer) (nowNs : Nat)
    (byPriority : isPriorityExecutionMode mode = true) :
    window.apply peers mode nowNs (planExecutionPriority peers mode) =
      if (planExecutionPriority peers mode).isValid && !window.clockRegressed nowNs then
        window.accept peers nowNs (planExecutionPriority peers mode) else (window, {}) := by
  rcases plan_cases peers mode with empty | ⟨scan, planned⟩
  · simp [apply, enabled, byPriority, empty]
  · have sessions := planned_sessions planned
    have length : (planExecutionPriority peers mode).decisions.length = peers.length := by
      simpa using congrArg List.length sessions
    have valid : (planExecutionPriority peers mode).isValid = true := by rw [planned.shape]
    simp only [apply, enabled, byPriority, valid, length, sessions]
    have small := Nat.not_lt.mpr planned.small
    cases window.clockRegressed nowNs <;> simp [small]

end Window

inductive AcceptStep (window : ExecutionPriorityIdleWindow) (peers : List ExecutionPriorityPeer) (nowNs : Nat)
    (plan : ExecutionPriorityPlan) : ExecutionPriorityIdleWindow × ExecutionPriorityPlan → Prop
  | unknown (seen : ∃ peer ∈ peers, peer.hasUnknownState = true) :
      AcceptStep window peers nowNs plan ({ window with lastNowNs := some nowNs, idleSinceNs := none }, plan)
  | observed (activity : Bool) (high : HighWork window.config peers)
      (armed : activity = false → window.hasActivity = false ∧ ¬ HighPhysical window.config peers) :
      AcceptStep window peers nowNs plan
        ({ window with lastNowNs := some nowNs, idleSinceNs := none, hasActivity := activity }, plan)
  | unguarded (quiet : QuietAbove window.config peers) (inactive : window.hasActivity = false) :
      AcceptStep window peers nowNs plan ({ window with lastNowNs := some nowNs }, plan)
  | elapsed (quiet : QuietAbove window.config peers) (active : window.hasActivity = true) (since : Nat)
      (running : window.idleSinceNs = some since) (lasted : since + window.config.durationNs ≤ nowNs) :
      AcceptStep window peers nowNs plan
        ({ window with lastNowNs := some nowNs, idleSinceNs := none, hasActivity := false }, plan)
  | withheld (quiet : QuietAbove window.config peers) (active : window.hasActivity = true) (since : Nat)
      (running : window.idleSinceNs.getD nowNs = since) :
      AcceptStep window peers nowNs plan
        ({ window with lastNowNs := some nowNs, idleSinceNs := some since },
          { plan with decisions := List.zipWith window.withhold peers plan.decisions })

section
variable (enabled : window.enabled = true)
include enabled

theorem enabled_duration : window.config.durationNs ≠ 0 := by
  simp only [ExecutionPriorityIdleWindow.enabled, Bool.and_eq_true, bne_iff_ne] at enabled
  exact enabled.2

theorem settle_step (quiet : QuietAbove window.config peers) :
    AcceptStep window peers nowNs plan
      (({ window with lastNowNs := some nowNs } : ExecutionPriorityIdleWindow).settle peers nowNs plan) := by
  unfold settle
  split
  · next inactive => exact .unguarded quiet (by simpa using inactive)
  next active =>
  have active : window.hasActivity = true := by simpa using active
  dsimp only
  split
  · next expired =>
    have duration := enabled_duration enabled
    have lasted : window.idleSinceNs.getD nowNs + window.config.durationNs ≤ nowNs := by
      simp only [remainingNs, beq_iff_eq] at expired
      split at expired
      · exact absurd expired duration
      · split at expired <;> omega
    cases running : window.idleSinceNs with
    | none =>
      simp only [running, Option.getD_none] at lasted
      omega
    | some since =>
      simp only [running, Option.getD_some] at lasted
      exact .elapsed quiet active since running lasted
  · exact .withheld quiet active _ rfl

theorem accept_step (peers : List ExecutionPriorityPeer) (nowNs : Nat) (plan : ExecutionPriorityPlan) :
    AcceptStep window peers nowNs plan (window.accept peers nowNs plan) := by
  have stamped : ({ window with lastNowNs := some nowNs } : ExecutionPriorityIdleWindow).enabled = true := enabled
  unfold accept
  dsimp only
  split
  · next seen => exact .unknown (by simpa using seen)
  next known =>
  rw [observe_peers_eq stamped]
  simp only [Bool.false_or]
  split
  · next high =>
    have found : HighWork window.config peers := by simpa [HighWork] using high
    split
    · exact .observed true found (by simp)
    · next stopped =>
      refine .observed window.hasActivity found (fun inactive => ⟨inactive, ?_⟩)
      simpa [HighPhysical] using stopped
  · next low =>
    have quiet : QuietAbove window.config peers := by
      intro peer mem
      simp only [List.any_eq_true, not_exists, not_and, Bool.not_eq_true, Bool.and_eq_true,
        decide_eq_true_eq] at low known
      exact ⟨known peer mem, low peer mem⟩
    have stopped : ¬ HighPhysical window.config peers := by
      rintro ⟨peer, mem, high, physical⟩
      have idle := (quiet peer mem).2 high
      simp [ExecutionPriorityPeer.hasWork, physical] at idle
    rw [if_neg (by simpa [HighPhysical] using stopped)]
    exact settle_step enabled quiet

end

theorem accept_step_valid (step : AcceptStep window peers nowNs plan out) :
    out.2.isValid = plan.isValid ∧ out.1.lastNowNs = some nowNs := by
  cases step <;> exact ⟨rfl, rfl⟩

section Run
variable {mode : ExecutionSchedulingMode}

theorem window_at_succ (config : ExecutionPriorityIdleConfig) {call : IdleCall} (here : calls[time]? = some call) :
    windowAt config calls (time + 1) = (performIdleCall (windowAt config calls time) call).1 :=
  state_at_succ _ _ calls here

inductive ApplyAt (config : ExecutionPriorityIdleConfig) (calls : List IdleCall) (time : Nat)
    (peers : List ExecutionPriorityPeer) (mode : ExecutionSchedulingMode) (nowNs : Nat) : Prop
  | rejected (unaccepted : acceptedAt config calls time = none)
      (unchanged : windowAt config calls (time + 1) = windowAt config calls time)
      (result : resultAt config calls time = some {})
  | accepted (accepted : acceptedAt config calls time = some (peers, nowNs))
      (valid : (planExecutionPriority peers mode).isValid = true)
      (current : (windowAt config calls time).clockRegressed nowNs = false)
      (out : ExecutionPriorityIdleWindow × ExecutionPriorityPlan)
      (step : AcceptStep (windowAt config calls time) peers nowNs (planExecutionPriority peers mode) out)
      (next : windowAt config calls (time + 1) = out.1)
      (result : resultAt config calls time = some out.2)

theorem apply_at (enabled : (windowAt config calls time).enabled = true)
    (byPriority : isPriorityExecutionMode mode = true)
    (here : calls[time]? = some (.apply peers mode nowNs)) : ApplyAt config calls time peers mode nowNs := by
  have next := window_at_succ config here
  have result : resultAt config calls time =
      some ((windowAt config calls time).apply peers mode nowNs (planExecutionPriority peers mode)).2 := by
    simp [resultAt, here, performIdleCall]
  simp only [performIdleCall] at next
  rw [apply_ordinary enabled peers nowNs byPriority] at next result
  split at next
  · next accepted =>
    simp only [Bool.and_eq_true, Bool.not_eq_true'] at accepted
    have step := accept_step enabled peers nowNs (planExecutionPriority peers mode)
    rw [if_pos (by simp [accepted])] at result
    refine .accepted ?_ accepted.1 accepted.2 _ step next result
    simp [acceptedAt, here, result, (accept_step_valid step).1, accepted.1]
  · next refused =>
    rw [if_neg refused] at result
    exact .rejected (by simp [acceptedAt, here, result]) next result

theorem note_unaccepted (config : ExecutionPriorityIdleConfig) (here : calls[time]? = some (.noteIssue priority)) :
    acceptedAt config calls time = none := by
  simp [acceptedAt, here]

-- Without activity every arming call was followed by a lasting series; a running interval is an unbroken series.
structure Watched (config : ExecutionPriorityIdleConfig) (calls : List IdleCall) (time : Nat)
    (window : ExecutionPriorityIdleWindow) : Prop where
  configured : window.config = config
  released : window.hasActivity = false → ∀ armed < time, Arms config calls armed →
    ∃ first last, armed < first ∧ last < time ∧ IdleSeries config calls first last
  running : ∀ since, window.idleSinceNs = some since → ∃ first < time,
    (∃ peers, acceptedAt config calls first = some (peers, since)) ∧
      ∀ between, first ≤ between → between < time → Calm config calls between

variable {next : ExecutionPriorityIdleWindow}

theorem accepted_calm (here : calls[time]? = some (.apply peers mode nowNs))
    (accepted : acceptedAt config calls time = some (peers, nowNs)) (quiet : QuietAbove config peers) :
    Calm config calls time := by
  constructor
  · intro priority noted
    cases here.symm.trans noted
  · intro others clock again
    cases accepted.symm.trans again
    exact quiet

theorem unaccepted_calm (unaccepted : acceptedAt config calls time = none)
    (unissued : ∀ priority, calls[time]? = some (.noteIssue priority) → priority < config.priority) :
    Calm config calls time :=
  ⟨unissued, fun _ _ accepted => by cases unaccepted.symm.trans accepted⟩

section
variable (watched : Watched config calls time window)
include watched

theorem series_kept (inactive : window.hasActivity = false)
    (unarmed : ¬ Arms config calls time) (armed : Nat) (before : armed < time + 1) (arms : Arms config calls armed) :
    ∃ first last, armed < first ∧ last < time + 1 ∧ IdleSeries config calls first last := by
  rcases Nat.lt_succ_iff_lt_or_eq.mp before with earlier | rfl
  · obtain ⟨first, last, after, within, series⟩ := watched.released inactive armed earlier arms
    exact ⟨first, last, after, Nat.lt_succ_of_lt within, series⟩
  · exact absurd arms unarmed

theorem watched_calm (calm : Calm config calls time)
    (config_eq : next.config = window.config) (activity : next.hasActivity = window.hasActivity)
    (idle : next.idleSinceNs = window.idleSinceNs) : Watched config calls (time + 1) next := by
  refine ⟨config_eq.trans watched.configured,
    fun inactive => series_kept watched (activity ▸ inactive) (calm_not_arms calm), ?_⟩
  intro since running
  obtain ⟨first, before, begun, unbroken⟩ := watched.running since (idle ▸ running)
  refine ⟨first, Nat.lt_succ_of_lt before, begun, ?_⟩
  intro between after within
  rcases Nat.lt_succ_iff_lt_or_eq.mp within with earlier | rfl
  · exact unbroken between after earlier
  · exact calm

theorem watched_interrupted (config_eq : next.config = window.config) (idle : next.idleSinceNs = none)
    (activity : next.hasActivity = false → window.hasActivity = false ∧ ¬ Arms config calls time) :
    Watched config calls (time + 1) next := by
  refine ⟨config_eq.trans watched.configured,
    fun inactive => series_kept watched (activity inactive).1 (activity inactive).2, ?_⟩
  intro since running
  cases idle.symm.trans running

theorem watched_elapsed (calm : Calm config calls time)
    (accepted : acceptedAt config calls time = some (peers, nowNs)) (running : window.idleSinceNs = some since)
    (lasted : since + config.durationNs ≤ nowNs) (before : armed ≤ time) (arms : Arms config calls armed) :
    ∃ first, armed < first ∧ IdleSeries config calls first time := by
  obtain ⟨first, earlier, ⟨begun, accepting⟩, unbroken⟩ := watched.running since running
  have unbroken : ∀ between, first ≤ between → between ≤ time → Calm config calls between := by
    intro between after within
    rcases Nat.lt_or_eq_of_le within with earlier | rfl
    · exact unbroken between after earlier
    · exact calm
  refine ⟨first, ?_, Nat.le_of_lt earlier, ⟨begun, peers, since, nowNs, accepting, accepted, lasted⟩, unbroken⟩
  by_contra inside
  exact calm_not_arms (unbroken armed (Nat.not_lt.mp inside) before) arms

theorem watched_accept {plan : ExecutionPriorityPlan} (here : calls[time]? = some (.apply peers mode nowNs))
    (accepted : acceptedAt config calls time = some (peers, nowNs)) (step : AcceptStep window peers nowNs plan out) :
    Watched config calls (time + 1) out.1 := by
  have noted : ∀ priority, calls[time]? ≠ some (.noteIssue priority) := by
    intro priority noted
    cases here.symm.trans noted
  cases step with
  | unknown seen =>
    refine watched_interrupted watched rfl rfl (fun inactive => ⟨inactive, ?_⟩)
    rintro (⟨priority, issue, _⟩ | ⟨others, clock, again, _, known⟩)
    · exact noted priority issue
    · obtain ⟨peer, mem, unknown⟩ := seen
      cases accepted.symm.trans again
      cases unknown.symm.trans (known peer mem)
  | observed activity high armed =>
    refine watched_interrupted watched rfl rfl (fun inactive => ⟨(armed inactive).1, ?_⟩)
    rintro (⟨priority, issue, _⟩ | ⟨others, clock, again, physical, _⟩)
    · exact noted priority issue
    · cases accepted.symm.trans again
      exact (armed inactive).2 (watched.configured ▸ physical)
  | unguarded quiet inactive =>
    rw [watched.configured] at quiet
    exact watched_calm watched (accepted_calm here accepted quiet) rfl rfl rfl
  | elapsed quiet active since running lasted =>
    rw [watched.configured] at quiet lasted
    have calm := accepted_calm here accepted quiet
    refine ⟨watched.configured, ?_, by simp⟩
    intro _ armed before arms
    obtain ⟨first, after, series⟩ := watched_elapsed watched calm accepted running lasted
      (Nat.lt_succ_iff.mp before) arms
    exact ⟨first, time, after, Nat.lt_succ_self time, series⟩
  | withheld quiet active since running =>
    rw [watched.configured] at quiet
    have calm := accepted_calm here accepted quiet
    refine ⟨watched.configured, fun inactive => absurd (active.symm.trans inactive) (by simp), ?_⟩
    intro began same
    obtain rfl : since = began := by simpa using same
    cases idle : window.idleSinceNs with
    | none =>
      obtain rfl : nowNs = since := by simpa [idle] using running
      refine ⟨time, Nat.lt_succ_self time, ⟨peers, accepted⟩, ?_⟩
      intro between after within
      rw [Nat.le_antisymm (Nat.lt_succ_iff.mp within) after]
      exact calm
    | some earlier =>
      obtain rfl : earlier = since := by simpa [idle] using running
      exact (watched_calm watched calm rfl rfl rfl).running earlier idle

end

variable (enabled : ({ config := config } : ExecutionPriorityIdleWindow).enabled = true)
  (byPriority : ∀ call ∈ calls, call.byPriority)

include enabled

theorem watched_enabled (watched : Watched config calls time window) : window.enabled = true := by
  rw [← enabled]
  simp [ExecutionPriorityIdleWindow.enabled, watched.configured]

include byPriority

theorem window_watched (within : time ≤ calls.length) : Watched config calls time (windowAt config calls time) := by
  refine state_at_invariant _ _ calls ⟨rfl, fun _ armed before => by omega, by simp⟩ ?_ within
  intro time call here watched
  have watched : Watched config calls time (windowAt config calls time) := watched
  have live := watched_enabled enabled watched
  cases call with
  | noteIssue priority =>
    change Watched config calls (time + 1) ((windowAt config calls time).noteIssue priority)
    have unaccepted := note_unaccepted config here
    by_cases high : config.priority ≤ priority
    · rw [note_issue_high live (by rw [watched.configured]; exact high)]
      exact watched_interrupted watched rfl rfl (by simp)
    have low := Nat.not_le.mp high
    have same : (windowAt config calls time).noteIssue priority = windowAt config calls time := by
      simp [noteIssue, watched.configured, low]
    rw [same]
    refine watched_calm watched (unaccepted_calm unaccepted fun other noted => ?_) rfl rfl rfl
    cases here.symm.trans noted
    exact low
  | apply peers mode nowNs =>
    have moded : isPriorityExecutionMode mode = true := byPriority _ (List.mem_of_getElem? here)
    have next := window_at_succ config here
    change Watched config calls (time + 1) (performIdleCall (windowAt config calls time) _).1
    rw [← next]
    cases apply_at live moded here with
    | rejected unaccepted unchanged _ =>
      rw [unchanged]
      refine watched_calm watched (unaccepted_calm unaccepted fun priority noted => ?_) rfl rfl rfl
      cases here.symm.trans noted
    | accepted accepted _ _ out step advanced _ =>
      rw [advanced]
      exact watched_accept watched here accepted step

theorem apply_call (here : calls[time]? = some (.apply peers mode nowNs)) :
    isPriorityExecutionMode mode = true ∧ Watched config calls time (windowAt config calls time) ∧
      ApplyAt config calls time peers mode nowNs := by
  have within := Nat.le_of_lt (List.getElem?_eq_some_iff.mp here).1
  have watched := window_watched enabled byPriority within
  have moded : isPriorityExecutionMode mode = true := byPriority _ (List.mem_of_getElem? here)
  exact ⟨moded, watched, apply_at (watched_enabled enabled watched) moded here⟩

theorem last_now_at {last : Nat} {seen : List ExecutionPriorityPeer} {lastNs : Nat}
    (accepted : acceptedAt config calls last = some (seen, lastNs)) (after : last < time) (within : time ≤ calls.length)
    (since : ∀ between, last < between → between < time → acceptedAt config calls between = none) :
    (windowAt config calls time).lastNowNs = some lastNs := by
  induction time with
  | zero => exact absurd after (by omega)
  | succ time ih =>
    have here := List.getElem?_eq_getElem (Nat.lt_of_succ_le within)
    have passed : acceptedAt config calls time = none → (windowAt config calls time).lastNowNs = some lastNs := by
      intro unaccepted
      rcases Nat.lt_succ_iff_lt_or_eq.mp after with earlier | rfl
      · exact ih earlier (Nat.le_of_succ_le within)
          (fun between above below => since between above (Nat.lt_succ_of_lt below))
      · cases unaccepted.symm.trans accepted
    cases call : calls[time] with
    | noteIssue priority =>
      rw [call] at here
      rw [window_at_succ config here, ← passed (note_unaccepted config here)]
      simp only [performIdleCall, noteIssue]
      split <;> rfl
    | apply peers mode nowNs =>
      rw [call] at here
      cases (apply_call enabled byPriority here).2.2 with
      | rejected unaccepted unchanged _ =>
        rw [unchanged]
        exact passed unaccepted
      | accepted again _ _ out step next _ =>
        rcases Nat.lt_succ_iff_lt_or_eq.mp after with earlier | rfl
        · cases again.symm.trans (since time earlier (Nat.lt_succ_self time))
        · cases again.symm.trans accepted
          rw [next, (accept_step_valid step).2]

end Run

theorem ordinary_execute_highest (byPriority : isPriorityExecutionMode mode = true)
    (valid : (planExecutionPriority peers mode).isValid = true) {index : Nat} {peer : ExecutionPriorityPeer}
    {decision : ExecutionPriorityDecision} (listed : peers[index]? = some peer)
    (decided : (planExecutionPriority peers mode).decisions[index]? = some decision)
    (executes : decision.action = .execute) :
    (∀ other ∈ peers, other.hasUnknownState = false) ∧
      ∀ other ∈ peers, other.hasWork = true → other.priority ≤ peer.priority := by
  obtain ⟨scan, planned⟩ := plan_planned valid
  have known : ∀ other ∈ peers, other.hasUnknownState = false := by
    intro other mem
    cases unknown : other.hasUnknownState with
    | false => rfl
    | true =>
      have held := (planned_quarantine planned ⟨other, mem, unknown⟩ (List.mem_of_getElem? decided)).1
      cases executes.symm.trans held
  have top := ((planned_ordinary planned byPriority known listed decided).execute executes).2.1
  have highest := planned.scanned.highest byPriority
  have chosen : scan.selectedPriority = some peer.priority := by
    rw [← top, planned.shape]
  rw [chosen] at highest
  exact ⟨known, highest.2⟩

theorem accept_lowers (step : AcceptStep window peers nowNs plan out) (paired : plan.decisions.length = peers.length) :
    LoweredBelow window.config peers plan out.2 := by
  cases step with
  | unknown | observed | unguarded | elapsed =>
    exact ⟨rfl, rfl, fun _ _ _ _ _ before after => .inl (Option.some.inj (after.symm.trans before))⟩
  | withheld quiet active since running =>
    refine ⟨rfl, by simp [paired], ?_⟩
    intro index peer before after listed decided adapted
    obtain ⟨other, decision, here, there, rfl⟩ := List.getElem?_zipWith_eq_some.mp adapted
    cases listed.symm.trans here
    cases decided.symm.trans there
    unfold withhold
    split
    · exact .inl rfl
    next low =>
    simp only [Bool.or_eq_true, decide_eq_true_eq, bne_iff_ne, ne_eq, not_or, Nat.not_le, Classical.not_not,
      ge_iff_le] at low
    exact .inr ⟨low.1, low.2, rfl⟩

theorem executes_below_series (enabled : ({ config := config } : ExecutionPriorityIdleWindow).enabled = true)
    (byPriority : ∀ call ∈ calls, call.byPriority) (after : armed < time)
    (arms : Arms config calls armed) (executes : ExecutesBelow config calls time) :
    ∃ first last, armed < first ∧ last ≤ time ∧ IdleSeries config calls first last := by
  obtain ⟨peers, mode, nowNs, plan, index, peer, decision, here, result, listed, decided, action, low⟩ := executes
  obtain ⟨moded, watched, applied⟩ := apply_call enabled byPriority here
  cases applied with
  | rejected _ _ empty =>
    cases result.symm.trans empty
    exact absurd decided (by simp)
  | accepted accepted valid _ out step _ outcome =>
    cases result.symm.trans outcome
    cases step with
    | unknown seen =>
      obtain ⟨other, mem, unknown⟩ := seen
      have known := (ordinary_execute_highest moded valid listed decided action).1 other mem
      cases unknown.symm.trans known
    | observed activity high _ =>
      obtain ⟨other, mem, above, working⟩ := high
      have bounded := (ordinary_execute_highest moded valid listed decided action).2 other mem working
      rw [watched.configured] at above
      omega
    | unguarded quiet inactive =>
      obtain ⟨first, last, later, within, series⟩ := watched.released inactive armed after arms
      exact ⟨first, last, later, Nat.le_of_lt within, series⟩
    | elapsed quiet active since running lasted =>
      rw [watched.configured] at quiet lasted
      obtain ⟨first, later, series⟩ := watched_elapsed watched (accepted_calm here accepted quiet) accepted
        running lasted (Nat.le_of_lt after) arms
      exact ⟨first, time, later, Nat.le_refl time, series⟩
    | withheld quiet active since running =>
      obtain ⟨other, before, found, _, rfl⟩ := List.getElem?_zipWith_eq_some.mp decided
      cases listed.symm.trans found
      rw [← watched.configured] at low
      unfold withhold at action
      split at action
      · next kept => simp [Nat.not_le.mpr low, action] at kept
      · dsimp only at action
        split at action <;> exact absurd action (by simp)

theorem idle_window_guards (config : ExecutionPriorityIdleConfig) (calls : List IdleCall)
    (enabled : ({ config := config } : ExecutionPriorityIdleWindow).enabled = true)
    (byPriority : ∀ call ∈ calls, call.byPriority) :
    (∀ armed time, armed < time → Arms config calls armed → ExecutesBelow config calls time →
      ∃ first last, armed < first ∧ last ≤ time ∧ IdleSeries config calls first last) ∧
    (∀ last time seen lastNs peers mode nowNs, last < time → acceptedAt config calls last = some (seen, lastNs) →
      (∀ between, last < between → between < time → acceptedAt config calls between = none) →
      calls[time]? = some (.apply peers mode nowNs) → nowNs < lastNs →
      (∃ plan, resultAt config calls time = some plan ∧ plan.isValid = false) ∧
        windowAt config calls (time + 1) = windowAt config calls time) ∧
    ∀ time peers mode nowNs plan, calls[time]? = some (.apply peers mode nowNs) →
      resultAt config calls time = some plan → plan.isValid = true →
      LoweredBelow config peers (planExecutionPriority peers mode) plan := by
  refine ⟨fun armed time after arms => executes_below_series enabled byPriority after arms, ?_, ?_⟩
  · intro last time seen lastNs peers mode nowNs after accepted since here back
    have within := Nat.le_of_lt (List.getElem?_eq_some_iff.mp here).1
    have stamped := last_now_at enabled byPriority accepted after within since
    cases (apply_call enabled byPriority here).2.2 with
    | rejected _ unchanged result => exact ⟨⟨{}, result, rfl⟩, unchanged⟩
    | accepted _ _ current =>
      simp only [clockRegressed, stamped, decide_eq_false_iff_not] at current
      exact absurd back current
  · intro time peers mode nowNs plan here result valid
    obtain ⟨_, watched, applied⟩ := apply_call enabled byPriority here
    cases applied with
    | rejected _ _ empty =>
      cases result.symm.trans empty
      exact absurd valid (by simp)
    | accepted _ ordinary _ out step _ outcome =>
      cases result.symm.trans outcome
      obtain ⟨scan, planned⟩ := plan_planned ordinary
      rw [← watched.configured]
      exact accept_lowers step (by simp [planned.shape])

def guardConfig : ExecutionPriorityIdleConfig := { priority := 100, durationNs := 50 }

def lowReady : ExecutionPriorityPeer := { session := 2, priority := 0, hasReadyWork := true }

def drainedCalls : List IdleCall :=
  [.noteIssue 100, .apply [lowReady] .priority 1, .apply [lowReady] .priority 60]

theorem executes_below_of_low (here : calls[time]? = some (.apply [lowReady] .priority nowNs))
    (result : resultAt guardConfig calls time = some (planExecutionPriority [lowReady] .priority)) :
    ExecutesBelow guardConfig calls time :=
  ⟨[lowReady], .priority, nowNs, planExecutionPriority [lowReady] .priority, 0, lowReady,
    { session := 2, action := .execute }, here, result, rfl, by decide +kernel, rfl, by decide⟩

theorem drained_window_guards : ({ config := guardConfig } : ExecutionPriorityIdleWindow).enabled = true ∧
      ExecutesBelow guardConfig drainedCalls 2 ∧
      ∃ first last, 0 < first ∧ last ≤ 2 ∧ IdleSeries guardConfig drainedCalls first last := by
  have executes : ExecutesBelow guardConfig drainedCalls 2 :=
    executes_below_of_low rfl (by decide +kernel)
  refine ⟨rfl, executes, ?_⟩
  refine (idle_window_guards guardConfig drainedCalls rfl ?_).1 0 2 (by decide)
    (.inl ⟨100, rfl, Nat.le_refl 100⟩) executes
  intro call mem
  simp only [drainedCalls, List.mem_cons, List.not_mem_nil, or_false] at mem
  rcases mem with rfl | rfl | rfl
  · trivial
  · rfl
  · rfl

-- High physical work shown together with an unknown state does not arm the guard.
def blindCalls : List IdleCall :=
  [.apply [{ session := 1, priority := 100, hasPhysicalWork := true, hasUnknownState := true }] .priority 1,
    .apply [lowReady] .priority 2]

-- High work that was ready after the interval, and went away unissued, does not start a new one.
def retractedCalls : List IdleCall :=
  [.noteIssue 100, .apply [lowReady] .priority 1, .apply [lowReady] .priority 60,
    .apply [{ session := 1, priority := 100, hasReadyWork := true }, lowReady] .priority 61,
    .apply [lowReady] .priority 62]

theorem no_single_series (calls : List IdleCall) (time : Nat) : ¬ IdleSeries guardConfig calls time time := by
  rintro ⟨_, ⟨earlier, later, firstNs, lastNs, first, last, lasted⟩, _⟩
  cases first.symm.trans last
  simp only [guardConfig] at lasted
  omega

theorem idle_window_releases_early : (acceptedAt guardConfig blindCalls 0 =
        some ([{ session := 1, priority := 100, hasPhysicalWork := true, hasUnknownState := true }], 1) ∧
      ExecutesBelow guardConfig blindCalls 1 ∧
      ∀ first last, 0 < first → last ≤ 1 → ¬ IdleSeries guardConfig blindCalls first last) ∧
    (Arms guardConfig retractedCalls 0 ∧ ExecutesBelow guardConfig retractedCalls 4 ∧
      ∀ first, 0 < first → ¬ IdleSeries guardConfig retractedCalls first 4) := by
  refine ⟨⟨by decide +kernel, executes_below_of_low rfl (by decide +kernel), ?_⟩,
    .inl ⟨100, rfl, Nat.le_refl 100⟩, executes_below_of_low rfl (by decide +kernel), ?_⟩
  · intro first last after within series
    have order := series.order
    obtain rfl : first = 1 := by omega
    obtain rfl : last = 1 := by omega
    exact no_single_series blindCalls 1 series
  · intro first after series
    have order := series.order
    by_cases latest : first = 4
    · subst latest
      exact no_single_series retractedCalls 4 series
    have calm := series.unbroken 3 (by omega) (by decide)
    have accepted : acceptedAt guardConfig retractedCalls 3 =
        some ([{ session := 1, priority := 100, hasReadyWork := true }, lowReady], 61) := by decide +kernel
    have idle := (calm.quiet _ _ accepted _ (List.mem_cons_self ..)).2 (by decide)
    exact absurd idle (by decide)

end Glimmer.Core
