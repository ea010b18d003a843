import Glimmer.Backend.SubmissionGrants

namespace Glimmer.Backend

open Lib Queue Glimmer.Backend.System Entry

-- The calls that bring new work or storage into the queue, or change work on its way to the device.
def Call.admits : Call → Bool
  | .accept _ _ _ | .takeNext _ | .resumeAfterPhysicalStop _ | .patchIssueParameters _ _ _
  | .limitUnissuedParameters _ _ | .replaceUnissuedParameters _ _ | .allocateHostStorage _ _ => true
  | _ => false

def Outcome.isSuccess : Outcome → Bool
  | .flag succeeded => succeeded
  | .acceptance status _ => status == .accepted
  | .allocation status => status == .accepted
  | .issue issued => issued.isSome
  | .parameters copied => copied.isSome
  | .reply result => result.isSome
  | .none => false

variable {queue : Queue} {base system next : System} {caller : Caller} {history : List Event} {entry : Entry}

section Quarantine

theorem quarantined_perform (quarantined : queue.isQuarantined = true) (caller : Caller) {call : Call}
    (admits : call.admits = true) : (queue.perform caller call).2.isSuccess = false := by
  have dead : ∀ {other : Prop}, queue.isQuarantined = false → other := fun healthy =>
    absurd (quarantined.symm.trans healthy) (by simp)
  cases call with
  | allocateHostStorage bytes allocates =>
    rcases allocate_host_storage_cases queue caller bytes allocates with ⟨status, refused, same⟩ | ⟨healthy, _⟩
    · simpa [perform, same, Outcome.isSuccess] using refused
    · exact dead healthy
  | accept sequence request allocates =>
    rcases accept_cases queue sequence request allocates with
      ⟨status, refused, same | ⟨_, _, same⟩⟩ | ⟨lifetime, _, acceptable, _⟩
    · simpa [perform, same, acceptance, Outcome.isSuccess] using refused
    · simpa [perform, same, acceptance, Outcome.isSuccess] using refused
    · exact dead acceptable.healthy
  | takeNext receipt =>
    rcases take_next_cases queue caller receipt with same | ⟨entry, _, _, healthy, _⟩
    · simp [perform, same, Outcome.isSuccess]
    · exact dead healthy
  | limitUnissuedParameters | replaceUnissuedParameters | patchIssueParameters =>
    simp only [perform, limitUnissuedParameters, replaceUnissuedParameters, patchIssueParameters]
    rw [on_entry_refused (fun entry _ => by simp [isPreparable, quarantined])]
    first | rfl | split <;> rfl
  | resumeAfterPhysicalStop token =>
    rcases resume_cases queue caller token with same | same | ⟨entry, _, _, _, healthy, _⟩
    · simp [perform, same, Outcome.isSuccess]
    · simp [perform, same, Outcome.isSuccess]
    · exact dead healthy
  | _ => cases admits

theorem stepped_quarantined {event : Event} (stepped : Stepped system event next)
    (quarantined : system.queue.isQuarantined = true) : next.queue.isQuarantined = true := by
  cases stepped with
  | flagged closing flag _ stays | advanced entry change closing flag _ _ _ _ _ _ stays => exact stays quarantined
  | acknowledged entry =>
    obtain ⟨_, _, _, _, _, _, kept⟩ := collect_fixed
      (system.queue.modifyEntry entry.sequence (fun entry => { entry with isAcknowledged := true })) entry.sequence
    exact kept.trans quarantined
  | moved release =>
    obtain ⟨entries, same⟩ := move_payload_fixed system.queue release.sequence
    simp [same, quarantined]
  | finished release bytes =>
    obtain ⟨_, _, _, _, _, _, kept⟩ := collect_fixed
      (modifyEntry { system.queue with parameterBytes := system.queue.parameterBytes - bytes } release.sequence
        (fun entry => { entry with isReleasingPayload := false })) release.sequence
    exact kept.trans quarantined
  | _ => exact quarantined

theorem run_quarantined (sound : system.Sound) (quarantined : system.queue.isQuarantined = true)
    (events : List Event) : (system.run events).queue.isQuarantined = true := by
  induction events generalizing system with
  | nil => exact quarantined
  | cons event rest ih =>
    exact ih (next_sound sound event) (stepped_quarantined (step_stepped event sound.sized) quarantined)

end Quarantine

def Call.retires : Call → Bool
  | .publishHostResult _ _ | .publishPreparationFailure _ _ | .rejectUnissued _ _ | .rejectBeforeNativeIssue _ _
  | .acknowledgeResult _ | .completeAfterPhysicalStop _ | .resumeAfterPhysicalStop _ | .finishContinuationIssue _ => true
  | _ => false

def Event.drains (caller : Caller) : Event → Bool
  | .call maker made => maker == caller && made.retires
  | .movePayload thread | .finishRelease thread => thread == caller.thread
  | _ => false

def Event.capability : Event → Option Capability
  | .call _ made => made.capability
  | _ => none

-- A history continued by draining operations, each with a receipt or token handed out before it.
inductive Draining (start : System) (caller : Caller) : List Event → List Event → Prop
  | done (history : List Event) : Draining start caller history []
  | step {history rest : List Event} (event : Event) (drains : event.drains caller = true)
      (granted : ∀ capability, event.capability = some capability → start.Granted history capability)
      (continues : Draining start caller (history ++ [event]) rest) : Draining start caller history (event :: rest)

def Drains (start : System) (caller : Caller) (history : List Event) (goal : System → Prop) : Prop :=
  ∃ rest, Draining start caller history rest ∧ goal (start.run (history ++ rest))

section Drains
variable {start : System} {goal : System → Prop}

theorem drains_done (reached : goal (start.run history)) : Drains start caller history goal :=
  ⟨[], .done history, by rwa [List.append_nil]⟩

theorem drains_step (event : Event) (drains : event.drains caller = true)
    (granted : ∀ capability, event.capability = some capability → start.Granted history capability)
    (continues : Drains start caller (history ++ [event]) goal) : Drains start caller history goal := by
  obtain ⟨rest, draining, reached⟩ := continues
  refine ⟨event :: rest, .step event drains granted draining, ?_⟩
  rwa [List.append_assoc] at reached

theorem drains_trans {middle : System → Prop} (one : Drains start caller history middle)
    (two : ∀ more, middle (start.run (history ++ more)) → Drains start caller (history ++ more) goal) :
    Drains start caller history goal := by
  obtain ⟨first, draining, reached⟩ := one
  obtain ⟨second, continuing, done⟩ := two first reached
  rw [List.append_assoc] at done
  refine ⟨first ++ second, ?_, done⟩
  clear two reached done
  induction draining with
  | done history => simpa using continuing
  | step event drains granted _ ih => exact .step event drains granted (ih (by simpa using continuing))

theorem drains_weaken {weaker : System → Prop} (drains : Drains start caller history goal)
    (implies : ∀ system, goal system → weaker system) : Drains start caller history weaker := by
  obtain ⟨rest, draining, reached⟩ := drains
  exact ⟨rest, draining, implies _ reached⟩

end Drains

-- All commands but one are as in the base state; that one is now this entry.
structure Focus (base : System) (entry : Entry) (releases : List Release) (system : System) : Prop where
  listed : ∃ old ∈ base.queue.entries, old.sequence = entry.sequence
  queue : system.queue =
    { base.queue with
      entries := amend Entry.sequence entry.sequence (fun _ => entry) base.queue.entries
      parameterBytes := system.queue.parameterBytes }
  releases : system.releases = releases

structure Gone (base : System) (sequence : Nat) (system : System) : Prop where
  queue : system.queue =
    { base.queue with
      entries := strike Entry.sequence sequence base.queue.entries
      parameterBytes := system.queue.parameterBytes }
  releases : system.releases = []

section Focused
variable {releases : List Release}

theorem Focus.start (sound : base.Sound) (mem : entry ∈ base.queue.entries) :
    Focus base entry base.releases base := by
  refine ⟨⟨entry, mem, rfl⟩, ?_, rfl⟩
  have same : amend sequence entry.sequence (fun _ => entry) base.queue.entries = base.queue.entries := by
    have unchanged := @amend_unique Entry Nat _ sequence entry base.queue.entries entry.sequence (fun _ => entry)
      sound.listed.distinct mem rfl id rfl
    rw [unchanged, amend]
    simp
  rw [same]

variable (focus : Focus base entry releases system)
include focus

theorem Focus.member : entry ∈ system.queue.entries := by
  obtain ⟨old, listed, same⟩ := focus.listed
  rw [focus.queue]
  exact mem_amend_hit listed same

theorem Focus.changed (change : Entry → Entry)
    (keyed : (change entry).sequence = entry.sequence) {later : List Release} (bytes : Nat)
    (queue : next.queue = { system.queue.modifyEntry entry.sequence change with parameterBytes := bytes })
    (pending : next.releases = later) : Focus base (change entry) later next := by
  refine ⟨?_, ?_, pending⟩
  · rw [keyed]
    exact focus.listed
  · have folded := @amend_amend Entry Nat _ sequence base.queue.entries entry.sequence (fun _ => entry) change
      (fun _ _ => rfl)
    rw [queue, modifyEntry, focus.queue, folded, keyed]
    rfl

theorem Focus.struck (bytes : Nat) (queue : next.queue =
      { system.queue with
        entries := strike sequence entry.sequence system.queue.entries
        parameterBytes := bytes }) (pending : next.releases = []) : Gone base entry.sequence next := by
  refine ⟨?_, pending⟩
  have folded := @strike_amend Entry Nat _ sequence base.queue.entries entry.sequence (fun _ => entry)
    (fun _ _ => rfl)
  rw [queue, focus.queue, folded]

end Focused

structure Ready (start : System) (caller : Caller) (history : List Event) : Prop where
  sound : start.Sound
  empty : start.queue.entries = []
  process : caller.process = start.queue.processId
  executing : (start.run history).queue.executor = some { thread := caller.thread, isAlive := true }

namespace Ready

variable {start : System} (ready : Ready start caller history)
include ready

theorem current : (start.run history).Sound := run_sound ready.sound history

theorem later {more : List Event}
    (same : (start.run (history ++ more)).queue.executor = (start.run history).queue.executor) :
    Ready start caller (history ++ more) :=
  ⟨ready.sound, ready.empty, ready.process, same.trans ready.executing⟩

theorem call_step (idle : (start.run history).isBusy caller.thread = false) (call : Call)
    {outcome : Outcome} (performed : (start.run history).queue.perform caller call = (queue, outcome)) :
    (start.run history).step (.call caller call) =
      ({ start.run history with
          queue := queue
          releases := (start.run history).begun caller.thread call outcome
          storages := (start.run history).allocated call outcome }, outcome) := by
  have live : caller.thread ∉ (start.run history).exited := ready.current.live caller.thread ready.executing
  have process : caller.process = (start.run history).queue.processId :=
    ready.process.trans (run_fixed ready.sound history).2.2.symm
  simp [step, List.contains_eq_mem, live, decide_false, idle, Bool.or_self, Bool.false_eq_true, performCall, process,
    ne_eq, not_true_eq_false, performed]

theorem found_receipt (mem : entry ∈ (start.run history).queue.entries) :
    (start.run history).queue.findReceipt (start.queue.receiptOf entry) = some entry := by
  have identity := (run_fixed ready.sound history).2.1
  have numbered := (ready.current.listed.formed entry mem).numbered
  simp [findReceipt, find, receiptOf, identity, numbered, lookup_key_mem ready.current.listed.distinct mem]

theorem found_issue (mem : entry ∈ (start.run history).queue.entries) (issued : entry.generation ≠ 0) :
    (start.run history).queue.findIssue (start.queue.tokenOf entry) = some entry := by
  have found := ready.found_receipt mem
  simp only [findReceipt, receiptOf] at found
  simp [findIssue, tokenOf, found, issued]

theorem on_entry {permits : Entry → Bool} {change : Entry → Entry} (permitted : permits entry = true) :
    (start.run history).queue.onEntry caller (some entry) permits change =
      ((start.run history).queue.modifyEntry entry.sequence change, true) := by
  have executing : (start.run history).queue.isExecutor caller = true := by simp [isExecutor, ready.executing]
  simp [onEntry, executing, permitted]

end Ready

theorem idle_executor (none : system.releases = []) (thread : Nat) : system.isBusy thread = false := by
  simp [isBusy, none, lookupKey]

variable {start : System} (ready : Ready start caller history)
include ready

theorem drain_acknowledge (focus : Focus base entry [] (start.run history)) (stopped : entry.isPhysicallyStopped = true)
    (idle : entry.isReleasingPayload = false) : Drains start caller history (Gone base entry.sequence) := by
  have mem := focus.member
  have listed := ready.current.listed
  have formed := listed.formed entry mem
  have unread : entry.isAcknowledged = false := by
    have kept := listed.kept entry mem
    simpa [isCollectable, stopped, idle] using kept
  have returned := formed.stopped stopped
  have replied := formed.replied (by simp [returned]) (by simp [returned])
  have settled := listed.settled mem (fun entry => { entry with isAcknowledged := true }) (fun _ => rfl)
  rw [if_pos (by simp [isCollectable, stopped, idle])] at settled
  have performed : (start.run history).queue.perform caller (.acknowledgeResult (start.queue.receiptOf entry)) =
      ({ (start.run history).queue with
          entries := strike sequence entry.sequence (start.run history).queue.entries }, .flag true) := by
    have unanswered : entry.reply.isNone = false := by
      rw [← Option.not_isSome, replied]
      rfl
    simp only [perform, acknowledgeResult, ready.found_receipt mem, unanswered, unread, settled, Bool.or_self]
    rfl
  have stepped := ready.call_step (idle_executor focus.releases caller.thread) _ performed
  have named := all_named ready.sound ready.empty history entry mem
  refine drains_step (.call caller (.acknowledgeResult (start.queue.receiptOf entry)))
    (by simp [Event.drains, Call.retires]) ?_ (drains_done ?_)
  · intro capability presents
    cases presents
    exact named.result
  · rw [run_snoc, next, stepped]
    exact focus.struck (start.run history).queue.parameterBytes rfl focus.releases

theorem drain_finish {bytes : Nat}
    (focus : Focus base entry [{ thread := caller.thread, sequence := entry.sequence, moved := some bytes }]
      (start.run history)) (stopped : entry.isPhysicallyStopped = true) :
    Drains start caller history (Gone base entry.sequence) := by
  have mem := focus.member
  have settled := finish_release_settled ready.current.listed mem bytes
  have stepped : (start.run history).next (.finishRelease caller.thread) =
      { start.run history with
        queue := (start.run history).queue.finishRelease entry.sequence bytes
        releases := [] } := by
    simp [next, step, focus.releases, lookupKey, strike]
  refine drains_step (.finishRelease caller.thread) (by simp [Event.drains]) (fun _ presents => by cases presents) ?_
  have reached := (run_snoc start history (.finishRelease caller.thread)).trans stepped
  by_cases gone : isCollectable { entry with isReleasingPayload := false } = true
  · rw [if_pos gone] at settled
    refine drains_done ?_
    rw [reached, settled]
    exact focus.struck _ rfl rfl
  · rw [if_neg gone] at settled
    rw [settled] at reached
    have later : Ready start caller (history ++ [.finishRelease caller.thread]) := ready.later (by rw [reached]; rfl)
    have next : Focus base { entry with isReleasingPayload := false } []
        (start.run (history ++ [.finishRelease caller.thread])) :=
      focus.changed (fun entry => { entry with isReleasingPayload := false }) rfl
        ((start.run history).queue.parameterBytes - bytes) (by rw [reached]) (by rw [reached])
    have finished := drain_acknowledge later next stopped rfl
    exact finished

theorem drain_move (focus : Focus base entry [{ thread := caller.thread, sequence := entry.sequence }]
    (start.run history))
    (stopped : entry.isPhysicallyStopped = true) : Drains start caller history (Gone base entry.sequence) := by
  have mem := focus.member
  have found := lookup_key_mem ready.current.listed.distinct mem
  have stepped : (start.run history).next (.movePayload caller.thread) =
      { start.run history with
        queue := (start.run history).queue.modifyEntry entry.sequence (fun entry => { entry with payload := none })
        releases := [{ thread := caller.thread, sequence := entry.sequence, moved := some entry.payloadBytes }] } := by
    have first : lookupKey Release.thread caller.thread (start.run history).releases =
        some { thread := caller.thread, sequence := entry.sequence } := by simp [focus.releases, lookupKey]
    simp only [next, step, first, movePayload, found]
    simp [focus.releases, amend, payloadBytes]
  refine drains_step (.movePayload caller.thread) (by simp [Event.drains]) (fun _ presents => by cases presents) ?_
  have reached := (run_snoc start history (.movePayload caller.thread)).trans stepped
  have later : Ready start caller (history ++ [.movePayload caller.thread]) := ready.later (by rw [reached]; rfl)
  have next : Focus base { entry with payload := none }
      [{ thread := caller.thread, sequence := entry.sequence, moved := some entry.payloadBytes }]
      (start.run (history ++ [.movePayload caller.thread])) :=
    focus.changed (fun entry => { entry with payload := none }) rfl (start.run history).queue.parameterBytes
      (by rw [reached]; rfl) (by rw [reached])
  have finished := drain_finish later next stopped
  exact finished

section Called
variable (focus : Focus base entry [] (start.run history)) (call : Call) (change : Entry → Entry)
  (keyed : (change entry).sequence = entry.sequence) (retires : call.retires = true)
  {capability : Capability} (presents : call.capability = some capability) (granted : start.Granted history capability)

include focus keyed retires presents granted

theorem drain_called {goal : System → Prop} (outcome : Outcome)
    (performed : (start.run history).queue.perform caller call =
      ((start.run history).queue.modifyEntry entry.sequence change, outcome))
    (continues : Ready start caller (history ++ [.call caller call]) →
      Focus base (change entry) ((start.run history).begun caller.thread call outcome)
        (start.run (history ++ [.call caller call])) →
      Drains start caller (history ++ [.call caller call]) goal) : Drains start caller history goal := by
  have stepped := ready.call_step (idle_executor focus.releases caller.thread) call performed
  refine drains_step (.call caller call) (by simp [Event.drains, retires])
    (fun _ shown => Option.some.inj (presents.symm.trans shown) ▸ granted) ?_
  have reached := (run_snoc start history (.call caller call)).trans (congrArg Prod.fst stepped)
  refine continues (ready.later (by rw [reached]; rfl)) ?_
  exact focus.changed change keyed (start.run history).queue.parameterBytes (by rw [reached]; rfl) (by rw [reached])

theorem drain_retired (releases : call.releases = some entry.sequence)
    (performed : (start.run history).queue.perform caller call =
      ((start.run history).queue.modifyEntry entry.sequence change, .flag true))
    (stopped : (change entry).isPhysicallyStopped = true) : Drains start caller history (Gone base entry.sequence) := by
  refine drain_called ready focus call change keyed retires presents granted _ performed fun later next => ?_
  simp only [begun, releases, focus.releases, ← keyed] at next ⊢
  exact drain_move later next stopped

end Called

theorem resting (none : (start.run history).releases = []) {other : Entry}
    (mem : other ∈ (start.run history).queue.entries) : other.isReleasingPayload = false := by
  cases releasing : other.isReleasingPayload with
  | false => rfl
  | true =>
    obtain ⟨release, pending, _⟩ := ready.current.pending.releasing other mem releasing
    rw [none] at pending
    cases pending

variable (focus : Focus base entry [] (start.run history))
include focus

theorem drain_returned (returned : entry.phase = .hostReturned) :
    Drains start caller history (Gone base entry.sequence) := by
  have mem := focus.member
  have formed := ready.current.listed.formed entry mem
  cases stopped : entry.isPhysicallyStopped with
  | true => exact drain_acknowledge ready focus stopped (resting ready focus.releases mem)
  | false =>
    have issued := formed.issued (by simp [returned]) stopped
    have named := all_named ready.sound ready.empty history entry mem
    refine drain_retired ready focus (.completeAfterPhysicalStop (start.queue.tokenOf entry)) retired rfl rfl rfl
      (named.token issued) rfl ?_ rfl
    simp only [perform, completeAfterPhysicalStop, ready.found_issue mem issued]
    rw [ready.on_entry (by simp [returned, stopped])]
    rfl

theorem drain_resuming (resuming : entry.phase = .resuming) : Drains start caller history (Gone base entry.sequence) := by
  have mem := focus.member
  have formed := ready.current.listed.formed entry mem
  have issued := formed.issued (by simp [resuming]) (formed.unstopped (by simp [resuming]))
  have named := all_named ready.sound ready.empty history entry mem
  refine drain_called ready focus (.finishContinuationIssue (start.queue.tokenOf entry))
    (fun entry => { entry with phase := .hostReturned }) rfl rfl rfl (named.token issued) (.flag true) ?_ ?_
  · simp only [perform, finishContinuationIssue, ready.found_issue mem issued]
    rw [ready.on_entry (by simp [resuming])]
    rfl
  · intro later next
    simp only [begun, Call.releases, focus.releases] at next
    have finished := drain_returned later next rfl
    exact finished

theorem drain_unpaused (unpaused : entry.phase ≠ .paused) : Drains start caller history (Gone base entry.sequence) := by
  have mem := focus.member
  have formed := ready.current.listed.formed entry mem
  have named := all_named ready.sound ready.empty history entry mem
  cases phase : entry.phase with
  | queued =>
    refine drain_retired ready focus (.rejectUnissued (start.queue.receiptOf entry) 1)
      (fun entry => retired (returned 1 .rejectedBeforeIssue entry)) rfl rfl rfl named.command rfl ?_ rfl
    simp only [perform, rejectUnissued, ready.found_receipt mem]
    rw [ready.on_entry (by simp [phase])]
    rfl
  | issuing =>
    have issued : entry.generation ≠ 0 := by simp [(formed.issuing phase).1]
    refine drain_retired ready focus (.rejectBeforeNativeIssue (start.queue.tokenOf entry) 1)
      (fun entry => retired (returned 1 .rejectedBeforeIssue entry)) rfl rfl rfl (named.token issued) rfl ?_ rfl
    simp only [perform, rejectBeforeNativeIssue, ready.found_issue mem issued]
    rw [ready.on_entry (by simp [phase])]
    rfl
  | hostReturned => exact drain_returned ready focus phase
  | paused => exact absurd phase unpaused
  | resuming => exact drain_resuming ready focus phase

theorem drain_paused (paused : entry.phase = .paused)
    (healthy : (start.run history).queue.isQuarantined = false) (idle : (start.run history).queue.isIssuing = false)
    (counted : entry.generation ≠ maxCounter) : Drains start caller history (Gone base entry.sequence) := by
  have mem := focus.member
  have formed := ready.current.listed.formed entry mem
  have issued := formed.issued (by simp [paused]) (formed.unstopped (by simp [paused]))
  have named := all_named ready.sound ready.empty history entry mem
  have executing : (start.run history).queue.isExecutor caller = true := by simp [isExecutor, ready.executing]
  refine drain_called ready focus (.resumeAfterPhysicalStop (start.queue.tokenOf entry)) resumeEntry rfl rfl rfl
    (named.token issued) (.issue (some ((start.run history).queue.issue (resumeEntry entry)))) ?_ ?_
  · simp only [perform, resumeAfterPhysicalStop, ready.found_issue mem issued]
    simp [executing, healthy, paused, idle, counted]
  · intro later next
    simp only [begun, Call.releases, focus.releases] at next
    have finished := drain_resuming later next rfl
    exact finished

end Glimmer.Backend
