import Glimmer.Backend.SubmissionAccounting

namespace Glimmer.Backend

open Lib Queue Glimmer.Backend.System

-- What a caller presents: the receipt of a command, the receipt of its reply, or the token of an issue.
inductive Capability where
  | command (receipt : ExecutionReceipt)
  | result (receipt : ExecutionReceipt)
  | token (token : ExecutionIssueToken)

def Call.capability : Call → Option Capability
  | .takeNext (some receipt) | .limitUnissuedParameters receipt _ | .copyUnissuedParameters receipt _
  | .replaceUnissuedParameters receipt _ | .rejectUnissued receipt _ => some (.command receipt)
  | .hostResult receipt | .acknowledgeResult receipt => some (.result receipt)
  | .patchIssueParameters token _ _ | .publishHostResult token _ | .publishPreparationFailure token _
  | .failUncertainIssue token _ | .rejectBeforeNativeIssue token _ | .completeAfterPhysicalStop token
  | .pauseAfterPhysicalStop token | .resumeAfterPhysicalStop token | .finishContinuationIssue token => some (.token token)
  | _ => none

-- The queue's own, for a command that is not retired, in its current generation, or a reply not acknowledged.
def Queue.Honours (queue : Queue) : Capability → Prop
  | .command receipt => receipt.owner = some queue.identity ∧
      ∃ entry ∈ queue.entries, entry.sequence = receipt.sequence ∧ entry.isPhysicallyStopped = false
  | .result receipt => receipt.owner = some queue.identity ∧
      ∃ entry ∈ queue.entries, entry.sequence = receipt.sequence ∧ entry.isAcknowledged = false
  | .token token => token.owner = some queue.identity ∧
      ∃ entry ∈ queue.entries, entry.sequence = token.sequence ∧ entry.generation = token.generation ∧
        entry.isPhysicallyStopped = false

def Outcome.isFailure : Outcome → Bool
  | .flag succeeded => !succeeded
  | .issue issued => issued.isNone
  | .parameters copied => copied.isNone
  | .reply result => result.isNone
  | .none => true
  | _ => false

variable {call : Call}

section Refusals
variable {queue : Queue} {caller : Caller}

theorem on_entry_refused {found : Option Entry} {permits : Entry → Bool} {change : Entry → Entry}
    (refuses : ∀ entry, found = some entry → permits entry = false) :
    queue.onEntry caller found permits change = (queue, false) := by
  rcases @on_entry_cases queue caller found permits change with failed | ⟨entry, here, _, permitted, _⟩
  · exact failed
  · exact absurd ((refuses entry here).symm.trans permitted) (by simp)

theorem command_refused (listed : queue.Listed) {receipt : ExecutionReceipt}
    (presents : call.capability = some (.command receipt)) (dead : ¬ queue.Honours (.command receipt)) :
    ∃ outcome : Outcome, outcome.isFailure = true ∧ queue.perform caller call = (queue, outcome) := by
  have retired : ∀ entry, queue.findReceipt receipt = some entry → entry.phase = .hostReturned := by
    intro entry found
    obtain ⟨owned, _, mem, same⟩ := find_some found
    cases stopped : entry.isPhysicallyStopped with
    | true => exact (listed.formed entry mem).stopped stopped
    | false => exact absurd ⟨owned, entry, mem, same, stopped⟩ dead
  have unprepared : ∀ entry, queue.findReceipt receipt = some entry → queue.isPreparable entry = false := by
    intro entry found
    simp [isPreparable, retired entry found]
  cases call with
  | takeNext chosen =>
    cases chosen with
    | none => cases presents
    | some chosen =>
      cases presents
      refine ⟨.issue none, rfl, ?_⟩
      have none : queue.entries.find? (queue.selectable (some receipt)) = none := by
        refine List.find?_eq_none.mpr (fun entry _ selected => ?_)
        simp only [selectable, Bool.and_eq_true, beq_iff_eq] at selected
        cases selected.1.symm.trans (retired entry selected.2)
      simp [perform, takeNext, none]
  | copyUnissuedParameters chosen size =>
    cases presents
    refine ⟨.parameters none, rfl, ?_⟩
    simp only [perform, copyUnissuedParameters]
    split
    · rfl
    · next entry found => simp [unprepared entry found]
  | limitUnissuedParameters | replaceUnissuedParameters | rejectUnissued =>
    cases presents
    refine ⟨.flag false, rfl, ?_⟩
    simp only [perform, limitUnissuedParameters, replaceUnissuedParameters, rejectUnissued]
    rw [on_entry_refused (fun entry found => by simp [unprepared entry found, retired entry found])]
    first | rfl | split <;> rfl
  | _ => cases presents

theorem result_refused {receipt : ExecutionReceipt} (presents : call.capability = some (.result receipt))
    (dead : ¬ queue.Honours (.result receipt)) :
    ∃ outcome : Outcome, outcome.isFailure = true ∧ queue.perform caller call = (queue, outcome) := by
  have spent : ∀ entry, queue.findReceipt receipt = some entry → entry.isAcknowledged = true := by
    intro entry found
    obtain ⟨owned, _, mem, same⟩ := find_some found
    cases acknowledged : entry.isAcknowledged with
    | true => rfl
    | false => exact absurd ⟨owned, entry, mem, same, acknowledged⟩ dead
  cases call with
  | takeNext chosen => cases chosen <;> cases presents
  | hostResult chosen =>
    cases presents
    refine ⟨.reply none, rfl, ?_⟩
    simp only [perform, hostResult]
    split
    · rfl
    · next entry found => simp [spent entry found]
  | acknowledgeResult chosen =>
    cases presents
    refine ⟨.flag false, rfl, ?_⟩
    simp only [perform, acknowledgeResult]
    split
    · rfl
    · next entry found => simp [spent entry found]
  | _ => cases presents

theorem token_refused (listed : queue.Listed) {token : ExecutionIssueToken}
    (presents : call.capability = some (.token token)) (dead : ¬ queue.Honours (.token token)) :
    ∃ outcome : Outcome, outcome.isFailure = true ∧ queue.perform caller call = (queue, outcome) := by
  have retired : ∀ entry, queue.findIssue token = some entry →
      entry.phase = .hostReturned ∧ entry.isPhysicallyStopped = true := by
    intro entry found
    obtain ⟨owned, mem, same, generation, _⟩ := find_issue_some found
    cases stopped : entry.isPhysicallyStopped with
    | true => exact ⟨(listed.formed entry mem).stopped stopped, rfl⟩
    | false => exact absurd ⟨owned, entry, mem, same, generation, stopped⟩ dead
  cases call with
  | takeNext chosen => cases chosen <;> cases presents
  | patchIssueParameters | publishHostResult | publishPreparationFailure | failUncertainIssue
  | rejectBeforeNativeIssue | completeAfterPhysicalStop | pauseAfterPhysicalStop | finishContinuationIssue =>
    cases presents
    refine ⟨.flag false, rfl, ?_⟩
    simp only [perform, patchIssueParameters, publishHostResult, publishPreparationFailure, failUncertainIssue,
      rejectBeforeNativeIssue, completeAfterPhysicalStop, pauseAfterPhysicalStop, finishContinuationIssue]
    rw [on_entry_refused (fun entry found => by simp [Entry.isIssuing, retired entry found])]
    first | rfl | split <;> rfl
  | resumeAfterPhysicalStop presented =>
    cases presents
    refine ⟨.issue none, rfl, ?_⟩
    simp only [perform, resumeAfterPhysicalStop]
    split
    · rfl
    · next entry found => simp [(retired entry found).1]
  | _ => cases presents

end Refusals

variable {system : System} {event : Event}

theorem dead_capability_refused (sound : system.Sound) (caller : Caller)
    {capability : Capability} (presents : call.capability = some capability) (dead : ¬ system.queue.Honours capability) :
    ∃ outcome : Outcome, outcome.isFailure = true ∧ system.step (.call caller call) = (system, outcome) := by
  simp only [step]
  split
  · exact ⟨.none, rfl, rfl⟩
  simp only [performCall]
  split
  · refine ⟨call.wrongProcess, ?_, rfl⟩
    cases call <;> first | rfl | cases presents
  have refused : ∃ outcome : Outcome, outcome.isFailure = true ∧
      system.queue.perform caller call = (system.queue, outcome) := by
    cases capability with
    | command receipt => exact command_refused sound.listed presents dead
    | result receipt => exact result_refused presents dead
    | token token => exact token_refused sound.listed presents dead
  obtain ⟨outcome, failed, same⟩ := refused
  have unreleased : system.begun caller.thread call outcome = system.releases := by
    unfold begun
    split
    · rw [if_neg (fun succeeded => absurd failed (by simp [succeeded, Outcome.isFailure]))]
    · rfl
  have unallocated : system.allocated call outcome = system.storages := by
    unfold allocated
    split
    · rw [if_neg (fun succeeded => absurd failed (by simp [succeeded, Outcome.isFailure]))]
    · rfl
  exact ⟨outcome, failed, by rw [same]; simp only [unreleased, unallocated]⟩

theorem call_answer (system : System) (caller : Caller) (call : Call) :
    system.step (.call caller call) = (system, .none) ∨ system.step (.call caller call) = (system, call.wrongProcess) ∨
      system.step (.call caller call) =
        ({ system with
            queue := (system.queue.perform caller call).1
            releases := system.begun caller.thread call (system.queue.perform caller call).2
            storages := system.allocated call (system.queue.perform caller call).2 },
          (system.queue.perform caller call).2) := by
  simp only [step]
  split
  · exact .inl rfl
  simp only [performCall]
  split
  · exact .inr (.inl rfl)
  · exact .inr (.inr rfl)

theorem answered_call (answered : (system.step event).2 ≠ .none) : ∃ caller call, event = .call caller call := by
  cases event with
  | call caller call => exact ⟨caller, call, rfl⟩
  | _ =>
    refine absurd ?_ answered
    simp only [step]
    split <;> rfl

theorem issue_step {issued : ExecutionIssue} (answered : (system.step event).2 = .issue (some issued)) :
    ∃ entry ∈ system.queue.entries, ∃ change : Entry → Entry,
      (system.next event).queue.entries = amend Entry.sequence entry.sequence change system.queue.entries ∧
      issued = system.queue.issue (change entry) ∧
      ((∃ caller receipt, event = .call caller (.takeNext receipt) ∧ entry.phase = .queued ∧
          change = issueEntry) ∨
        ∃ caller token, event = .call caller (.resumeAfterPhysicalStop token) ∧ entry.sequence = token.sequence ∧
          entry.generation = token.generation ∧ entry.generation ≠ 0 ∧ change = resumeEntry) := by
  have called : (system.step event).2 ≠ .none := by simp [answered]
  obtain ⟨caller, call, rfl⟩ := answered_call called
  rcases call_answer system caller call with same | same | performed
  · rw [same] at answered
    cases answered
  · rw [same] at answered
    cases call <;> cases answered
  rw [performed] at answered
  simp only [next, performed]
  cases call with
  | takeNext receipt =>
    rcases take_next_cases system.queue caller receipt with same | ⟨entry, mem, queued, _, _, taken⟩
    · simp [perform, same] at answered
    · simp only [perform, taken, Prod.map, id, Outcome.issue.injEq, Option.some.injEq] at answered ⊢
      exact ⟨entry, mem, _, rfl, answered.symm, .inl ⟨caller, receipt, rfl, queued, rfl⟩⟩
  | resumeAfterPhysicalStop token =>
    rcases resume_cases system.queue caller token with same | same | ⟨entry, found, _, _, _, _, resumed⟩
    · simp [perform, same] at answered
    · simp [perform, same] at answered
    · obtain ⟨_, mem, same, generation, issued⟩ := find_issue_some found
      simp only [perform, resumed, Prod.map, id, Outcome.issue.injEq, Option.some.injEq] at answered ⊢
      exact ⟨entry, mem, _, rfl, answered.symm, .inr ⟨caller, token, rfl, same, generation, issued, rfl⟩⟩
  | _ => simp [perform, acceptance] at answered

open Entry

section Fates
variable {system next : System} {event : Event} {queue : Queue} {entry old : Entry}

section
variable (listed : queue.Listed) (change : Entry → Entry) (mem : entry ∈ queue.entries) (keyed : Keyed change)
  (holding : (change entry).payload.isSome = entry.payload.isSome) (there : old ∈ queue.entries)
include listed mem keyed holding there

theorem amended_stays :
    ∃ after ∈ amend sequence entry.sequence change queue.entries,
      after.sequence = old.sequence ∧ after.payload.isSome = old.payload.isSome := by
  by_cases here : old.sequence = entry.sequence
  · rw [listed.same_entry there mem here]
    exact ⟨change entry, mem_amend_hit mem rfl, keyed entry, holding⟩
  · exact ⟨old, mem_amend_other there here, rfl, rfl⟩

theorem settled_stays :
    (isCollectable (change entry) = true ∧ old = entry) ∨
      ∃ after ∈ ((queue.modifyEntry entry.sequence change).collect entry.sequence).entries,
        after.sequence = old.sequence ∧ after.payload.isSome = old.payload.isSome := by
  rw [listed.settled mem change keyed]
  split
  · next gone =>
    by_cases here : old.sequence = entry.sequence
    · exact .inl ⟨gone, listed.same_entry there mem here⟩
    · exact .inr ⟨old, strike_mem.mpr ⟨there, here⟩, rfl, rfl⟩
  · exact .inr (amended_stays listed change mem keyed holding there)

end

theorem finish_release_settled (listed : queue.Listed) (mem : entry ∈ queue.entries) (bytes : Nat) :
    queue.finishRelease entry.sequence bytes =
      if isCollectable { entry with isReleasingPayload := false } then
        { queue with
          entries := strike sequence entry.sequence queue.entries
          parameterBytes := queue.parameterBytes - bytes }
      else
        { queue.modifyEntry entry.sequence (fun entry => { entry with isReleasingPayload := false }) with
          parameterBytes := queue.parameterBytes - bytes } := by
  have charged : Queue.Listed { queue with parameterBytes := queue.parameterBytes - bytes } :=
    { listed with }
  rw [Queue.finishRelease, charged.settled mem (fun entry => { entry with isReleasingPayload := false }) (fun _ => rfl)]
  rfl

-- What one event can do to a command: keep it with its payload, move its payload out, or remove it.
inductive Fate (system : System) (event : Event) (next : System) (old : Entry) : Prop
  | stays (after : Entry) (there : after ∈ next.queue.entries) (same : after.sequence = old.sequence)
      (holding : after.payload.isSome = old.payload.isSome)
  | moved (after : Entry) (there : after ∈ next.queue.entries) (same : after.sequence = old.sequence)
      (release : Release) (called : event = .movePayload release.thread) (pending : release ∈ system.releases)
      (released : release.sequence = old.sequence)
  | acknowledged (caller : Caller) (receipt : ExecutionReceipt)
    (called : event = .call caller (.acknowledgeResult receipt))
      (same : receipt.sequence = old.sequence) (stopped : old.isPhysicallyStopped = true)
      (idle : old.isReleasingPayload = false) (empty : old.payload = none)
  | finished (release : Release) (bytes : Nat) (called : event = .finishRelease release.thread)
      (innermost : lookupKey Release.thread release.thread system.releases = some release)
      (moved : release.moved = some bytes) (released : release.sequence = old.sequence)
      (stopped : old.isPhysicallyStopped = true) (acknowledged : old.isAcknowledged = true) (empty : old.payload = none)

theorem stepped_fate (sound : system.Sound) (stepped : Stepped system event next)
    (there : old ∈ system.queue.entries) : Fate system event next old := by
  cases stepped with
  | appended => exact .stays old (List.mem_append.mpr (.inl there)) rfl rfl
  | advanced entry change closing quarantined mem keyed advance =>
    obtain ⟨after, listed, same, holding⟩ :=
      amended_stays sound.listed change mem keyed (advance_payload advance).2.1 there
    exact .stays after listed same holding
  | retired entry change caller call called releases mem keyed retire =>
    have holding : (change entry).payload.isSome = entry.payload.isSome := by rw [(retire_payload retire).1]
    obtain ⟨after, listed, same, holding⟩ := amended_stays sound.listed change mem keyed holding there
    exact .stays after listed same holding
  | acknowledged entry caller receipt called named mem =>
    rcases settled_stays sound.listed (fun entry => { entry with isAcknowledged := true }) mem (fun _ => rfl) rfl
      there with ⟨gone, rfl⟩ | ⟨after, kept, same, holding⟩
    · simp only [isCollectable, Bool.and_eq_true, Bool.not_eq_true'] at gone
      exact .acknowledged caller receipt called named gone.1.2 gone.2
        ((sound.listed.formed old there).released gone.1.2 gone.2)
    · exact .stays after kept same holding
  | moved release called innermost =>
    have pending := (lookup_key_some innermost).1
    obtain ⟨entry, mem, backs⟩ := sound.pending.backed release pending
    have found := lookup_key_mem sound.listed.distinct mem
    have shape : (system.queue.movePayload release.sequence).1.entries =
        amend sequence entry.sequence (fun entry => { entry with payload := none }) system.queue.entries := by
      simp only [Queue.movePayload, ← backs.1, found]
      rfl
    by_cases here : old.sequence = entry.sequence
    · obtain rfl := sound.listed.same_entry there mem here
      refine .moved { old with payload := none } ?_ rfl release called pending backs.1.symm
      rw [shape]
      exact mem_amend_hit there rfl
    · refine .stays old ?_ rfl rfl
      rw [shape]
      exact mem_amend_other there here
  | finished release bytes called innermost moved =>
    obtain ⟨entry, mem, backs⟩ := sound.pending.backed release (lookup_key_some innermost).1
    have charged : Queue.Listed { system.queue with parameterBytes := system.queue.parameterBytes - bytes } :=
      { sound.listed with }
    rcases settled_stays charged (fun entry => { entry with isReleasingPayload := false }) mem (fun _ => rfl) rfl
      there with ⟨gone, rfl⟩ | ⟨after, kept, same, holding⟩
    · simp only [isCollectable, Bool.and_eq_true, Bool.not_eq_true'] at gone
      exact .finished release bytes called innermost moved backs.1.symm gone.1.2 gone.1.1
        (by simpa [moved] using backs.2.2)
    · rw [backs.1] at kept
      exact .stays after kept same holding
  | _ => exact .stays old there rfl rfl

theorem release_step {system : System} (event : Event) :
    ∀ release ∈ (system.next event).releases, (∃ old ∈ system.releases, old.sequence = release.sequence) ∨
      ∃ caller call, event = .call caller call ∧ call.releases = some release.sequence ∧
        (system.step event).2 = .flag true := by
  intro release there
  cases event with
  | call caller call =>
    unfold next at there
    rcases call_answer system caller call with same | same | performed
    · rw [same] at there
      exact .inl ⟨release, there, rfl⟩
    · rw [same] at there
      exact .inl ⟨release, there, rfl⟩
    rw [performed] at there ⊢
    simp only [begun] at there
    split at there
    · next sequence releases =>
      split at there
      · next succeeded =>
        rcases List.mem_cons.mp there with rfl | old
        · exact .inr ⟨caller, call, rfl, releases, succeeded⟩
        · exact .inl ⟨release, old, rfl⟩
      · exact .inl ⟨release, there, rfl⟩
    · exact .inl ⟨release, there, rfl⟩
  | movePayload thread =>
    refine .inl ?_
    simp only [next, step] at there
    split at there
    · rcases amend_mem there with ⟨old, _⟩ | ⟨old, listed, _, rfl⟩
      · exact ⟨release, old, rfl⟩
      · exact ⟨old, listed, rfl⟩
    · exact ⟨release, there, rfl⟩
  | finishRelease thread =>
    refine .inl ?_
    simp only [next, step] at there
    split at there
    · exact ⟨release, (strike_mem.mp there).1, rfl⟩
    · exact ⟨release, there, rfl⟩
  | dropStorage index | exitThread thread =>
    refine .inl ?_
    simp only [next, step] at there
    split at there <;> exact ⟨release, there, rfl⟩

def Acknowledges (system : System) (event : Event) (sequence : Nat) : Prop :=
  ∃ caller receipt, event = .call caller (.acknowledgeResult receipt) ∧ receipt.sequence = sequence ∧
    (system.step event).2 = .flag true

def Finishes (system : System) (event : Event) (sequence : Nat) : Prop :=
  ∃ thread bytes, event = .finishRelease thread ∧ lookupKey Release.thread thread system.releases =
      some { thread := thread, sequence := sequence, moved := some bytes }

theorem acknowledge_step {system : System} {caller : Caller} {receipt : ExecutionReceipt} :
    (system.next (.call caller (.acknowledgeResult receipt)) = system ∧
        (system.step (.call caller (.acknowledgeResult receipt))).2 ≠ .flag true) ∨
      ((system.step (.call caller (.acknowledgeResult receipt))).2 = .flag true ∧
        ∃ entry ∈ system.queue.entries, entry.sequence = receipt.sequence ∧
          (system.next (.call caller (.acknowledgeResult receipt))).queue =
            (system.queue.modifyEntry entry.sequence (fun entry => { entry with isAcknowledged := true })).collect
              entry.sequence) := by
  rcases call_answer system caller (.acknowledgeResult receipt) with same | same | performed
  · exact .inl ⟨congrArg Prod.fst same, by rw [same]; simp⟩
  · exact .inl ⟨congrArg Prod.fst same, by rw [same]; simp [Call.wrongProcess]⟩
  simp only [next, performed, Queue.perform]
  rcases acknowledge_cases system.queue receipt with same | ⟨entry, found, _, _, acknowledged⟩
  · simp only [same, Prod.map, id]
    exact .inl ⟨rfl, by simp⟩
  · obtain ⟨mem, named⟩ := receipt_listed entry found
    simp only [acknowledged, Prod.map, id]
    exact .inr ⟨trivial, entry, mem, named, rfl⟩

theorem leaves_iff (sound : system.Sound) (event : Event) (there : old ∈ system.queue.entries) :
    (∀ after ∈ (system.next event).queue.entries, after.sequence ≠ old.sequence) ↔
      old.isPhysicallyStopped = true ∧
        ((old.isReleasingPayload = false ∧ Acknowledges system event old.sequence) ∨
          (old.isAcknowledged = true ∧ Finishes system event old.sequence)) := by
  constructor
  · intro gone
    cases stepped_fate sound (step_stepped event sound.sized) there with
    | stays after listed same | moved after listed same => exact absurd same (gone after listed)
    | acknowledged caller receipt called named stopped idle =>
      refine ⟨stopped, .inl ⟨idle, caller, receipt, called, named, ?_⟩⟩
      subst called
      rcases @acknowledge_step system caller receipt with ⟨same, _⟩ | ⟨answered, _⟩
      · rw [same] at gone
        exact absurd rfl (gone old there)
      · exact answered
    | finished release bytes called innermost moved released stopped acknowledged =>
      obtain ⟨thread, sequence, _⟩ := release
      cases moved
      cases released
      exact ⟨stopped, .inr ⟨acknowledged, thread, bytes, called, innermost⟩⟩
  · rintro ⟨stopped, ⟨idle, caller, receipt, rfl, named, answered⟩ | ⟨acknowledged, thread, bytes, rfl, innermost⟩⟩
    · rcases @acknowledge_step system caller receipt with ⟨_, refused⟩ | ⟨_, entry, mem, found, shape⟩
      · exact absurd answered refused
      · obtain rfl := sound.listed.same_entry there mem (named.symm.trans found.symm)
        have settled := sound.listed.settled there (fun entry => { entry with isAcknowledged := true }) (fun _ => rfl)
        rw [if_pos (by simp [isCollectable, stopped, idle])] at settled
        rw [shape, settled]
        exact fun after listed => (strike_mem.mp listed).2
    · have shape := finish_release_settled sound.listed there bytes
      rw [if_pos (by simp [isCollectable, stopped, acknowledged])] at shape
      simp only [next, step, innermost, shape]
      exact fun after listed => (strike_mem.mp listed).2

end Fates

namespace System

def ReleasesAt (start : System) (events : List Event) (time sequence : Nat) : Prop :=
  (∃ entry ∈ (start.before events time).queue.entries, entry.sequence = sequence ∧ entry.payload.isSome = true) ∧
    ∀ after ∈ (start.before events (time + 1)).queue.entries, after.sequence = sequence → after.payload = none

structure ExactlyOnce (start : System) (events : List Event) : Prop where
  taken : ∀ time caller receipt issued, events[time]? = some (.call caller (.takeNext receipt)) →
    start.outcomeAt events time = some (.issue (some issued)) → issued.token.generation = 1
  resumed : ∀ time caller token issued, events[time]? = some (.call caller (.resumeAfterPhysicalStop token)) →
    start.outcomeAt events time = some (.issue (some issued)) →
    issued.token.sequence = token.sequence ∧ 1 ≤ token.generation ∧ token.generation < issued.token.generation
  issued : ∀ earlier later first second, earlier < later → start.outcomeAt events earlier = some (.issue (some first)) →
    start.outcomeAt events later = some (.issue (some second)) →
    first.token.sequence = second.token.sequence → first.token.generation < second.token.generation
  refused : ∀ time caller call capability, Call.capability call = some capability →
    ¬ (start.before events time).queue.Honours capability →
    ∃ outcome : Outcome, outcome.isFailure = true ∧
      (start.before events time).step (.call caller call) = (start.before events time, outcome)
  replied : ∀ earlier later, earlier ≤ later → ∀ old ∈ (start.before events earlier).queue.entries,
    ∀ new ∈ (start.before events later).queue.entries, new.sequence = old.sequence →
      ∀ reply, old.reply = some reply → new.reply = some reply
  releasedOnce : ∀ earlier later sequence, start.ReleasesAt events earlier sequence →
    start.ReleasesAt events later sequence → earlier = later
  releasedBy : ∀ time sequence, start.ReleasesAt events time sequence →
    ∃ began < time, ∃ caller call, events[began]? = some (.call caller call) ∧ Call.releases call = some sequence ∧
      start.outcomeAt events began = some (.flag true)
  leaves : ∀ time event, events[time]? = some event → ∀ old ∈ (start.before events time).queue.entries,
    ((∀ after ∈ (start.before events (time + 1)).queue.entries, after.sequence ≠ old.sequence) ↔
      old.isPhysicallyStopped = true ∧
        ((old.isReleasingPayload = false ∧ Acknowledges (start.before events time) event old.sequence) ∨
          (old.isAcknowledged = true ∧ Finishes (start.before events time) event old.sequence)))
  stays : ∀ time, ∀ entry ∈ (start.before events time).queue.entries,
    ¬ (entry.isAcknowledged = true ∧ entry.isPhysicallyStopped = true ∧ entry.isReleasingPayload = false)

end System

section Once
variable {start : System} {events : List Event} {time : Nat}

theorem outcome_at {outcome : Outcome} (answered : start.outcomeAt events time = some outcome) :
    ∃ event, events[time]? = some event ∧ ((start.before events time).step event).2 = outcome :=
  Option.map_eq_some_iff.mp answered

theorem issue_generation (sound : start.Sound) {issued : ExecutionIssue}
    (answered : start.outcomeAt events time = some (.issue (some issued))) :
    (∃ old ∈ (start.before events time).queue.entries, old.sequence = issued.token.sequence ∧
      old.generation < issued.token.generation) ∧
    ∃ new ∈ (start.before events (time + 1)).queue.entries, new.sequence = issued.token.sequence ∧
      new.generation = issued.token.generation := by
  obtain ⟨event, here, outcome⟩ := outcome_at answered
  obtain ⟨entry, mem, change, shape, rfl, kind⟩ := issue_step outcome
  rw [before_succ here, shape]
  have formed := (before_sound sound time).listed.formed entry mem
  rcases kind with ⟨_, _, _, queued, rfl⟩ | ⟨_, _, _, _, _, _, rfl⟩
  · refine ⟨⟨entry, mem, rfl, ?_⟩, Queue.issueEntry entry, mem_amend_hit mem rfl, rfl, rfl⟩
    rw [(formed.queued queued).1]
    exact Nat.zero_lt_one
  · exact ⟨⟨entry, mem, rfl, Nat.lt_succ_self _⟩, Queue.resumeEntry entry, mem_amend_hit mem rfl, rfl, rfl⟩

theorem release_origin (idle : start.releases = []) (time : Nat) :
    ∀ release ∈ (start.before events time).releases, ∃ began < time, ∃ caller call,
      events[began]? = some (.call caller call) ∧ Call.releases call = some release.sequence ∧
        start.outcomeAt events began = some (.flag true) := by
  induction time with
  | zero =>
    intro release there
    change release ∈ start.releases at there
    rw [idle] at there
    cases there
  | succ time ih =>
    intro release there
    cases here : events[time]? with
    | none =>
      rw [before_past here] at there
      obtain ⟨began, earlier, origin⟩ := ih release there
      exact ⟨began, Nat.lt_succ_of_lt earlier, origin⟩
    | some event =>
      rw [before_succ here] at there
      rcases release_step event release there with ⟨old, listed, same⟩ | ⟨caller, call, rfl, releases, answered⟩
      · obtain ⟨began, earlier, origin⟩ := ih old listed
        rw [same] at origin
        exact ⟨began, Nat.lt_succ_of_lt earlier, origin⟩
      · refine ⟨time, Nat.lt_succ_self time, caller, call, here, releases, ?_⟩
        simp [outcomeAt, here, Option.map_some, answered]

theorem releases_at_pending (sound : start.Sound) {sequence : Nat} (releases : start.ReleasesAt events time sequence) :
    ∃ release ∈ (start.before events time).releases, release.sequence = sequence := by
  obtain ⟨⟨old, there, rfl, held⟩, emptied⟩ := releases
  have current : (start.before events time).Sound := before_sound sound time
  cases here : events[time]? with
  | none =>
    rw [before_past here] at emptied
    rw [emptied old there rfl] at held
    cases held
  | some event =>
    rw [before_succ here] at emptied
    cases stepped_fate current (step_stepped event current.sized) there with
    | stays after listed same holding =>
      rw [emptied after listed same] at holding
      exact absurd (holding.trans held) (by simp)
    | moved after listed same release called pending released => exact ⟨release, pending, released⟩
    | acknowledged caller receipt called named stopped idle empty => exact absurd held (by simp [empty])
    | finished release bytes called innermost moved released stopped acknowledged empty =>
      exact absurd held (by simp [empty])

theorem releases_at_once (sound : start.Sound) {earlier later sequence : Nat} (ordered : earlier < later)
    (first : start.ReleasesAt events earlier sequence) : ¬ start.ReleasesAt events later sequence := by
  rintro ⟨⟨new, here, named, held⟩, _⟩
  obtain ⟨⟨old, there, rfl, _⟩, emptied⟩ := first
  obtain ⟨between, listed, evolved⟩ := traced sound there here named (Nat.le_succ earlier) ordered
  have empty := evolved.payload (emptied between listed (evolved.sequence.symm.trans named))
  rw [empty] at held
  cases held

end Once

theorem submission_queue_exactly_once {session : ExecutionSessionIdentity} {limits : ExecutionSubmissionLimits}
    {processId identity : Nat} {queue : Queue} (constructed : construct session limits processId identity = some queue)
    (events : List Event) : System.ExactlyOnce { queue := queue } events := by
  have sound := construct_sound constructed
  constructor
  · intro time caller receipt issued here answered
    obtain ⟨event, there, outcome⟩ := outcome_at answered
    obtain ⟨entry, mem, change, shape, rfl, kind⟩ := issue_step outcome
    rcases kind with ⟨_, _, _, _, rfl⟩ | ⟨_, _, resumes, _⟩
    · rfl
    · rw [here, resumes] at there
      cases there
  · intro time caller token issued here answered
    obtain ⟨event, there, outcome⟩ := outcome_at answered
    rw [here] at there
    cases there
    obtain ⟨entry, _, change, shape, rfl, kind⟩ := issue_step outcome
    rcases kind with ⟨_, _, takes, _⟩ | ⟨_, _, resumes, named, generation, issued, rfl⟩
    · cases takes
    cases resumes
    refine ⟨named, ?_, ?_⟩
    · rw [← generation]
      exact Nat.one_le_iff_ne_zero.mpr issued
    · rw [← generation]
      exact Nat.lt_succ_self _
  · intro earlier later first second ordered one two same
    obtain ⟨_, new, listed, named, generation⟩ := issue_generation sound one
    obtain ⟨⟨old, there, called, smaller⟩, _⟩ := issue_generation sound two
    have grown := (evolves sound listed there (called.trans (same.symm.trans named.symm)) ordered).generation
    rw [generation] at grown
    exact Nat.lt_of_le_of_lt grown smaller
  · exact fun time caller call capability presents dead =>
      dead_capability_refused (before_sound sound time) caller presents dead
  · exact fun earlier later ordered old there new here same => (evolves sound there here same ordered).reply
  · intro earlier later sequence first second
    rcases Nat.lt_trichotomy earlier later with before | same | after
    · exact absurd second (releases_at_once sound before first)
    · exact same
    · exact absurd first (releases_at_once sound after second)
  · intro time sequence releases
    obtain ⟨release, pending, rfl⟩ := releases_at_pending sound releases
    exact release_origin rfl time release pending
  · intro time event here old there
    rw [before_succ here]
    exact leaves_iff (before_sound sound time) event there
  · intro time entry mem ended
    have kept := (before_sound sound time).listed.kept entry mem
    simp [Entry.isCollectable, ended] at kept

theorem destroyed_payload_exactly_once : ∃ queue, construct ⟨1, 2, 1, by decide⟩ ⟨2, 4, 8⟩ 7 9 = some queue ∧
      System.outcomeAt { queue := queue } destroyingRun 4 = some (.flag true) ∧
      System.ExactlyOnce { queue := queue } destroyingRun :=
  ⟨_, rfl, by decide +kernel, @submission_queue_exactly_once ⟨1, 2, 1, by decide⟩ ⟨2, 4, 8⟩ 7 9 _ rfl destroyingRun⟩

end Glimmer.Backend
