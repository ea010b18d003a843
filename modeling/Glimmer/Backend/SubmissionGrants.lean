import Glimmer.Backend.SubmissionOnce
import Mathlib.Data.List.Induction

namespace Glimmer.Backend

open Lib Queue

def Outcome.grants : Outcome → Capability → Bool
  | .acceptance _ (some receipt), .command named | .acceptance _ (some receipt), .result named => receipt == named
  | .issue (some issued), .command named | .issue (some issued), .result named => issued.receipt == named
  | .issue (some issued), .token named => issued.token == named
  | _, _ => false

namespace System

def outcomes : System → List Event → List Outcome
  | _, [] => []
  | system, event :: rest => (system.step event).2 :: outcomes (system.next event) rest

def Granted (start : System) (history : List Event) (capability : Capability) : Prop :=
  ∃ outcome ∈ start.outcomes history, outcome.grants capability = true

end System

def Queue.receiptOf (queue : Queue) (entry : Entry) : ExecutionReceipt where
  owner := some queue.identity
  sequence := entry.sequence

def Queue.tokenOf (queue : Queue) (entry : Entry) : ExecutionIssueToken where
  owner := some queue.identity
  sequence := entry.sequence
  generation := entry.generation

variable {start : System} {history more : List Event}

section Histories
variable {start : System} {history : List Event}

theorem run_append (start : System) (history more : List Event) :
    start.run (history ++ more) = (start.run history).run more := List.foldl_append

theorem run_snoc (start : System) (history : List Event) (event : Event) :
    start.run (history ++ [event]) = (start.run history).next event := run_append start history [event]

theorem outcomes_append :
    start.outcomes (history ++ more) = start.outcomes history ++ (start.run history).outcomes more := by
  induction history generalizing start with
  | nil => rfl
  | cons event rest ih =>
    simp [List.cons_append, System.outcomes, ih, System.run, List.foldl_cons]

theorem granted_later {capability : Capability} (granted : start.Granted history capability) (more : List Event) :
    start.Granted (history ++ more) capability := by
  obtain ⟨outcome, mem, grants⟩ := granted
  refine ⟨outcome, ?_, grants⟩
  rw [outcomes_append]
  exact List.mem_append.mpr (.inl mem)

theorem granted_now {event : Event} {capability : Capability}
    (grants : ((start.run history).step event).2.grants capability = true) :
    start.Granted (history ++ [event]) capability := by
  refine ⟨_, ?_, grants⟩
  rw [outcomes_append]
  exact List.mem_append.mpr (.inr List.mem_cons_self)

end Histories

variable {system next : System} {event : Event}

theorem stepped_generation (sound : system.Sound) (stepped : Stepped system event next)
    (accepts : ∀ caller sequence request allocates, event ≠ .call caller (.accept sequence request allocates))
    (takes : ∀ caller receipt, event ≠ .call caller (.takeNext receipt))
    (resumes : ∀ caller token, event ≠ .call caller (.resumeAfterPhysicalStop token)) :
    ∀ after ∈ next.queue.entries, ∃ before ∈ system.queue.entries,
      after.sequence = before.sequence ∧ after.generation = before.generation := by
  have kept : ∀ record ∈ system.queue.entries, ∃ before ∈ system.queue.entries,
      record.sequence = before.sequence ∧ record.generation = before.generation :=
    fun record mem => ⟨record, mem, rfl, rfl⟩
  have settled : ∀ (queue : Queue) (entry : Entry) (change : Entry → Entry), queue.entries = system.queue.entries →
      queue.Listed → entry ∈ queue.entries → Keyed change →
      (change entry).generation = entry.generation →
      ∀ after ∈ ((queue.modifyEntry entry.sequence change).collect entry.sequence).entries,
        ∃ before ∈ system.queue.entries, after.sequence = before.sequence ∧ after.generation = before.generation := by
    intro queue entry change same listed mem keyed steady
    rw [listed.settled mem change keyed]
    rw [← same] at kept
    split
    · exact fun after there => same ▸ kept after (strike_mem.mp there).1
    · exact same ▸ amend_forall listed.distinct mem rfl kept ⟨entry, mem, keyed entry, steady⟩
  cases stepped with
  | appended caller request lifetime allocates called => exact absurd called (accepts _ _ _ _)
  | advanced entry change closing quarantined mem keyed advance single steady =>
    rcases steady with steady | ⟨caller, receipt, called⟩ | ⟨caller, token, called⟩
    · exact amend_forall sound.listed.distinct mem rfl kept ⟨entry, mem, keyed entry, steady⟩
    · exact absurd called (takes caller receipt)
    · exact absurd called (resumes caller token)
  | retired entry change caller call called releases mem keyed retire =>
    exact amend_forall sound.listed.distinct mem rfl kept ⟨entry, mem, keyed entry, retire_generation retire⟩
  | acknowledged entry caller receipt called named mem =>
    exact settled system.queue entry (fun entry => { entry with isAcknowledged := true }) rfl sound.listed mem
      (fun _ => rfl) rfl
  | moved release called innermost =>
    obtain ⟨entry, mem, same, _⟩ := sound.pending.backed release (lookup_key_some innermost).1
    have found := lookup_key_mem sound.listed.distinct mem
    simp only [movePayload, ← same, found]
    exact amend_forall sound.listed.distinct mem rfl kept ⟨entry, mem, rfl, rfl⟩
  | finished release bytes called innermost =>
    obtain ⟨entry, mem, same, _⟩ := sound.pending.backed release (lookup_key_some innermost).1
    have listed : Listed { system.queue with parameterBytes := system.queue.parameterBytes - bytes } :=
      { sound.listed with }
    simp only [finishRelease, ← same]
    exact settled _ entry (fun entry => { entry with isReleasingPayload := false }) rfl listed mem (fun _ => rfl) rfl
  | _ => exact kept

-- The command of an entry can be named: its receipt and, once it was issued, its current token have been handed out.
structure Named (start : System) (history : List Event) (entry : Entry) : Prop where
  command : start.Granted history (.command (start.queue.receiptOf entry))
  result : start.Granted history (.result (start.queue.receiptOf entry))
  token : entry.generation ≠ 0 → start.Granted history (.token (start.queue.tokenOf entry))

theorem named_later {entry after : Entry} (named : Named start history entry)
    (sequence : after.sequence = entry.sequence) (generation : after.generation = entry.generation) :
    Named start (history ++ more) after := by
  have receipt : start.queue.receiptOf after = start.queue.receiptOf entry := by simp [receiptOf, sequence]
  have token : start.queue.tokenOf after = start.queue.tokenOf entry := by
    simp [tokenOf, sequence, generation]
  refine ⟨?_, ?_, ?_⟩
  · rw [receipt]
    exact granted_later named.command more
  · rw [receipt]
    exact granted_later named.result more
  · rw [token, generation]
    exact fun issued => granted_later (named.token issued) more

theorem unissued_entries (issues : (∃ caller receipt, event = .call caller (.takeNext receipt)) ∨
      ∃ caller token, event = .call caller (.resumeAfterPhysicalStop token))
    (none : ∀ issued, (system.step event).2 ≠ .issue (some issued)) :
    (system.next event).queue.entries = system.queue.entries := by
  unfold System.next
  rcases issues with ⟨caller, receipt, rfl⟩ | ⟨caller, token, rfl⟩
  · rcases call_answer system caller (.takeNext receipt) with same | same | performed
    · rw [same]
    · rw [same]
    · rw [performed] at none ⊢
      rcases take_next_cases system.queue caller receipt with same | ⟨entry, _, _, _, _, taken⟩
      · simp [perform, same]
      · exact absurd (by simp [perform, taken]) (none (system.queue.issue (issueEntry entry)))
  · rcases call_answer system caller (.resumeAfterPhysicalStop token) with same | same | performed
    · rw [same]
    · rw [same]
    · rw [performed] at none ⊢
      rcases resume_cases system.queue caller token with same | same | ⟨entry, _, _, _, _, _, resumed⟩
      · simp [perform, same]
      · simp [perform, same, quarantine]
      · exact absurd (by simp [perform, resumed]) (none (system.queue.issue (resumeEntry entry)))

theorem all_named (sound : start.Sound) (empty : start.queue.entries = []) (history : List Event) :
    ∀ entry ∈ (start.run history).queue.entries, Named start history entry := by
  induction history using List.reverseRecOn with
  | nil =>
    intro entry mem
    change entry ∈ start.queue.entries at mem
    rw [empty] at mem
    cases mem
  | append_singleton history event ih =>
    have current := run_sound sound history
    have identity := (run_fixed sound history).2.1
    intro after there
    rw [run_snoc] at there
    by_cases issues : (∃ caller receipt, event = .call caller (.takeNext receipt)) ∨
        ∃ caller token, event = .call caller (.resumeAfterPhysicalStop token)
    · by_cases issued : ∃ issued, ((start.run history).step event).2 = .issue (some issued)
      · obtain ⟨issued, answered⟩ := issued
        obtain ⟨entry, mem, change, shape, rfl, _⟩ := issue_step answered
        rw [shape] at there
        rcases amend_mem there with ⟨old, _⟩ | ⟨old, listed, same, rfl⟩
        · exact named_later (ih after old) rfl rfl
        rw [current.listed.same_entry listed mem same]
        have grants : ∀ capability, (Outcome.issue (some ((start.run history).queue.issue (change entry)))).grants
            capability = true → start.Granted (history ++ [event]) capability :=
          fun capability grants => granted_now (by rw [answered]; exact grants)
        refine ⟨grants _ ?_, grants _ ?_, fun _ => grants _ ?_⟩ <;>
          simp [Outcome.grants, issue, receiptOf, tokenOf, identity]
      · rw [unissued_entries issues (fun issue answered => issued ⟨issue, answered⟩)] at there
        exact named_later (ih after there) rfl rfl
    · have takes : ∀ caller receipt, event ≠ .call caller (.takeNext receipt) :=
        fun caller receipt same => issues (.inl ⟨caller, receipt, same⟩)
      have resumes : ∀ caller token, event ≠ .call caller (.resumeAfterPhysicalStop token) :=
        fun caller token same => issues (.inr ⟨caller, token, same⟩)
      by_cases accepts : ∃ caller sequence request allocates, event = .call caller (.accept sequence request allocates)
      · obtain ⟨caller, sequence, request, allocates, rfl⟩ := accepts
        rw [System.next] at there
        rcases @accept_step (start.run history) caller sequence request allocates with
          ⟨outcome, _, same | ⟨_, _, same⟩⟩ | ⟨lifetime, _, accepted⟩
        · rw [same] at there
          exact named_later (ih after there) rfl rfl
        · rw [same] at there
          exact named_later (ih after there) rfl rfl
        · rw [accepted] at there
          rcases List.mem_append.mp there with old | fresh
          · exact named_later (ih after old) rfl rfl
          · rw [List.mem_singleton.mp fresh]
            refine ⟨granted_now ?_, granted_now ?_, fun issued => absurd rfl issued⟩ <;>
              simp [accepted, Outcome.grants, receiptOf, freshEntry, identity]
      · obtain ⟨before, mem, sequence, generation⟩ := stepped_generation current
          (step_stepped event current.sized)
          (fun caller sequence request allocates same => accepts ⟨caller, sequence, request, allocates, same⟩)
          takes resumes after there
        exact named_later (ih before mem) sequence generation

end Glimmer.Backend
