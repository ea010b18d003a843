import Glimmer.Backend.SubmissionQueue

namespace Glimmer.Backend

open Lib Queue Glimmer.Backend.System

inductive Advance (before : Entry) : Entry → Prop
  | limit (bytes : Nat) (queued : before.phase = .queued) (shorter : bytes ≤ before.issueParameterBytes) :
      Advance before { before with issueParameterBytes := bytes }
  | rewrite (old new : Payload) (bytes : Nat) (held : before.payload = some old)
      (sized : new.parameters.length = old.parameters.length) (fits : bytes ≤ new.parameters.length)
      (unreturned : before.phase = .queued ∨ before.isIssuing = true) :
      Advance before { before with payload := some new, issueParameterBytes := bytes }
  | issue (queued : before.phase = .queued) : Advance before (Queue.issueEntry before)
  | publish (status : Int) (origin : ExecutionReplyOrigin) (issuing : before.phase = .issuing) :
      Advance before (Queue.returned status origin before)
  | continued (resuming : before.phase = .resuming) : Advance before { before with phase := .hostReturned }
  | pause (returned : before.phase = .hostReturned) (running : before.isPhysicallyStopped = false) :
      Advance before { before with phase := .paused }
  | resume (paused : before.phase = .paused) (counted : before.generation ≠ maxCounter) :
      Advance before (Queue.resumeEntry before)

inductive Retire (before : Entry) : Entry → Prop
  | reject (status : Int) (unreturned : before.phase = .queued ∨ before.phase = .issuing) :
      Retire before (Queue.retired (Queue.returned status .rejectedBeforeIssue before))
  | complete (returned : before.phase = .hostReturned) (running : before.isPhysicallyStopped = false) :
      Retire before (Queue.retired before)

theorem retire_generation {before after : Entry} (retired : Retire before after) :
    after.generation = before.generation := by
  cases retired <;> rfl

inductive Stepped (system : System) (event : Event) : System → Prop
  | same : Stepped system event system
  | flagged (closing quarantined : Bool) (closes : system.queue.isClosing = true → closing = true)
      (stays : system.queue.isQuarantined = true → quarantined = true) :
      Stepped system event
        { system with queue := { system.queue with isClosing := closing, isQuarantined := quarantined } }
  | bound (thread : Nat) (unbound : system.queue.executor = none) (live : thread ∉ system.exited) :
      Stepped system event
        { system with queue := { system.queue with executor := some { thread := thread, isAlive := true } } }
  | charged (bytes : Nat) (fits : bytes ≤ system.queue.limits.maxRetainedHostBytes - system.queue.hostBytes) :
      Stepped system event
        { system with
          queue := { system.queue with hostBytes := system.queue.hostBytes + bytes }
          storages := system.storages ++ [bytes] }
  | appended (caller : Caller) (request : ExecutionRequest) (lifetime : Nat) (allocates : Bool)
      (called : event = .call caller (.accept system.queue.nextSequence request allocates))
      (holds : request.parameters.length ≤ Queue.requestCapacity request)
      (numbered : system.queue.nextSequence ≠ 0) (space : system.queue.hasSequenceSpace = true)
      (room : system.queue.entries.length < system.queue.limits.maxCommands)
      (fits : Queue.requestCapacity request ≤ system.queue.limits.maxParameterBytes - system.queue.parameterBytes) :
      Stepped system event
        { system with
          queue := system.queue.append (Queue.freshEntry system.queue.nextSequence request lifetime)
            (Queue.requestCapacity request) }
  | advanced (entry : Entry) (change : Entry → Entry) (closing quarantined : Bool)
      (mem : entry ∈ system.queue.entries) (keyed : ∀ record, (change record).sequence = record.sequence)
      (advance : Advance entry (change entry))
      (single : (change entry).isIssuing = true → entry.isIssuing = true ∨ system.queue.isIssuing = false)
      (steady : (change entry).generation = entry.generation ∨
        (∃ caller receipt, event = .call caller (.takeNext receipt)) ∨
        ∃ caller token, event = .call caller (.resumeAfterPhysicalStop token))
      (closes : system.queue.isClosing = true → closing = true)
      (stays : system.queue.isQuarantined = true → quarantined = true) :
      Stepped system event
        { system with
          queue :=
            { system.queue.modifyEntry entry.sequence change with isClosing := closing, isQuarantined := quarantined } }
  | retired (entry : Entry) (change : Entry → Entry) (caller : Caller) (call : Call) (called : event = .call caller call)
      (releases : call.releases = some entry.sequence) (mem : entry ∈ system.queue.entries)
      (keyed : ∀ record, (change record).sequence = record.sequence) (retire : Retire entry (change entry))
      (executing : system.queue.executor = some { thread := caller.thread, isAlive := true }) :
      Stepped system event
        { system with
          queue := system.queue.modifyEntry entry.sequence change
          releases := { thread := caller.thread, sequence := entry.sequence } :: system.releases }
  | acknowledged (entry : Entry) (caller : Caller) (receipt : ExecutionReceipt)
      (called : event = .call caller (.acknowledgeResult receipt)) (named : receipt.sequence = entry.sequence)
      (mem : entry ∈ system.queue.entries) (replied : entry.reply.isSome = true)
      (fresh : entry.isAcknowledged = false) :
      Stepped system event
        { system with
          queue := (system.queue.modifyEntry entry.sequence (fun entry => { entry with isAcknowledged := true })).collect
            entry.sequence }
  | moved (release : Release) (called : event = .movePayload release.thread)
      (innermost : lookupKey Release.thread release.thread system.releases = some release)
      (unmoved : release.moved = none) :
      Stepped system event
        { system with
          queue := (system.queue.movePayload release.sequence).1
          releases := amend Release.sequence release.sequence
            (fun release' => { release' with moved := some (system.queue.movePayload release.sequence).2 })
            system.releases }
  | finished (release : Release) (bytes : Nat) (called : event = .finishRelease release.thread)
      (innermost : lookupKey Release.thread release.thread system.releases = some release)
      (moved : release.moved = some bytes) :
      Stepped system event
        { system with
          queue := system.queue.finishRelease release.sequence bytes
          releases := strike Release.sequence release.sequence system.releases }
  | dropped (index bytes : Nat) (live : system.storages[index]? = some bytes) :
      Stepped system event
        { system with
          storages := system.storages.eraseIdx index
          queue := { system.queue with hostBytes := system.queue.hostBytes - bytes } }
  | exited (thread : Nat) (idle : system.isReleasing thread = false) : Stepped system event (system.exitThread thread)

variable {sequence : Nat} {token : ExecutionIssueToken}

section Found
variable {queue : Queue}

theorem find_some {owner : Option Nat} {entry : Entry} (found : queue.find owner sequence = some entry) :
    owner = some queue.identity ∧ sequence ≠ 0 ∧ entry ∈ queue.entries ∧ entry.sequence = sequence := by
  unfold find at found
  split at found
  · exact absurd found (by simp)
  next known =>
  simp only [Bool.or_eq_true, decide_eq_true_eq, beq_iff_eq, not_or, Classical.not_not, ne_eq] at known
  obtain ⟨mem, same⟩ := lookup_key_some found
  exact ⟨known.1, known.2, mem, same⟩

theorem find_issue_some {entry : Entry} (found : queue.findIssue token = some entry) :
    token.owner = some queue.identity ∧ entry ∈ queue.entries ∧ entry.sequence = token.sequence ∧
      entry.generation = token.generation ∧ entry.generation ≠ 0 := by
  obtain ⟨known, current⟩ := Option.filter_eq_some_iff.mp found
  simp only [Bool.and_eq_true, bne_iff_ne, ne_eq, beq_iff_eq] at current
  obtain ⟨owned, _, mem, same⟩ := find_some known
  exact ⟨owned, mem, same, current.2, current.1⟩

theorem on_entry_cases (caller : Caller) (found : Option Entry) (permits : Entry → Bool) (change : Entry → Entry) :
    queue.onEntry caller found permits change = (queue, false) ∨
      ∃ entry, found = some entry ∧ queue.isExecutor caller = true ∧ permits entry = true ∧
        queue.onEntry caller found permits change = (queue.modifyEntry entry.sequence change, true) := by
  cases found with
  | none => exact .inl rfl
  | some entry =>
    by_cases allowed : (queue.isExecutor caller && permits entry) = true
    · have both := Bool.and_eq_true_iff.mp allowed
      exact .inr ⟨entry, rfl, both.1, both.2, by simp [onEntry, allowed]⟩
    · exact .inl (by simp only [onEntry]; rw [if_neg allowed])

end Found

def Queue.Sized (queue : Queue) : Prop :=
  ∀ entry ∈ queue.entries, ∀ payload, entry.payload = some payload →
    entry.issueParameterBytes ≤ payload.parameters.length

theorem write_length (payload : Payload) (offset : Nat) (bytes : List UInt8)
    (fits : offset + bytes.length ≤ payload.parameters.length) :
    (payload.write offset bytes).parameters.length = payload.parameters.length := by
  simp only [Payload.write, List.length_append, List.length_take, List.length_drop]
  omega

abbrev Keyed (change : Entry → Entry) : Prop := ∀ record, (change record).sequence = record.sequence

section Calls
variable {system : System} {event : Event} {caller : Caller}
  {found : Option Entry} {permits : Entry → Bool} {change : Entry → Entry}

section
variable {call : Call} {outcome : Queue × Bool} (releases : call.releases = some sequence)
  (result : outcome = (system.queue, false) ∨ outcome = system.queue.onEntry caller found permits change)
  (listed : ∀ entry, found = some entry → entry ∈ system.queue.entries ∧ entry.sequence = sequence)
  (keyed : Keyed change)
include result listed keyed

theorem advanced_stepped (legal : ∀ entry ∈ system.queue.entries, permits entry = true → Advance entry (change entry))
    (single : ∀ entry, permits entry = true → (change entry).isIssuing = true → entry.isIssuing = true)
    (steady : ∀ record, (change record).generation = record.generation) :
    Stepped system event { system with queue := outcome.1 } := by
  rcases result with rfl | rfl
  · exact .same
  rcases @on_entry_cases system.queue caller found permits change with failed | ⟨entry, here, _, permitted, changed⟩
  · rw [failed]
    exact .same
  rw [changed]
  have mem := (listed entry here).1
  exact .advanced entry change system.queue.isClosing system.queue.isQuarantined mem keyed
    (legal entry mem permitted) (fun issuing => .inl (single entry permitted issuing)) (.inl (steady entry)) id id

include releases in
theorem retired_stepped (legal : ∀ entry, permits entry = true → Retire entry (change entry)) :
    Stepped system (.call caller call)
      { system with
        queue := outcome.1
        releases :=
          if Outcome.flag outcome.2 = .flag true then
            { thread := caller.thread, sequence := sequence } :: system.releases
          else system.releases } := by
  rcases result with rfl | rfl
  · exact .same
  rcases @on_entry_cases system.queue caller found permits change with
    failed | ⟨entry, here, executing, permitted, changed⟩
  · rw [failed]
    exact .same
  · obtain ⟨mem, rfl⟩ := listed entry here
    rw [changed]
    exact .retired entry change caller call rfl releases mem keyed (legal entry permitted)
      (by simpa [isExecutor] using executing)

end

theorem receipt_listed {receipt : ExecutionReceipt} (entry : Entry)
    (found : system.queue.findReceipt receipt = some entry) :
    entry ∈ system.queue.entries ∧ entry.sequence = receipt.sequence :=
  ⟨(find_some found).2.2.1, (find_some found).2.2.2⟩

theorem token_listed (entry : Entry) (found : system.queue.findIssue token = some entry) :
    entry ∈ system.queue.entries ∧ entry.sequence = token.sequence :=
  ⟨(find_issue_some found).2.1, (find_issue_some found).2.2.1⟩

theorem quarantine_stepped : Stepped system event { system with queue := system.queue.quarantine } :=
  .flagged true true (fun _ => rfl) (fun _ => rfl)

theorem bind_executor_stepped (live : caller.thread ∉ system.exited) :
    Stepped system event { system with queue := (system.queue.bindExecutor caller).1 } := by
  unfold bindExecutor
  split
  · exact .same
  split
  · dsimp only
    split
    · exact quarantine_stepped
    · exact .same
  · next unbound => exact .bound caller.thread unbound live

theorem allocate_host_storage_cases (queue : Queue) (caller : Caller) (bytes : Nat) (allocates : Bool) :
    (∃ status, status ≠ .accepted ∧ queue.allocateHostStorage caller bytes allocates = (queue, status)) ∨
    (queue.isQuarantined = false ∧ bytes ≤ queue.limits.maxRetainedHostBytes - queue.hostBytes ∧
      queue.allocateHostStorage caller bytes allocates =
        ({ queue with hostBytes := queue.hostBytes + bytes }, .accepted)) := by
  unfold allocateHostStorage
  split
  · exact .inl ⟨_, by simp, rfl⟩
  split
  · exact .inl ⟨_, by simp, rfl⟩
  next healthy =>
  split
  · exact .inl ⟨_, by simp, rfl⟩
  split
  · exact .inl ⟨_, by simp, rfl⟩
  split
  · exact .inl ⟨_, by simp, rfl⟩
  next fits =>
  split
  · exact .inl ⟨_, by simp, rfl⟩
  · exact .inr ⟨by simpa using healthy, Nat.not_lt.mp fits, rfl⟩

theorem allocate_host_storage_stepped (bytes : Nat) (allocates : Bool) :
    Stepped system event
      { system with
        queue := (system.queue.allocateHostStorage caller bytes allocates).1
        storages :=
          if Outcome.allocation (system.queue.allocateHostStorage caller bytes allocates).2 = .allocation .accepted then
            system.storages ++ [bytes]
          else system.storages } := by
  rcases allocate_host_storage_cases system.queue caller bytes allocates with ⟨status, refused, same⟩ | ⟨_, fits, charged⟩
  · rw [same]
    simp only [Outcome.allocation.injEq, refused, if_false]
    exact .same
  · rw [charged]
    exact .charged bytes fits

structure Acceptable (queue : Queue) (sequence : Nat) (request : ExecutionRequest) : Prop where
  numbered : sequence ≠ 0
  next : sequence = queue.nextSequence
  space : queue.hasSequenceSpace = true
  holds : request.parameters.length ≤ Queue.requestCapacity request
  healthy : queue.isQuarantined = false
  opened : queue.isClosing = false
  room : queue.entries.length < queue.limits.maxCommands
  fits : Queue.requestCapacity request ≤ queue.limits.maxParameterBytes - queue.parameterBytes

theorem accept_checked_cases (queue : Queue) {sequence : Nat} {request : ExecutionRequest} (lifetime : Nat)
    (allocates : Bool) (numbered : sequence ≠ 0) (holds : request.parameters.length ≤ requestCapacity request) :
    (∃ status, status ≠ .accepted ∧ (queue.isQuarantined = true → status = .quarantined) ∧
      queue.acceptChecked sequence request lifetime allocates = (queue, status)) ∨
    (Acceptable queue sequence request ∧ queue.acceptChecked sequence request lifetime allocates =
      (queue.append (freshEntry sequence request lifetime) (requestCapacity request), .accepted)) := by
  unfold acceptChecked
  split
  · exact .inl ⟨_, by simp, fun _ => rfl, rfl⟩
  next healthy =>
  have refused : ∀ status : ExecutionAcceptStatus, queue.isQuarantined = true → status = .quarantined :=
    fun _ quarantined => absurd quarantined healthy
  split
  · exact .inl ⟨_, by simp, refused _, rfl⟩
  next opened =>
  split
  · exact .inl ⟨_, by simp, refused _, rfl⟩
  next next =>
  simp only [Bool.or_eq_true, Bool.not_eq_true', decide_eq_true_eq, not_or, Bool.not_eq_false, Classical.not_not,
    ne_eq] at next
  split
  · exact .inl ⟨_, by simp, refused _, rfl⟩
  split
  · exact .inl ⟨_, by simp, refused _, rfl⟩
  next room =>
  simp only [Bool.or_eq_true, decide_eq_true_eq, not_or, Nat.not_le, Nat.not_lt, ge_iff_le, gt_iff_lt] at room
  split
  · exact .inl ⟨_, by simp, refused _, rfl⟩
  · exact .inr ⟨⟨numbered, next.2, next.1, holds, by simpa using healthy, by simpa using opened, room.1, room.2⟩, rfl⟩

theorem accept_cases (queue : Queue) (sequence : Nat) (request : ExecutionRequest) (allocates : Bool) :
    (∃ status, status ≠ .accepted ∧
      (queue.accept sequence request allocates = (queue, status) ∨
        (queue.executorExpired = true ∧ status = .quarantined ∧
          queue.accept sequence request allocates = (queue.quarantine, status)))) ∨
    ∃ lifetime, request.lifetime = some lifetime ∧ Acceptable queue sequence request ∧
      queue.accept sequence request allocates =
        (queue.append (freshEntry sequence request lifetime) (requestCapacity request), .accepted) := by
  unfold accept
  split
  · exact .inl ⟨_, by simp, .inl rfl⟩
  next lifetime leased =>
  split
  · exact .inl ⟨_, by simp, .inl rfl⟩
  next valid =>
  simp only [Bool.or_eq_true, beq_iff_eq, decide_eq_true_eq, not_or, Nat.not_lt] at valid
  cases expired : queue.executorExpired with
  | true =>
    simp only [if_true]
    rcases accept_checked_cases queue.quarantine lifetime allocates valid.1.1.1 valid.2 with
      ⟨status, refused, quarantined, same⟩ | ⟨acceptable, _⟩
    · exact .inl ⟨status, refused, .inr ⟨trivial, quarantined rfl, same⟩⟩
    · exact absurd acceptable.healthy (by simp [quarantine])
  | false =>
    rcases accept_checked_cases queue lifetime allocates valid.1.1.1 valid.2 with
      ⟨status, refused, _, same⟩ | ⟨acceptable, accepted⟩
    · exact .inl ⟨status, refused, .inl same⟩
    · exact .inr ⟨lifetime, leased, acceptable, accepted⟩

theorem accept_stepped (sequence : Nat) (request : ExecutionRequest) (allocates : Bool) :
    Stepped system (.call caller (.accept sequence request allocates))
      { system with queue := (system.queue.accept sequence request allocates).1 } := by
  rcases accept_cases system.queue sequence request allocates with
    ⟨status, _, same | ⟨_, _, quarantined⟩⟩ | ⟨lifetime, _, acceptable, accepted⟩
  · rw [same]
    exact .same
  · rw [quarantined]
    exact quarantine_stepped
  · rw [accepted]
    obtain ⟨numbered, next, space, holds, _, _, room, fits⟩ := acceptable
    subst next
    exact .appended caller request lifetime allocates rfl holds numbered space room fits

theorem take_next_cases (queue : Queue) (caller : Caller) (receipt : Option ExecutionReceipt) :
    queue.takeNext caller receipt = (queue, none) ∨
      ∃ entry ∈ queue.entries, entry.phase = .queued ∧ queue.isQuarantined = false ∧ queue.isIssuing = false ∧
        queue.takeNext caller receipt =
          (queue.modifyEntry entry.sequence issueEntry, some (queue.issue (issueEntry entry))) := by
  unfold takeNext
  split
  · exact .inl rfl
  next ready =>
  simp only [Bool.or_eq_true, not_or, Bool.not_eq_true] at ready
  split
  · exact .inl rfl
  next entry found =>
  have chosen := List.find?_some found
  simp only [selectable, Bool.and_eq_true, beq_iff_eq] at chosen
  exact .inr ⟨entry, List.mem_of_find?_eq_some found, chosen.1, ready.1.2, ready.2, rfl⟩

theorem take_next_stepped (receipt : Option ExecutionReceipt) :
    Stepped system (.call caller (.takeNext receipt))
      { system with queue := (system.queue.takeNext caller receipt).1 } := by
  rcases take_next_cases system.queue caller receipt with same | ⟨entry, mem, queued, _, idle, taken⟩
  · rw [same]
    exact .same
  · rw [taken]
    exact .advanced entry issueEntry system.queue.isClosing system.queue.isQuarantined mem (fun _ => rfl)
      (.issue queued) (fun _ => .inr idle) (.inr (.inl ⟨caller, receipt, rfl⟩)) id id

theorem fail_uncertain_stepped (token : ExecutionIssueToken) (status : Int) :
    Stepped system event { system with queue := (system.queue.failUncertainIssue caller token status).1 } := by
  unfold failUncertainIssue
  split
  · exact .same
  rcases @on_entry_cases system.queue caller (system.queue.findIssue token) Entry.isIssuing
    (fun entry =>
      if entry.phase == .issuing then returned status .uncertainIssue entry
      else { entry with phase := .hostReturned }) with failed | ⟨entry, here, _, issuing, changed⟩
  · rw [failed]
    exact .same
  · rw [changed]
    refine .advanced entry _ true true (token_listed entry here).1 ?_ ?_ ?_ (.inl ?_) (fun _ => rfl) (fun _ => rfl)
    · intro record
      split <;> rfl
    · split
      · next first => exact .publish status .uncertainIssue (by simpa using first)
      · next other =>
        simp only [Entry.isIssuing, Bool.or_eq_true, beq_iff_eq] at issuing
        exact .continued (issuing.resolve_left (by simpa using other))
    · exact fun _ => .inl issuing
    · split <;> rfl

theorem acknowledge_cases (queue : Queue) (receipt : ExecutionReceipt) :
    queue.acknowledgeResult receipt = (queue, false) ∨
      ∃ entry, queue.findReceipt receipt = some entry ∧ entry.reply.isSome = true ∧ entry.isAcknowledged = false ∧
        queue.acknowledgeResult receipt =
          ((queue.modifyEntry entry.sequence (fun entry => { entry with isAcknowledged := true })).collect
            entry.sequence, true) := by
  unfold acknowledgeResult
  split
  · exact .inl rfl
  next entry found =>
  split
  · exact .inl rfl
  · next pending =>
    simp only [Bool.or_eq_true, Option.isNone_iff_eq_none, not_or, Bool.not_eq_true] at pending
    exact .inr ⟨entry, found, Option.isSome_iff_ne_none.mpr pending.1, pending.2, rfl⟩

theorem acknowledge_stepped (receipt : ExecutionReceipt) :
    Stepped system (.call caller (.acknowledgeResult receipt))
      { system with queue := (system.queue.acknowledgeResult receipt).1 } := by
  rcases acknowledge_cases system.queue receipt with same | ⟨entry, found, replied, fresh, acknowledged⟩
  · rw [same]
    exact .same
  · rw [acknowledged]
    obtain ⟨mem, named⟩ := receipt_listed entry found
    exact .acknowledged entry caller receipt rfl named.symm mem replied fresh

theorem resume_cases (queue : Queue) (caller : Caller) (token : ExecutionIssueToken) :
    queue.resumeAfterPhysicalStop caller token = (queue, none) ∨
      queue.resumeAfterPhysicalStop caller token = (queue.quarantine, none) ∨
      ∃ entry, queue.findIssue token = some entry ∧ entry.phase = .paused ∧ entry.generation ≠ maxCounter ∧
        queue.isQuarantined = false ∧ queue.isIssuing = false ∧
        queue.resumeAfterPhysicalStop caller token =
          (queue.modifyEntry entry.sequence resumeEntry, some (queue.issue (resumeEntry entry))) := by
  unfold resumeAfterPhysicalStop
  split
  · exact .inl rfl
  next entry found =>
  split
  · exact .inl rfl
  next ready =>
  simp only [Bool.or_eq_true, decide_eq_true_eq, not_or, Bool.not_eq_true, Classical.not_not, ne_eq] at ready
  split
  · exact .inr (.inl rfl)
  · next counted =>
    exact .inr (.inr ⟨entry, found, ready.1.2, by simpa using counted, ready.1.1.2, ready.2, rfl⟩)

theorem resume_stepped (token : ExecutionIssueToken) :
    Stepped system (.call caller (.resumeAfterPhysicalStop token))
      { system with queue := (system.queue.resumeAfterPhysicalStop caller token).1 } := by
  rcases resume_cases system.queue caller token with
    same | quarantined | ⟨entry, found, paused, counted, _, idle, resumed⟩
  · rw [same]
    exact .same
  · rw [quarantined]
    exact quarantine_stepped
  · rw [resumed]
    exact .advanced entry resumeEntry system.queue.isClosing system.queue.isQuarantined
      (token_listed entry found).1 (fun _ => rfl) (.resume paused counted) (fun _ => .inr idle)
      (.inr (.inr ⟨caller, token, rfl⟩)) id id

theorem call_stepped (call : Call) (sized : system.queue.Sized) (live : caller.thread ∉ system.exited) :
    Stepped system (.call caller call)
      { system with
        queue := (system.queue.perform caller call).1
        releases := system.begun caller.thread call (system.queue.perform caller call).2
        storages := system.allocated call (system.queue.perform caller call).2 } := by
  cases call with
  | bindExecutor => exact bind_executor_stepped live
  | allocateHostStorage bytes allocates => exact allocate_host_storage_stepped bytes allocates
  | accept sequence request allocates => exact accept_stepped sequence request allocates
  | takeNext receipt => exact take_next_stepped receipt
  | limitUnissuedParameters receipt bytes =>
    refine advanced_stepped (.inr rfl) receipt_listed (fun _ => rfl) ?_ ?_ (fun _ => rfl)
    · intro entry _ permitted
      simp only [isPreparable, Bool.and_eq_true, beq_iff_eq, decide_eq_true_eq] at permitted
      exact .limit bytes permitted.1.1.1.1.2 permitted.2
    · exact fun _ _ issuing => issuing
  | copyUnissuedParameters | hostResult => exact .same
  | replaceUnissuedParameters receipt input =>
    refine advanced_stepped (.inr rfl) receipt_listed (fun _ => rfl) ?_ ?_ (fun _ => rfl)
    · intro entry _ permitted
      simp only [isPreparable, Bool.and_eq_true, beq_iff_eq, Option.any_eq_true, decide_eq_true_eq] at permitted
      obtain ⟨⟨⟨⟨⟨⟨_, _⟩, queued⟩, _⟩, _⟩, _⟩, payload, held, fits⟩ := permitted
      rw [held]
      have kept := write_length payload 0 input (by omega)
      exact .rewrite payload (payload.write 0 input) input.length held kept (by omega) (.inl queued)
    · exact fun _ _ issuing => issuing
  | patchIssueParameters token offset bytes =>
    refine advanced_stepped (ite_eq_or_eq ..) token_listed (fun _ => rfl) ?_ ?_ (fun _ => rfl)
    · intro entry mem permitted
      simp only [Bool.and_eq_true, decide_eq_true_eq] at permitted
      obtain ⟨⟨⟨⟨_, held⟩, issuing⟩, starts⟩, fits⟩ := permitted
      obtain ⟨payload, held⟩ := Option.isSome_iff_exists.mp held
      have within := sized entry mem payload held
      rw [held]
      have kept := write_length payload offset bytes (by omega)
      exact .rewrite payload (payload.write offset bytes) entry.issueParameterBytes held kept (by omega)
        (.inr issuing)
    · exact fun _ _ issuing => issuing
  | publishHostResult token status =>
    refine advanced_stepped (.inr rfl) token_listed (fun _ => rfl) ?_
      (by simp [Entry.isIssuing, returned]) (fun _ => rfl)
    intro entry _ permitted
    exact .publish status .nativeSdk (by simpa using permitted)
  | publishPreparationFailure token status =>
    refine advanced_stepped (ite_eq_or_eq ..) token_listed (fun _ => rfl) ?_
      (by simp [Entry.isIssuing, returned]) (fun _ => rfl)
    intro entry _ permitted
    exact .publish status .rejectedBeforeIssue (by simpa using permitted)
  | failUncertainIssue token status => exact fail_uncertain_stepped token status
  | rejectUnissued receipt status =>
    refine retired_stepped rfl (ite_eq_or_eq ..) receipt_listed (fun _ => rfl) ?_
    intro entry permitted
    exact .reject status (.inl (by simpa using permitted))
  | rejectBeforeNativeIssue token status =>
    refine retired_stepped rfl (ite_eq_or_eq ..) token_listed (fun _ => rfl) ?_
    intro entry permitted
    exact .reject status (.inr (by simpa using permitted))
  | acknowledgeResult receipt => exact acknowledge_stepped receipt
  | completeAfterPhysicalStop token =>
    refine retired_stepped rfl (.inr rfl) token_listed (fun _ => rfl) ?_
    intro entry permitted
    simp only [Bool.and_eq_true, beq_iff_eq, Bool.not_eq_true'] at permitted
    exact .complete permitted.1 permitted.2
  | pauseAfterPhysicalStop token =>
    refine advanced_stepped (.inr rfl) token_listed (fun _ => rfl) ?_
      (by simp [Entry.isIssuing]) (fun _ => rfl)
    intro entry _ permitted
    simp only [Bool.and_eq_true, beq_iff_eq, Bool.not_eq_true'] at permitted
    exact .pause permitted.1.1 permitted.1.2
  | resumeAfterPhysicalStop token => exact resume_stepped token
  | finishContinuationIssue token =>
    refine advanced_stepped (.inr rfl) token_listed (fun _ => rfl) ?_
      (by simp [Entry.isIssuing]) (fun _ => rfl)
    intro entry _ permitted
    exact .continued (by simpa using permitted)
  | close | shutdown => exact .flagged true system.queue.isQuarantined (fun _ => rfl) id
  | quarantine => exact quarantine_stepped

end Calls

theorem step_stepped {system : System} (event : Event) (sized : system.queue.Sized) :
    Stepped system event (system.step event).1 := by
  cases event with
  | call caller call =>
    simp only [step]
    split
    · exact .same
    next free =>
    simp only [Bool.or_eq_true, List.contains_iff_mem, not_or, Bool.not_eq_true] at free
    simp only [performCall]
    split
    · exact .same
    · exact call_stepped call sized free.1
  | movePayload thread =>
    simp only [step]
    split
    · next found =>
      obtain ⟨_, rfl⟩ := lookup_key_some found
      exact .moved _ rfl found rfl
    · exact .same
  | finishRelease thread =>
    simp only [step]
    split
    · next found =>
      obtain ⟨_, rfl⟩ := lookup_key_some found
      exact .finished _ _ rfl found rfl
    · exact .same
  | dropStorage index =>
    simp only [step]
    split
    · next bytes live => exact .dropped index bytes live
    · exact .same
  | exitThread thread =>
    simp only [step]
    split
    · exact .same
    · next free =>
      simp only [Bool.or_eq_true, not_or, Bool.not_eq_true] at free
      exact .exited thread free.2

end Glimmer.Backend
