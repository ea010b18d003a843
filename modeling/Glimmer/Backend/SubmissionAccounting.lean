import Glimmer.Backend.SubmissionInvariant

namespace Glimmer.Backend

open Lib Glimmer.Backend.System Queue

namespace System

def next (system : System) (event : Event) : System := (system.step event).1

def run (start : System) (events : List Event) : System := events.foldl next start

-- The charged bytes of a command: its payload, in its entry or on its way out.
def retainedBytes (system : System) (entry : Entry) : Nat :=
  entry.payloadBytes +
    ((system.releases.filter (fun release => release.sequence == entry.sequence)).map Release.movedBytes).sum

def unreleased (system : System) : List Entry :=
  system.queue.entries.filter (fun entry => entry.payload.isSome || entry.isReleasingPayload)

def acceptedBy (system : System) (event : Event) : List Nat :=
  match event, (system.step event).2 with
  | .call _ (.accept sequence _ _), .acceptance .accepted _ => [sequence]
  | _, _ => []

def acceptedSequences : System → List Event → List Nat
  | _, [] => []
  | system, event :: rest => system.acceptedBy event ++ acceptedSequences (system.next event) rest

end System

theorem collect_fixed (queue : Queue) (sequence : Nat) :
    (queue.collect sequence).limits = queue.limits ∧ (queue.collect sequence).identity = queue.identity ∧
      (queue.collect sequence).processId = queue.processId ∧ (queue.collect sequence).executor = queue.executor ∧
      (queue.collect sequence).nextSequence = queue.nextSequence ∧
      (queue.collect sequence).hasSequenceSpace = queue.hasSequenceSpace ∧
      (queue.collect sequence).isQuarantined = queue.isQuarantined := by
  unfold collect
  split
  · simp
  · split <;> simp

theorem move_payload_fixed (queue : Queue) (sequence : Nat) :
    ∃ entries, (queue.movePayload sequence).1 = { queue with entries := entries } := by
  unfold movePayload
  split
  · exact ⟨queue.entries, rfl⟩
  · exact ⟨_, rfl⟩

variable {system next : System} {event : Event}

theorem stepped_fixed (stepped : Stepped system event next) :
    next.queue.limits = system.queue.limits ∧ next.queue.identity = system.queue.identity ∧
      next.queue.processId = system.queue.processId := by
  cases stepped with
  | acknowledged | finished release =>
    obtain ⟨limits, identity, process, _⟩ := collect_fixed _ _
    exact ⟨limits, identity, process⟩
  | moved release =>
    obtain ⟨entries, same⟩ := move_payload_fixed system.queue release.sequence
    simp [same, and_self]
  | _ => exact ⟨rfl, rfl, rfl⟩

theorem stepped_counter (stepped : Stepped system event next)
    (other : ∀ caller sequence request allocates, event ≠ .call caller (.accept sequence request allocates)) :
    next.queue.nextSequence = system.queue.nextSequence ∧
      next.queue.hasSequenceSpace = system.queue.hasSequenceSpace := by
  cases stepped with
  | appended caller request lifetime allocates called => exact absurd called (other _ _ _ _)
  | acknowledged | finished release =>
    obtain ⟨_, _, _, _, counter, space, _⟩ := collect_fixed _ _
    exact ⟨counter, space⟩
  | moved release =>
    obtain ⟨entries, same⟩ := move_payload_fixed system.queue release.sequence
    simp [same, and_self]
  | _ => exact ⟨rfl, rfl⟩

theorem collect_sequences (queue : Queue) (sequence : Nat) :
    ((queue.collect sequence).entries.map Entry.sequence).Sublist (queue.entries.map Entry.sequence) := by
  unfold collect
  split
  · exact .refl _
  split
  · exact List.filter_sublist.map _
  · exact .refl _

theorem stepped_sequences (stepped : Stepped system event next) :
    (next.queue.entries.map Entry.sequence).Sublist (system.queue.entries.map Entry.sequence) ∨
      (system.queue.hasSequenceSpace = true ∧ next.queue.entries.map Entry.sequence =
        system.queue.entries.map Entry.sequence ++ [system.queue.nextSequence]) := by
  cases stepped with
  | same | flagged | bound | charged | dropped | exited => exact .inl (.refl _)
  | appended caller request lifetime allocates called holds numbered space =>
    exact .inr ⟨space, by simp [append, freshEntry]⟩
  | advanced entry change closing quarantined mem keyed | retired entry change caller call called releases mem keyed =>
    exact .inl (by simp [modifyEntry, amend_keys keyed])
  | acknowledged | finished => exact .inl ((collect_sequences _ _).trans (by simp [modifyEntry, amend_keys]))
  | moved release =>
    simp only [movePayload]
    split <;> simp [modifyEntry, amend_keys]

section Runs
variable {system : System}

theorem next_sound (sound : system.Sound) (event : Event) : (system.next event).Sound :=
  sound.kept (step_stepped event sound.sized)

theorem run_sound (sound : system.Sound) (events : List Event) : (system.run events).Sound := by
  induction events generalizing system with
  | nil => exact sound
  | cons event rest ih => exact ih (next_sound sound event)

theorem run_fixed (sound : system.Sound) (events : List Event) :
    (system.run events).queue.limits = system.queue.limits ∧
      (system.run events).queue.identity = system.queue.identity ∧
      (system.run events).queue.processId = system.queue.processId := by
  induction events generalizing system with
  | nil => exact ⟨rfl, rfl, rfl⟩
  | cons event rest ih =>
    obtain ⟨limits, identity, process⟩ := stepped_fixed (step_stepped event sound.sized)
    obtain ⟨limits', identity', process'⟩ := ih (next_sound sound event)
    exact ⟨limits'.trans limits, identity'.trans identity, process'.trans process⟩

theorem run_ordered (sound : system.Sound) (ordered : (system.queue.entries.map Entry.sequence).Pairwise (· < ·))
    (events : List Event) : ((system.run events).queue.entries.map Entry.sequence).Pairwise (· < ·) := by
  induction events generalizing system with
  | nil => exact ordered
  | cons event rest ih =>
    refine ih (next_sound sound event) ?_
    rcases stepped_sequences (step_stepped event sound.sized) with fewer | ⟨space, grown⟩
    · exact ordered.sublist fewer
    · unfold System.next
      rw [grown, List.pairwise_append]
      exact ⟨ordered, List.pairwise_singleton _ _, by simpa using sound.listed.below space⟩

variable {session : ExecutionSessionIdentity} {limits : ExecutionSubmissionLimits} {processId identity : Nat}
  {queue : Queue}

def destroyingRun : List Event :=
  let executor : Caller := { process := 7, thread := 1 }
  let token : ExecutionIssueToken := { owner := some 9, sequence := 1, generation := 1 }
  [.call executor .bindExecutor,
    .call executor (.accept 1
      { operation := 3, context := 4, stream := 0, parameters := [1, 2, 3], lifetime := some 5 } true),
    .call executor (.takeNext none), .call executor (.publishHostResult token 0),
    .call executor (.completeAfterPhysicalStop token), .movePayload 1]

-- An executor that names no command is handed the oldest one that waits.
def IssuesOldest (queue : Queue) : Prop :=
  ∀ caller, ∀ issued ∈ (queue.takeNext caller none).2, ∀ entry ∈ queue.entries, entry.phase = .queued →
    issued.receipt.sequence ≤ entry.sequence

section
variable (constructed : construct session limits processId identity = some queue)
include constructed

theorem construct_some :
    queue = { session := session, limits := limits, processId := processId, identity := identity,
              nextSequence := session.firstSequence } := by
  unfold construct at constructed
  split at constructed
  · cases constructed
  · exact (Option.some.inj constructed).symm

theorem construct_sound : Sound { queue := queue } := by
  rw [construct_some constructed]
  refine ⟨⟨?_, ?_, ?_, ?_, ?_, ?_⟩, ⟨?_, ?_, ?_, ?_⟩, ⟨?_, ?_, ?_, ?_⟩, ?_⟩ <;> simp

theorem oldest_command_issued_first (events : List Event) : IssuesOldest (run { queue := queue } events).queue := by
  intro caller issued answer entry mem waits
  have ordered := run_ordered (construct_sound constructed) (by simp [construct_some constructed]) events
  unfold takeNext at answer
  split at answer
  · cases answer
  split at answer
  · cases answer
  next first found =>
  cases answer
  obtain ⟨_, before, after, split, passed⟩ := List.find?_eq_some_iff_append.mp found
  rw [split, List.map_append, List.pairwise_append, List.map_cons, List.pairwise_cons] at ordered
  rw [split] at mem
  rcases List.mem_append.mp mem with early | late
  · have skipped := passed entry early
    simp [selectable, waits] at skipped
  rcases List.mem_cons.mp late with rfl | later
  · exact Nat.le_refl _
  · exact Nat.le_of_lt (ordered.2.1.1 entry.sequence (List.mem_map_of_mem later))

end

def waitingCommands : List Event :=
  destroyingRun.take 2 ++ [.call { process := 7, thread := 1 } (.accept 2 ⟨6, 4, 1, [7], some 5, 0⟩ true)]

theorem accepted_command_issued_first : ∃ queue, construct ⟨1, 2, 1, by decide⟩ ⟨2, 4, 8⟩ 7 9 = some queue ∧
    ((run { queue := queue } waitingCommands).queue.entries.map fun entry => (entry.sequence, entry.phase)) =
      [(1, .queued), (2, .queued)] ∧ IssuesOldest (run { queue := queue } waitingCommands).queue :=
  ⟨_, rfl, by decide +kernel, @oldest_command_issued_first ⟨1, 2, 1, by decide⟩ ⟨2, 4, 8⟩ 7 9 _ rfl _⟩

end Runs

theorem retained_sum {entries : List Entry} {releases : List Release} (distinct : (entries.map Entry.sequence).Nodup)
    (unique : (releases.map Release.sequence).Nodup)
    (listed : ∀ release ∈ releases, ∃ entry ∈ entries, entry.sequence = release.sequence) :
    (entries.map (fun entry => entry.payloadBytes +
        ((releases.filter (fun release => release.sequence == entry.sequence)).map Release.movedBytes).sum)).sum =
      (entries.map Entry.payloadBytes).sum + (releases.map Release.movedBytes).sum := by
  induction releases with
  | nil => simp
  | cons first rest ih =>
    obtain ⟨_, rest_unique⟩ := List.nodup_cons.mp unique
    have earlier := ih rest_unique (fun release mem => listed release (List.mem_cons_of_mem _ mem))
    obtain ⟨entry, mem, same⟩ := listed first List.mem_cons_self
    have split_off : ∀ record : Entry,
        record.payloadBytes + (((first :: rest).filter (fun release => release.sequence == record.sequence)).map
          Release.movedBytes).sum =
        (record.payloadBytes + ((rest.filter (fun release => release.sequence == record.sequence)).map
          Release.movedBytes).sum) + (if record.sequence = first.sequence then first.movedBytes else 0) := by
      intro record
      by_cases here : record.sequence = first.sequence
      · simp only [List.filter_cons, here, beq_self_eq_true, if_true, List.map_cons, List.sum_cons]
        omega
      · have apart : ¬ first.sequence = record.sequence := fun shared => here shared.symm
        simp [here, apart]
    have once : (entries.map (fun record : Entry =>
        if record.sequence = first.sequence then first.movedBytes else 0)).sum = first.movedBytes := by
      have left := strike_sum (fun record : Entry =>
        if record.sequence = first.sequence then first.movedBytes else 0) distinct mem same
      have none : ((strike Entry.sequence first.sequence entries).map (fun record : Entry =>
          if record.sequence = first.sequence then first.movedBytes else 0)).sum = 0 := by
        refine List.sum_eq_zero_iff_forall_eq_nat.mpr ?_
        intro weight listed
        obtain ⟨record, there, rfl⟩ := List.mem_map.mp listed
        rw [if_neg (strike_mem.mp there).2]
      rw [none, if_pos same] at left
      omega
    rw [List.map_congr_left (fun record _ => split_off record), List.sum_map_add, earlier, once, List.map_cons,
      List.sum_cons]
    omega

theorem unreleased_sum (sound : system.Sound) :
    system.queue.parameterBytes = (system.unreleased.map system.retainedBytes).sum := by
  rw [sound.balanced.parameters, ← retained_sum sound.listed.distinct sound.pending.unique fun release pending =>
    (sound.pending.backed release pending).imp fun entry backed => ⟨backed.1, backed.2.1⟩]
  refine (filter_sum fun entry mem done => ?_).symm
  simp only [Bool.or_eq_false_iff, Option.isSome_eq_false_iff, Option.isNone_iff_eq_none] at done
  have quiet : system.releases.filter (fun release => release.sequence == entry.sequence) = [] := by
    refine List.filter_eq_nil_iff.mpr ?_
    intro release pending same
    have marked := (sound.backing pending mem (beq_iff_eq.mp same).symm).2.1
    rw [done.2] at marked
    cases marked
  simp [Entry.payloadBytes, done.1, quiet]

section Acceptance
variable {system : System}

theorem accept_step (caller : Caller) (sequence : Nat) (request : ExecutionRequest) (allocates : Bool) :
    (∃ outcome, (∀ receipt, outcome ≠ .acceptance .accepted receipt) ∧
      (system.step (.call caller (.accept sequence request allocates)) = (system, outcome) ∨
        (system.queue.executorExpired = true ∧ outcome = .acceptance .quarantined none ∧
          system.step (.call caller (.accept sequence request allocates)) =
            ({ system with queue := system.queue.quarantine }, outcome)))) ∨
    ∃ lifetime, Acceptable system.queue sequence request ∧
      system.step (.call caller (.accept sequence request allocates)) =
        ({ system with
            queue := system.queue.append (freshEntry sequence request lifetime) (requestCapacity request) },
          .acceptance .accepted (some { owner := some system.queue.identity, sequence := sequence })) := by
  simp only [step]
  split
  · exact .inl ⟨.none, by simp, .inl rfl⟩
  simp only [performCall]
  split
  · exact .inl ⟨.acceptance .wrongProcess none, by simp, .inl rfl⟩
  simp only [perform, begun, Call.releases, allocated]
  rcases accept_cases system.queue sequence request allocates with
    ⟨status, refused, same | ⟨expired, quarantined, same⟩⟩ | ⟨lifetime, _, acceptable, accepted⟩
  · refine .inl ⟨.acceptance status none, by simp [refused], .inl ?_⟩
    simp [same, acceptance, refused]
  · subst quarantined
    refine .inl ⟨.acceptance .quarantined none, by simp, .inr ⟨expired, rfl, ?_⟩⟩
    simp [same, acceptance]
  · refine .inr ⟨lifetime, acceptable, ?_⟩
    simp [accepted, acceptance]

theorem accepted_by_cases (sound : system.Sound) (event : Event) :
    (system.acceptedBy event = [] ∧ (system.next event).queue.nextSequence = system.queue.nextSequence ∧
      (system.next event).queue.hasSequenceSpace = system.queue.hasSequenceSpace) ∨
    (system.acceptedBy event = [system.queue.nextSequence] ∧ system.queue.hasSequenceSpace = true ∧
      (system.next event).queue.hasSequenceSpace = !(system.queue.nextSequence == maxCounter) ∧
      (system.next event).queue.nextSequence =
        if system.queue.nextSequence == maxCounter then system.queue.nextSequence
          else system.queue.nextSequence + 1) := by
  by_cases accepts : ∃ caller sequence request allocates, event = .call caller (.accept sequence request allocates)
  · obtain ⟨caller, sequence, request, allocates, rfl⟩ := accepts
    rcases @accept_step system caller sequence request allocates with
      ⟨outcome, refused, same | ⟨_, _, same⟩⟩ | ⟨lifetime, acceptable, accepted⟩
    · refine .inl ⟨?_, by rw [next, same], by rw [next, same]⟩
      simp only [acceptedBy, same]
      split
      · exact absurd rfl (refused _)
      · rfl
    · refine .inl ⟨?_, by rw [next, same]; rfl, by rw [next, same]; rfl⟩
      simp only [acceptedBy, same]
      split
      · exact absurd rfl (refused _)
      · rfl
    · obtain rfl := acceptable.next
      refine .inr ⟨by simp [acceptedBy, accepted], acceptable.space, ?_, ?_⟩
      · simp only [next, accepted, append, freshEntry, acceptable.space]
        cases system.queue.nextSequence == maxCounter <;> rfl
      · rw [next, accepted]
        rfl
  · have other : ∀ caller sequence request allocates, event ≠ .call caller (.accept sequence request allocates) :=
      fun caller sequence request allocates same => accepts ⟨caller, sequence, request, allocates, same⟩
    refine .inl ⟨?_, stepped_counter (step_stepped event sound.sized) other⟩
    unfold acceptedBy
    split
    · exact absurd rfl (other _ _ _ _)
    · rfl

theorem accepted_range (sound : system.Sound) (counted : system.queue.nextSequence ≤ maxCounter) (events : List Event) :
    ∃ count, system.acceptedSequences events = List.range' system.queue.nextSequence count ∧
      system.queue.nextSequence + count ≤ 2 ^ 64 ∧ (system.queue.hasSequenceSpace = false → count = 0) := by
  induction events generalizing system with
  | nil => exact ⟨0, rfl, by unfold maxCounter at counted; omega, fun _ => rfl⟩
  | cons event rest ih =>
    rcases accepted_by_cases sound event with ⟨none, counter, space⟩ | ⟨one, space, left, counter⟩
    · obtain ⟨count, accepted, bound, exhausted⟩ := ih (next_sound sound event) (counter ▸ counted)
      rw [counter] at accepted bound
      rw [space] at exhausted
      exact ⟨count, by simp [acceptedSequences, none, List.nil_append, accepted], bound, exhausted⟩
    by_cases last : system.queue.nextSequence = maxCounter
    · -- the last sequence: nothing is accepted after it
      rw [last, beq_self_eq_true] at left counter
      obtain ⟨count, accepted, _, exhausted⟩ := ih (next_sound sound event) (Nat.le_of_eq counter)
      rw [exhausted left] at accepted
      refine ⟨1, ?_, by rw [last]; decide, fun full => absurd (space.symm.trans full) (by simp)⟩
      simp [acceptedSequences, one, accepted, List.range'_zero, List.append_nil, List.range'_one]
    · rw [if_neg (by simpa using last)] at counter
      have within : (system.next event).queue.nextSequence ≤ maxCounter := by omega
      obtain ⟨count, accepted, bound, _⟩ := ih (next_sound sound event) within
      rw [counter] at accepted bound
      refine ⟨count + 1, ?_, by omega, fun full => absurd (space.symm.trans full) (by simp)⟩
      simp [acceptedSequences, one, accepted, List.range'_succ]

end Acceptance

structure Accounted (limits : ExecutionSubmissionLimits) (system : System) : Prop where
  commands : system.queue.entries.length ≤ limits.maxCommands
  single : ∀ first ∈ system.queue.entries, ∀ second ∈ system.queue.entries, first.isIssuing = true →
    second.isIssuing = true → first = second
  parameters : system.queue.parameterBytes = (system.unreleased.map system.retainedBytes).sum
  parametersFit : system.queue.parameterBytes ≤ limits.maxParameterBytes
  storages : system.queue.hostBytes = system.storages.sum
  storagesFit : system.queue.hostBytes ≤ limits.maxRetainedHostBytes

theorem submission_queue_accounting {session : ExecutionSessionIdentity} {limits : ExecutionSubmissionLimits}
    {processId identity : Nat} {queue : Queue} (constructed : construct session limits processId identity = some queue)
    (events : List Event) : Accounted limits (System.run { queue := queue } events) ∧
      (∃ count, System.acceptedSequences { queue := queue } events = List.range' session.firstSequence count ∧
        session.firstSequence + count ≤ 2 ^ 64) ∧
      ∀ caller sequence request allocates system outcome,
        (System.run { queue := queue } events).step (.call caller (.accept sequence request allocates)) =
          (system, outcome) →
        (∀ receipt, outcome ≠ .acceptance .accepted receipt) →
        system = System.run { queue := queue } events ∨
          ((System.run { queue := queue } events).queue.executorExpired = true ∧
            outcome = .acceptance .quarantined none ∧
            system = { System.run { queue := queue } events with
              queue := (System.run { queue := queue } events).queue.quarantine }) := by
  have initial := construct_sound constructed
  have sound := run_sound initial events
  have shape := construct_some constructed
  have fixed : (System.run { queue := queue } events).queue.limits = limits := by
    rw [(run_fixed initial events).1, shape]
  have first : queue.nextSequence = session.firstSequence := by rw [shape]
  refine ⟨?_, ?_, ?_⟩
  · rw [← fixed]
    exact ⟨sound.listed.counted,
      fun first there second there' issuing issuing' =>
        sound.listed.same_entry there there' (sound.listed.single first there second there' issuing issuing'),
      unreleased_sum sound, sound.balanced.parametersFit, sound.balanced.storages, sound.balanced.storagesFit⟩
  · obtain ⟨count, accepted, bound, _⟩ :=
      accepted_range initial (Nat.le_trans (Nat.le_of_eq first) session.counted) events
    rw [first] at accepted bound
    exact ⟨count, accepted, bound⟩
  intro caller sequence request allocates system outcome stepped refused
  rcases @accept_step (System.run { queue := queue } events) caller sequence request allocates with
    ⟨answer, _, same | ⟨expired, quarantined, same⟩⟩ | ⟨lifetime, _, accepted⟩
  · rw [same] at stepped
    cases stepped
    exact .inl rfl
  · rw [same] at stepped
    cases stepped
    exact .inr ⟨expired, quarantined, rfl⟩
  · rw [accepted] at stepped
    cases stepped
    exact absurd rfl (refused _)

theorem destroyed_payload_accounted : ∃ queue, construct ⟨1, 2, 1, by decide⟩ ⟨2, 4, 8⟩ 7 9 = some queue ∧
      (System.run { queue := queue } destroyingRun).queue.parameterBytes = 3 ∧
      Accounted ⟨2, 4, 8⟩ (System.run { queue := queue } destroyingRun) :=
  ⟨_, rfl, by decide +kernel, (@submission_queue_accounting ⟨1, 2, 1, by decide⟩ ⟨2, 4, 8⟩ 7 9 _ rfl destroyingRun).1⟩

structure Evolved (before after : Entry) : Prop where
  sequence : after.sequence = before.sequence
  generation : before.generation ≤ after.generation
  reply : ∀ reply, before.reply = some reply → after.reply = some reply
  payload : before.payload = none → after.payload = none

theorem Evolved.refl (entry : Entry) : Evolved entry entry := ⟨rfl, Nat.le_refl _, fun _ replied => replied, id⟩

theorem Evolved.trans {first second third : Entry} (one : Evolved first second) (two : Evolved second third) :
    Evolved first third :=
  ⟨two.sequence.trans one.sequence, Nat.le_trans one.generation two.generation,
    fun reply replied => two.reply reply (one.reply reply replied), fun empty => two.payload (one.payload empty)⟩

theorem advance_evolved {before after : Entry} (formed : before.WellFormed) (advanced : Advance before after) :
    Evolved before after := by
  cases advanced with
  | limit bytes queued shorter | continued resuming | pause returned running =>
    exact ⟨rfl, Nat.le_refl _, fun _ replied => replied, id⟩
  | rewrite old new bytes held =>
    exact ⟨rfl, Nat.le_refl _, fun _ replied => replied, fun empty => absurd (held.symm.trans empty) (by simp)⟩
  | issue queued =>
    have fresh := (formed.queued queued).1
    exact ⟨rfl, by rw [fresh]; exact Nat.zero_le _, fun _ replied => replied, id⟩
  | publish status origin issuing =>
    have unreplied := (formed.issuing issuing).2
    exact ⟨rfl, Nat.le_refl _, fun _ replied => absurd (unreplied.symm.trans replied) (by simp), id⟩
  | resume paused counted => exact ⟨rfl, Nat.le_succ _, fun _ replied => replied, id⟩

theorem retire_evolved {before after : Entry} (formed : before.WellFormed) (retired : Retire before after) :
    Evolved before after := by
  cases retired with
  | reject status unreturned =>
    have unreplied : before.reply = none := by
      rcases unreturned with queued | issuing
      · exact (formed.queued queued).2
      · exact (formed.issuing issuing).2
    exact ⟨rfl, Nat.le_refl _, fun _ replied => absurd (unreplied.symm.trans replied) (by simp), id⟩
  | complete returned running => exact ⟨rfl, Nat.le_refl _, fun _ replied => replied, id⟩

section Origins
variable {system next : System} {event : Event}

theorem amended_origin {queue : Queue} (listed : queue.Listed) {entry : Entry} {change : Entry → Entry}
    (mem : entry ∈ queue.entries) (evolved : Evolved entry (change entry)) :
    ∀ after ∈ amend Entry.sequence entry.sequence change queue.entries, ∃ before ∈ queue.entries, Evolved before after :=
  amend_forall listed.distinct mem rfl (fun other there => ⟨other, there, Evolved.refl other⟩)
    ⟨entry, mem, evolved⟩

theorem settled_origin {queue : Queue} (listed : queue.Listed) {entry : Entry} (change : Entry → Entry)
    (keyed : Keyed change) (mem : entry ∈ queue.entries) (evolved : Evolved entry (change entry)) :
    ∀ after ∈ ((queue.modifyEntry entry.sequence change).collect entry.sequence).entries,
      ∃ before ∈ queue.entries, Evolved before after := by
  rw [listed.settled mem change keyed]
  split
  · exact fun after there => ⟨after, (strike_mem.mp there).1, Evolved.refl after⟩
  · exact amended_origin listed mem evolved

theorem stepped_origin (sound : system.Sound) (stepped : Stepped system event next) :
    ∀ after ∈ next.queue.entries, (∃ before ∈ system.queue.entries, Evolved before after) ∨
      (system.queue.hasSequenceSpace = true ∧ after.sequence = system.queue.nextSequence) := by
  cases stepped with
  | appended caller request lifetime allocates called holds numbered space =>
    intro after there
    rcases List.mem_append.mp there with old | fresh
    · exact .inl ⟨after, old, Evolved.refl after⟩
    · rw [List.mem_singleton.mp fresh]
      exact .inr ⟨space, rfl⟩
  | advanced entry change closing quarantined mem keyed advance =>
    exact fun after there => .inl (amended_origin sound.listed mem
      (advance_evolved (sound.listed.formed entry mem) advance) after there)
  | retired entry change caller call called releases mem keyed retire =>
    exact fun after there => .inl (amended_origin sound.listed mem
      (retire_evolved (sound.listed.formed entry mem) retire) after there)
  | acknowledged entry caller receipt called named mem =>
    exact fun after there => .inl (settled_origin sound.listed (fun entry => { entry with isAcknowledged := true })
      (fun _ => rfl) mem ⟨rfl, Nat.le_refl _, fun _ replied => replied, id⟩ after there)
  | moved release called innermost =>
    obtain ⟨entry, mem, same, _⟩ := sound.pending.backed release (lookup_key_some innermost).1
    have found := lookup_key_mem sound.listed.distinct mem
    simp only [Queue.movePayload, ← same, found]
    exact fun after there => .inl (amended_origin sound.listed mem
      ⟨rfl, Nat.le_refl _, fun _ replied => replied, fun _ => rfl⟩ after there)
  | finished release bytes called innermost =>
    obtain ⟨entry, mem, same, _⟩ := sound.pending.backed release (lookup_key_some innermost).1
    have listed : Queue.Listed { system.queue with parameterBytes := system.queue.parameterBytes - bytes } :=
      { sound.listed with }
    simp only [Queue.finishRelease, ← same]
    exact fun after there => .inl (settled_origin listed (fun entry => { entry with isReleasingPayload := false })
      (fun _ => rfl) mem ⟨rfl, Nat.le_refl _, fun _ replied => replied, id⟩ after there)
  | _ => exact fun after there => .inl ⟨after, there, Evolved.refl after⟩

end Origins

namespace System

def before (start : System) (events : List Event) (time : Nat) : System := stateAt System.next start events time

def outcomeAt (start : System) (events : List Event) (time : Nat) : Option Outcome :=
  (events[time]?).map (fun event => ((start.before events time).step event).2)

end System

variable {start : System} {events : List Event} {time earlier later : Nat} {old new : Entry}

theorem before_succ {event : Event} (here : events[time]? = some event) :
    start.before events (time + 1) = (start.before events time).next event :=
  state_at_succ System.next start events here

theorem before_sound (sound : start.Sound) (time : Nat) : (start.before events time).Sound :=
  run_sound sound (events.take time)

theorem before_past (past : events[time]? = none) : start.before events (time + 1) = start.before events time := by
  have ended := List.getElem?_eq_none_iff.mp past
  unfold System.before stateAt
  rw [List.take_of_length_le ended, List.take_of_length_le (Nat.le_succ_of_le ended)]

theorem past_below (sound : start.Sound) (ordered : earlier ≤ later) {entry : Entry}
    (mem : entry ∈ (start.before events earlier).queue.entries)
    (space : (start.before events later).queue.hasSequenceSpace = true) :
    entry.sequence < (start.before events later).queue.nextSequence := by
  induction ordered with
  | refl => exact (before_sound sound earlier).listed.below space entry mem
  | @step later _ ih =>
    cases here : events[later]? with
    | none =>
      rw [before_past here] at space ⊢
      exact ih space
    | some event =>
      rw [before_succ here] at space ⊢
      rcases accepted_by_cases (before_sound sound later) event with ⟨_, counter, kept⟩ | ⟨_, before, _, counter⟩
      · exact counter ▸ ih (kept.symm.trans space)
      have earlier := ih before
      rw [counter]
      split
      · exact earlier
      · exact Nat.lt_succ_of_lt earlier

variable (sound : start.Sound) (there : old ∈ (start.before events earlier).queue.entries)
  (here : new ∈ (start.before events later).queue.entries) (same : new.sequence = old.sequence)
include sound there here same

theorem traced {middle : Nat} (first : earlier ≤ middle) (second : middle ≤ later) :
    ∃ entry ∈ (start.before events middle).queue.entries, Evolved entry new := by
  induction second generalizing new with
  | refl => exact ⟨new, here, Evolved.refl new⟩
  | @step later ordered ih =>
    cases event : events[later]? with
    | none =>
      rw [before_past event] at here
      exact ih here same
    | some event' =>
      rw [before_succ event] at here
      have current : (start.before events later).Sound := before_sound sound later
      rcases stepped_origin current (step_stepped event' current.sized) new here with
        ⟨entry, listed, evolved⟩ | ⟨space, fresh⟩
      · obtain ⟨origin, mem, earlier_evolved⟩ := ih listed (evolved.sequence.symm.trans same)
        exact ⟨origin, mem, earlier_evolved.trans evolved⟩
      · have below := past_below sound (Nat.le_trans first ordered) there space
        rw [← same, fresh] at below
        exact absurd below (Nat.lt_irrefl _)

theorem evolves (ordered : earlier ≤ later) : Evolved old new := by
  obtain ⟨entry, mem, evolved⟩ := traced sound there here same (Nat.le_refl _) ordered
  rw [(before_sound sound earlier).listed.same_entry there mem (same.symm.trans evolved.sequence)]
  exact evolved

end Glimmer.Backend
