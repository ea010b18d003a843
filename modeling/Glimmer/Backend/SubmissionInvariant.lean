import Glimmer.Backend.SubmissionSteps
import Glimmer.Lib.IndexedRun

namespace Glimmer.Backend

open Lib Queue Entry Glimmer.Backend.System

def Entry.payloadBytes (entry : Entry) : Nat := entry.payload.elim 0 (fun payload => payload.parameters.length)

def Release.movedBytes (release : Release) : Nat := release.moved.getD 0

structure Entry.WellFormed (entry : Entry) : Prop where
  numbered : entry.sequence ≠ 0
  queued : entry.phase = .queued → entry.generation = 0 ∧ entry.reply = none
  issuing : entry.phase = .issuing → entry.generation = 1 ∧ entry.reply = none
  replied : entry.phase ≠ .queued → entry.phase ≠ .issuing → entry.reply.isSome = true
  issued : entry.phase ≠ .queued → entry.isPhysicallyStopped = false → entry.generation ≠ 0
  stopped : entry.isPhysicallyStopped = true → entry.phase = .hostReturned
  running : entry.isPhysicallyStopped = false → entry.payload.isSome = true ∧ entry.isReleasingPayload = false
  released : entry.isPhysicallyStopped = true → entry.isReleasingPayload = false → entry.payload = none
  acknowledged : entry.isAcknowledged = true → entry.reply.isSome = true
  sized : ∀ payload, entry.payload = some payload → entry.issueParameterBytes ≤ payload.parameters.length

variable {after before : Entry}

theorem Entry.WellFormed.unstopped {entry : Entry} (formed : entry.WellFormed)
    (unreturned : entry.phase ≠ .hostReturned) :
    entry.isPhysicallyStopped = false := by
  cases stopped : entry.isPhysicallyStopped with
  | false => rfl
  | true => exact absurd (formed.stopped stopped) unreturned

theorem Entry.WellFormed.unacknowledged {entry : Entry} (formed : entry.WellFormed) (empty : entry.reply = none) :
    entry.isAcknowledged = false := by
  cases acknowledged : entry.isAcknowledged with
  | false => rfl
  | true => exact absurd (formed.acknowledged acknowledged) (by simp [empty])

theorem advance_formed (formed : before.WellFormed) (advanced : Advance before after) : after.WellFormed := by
  cases advanced with
  | limit bytes queued shorter =>
    exact { formed with sized := fun payload held => Nat.le_trans shorter (formed.sized payload held) }
  | rewrite old new bytes held sized fits unreturned =>
    have open_ : before.phase ≠ .hostReturned := by
      rcases unreturned with queued | issuing
      · simp [queued]
      simp only [Entry.isIssuing, Bool.or_eq_true, beq_iff_eq] at issuing
      rcases issuing with issuing | resuming
      · simp [issuing]
      · simp [resuming]
    have running := formed.unstopped open_
    refine { formed with running := fun stopped => ⟨rfl, (formed.running stopped).2⟩, released := ?_, sized := ?_ }
    · exact fun stopped => absurd (running.symm.trans stopped) (by simp)
    · intro payload same
      cases same
      exact fits
  | issue queued =>
    have running := formed.unstopped (by simp [queued])
    have unreplied := (formed.queued queued).2
    have unread := formed.unacknowledged unreplied
    constructor <;> simp_all [issueEntry, formed.numbered, formed.running running, formed.sized]
  | publish status origin issuing =>
    have running := formed.unstopped (by simp [issuing])
    have generation := (formed.issuing issuing).1
    constructor <;> simp_all [returned, formed.numbered, formed.running running, formed.sized]
  | continued resuming =>
    have running := formed.unstopped (by simp [resuming])
    have replied := formed.replied (by simp [resuming]) (by simp [resuming])
    have generation := formed.issued (by simp [resuming]) running
    constructor <;> simp_all [formed.numbered, formed.running running, formed.sized]
  | pause returned running =>
    have replied := formed.replied (by simp [returned]) (by simp [returned])
    have generation := formed.issued (by simp [returned]) running
    constructor <;> simp_all [formed.numbered, formed.running running, formed.sized]
  | resume paused counted =>
    have running := formed.unstopped (by simp [paused])
    have replied := formed.replied (by simp [paused]) (by simp [paused])
    constructor <;> simp_all [resumeEntry, formed.numbered, formed.running running, formed.sized]

theorem retire_formed (formed : before.WellFormed) (retired : Retire before after) : after.WellFormed := by
  cases retired with
  | reject status unreturned =>
    constructor <;> simp_all [retired, returned, formed.numbered, formed.sized]
  | complete returned running =>
    have replied := formed.replied (by simp [returned]) (by simp [returned])
    constructor <;> simp_all [retired, formed.numbered, formed.sized]

theorem advance_payload (advanced : Advance before after) :
    after.payloadBytes = before.payloadBytes ∧ after.payload.isSome = before.payload.isSome ∧
      after.isReleasingPayload = before.isReleasingPayload ∧ after.isCollectable = before.isCollectable := by
  cases advanced with
  | rewrite old new bytes held sized => simp [payloadBytes, isCollectable, held, sized]
  | _ => exact ⟨rfl, rfl, rfl, rfl⟩

theorem retire_payload (retired : Retire before after) :
    after.payload = before.payload ∧ after.isReleasingPayload = true ∧ after.isIssuing = false := by
  cases retired with
  | reject status unreturned => exact ⟨rfl, rfl, rfl⟩
  | complete returned running => exact ⟨rfl, rfl, by simp [Entry.isIssuing, retired, returned]⟩

theorem Entry.WellFormed.retirable (formed : before.WellFormed) (retired : Retire before after) :
    before.isPhysicallyStopped = false := by
  cases retired with
  | reject status unreturned =>
    rcases unreturned with queued | issuing
    · exact formed.unstopped (by simp [queued])
    · exact formed.unstopped (by simp [issuing])
  | complete returned running => exact running

-- Distinct, each well formed, none left behind by a collection, at most one in the executor's hands.
structure Queue.Listed (queue : Queue) : Prop where
  distinct : (queue.entries.map Entry.sequence).Nodup
  formed : ∀ entry ∈ queue.entries, entry.WellFormed
  kept : ∀ entry ∈ queue.entries, entry.isCollectable = false
  below : queue.hasSequenceSpace = true → ∀ entry ∈ queue.entries, entry.sequence < queue.nextSequence
  single : ∀ first ∈ queue.entries, ∀ second ∈ queue.entries, first.isIssuing = true → second.isIssuing = true →
    first.sequence = second.sequence
  counted : queue.entries.length ≤ queue.limits.maxCommands

namespace Queue.Listed

variable {queue : Queue} {entry : Entry} {change : Entry → Entry} (listed : queue.Listed)
include listed

theorem same_entry {other : Entry} (here : entry ∈ queue.entries) (there : other ∈ queue.entries)
    (same : entry.sequence = other.sequence) : entry = other :=
  List.inj_on_of_nodup_map listed.distinct here there same

theorem amended (mem : entry ∈ queue.entries) (keyed : Keyed change)
    (formed : (change entry).WellFormed) (kept : (change entry).isCollectable = false)
    (single : (change entry).isIssuing = true → entry.isIssuing = true ∨ queue.isIssuing = false) :
    (queue.modifyEntry entry.sequence change).Listed := by
  constructor
  · simp only [modifyEntry, amend_keys keyed]
    exact listed.distinct
  · exact amend_forall listed.distinct mem rfl listed.formed formed
  · exact amend_forall listed.distinct mem rfl listed.kept kept
  · intro space
    refine amend_forall listed.distinct mem rfl (listed.below space) ?_
    rw [keyed]
    exact listed.below space entry mem
  · -- an entry that issues after the change issued before it, or no entry did
    have before : ∀ record ∈ amend sequence entry.sequence change queue.entries, record.isIssuing = true →
        (∃ old ∈ queue.entries, old.isIssuing = true ∧ old.sequence = record.sequence) ∨
          (queue.isIssuing = false ∧ record.sequence = entry.sequence) := by
      intro record changed issuing
      rcases amend_mem changed with ⟨old, _⟩ | ⟨old, there, here, rfl⟩
      · exact .inl ⟨record, old, issuing, rfl⟩
      rw [listed.same_entry there mem here] at issuing ⊢
      rcases single issuing with issued | idle
      · exact .inl ⟨entry, mem, issued, (keyed entry).symm⟩
      · exact .inr ⟨idle, keyed entry⟩
    have idle : ∀ old ∈ queue.entries, old.isIssuing = true → queue.isIssuing = false → False := by
      intro old there issuing none
      exact absurd (List.any_eq_true.mpr ⟨old, there, issuing⟩) (by simpa [isIssuing] using none)
    intro first firstMember second secondMember firstIssuing secondIssuing
    rcases before first firstMember firstIssuing with ⟨old, there, issued, same⟩ | ⟨none, same⟩
    · rcases before second secondMember secondIssuing with ⟨other, there', issued', same'⟩ | ⟨none, _⟩
      · rw [← same, ← same']
        exact listed.single old there other there' issued issued'
      · exact (idle old there issued none).elim
    · rcases before second secondMember secondIssuing with ⟨other, there', issued', _⟩ | ⟨_, same'⟩
      · exact (idle other there' issued' none).elim
      · exact same.trans same'.symm
  · simp only [modifyEntry, amend_length]
    exact listed.counted

theorem struck (sequence : Nat) :
    Listed { queue with entries := strike Entry.sequence sequence queue.entries } where
  distinct := strike_distinct listed.distinct
  formed := fun entry mem => listed.formed entry (strike_mem.mp mem).1
  kept := fun entry mem => listed.kept entry (strike_mem.mp mem).1
  below := fun space entry mem => listed.below space entry (strike_mem.mp mem).1
  single := fun first firstMember second secondMember =>
    listed.single first (strike_mem.mp firstMember).1 second (strike_mem.mp secondMember).1
  counted := Nat.le_trans strike_length_le listed.counted

theorem appended (request : ExecutionRequest) (lifetime capacity : Nat) (numbered : queue.nextSequence ≠ 0)
    (space : queue.hasSequenceSpace = true) (room : queue.entries.length < queue.limits.maxCommands) :
    (queue.append (freshEntry queue.nextSequence request lifetime) capacity).Listed := by
  have below := listed.below space
  constructor
  · simp only [append, List.map_append, List.map_cons, List.map_nil]
    refine listed.distinct.append (List.nodup_singleton _) ?_
    simp only [List.disjoint_singleton, List.mem_map, not_exists, not_and]
    intro entry mem same
    exact Nat.lt_irrefl _ (same ▸ below entry mem)
  · exact List.forall_mem_append.mpr ⟨listed.formed,
      List.forall_mem_singleton.mpr (by constructor <;> simp [freshEntry, numbered])⟩
  · exact List.forall_mem_append.mpr ⟨listed.kept, by simp [Entry.isCollectable, freshEntry]⟩
  · intro left
    have counting : queue.nextSequence ≠ maxCounter := by
      intro last
      simp [append, freshEntry, last] at left
    have next : (queue.append (freshEntry queue.nextSequence request lifetime) capacity).nextSequence =
        queue.nextSequence + 1 := by
      simp [append, freshEntry, counting]
    rw [next]
    refine List.forall_mem_append.mpr ⟨fun entry mem => Nat.lt_succ_of_lt (below entry mem), ?_⟩
    simp [freshEntry]
  · have old : ∀ entry ∈ queue.entries ++ [freshEntry queue.nextSequence request lifetime],
        entry.isIssuing = true → entry ∈ queue.entries := by
      intro entry mem issuing
      rcases List.mem_append.mp mem with earlier | fresh
      · exact earlier
      · rw [List.mem_singleton.mp fresh] at issuing
        exact absurd issuing (by simp [Entry.isIssuing, freshEntry])
    intro first firstMember second secondMember firstIssuing secondIssuing
    exact listed.single first (old first firstMember firstIssuing) second (old second secondMember secondIssuing)
      firstIssuing secondIssuing
  · simpa [append] using Nat.succ_le_of_lt room

theorem settled (mem : entry ∈ queue.entries) (change : Entry → Entry) (keyed : Keyed change) :
    (queue.modifyEntry entry.sequence change).collect entry.sequence =
      if (change entry).isCollectable then
        { queue with entries := strike sequence entry.sequence queue.entries }
      else queue.modifyEntry entry.sequence change := by
  have distinct : ((amend sequence entry.sequence change queue.entries).map sequence).Nodup := by
    rw [amend_keys keyed]
    exact listed.distinct
  have found := lookup_key_mem distinct (mem_amend_hit mem rfl)
  rw [keyed] at found
  simp [collect, modifyEntry, found, strike_amend (fun record here => (keyed record).trans here)]

end Queue.Listed

def Release.Backs (release : Release) (entry : Entry) : Prop :=
  entry.sequence = release.sequence ∧ entry.isReleasingPayload = true ∧ entry.payload.isSome = release.moved.isNone

structure System.Pending (system : System) : Prop where
  unique : (system.releases.map Release.sequence).Nodup
  owned : ∀ release ∈ system.releases, ∃ isAlive,
    system.queue.executor = some { thread := release.thread, isAlive := isAlive }
  backed : ∀ release ∈ system.releases, ∃ entry ∈ system.queue.entries, release.Backs entry
  releasing : ∀ entry ∈ system.queue.entries, entry.isReleasingPayload = true →
    ∃ release ∈ system.releases, release.sequence = entry.sequence

structure System.Balanced (system : System) : Prop where
  parameters : system.queue.parameterBytes =
    (system.queue.entries.map Entry.payloadBytes).sum + (system.releases.map Release.movedBytes).sum
  parametersFit : system.queue.parameterBytes ≤ system.queue.limits.maxParameterBytes
  storages : system.queue.hostBytes = system.storages.sum
  storagesFit : system.queue.hostBytes ≤ system.queue.limits.maxRetainedHostBytes

structure System.Sound (system : System) : Prop where
  listed : system.queue.Listed
  pending : system.Pending
  balanced : system.Balanced
  live : ∀ thread, system.queue.executor = some { thread := thread, isAlive := true } → thread ∉ system.exited

namespace System.Sound

variable {system : System} {entry : Entry} {change : Entry → Entry} {thread : Nat} (sound : system.Sound)
include sound

theorem sized : system.queue.Sized :=
  fun entry mem payload held => (sound.listed.formed entry mem).sized payload held

theorem backing {release : Release} (pending : release ∈ system.releases)
    (mem : entry ∈ system.queue.entries) (same : entry.sequence = release.sequence) : release.Backs entry := by
  obtain ⟨backer, there, backs⟩ := sound.pending.backed release pending
  rw [sound.listed.same_entry mem there (same.trans backs.1.symm)]
  exact backs

theorem amended_weight (mem : entry ∈ system.queue.entries) (change : Entry → Entry) :
    ((amend sequence entry.sequence change system.queue.entries).map payloadBytes).sum + entry.payloadBytes =
      (system.queue.entries.map payloadBytes).sum + (change entry).payloadBytes :=
  amend_sum payloadBytes sound.listed.distinct mem rfl

theorem flagged (closing quarantined : Bool) :
    Sound { system with queue := { system.queue with isClosing := closing, isQuarantined := quarantined } } :=
  ⟨{ sound.listed with }, { sound.pending with }, { sound.balanced with }, sound.live⟩

theorem pending_amended (mem : entry ∈ system.queue.entries) (keyed : Keyed change)
    (holding : (change entry).payload.isSome = entry.payload.isSome)
    (releasing : (change entry).isReleasingPayload = entry.isReleasingPayload) :
    Pending { system with queue := system.queue.modifyEntry entry.sequence change } where
  unique := sound.pending.unique
  owned := sound.pending.owned
  backed := by
    intro release pending
    obtain ⟨backer, there, backs⟩ := sound.pending.backed release pending
    by_cases here : backer.sequence = entry.sequence
    · have same := sound.listed.same_entry there mem here
      subst same
      refine ⟨change backer, mem_amend_hit there rfl, (keyed backer).trans backs.1, ?_, ?_⟩
      · rw [releasing]
        exact backs.2.1
      · rw [holding]
        exact backs.2.2
    · exact ⟨backer, mem_amend_other there here, backs⟩
  releasing := by
    refine amend_forall sound.listed.distinct mem rfl sound.pending.releasing ?_
    rw [releasing, keyed]
    exact sound.pending.releasing entry mem

section
variable (mem : entry ∈ system.queue.entries) (keyed : Keyed change)
  (single : (change entry).isIssuing = true → entry.isIssuing = true ∨ system.queue.isIssuing = false)
include mem keyed single

theorem amended (formed : (change entry).WellFormed) (kept : (change entry).isCollectable = false)
    (bytes : (change entry).payloadBytes = entry.payloadBytes)
    (holding : (change entry).payload.isSome = entry.payload.isSome)
    (releasing : (change entry).isReleasingPayload = entry.isReleasingPayload) :
    Sound { system with queue := system.queue.modifyEntry entry.sequence change } := by
  refine ⟨sound.listed.amended mem keyed formed kept single,
    sound.pending_amended mem keyed holding releasing, { sound.balanced with parameters := ?_ }, sound.live⟩
  have moved := sound.amended_weight mem change
  have balanced := sound.balanced.parameters
  simp only [modifyEntry]
  omega

theorem advanced (advance : Advance entry (change entry)) :
    Sound { system with queue := system.queue.modifyEntry entry.sequence change } := by
  obtain ⟨bytes, holding, releasing, collectable⟩ := advance_payload advance
  exact sound.amended mem keyed single (advance_formed (sound.listed.formed entry mem) advance)
    (collectable.trans (sound.listed.kept entry mem)) bytes holding releasing

end

section
variable (mem : entry ∈ system.queue.entries)
include mem

theorem retired (keyed : Keyed change) (retire : Retire entry (change entry))
    (executing : system.queue.executor = some { thread := thread, isAlive := true }) :
    Sound
      { system with
        queue := system.queue.modifyEntry entry.sequence change
        releases := { thread := thread, sequence := entry.sequence } :: system.releases } := by
  obtain ⟨payload, releasing, resting⟩ := retire_payload retire
  have formed := sound.listed.formed entry mem
  have running := formed.running (formed.retirable retire)
  have fresh : ∀ release ∈ system.releases, entry.sequence ≠ release.sequence := by
    intro release pending same
    have marked := (sound.backing pending mem same).2.1
    rw [running.2] at marked
    cases marked
  have bytes : (change entry).payloadBytes = entry.payloadBytes := by simp [payloadBytes, payload]
  have moved := sound.amended_weight mem change
  have kept : (change entry).isCollectable = false := by simp [isCollectable, releasing]
  refine ⟨sound.listed.amended mem keyed (retire_formed formed retire) kept (by simp [resting]), ?_,
    { sound.balanced with parameters := ?_ }, sound.live⟩
  · constructor
    · refine List.nodup_cons.mpr ⟨?_, sound.pending.unique⟩
      intro again
      obtain ⟨release, pending, same⟩ := List.mem_map.mp again
      exact fresh release pending same.symm
    · exact List.forall_mem_cons.mpr ⟨⟨true, executing⟩, sound.pending.owned⟩
    · refine List.forall_mem_cons.mpr ⟨⟨change entry, mem_amend_hit mem rfl, keyed entry, releasing, ?_⟩, ?_⟩
      · rw [payload, running.1]
        rfl
      · intro release pending
        obtain ⟨backer, there, backs⟩ := sound.pending.backed release pending
        refine ⟨backer, mem_amend_other there (fun same => ?_), backs⟩
        exact fresh release pending (same.symm.trans backs.1)
    · refine amend_forall sound.listed.distinct mem rfl ?_ ?_
      · intro other there marked
        obtain ⟨release, pending, same⟩ := sound.pending.releasing other there marked
        exact ⟨release, List.mem_cons_of_mem _ pending, same⟩
      · exact fun _ => ⟨_, List.mem_cons_self, (keyed entry).symm⟩
  · have balanced := sound.balanced.parameters
    simp only [modifyEntry, List.map_cons, List.sum_cons, Release.movedBytes, Option.getD_none] at balanced ⊢
    omega

theorem struck (idle : entry.isReleasingPayload = false) (empty : entry.payload = none) :
    Sound
      { system with
        queue := { system.queue with entries := strike Entry.sequence entry.sequence system.queue.entries } } := by
  refine ⟨sound.listed.struck entry.sequence, { sound.pending with backed := ?_, releasing := ?_ },
    { sound.balanced with parameters := ?_ }, sound.live⟩
  · intro release pending
    obtain ⟨backer, there, backs⟩ := sound.pending.backed release pending
    refine ⟨backer, strike_mem.mpr ⟨there, fun same => ?_⟩, backs⟩
    have marked := backs.2.1
    rw [sound.listed.same_entry there mem same, idle] at marked
    cases marked
  · exact fun other there => sound.pending.releasing other (strike_mem.mp there).1
  · have left := strike_sum Entry.payloadBytes sound.listed.distinct mem rfl
    have none : entry.payloadBytes = 0 := by simp [Entry.payloadBytes, empty]
    have balanced := sound.balanced.parameters
    dsimp only
    omega

theorem acknowledged (replied : entry.reply.isSome = true) :
    Sound
      { system with
        queue := (system.queue.modifyEntry entry.sequence (fun entry => { entry with isAcknowledged := true })).collect
          entry.sequence } := by
  rw [sound.listed.settled mem (fun entry => { entry with isAcknowledged := true }) (fun _ => rfl)]
  have formed := sound.listed.formed entry mem
  split
  · next gone =>
    simp only [isCollectable, Bool.and_eq_true, Bool.not_eq_true'] at gone
    exact sound.struck mem gone.2 (formed.released gone.1.2 gone.2)
  · next kept =>
    have acknowledged : WellFormed { entry with isAcknowledged := true } :=
      { formed with acknowledged := fun _ => replied }
    exact sound.amended mem (fun _ => rfl) .inl acknowledged (by simpa using kept) rfl rfl rfl

end

theorem moved {sequence : Nat} (pending : { thread := thread, sequence := sequence } ∈ system.releases) :
    Sound
      { system with
        queue := (system.queue.movePayload sequence).1
        releases := amend Release.sequence sequence
          (fun release => { release with moved := some (system.queue.movePayload sequence).2 })
          system.releases } := by
  obtain ⟨entry, mem, rfl, releasing, _⟩ := sound.pending.backed _ pending
  have formed := sound.listed.formed entry mem
  have found := lookup_key_mem sound.listed.distinct mem
  have opened : system.queue.movePayload entry.sequence =
      (system.queue.modifyEntry entry.sequence (fun entry => { entry with payload := none }), entry.payloadBytes) := by
    simp only [movePayload, found]
    rfl
  have stopped : entry.isPhysicallyStopped = true := by
    cases running : entry.isPhysicallyStopped with
    | true => rfl
    | false => exact absurd releasing (by simp [(formed.running running).2])
  have emptied : WellFormed { entry with payload := none } :=
    { formed with
      running := fun running => absurd (stopped.symm.trans running) (by simp)
      released := fun _ _ => rfl
      sized := by simp }
  rw [opened]
  refine ⟨sound.listed.amended mem (fun _ => rfl) emptied (sound.listed.kept entry mem) .inl, ?_,
    { sound.balanced with parameters := ?_ }, sound.live⟩
  · constructor
    · have keys := @amend_keys Release Nat _ Release.sequence system.releases entry.sequence
        (fun release => { release with moved := some entry.payloadBytes }) (fun _ => rfl)
      rw [keys]
      exact sound.pending.unique
    · have owner := sound.pending.owned _ pending
      exact amend_forall sound.pending.unique pending rfl sound.pending.owned owner
    · intro changed there
      rcases amend_mem there with ⟨other, apart⟩ | ⟨old, _, here, rfl⟩
      · obtain ⟨backer, listed, backs⟩ := sound.pending.backed changed other
        refine ⟨backer, mem_amend_other listed (fun shared => apart ?_), backs⟩
        exact backs.1.symm.trans shared
      · exact ⟨_, mem_amend_hit mem rfl, here.symm, releasing, rfl⟩
    · have kept : ∀ other ∈ system.queue.entries, other.isReleasingPayload = true →
          ∃ release ∈ amend Release.sequence entry.sequence
            (fun release => { release with moved := some entry.payloadBytes }) system.releases,
            release.sequence = other.sequence := by
        intro other there marked
        obtain ⟨backer, listed, backs⟩ := sound.pending.releasing other there marked
        by_cases here : backer.sequence = entry.sequence
        · exact ⟨_, mem_amend_hit listed here, backs⟩
        · exact ⟨backer, mem_amend_other listed here, backs⟩
      exact amend_forall sound.listed.distinct mem rfl kept (kept entry mem)
  · have balanced := sound.balanced.parameters
    have left := sound.amended_weight mem (fun entry => { entry with payload := none })
    have taken : ((amend Release.sequence entry.sequence
        (fun release => { release with moved := some entry.payloadBytes }) system.releases).map
        Release.movedBytes).sum + 0 = _ + entry.payloadBytes :=
      amend_sum Release.movedBytes sound.pending.unique pending rfl
    have none : payloadBytes { entry with payload := none } = 0 := rfl
    simp only [modifyEntry] at balanced left taken ⊢
    omega

theorem finished {sequence bytes : Nat}
    (pending : { thread := thread, sequence := sequence, moved := some bytes } ∈ system.releases) :
    Sound
      { system with
        queue := system.queue.finishRelease sequence bytes
        releases := strike Release.sequence sequence system.releases } := by
  obtain ⟨entry, mem, rfl, _, holding⟩ := sound.pending.backed _ pending
  have formed := sound.listed.formed entry mem
  have empty : entry.payload = none := by simpa using holding
  have weightless : entry.payloadBytes = 0 := by simp [payloadBytes, empty]
  have backed : ∀ other ∈ strike Release.sequence entry.sequence system.releases,
      ∃ backer ∈ system.queue.entries, backer.sequence ≠ entry.sequence ∧ other.Backs backer := by
    intro other there
    obtain ⟨listed, apart⟩ := strike_mem.mp there
    obtain ⟨backer, kept, backs⟩ := sound.pending.backed other listed
    exact ⟨backer, kept, fun shared => apart (backs.1.symm.trans shared), backs⟩
  have others : ∀ other ∈ system.queue.entries, other.sequence ≠ entry.sequence → other.isReleasingPayload = true →
      ∃ release ∈ strike Release.sequence entry.sequence system.releases, release.sequence = other.sequence := by
    intro other there apart marked
    obtain ⟨backer, listed, backs⟩ := sound.pending.releasing other there marked
    exact ⟨backer, strike_mem.mpr ⟨listed, fun shared => apart (backs.symm.trans shared)⟩, backs⟩
  have balanced := sound.balanced.parameters
  have fits := sound.balanced.parametersFit
  have returned : ((strike Release.sequence entry.sequence system.releases).map Release.movedBytes).sum + bytes =
      (system.releases.map Release.movedBytes).sum := strike_sum Release.movedBytes sound.pending.unique pending rfl
  have listed : Listed { system.queue with parameterBytes := system.queue.parameterBytes - bytes } :=
    { sound.listed with }
  have unique : ((strike Release.sequence entry.sequence system.releases).map Release.sequence).Nodup :=
    strike_distinct sound.pending.unique
  have owned : ∀ other ∈ strike Release.sequence entry.sequence system.releases, ∃ isAlive,
      system.queue.executor = some { thread := other.thread, isAlive := isAlive } :=
    fun other there => sound.pending.owned other (strike_mem.mp there).1
  rw [finishRelease, listed.settled mem (fun entry => { entry with isReleasingPayload := false })
    (fun _ => rfl)]
  split
  · refine ⟨listed.struck entry.sequence, ⟨unique, owned, ?_, ?_⟩,
      { sound.balanced with parameters := ?_, parametersFit := by dsimp only; omega }, sound.live⟩
    · intro other there
      obtain ⟨backer, kept, apart, backs⟩ := backed other there
      exact ⟨backer, strike_mem.mpr ⟨kept, apart⟩, backs⟩
    · intro other there
      obtain ⟨kept, apart⟩ := strike_mem.mp there
      exact others other kept apart
    · have left := strike_sum payloadBytes sound.listed.distinct mem rfl
      dsimp only
      omega
  · next kept =>
    have released : WellFormed { entry with isReleasingPayload := false } :=
      { formed with running := fun running => ⟨(formed.running running).1, rfl⟩, released := fun _ _ => empty }
    refine ⟨listed.amended mem (fun _ => rfl) released (by simpa using kept) .inl, ⟨unique, owned, ?_, ?_⟩,
      { sound.balanced with parameters := ?_, parametersFit := by simp only [modifyEntry]; omega }, sound.live⟩
    · intro other there
      obtain ⟨backer, kept, apart, backs⟩ := backed other there
      exact ⟨backer, mem_amend_other kept apart, backs⟩
    · intro other there
      rcases amend_mem there with ⟨old, apart⟩ | ⟨old, _, _, rfl⟩
      · exact others other old apart
      · exact fun marked => absurd marked (by simp)
    · have left := sound.amended_weight mem (fun entry => { entry with isReleasingPayload := false })
      have unmoved : payloadBytes { entry with isReleasingPayload := false } = entry.payloadBytes := rfl
      simp only [modifyEntry] at left ⊢
      omega

theorem appended (request : ExecutionRequest) (lifetime : Nat)
    (holds : request.parameters.length ≤ requestCapacity request)
    (numbered : system.queue.nextSequence ≠ 0) (space : system.queue.hasSequenceSpace = true)
    (room : system.queue.entries.length < system.queue.limits.maxCommands)
    (fits : requestCapacity request ≤ system.queue.limits.maxParameterBytes - system.queue.parameterBytes) :
    Sound
      { system with
        queue := system.queue.append (freshEntry system.queue.nextSequence request lifetime)
          (requestCapacity request) } := by
  have bytes : (freshEntry system.queue.nextSequence request lifetime).payloadBytes =
      requestCapacity request := by
    simp [Entry.payloadBytes, freshEntry, Nat.add_sub_cancel' holds]
  have within := sound.balanced.parametersFit
  refine ⟨sound.listed.appended request lifetime _ numbered space room,
    { sound.pending with backed := ?_, releasing := ?_ },
    { sound.balanced with parameters := ?_, parametersFit := by simp only [append]; omega }, sound.live⟩
  · intro release pending
    obtain ⟨backer, there, backs⟩ := sound.pending.backed release pending
    exact ⟨backer, List.mem_append.mpr (.inl there), backs⟩
  · exact List.forall_mem_append.mpr ⟨sound.pending.releasing, by simp [freshEntry]⟩
  · have balanced := sound.balanced.parameters
    simp only [append, List.map_append, List.sum_append, List.map_cons, List.map_nil, List.sum_cons, List.sum_nil,
      bytes]
    omega

theorem exited (thread : Nat) : (system.exitThread thread).Sound := by
  refine ⟨{ sound.listed with }, { sound.pending with owned := ?_ },
    { sound.balanced with }, ?_⟩
  · intro release pending
    obtain ⟨isAlive, owner⟩ := sound.pending.owned release pending
    by_cases own : release.thread = thread
    · exact ⟨false, by simp [exitThread, owner, own]⟩
    · exact ⟨isAlive, by simp [exitThread, owner, own]⟩
  · intro other executing
    simp only [exitThread, Option.map_eq_some_iff] at executing
    obtain ⟨executor, bound, alive⟩ := executing
    split at alive
    · exact absurd (congrArg Executor.isAlive alive) (by simp)
    next apart =>
    subst alive
    simp only [exitThread, List.mem_cons, not_or]
    exact ⟨apart, sound.live other bound⟩

theorem kept {event : Event} {next : System} (stepped : Stepped system event next) : next.Sound := by
  cases stepped with
  | same => exact sound
  | flagged closing quarantined _ _ => exact sound.flagged closing quarantined
  | bound thread unbound live =>
    refine ⟨{ sound.listed with }, { sound.pending with owned := ?_ }, { sound.balanced with }, ?_⟩
    · intro release pending
      obtain ⟨isAlive, owner⟩ := sound.pending.owned release pending
      cases unbound.symm.trans owner
    · intro other executing
      simp only [Option.some.injEq, Executor.mk.injEq] at executing
      exact executing.1 ▸ live
  | charged bytes fits =>
    have within := sound.balanced.storagesFit
    refine ⟨{ sound.listed with }, { sound.pending with },
      { sound.balanced with storages := ?_, storagesFit := by dsimp only; omega }, sound.live⟩
    simp [sound.balanced.storages]
  | appended _ request lifetime _ _ holds numbered space room fits =>
    exact sound.appended request lifetime holds numbered space room fits
  | advanced entry change closing quarantined mem keyed advance single _ _ _ =>
    exact (sound.advanced mem keyed single advance).flagged closing quarantined
  | retired entry change caller call _ _ mem keyed retire executing =>
    exact sound.retired mem keyed retire executing
  | acknowledged entry caller receipt _ _ mem replied _ => exact sound.acknowledged mem replied
  | moved release _ innermost unmoved =>
    have pending := (lookup_key_some innermost).1
    obtain ⟨thread, sequence, _⟩ := release
    cases unmoved
    exact sound.moved pending
  | finished release bytes _ innermost moved =>
    have pending := (lookup_key_some innermost).1
    obtain ⟨thread, sequence, _⟩ := release
    cases moved
    exact sound.finished pending
  | dropped index bytes live =>
    have within := sound.balanced.storagesFit
    refine ⟨{ sound.listed with }, { sound.pending with },
      { sound.balanced with storages := ?_, storagesFit := by dsimp only; omega }, sound.live⟩
    obtain ⟨within, rfl⟩ := List.getElem?_eq_some_iff.mp live
    have total := (List.getElem_cons_eraseIdx_perm within).sum_eq
    rw [List.sum_cons] at total
    have balanced := sound.balanced.storages
    dsimp only
    omega
  | exited thread _ => exact sound.exited thread

end System.Sound

end Glimmer.Backend
