import Glimmer.Control.RecoveryJournal

namespace Glimmer.Control

open Lib Glimmer.Core SlotTable JournalEntry

namespace TaskRecoveryJournal

structure HistoryView where
  executed : Nat → List Nat
  reserved : Nat → Nat → List Bytes
  committed : Nat → Nat → List Bytes
  opened : List RecoverySession

def view (history : List JournalExchange) : HistoryView where
  executed id := history.filterMap (executedBy id)
  reserved id operation := history.filterMap (reservedBy id operation)
  committed id operation := history.filterMap (committedBy id operation)
  opened := history.filterMap openedBy

def HistoryView.add (v : HistoryView) (exchange : JournalExchange) : HistoryView where
  executed id := v.executed id ++ (executedBy id exchange).toList
  reserved id operation := v.reserved id operation ++ (reservedBy id operation exchange).toList
  committed id operation := v.committed id operation ++ (committedBy id operation exchange).toList
  opened := v.opened ++ (openedBy exchange).toList

theorem view_append (history : List JournalExchange) (exchange : JournalExchange) :
    view (history ++ [exchange]) = (view history).add exchange := by
  simp only [view, HistoryView.add, filter_map_snoc]

-- A session's entries are its operations that are not acknowledged yet, and its
-- history numbers them from the first one on.
structure SlotKept (j : TaskRecoveryJournal) (v : HistoryView) (slot : SessionSlot) : Prop where
  issued : slot.session.id < j.upcomingId
  progress : slot.completedThrough + 1 + slot.inProgress.toNat = upcoming slot
  acknowledged : slot.acknowledgedThrough ≤ slot.completedThrough
  begun : j.limits.firstOperationId ≤ slot.acknowledgedThrough + 1
  live : ∀ operation, (∃ entry, Holds j.entries entry ∧ entry.sessionId = slot.session.id ∧
    entry.operation = operation) ↔ slot.acknowledgedThrough < operation ∧ operation < upcoming slot
  settled : ∀ entry, Holds j.entries entry → entry.sessionId = slot.session.id →
    (entry.committed = true ↔ entry.operation ≤ slot.completedThrough)
  executed : v.executed slot.session.id =
    List.range' j.limits.firstOperationId (upcoming slot - j.limits.firstOperationId)
  unborn : ∀ operation, upcoming slot ≤ operation →
    v.reserved slot.session.id operation = [] ∧ v.committed slot.session.id operation = []

structure EntryKept (v : HistoryView) (entry : JournalEntry) : Prop where
  reserved : v.reserved entry.sessionId entry.operation = [entry.request]
  committed : v.committed entry.sessionId entry.operation = if entry.committed then [entry.result] else []

def entryKey (entry : JournalEntry) : Nat × Nat := (entry.sessionId, entry.operation)

def sessionKey (slot : SessionSlot) : Nat := slot.session.id

structure Kept (j : TaskRecoveryJournal) (v : HistoryView) : Prop where
  sessionKeys : Keyed sessionKey j.sessions
  entryKeys : Keyed entryKey j.entries
  slots : ∀ slot, Holds j.sessions slot → SlotKept j v slot
  entries : ∀ entry, Holds j.entries entry → EntryKept v entry
  owned : ∀ entry, Holds j.entries entry → ∃ slot, Holds j.sessions slot ∧ slot.session.id = entry.sessionId
  consecutive : ∀ id, ∃ count, v.executed id = List.range' j.limits.firstOperationId count
  fresh : ∀ id, j.upcomingId ≤ id →
    v.executed id = [] ∧ ∀ operation, v.reserved id operation = [] ∧ v.committed id operation = []
  opened : ∀ session ∈ v.opened, session.id < j.upcomingId ∧
    ∀ slot, Holds j.sessions slot → slot.session.id = session.id → slot.session = session
  distinct : ∀ first ∈ v.opened, ∀ second ∈ v.opened, first.id = second.id → first = second

variable {exchange : JournalExchange} {slot : SessionSlot} {after : TaskRecoveryJournal} {nonce : Token}
  {peer : TaskPeerIdentity}

theorem view_quiet (quiet : Quiet exchange) (v : HistoryView) : v.add exchange = v := by
  simp [HistoryView.add, quiet.executed, quiet.reserved, quiet.committed, quiet.opened, Option.toList_none,
    List.append_nil]

theorem view_opened {v : HistoryView} {nonce : Token} {peer : TaskPeerIdentity} {session : RecoverySession} :
    v.add ⟨.openSession nonce peer, .opened (some session)⟩ = { v with opened := v.opened ++ [session] } := by
  simp [HistoryView.add, executedBy, reservedBy, committedBy, openedBy]

theorem session_key_eq {other : SessionSlot} (same : decide (other.session = slot.session) = true) :
    sessionKey other = sessionKey slot := by
  rw [sessionKey, sessionKey, of_decide_eq_true same]

section Rewrites
variable {j : TaskRecoveryJournal} {v w : HistoryView} {slot : SessionSlot} (kept : Kept j v)
include kept
variable {next : SessionSlot} {session : RecoverySession}

theorem holds_write (next : SessionSlot) (held : Holds j.sessions slot) (same : next.session = slot.session)
    (other : SessionSlot) : Holds (j.writeSession next).sessions other ↔
      other = next ∨ (Holds j.sessions other ∧ other.session.id ≠ slot.session.id) := by
  have written := holds_put kept.sessionKeys held
    (show decide (slot.session = next.session) = true by rw [same]; exact decide_eq_true rfl)
    (fun _ _ found => session_key_eq (by rw [← same]; exact found)) (some next) other
  refine written.trans (or_congr ⟨fun eq => (Option.some.inj eq).symm, fun eq => congrArg some eq.symm⟩ Iff.rfl)

-- One session's slot and entries are rewritten, and its history goes on; the other sessions have no part in it.
theorem kept_rewrite (next : SessionSlot) (entries : SlotTable JournalEntry) (held : Holds j.sessions slot)
    (same : next.session = slot.session) (keyed : Keyed entryKey entries)
    (foreign : ∀ entry, entry.sessionId ≠ slot.session.id → (Holds entries entry ↔ Holds j.entries entry))
    (frame : ∀ id, id ≠ slot.session.id → w.executed id = v.executed id ∧
      ∀ operation, w.reserved id operation = v.reserved id operation ∧
      w.committed id operation = v.committed id operation)
    (opened : w.opened = v.opened) (own : SlotKept { j with entries := entries } w next)
    (ownEntries : ∀ entry, Holds entries entry → entry.sessionId = slot.session.id → EntryKept w entry) :
    Kept ({ j with entries := entries }.writeSession next) w := by
  have written := holds_write kept next held same
  have apart : ∀ id, j.upcomingId ≤ id → id ≠ slot.session.id := fun id late eq =>
    Nat.lt_irrefl _ (Nat.lt_of_lt_of_le (eq ▸ (kept.slots slot held).issued) late)
  refine ⟨?_, keyed, fun other mem => ?_, fun entry mem => ?_, fun entry mem => ?_, fun id => ?_,
    fun id late => ?_, fun session listed => ?_, ?_⟩
  · refine keyed_put kept.sessionKeys held
      (show decide (slot.session = next.session) = true by rw [same]; exact decide_eq_true rfl)
      (fun _ _ found => session_key_eq (by rw [← same]; exact found)) (some next) ?_
    rintro value ⟨⟩
    rw [sessionKey, sessionKey, same]
  · rcases (written other).mp mem with rfl | ⟨before, differs⟩
    · exact { own with }
    have old := kept.slots other before
    obtain ⟨executed, rest⟩ := frame other.session.id differs
    refine { old with
      live := fun operation => ?_, settled := fun entry present mine => ?_
      executed := executed.trans old.executed, unborn := fun operation late => ?_ }
    · rw [← old.live operation]
      exact exists_congr fun entry => and_congr_left fun ⟨mine, _⟩ => foreign entry (mine ▸ differs)
    · exact old.settled entry ((foreign entry (mine ▸ differs)).mp present) mine
    · rw [(rest operation).1, (rest operation).2]
      exact old.unborn operation late
  · by_cases mine : entry.sessionId = slot.session.id
    · exact ownEntries entry mem mine
    · have old := kept.entries entry ((foreign entry mine).mp mem)
      obtain ⟨_, rest⟩ := frame entry.sessionId mine
      exact ⟨(rest _).1.trans old.reserved, (rest _).2.trans old.committed⟩
  · by_cases mine : entry.sessionId = slot.session.id
    · exact ⟨next, (written next).mpr (.inl rfl), by rw [same, mine]⟩
    · obtain ⟨owner, there, named⟩ := kept.owned entry ((foreign entry mine).mp mem)
      exact ⟨owner, (written owner).mpr (.inr ⟨there, by rw [named]; exact mine⟩), named⟩
  · by_cases mine : id = slot.session.id
    · rw [mine, ← same]
      exact ⟨_, own.executed⟩
    · rw [(frame id mine).1]
      exact kept.consecutive id
  · obtain ⟨executed, rest⟩ := frame id (apart id late)
    obtain ⟨none, nothing⟩ := kept.fresh id late
    exact ⟨executed.trans none, fun operation =>
      ⟨(rest operation).1.trans (nothing operation).1, (rest operation).2.trans (nothing operation).2⟩⟩
  · rw [opened] at listed
    refine ⟨(kept.opened session listed).1, fun other mem named => ?_⟩
    rcases (written other).mp mem with rfl | ⟨before, _⟩
    · rw [same] at named ⊢
      exact (kept.opened session listed).2 slot held named
    · exact (kept.opened session listed).2 other before named
  · rw [opened]
    exact kept.distinct

theorem kept_poison (held : Holds j.sessions slot) : Kept (j.writeSession { slot with poisoned := true }) v := by
  have own := kept.slots slot held
  exact kept_rewrite kept { slot with poisoned := true } j.entries held rfl kept.entryKeys
    (fun _ _ => Iff.rfl) (fun _ _ => ⟨rfl, fun _ => ⟨rfl, rfl⟩⟩) rfl { own with }
      (fun entry mem _ => kept.entries entry mem)

variable {through operation : Nat}

section
variable (held : Holds j.sessions slot)
include held

theorem kept_acknowledge (moved : j.acknowledgeLocked slot through = some (next, after)) :
    Kept after v ∧ Holds after.sessions next ∧ next = { slot with acknowledgedThrough := through } := by
  unfold acknowledgeLocked at moved
  simp only at moved
  split at moved
  · cases moved
  next range =>
  split at moved
  · cases moved
  cases moved
  obtain ⟨above, below⟩ := not_or.mp range
  have own := kept.slots slot held
  refine ⟨?_, (holds_write kept { slot with acknowledgedThrough := through } held rfl _).mpr (.inl rfl), rfl⟩
  refine kept_rewrite kept _ _ held rfl (keyed_sweep kept.entryKeys) (fun entry other => ?_)
    (fun _ _ => ⟨rfl, fun _ => ⟨rfl, rfl⟩⟩) rfl ?_
    (fun entry mem _ => kept.entries entry ((holds_sweep entry).mp mem).1)
  · rw [holds_sweep]
    simp [other]
  refine ⟨own.issued, own.progress, Nat.not_lt.mp below,
    own.begun.trans (Nat.succ_le_succ (Nat.not_lt.mp above)), fun operation => ?_,
    fun entry mem mine => own.settled entry ((holds_sweep entry).mp mem).1 mine, own.executed, own.unborn⟩
  refine ⟨fun ⟨entry, mem, mine, named⟩ => ?_, fun ⟨late, early⟩ => ?_⟩
  · obtain ⟨present, uncovered⟩ := (holds_sweep entry).mp mem
    simp only [mine, decide_true, Bool.true_and, decide_eq_false_iff_not, Nat.not_le, named] at uncovered
    exact ⟨uncovered, ((own.live operation).mp ⟨entry, present, mine, named⟩).2⟩
  · obtain ⟨entry, present, mine, named⟩ :=
      (own.live operation).mpr ⟨Nat.lt_of_le_of_lt (Nat.not_lt.mp above) late, early⟩
    refine ⟨entry, (holds_sweep entry).mpr ⟨present, ?_⟩, mine, named⟩
    simp only [mine, decide_true, Bool.true_and, decide_eq_false_iff_not, Nat.not_le, named]
    exact late

theorem kept_execute {request : Bytes} {entries : SlotTable JournalEntry} (named : slot.session = session)
    (idle : slot.inProgress = false) (room : slot.operationsExhausted = false) (turn : operation = slot.nextOperation)
    (placed : j.entries.place { sessionId := session.id, operation := operation, request := request } = some entries)
    (shape : next = { slot with
      inProgress := true, operationsExhausted := next.operationsExhausted, nextOperation := next.nextOperation })
    (advanced : upcoming next = operation + 1) : Kept ({ j with entries := entries }.writeSession next)
      (v.add ⟨.beginOperation session operation through request, .begun .execute⟩) := by
  subst named
  have own := kept.slots slot held
  have same : next.session = slot.session := by rw [shape]
  have completed : next.completedThrough = slot.completedThrough := by rw [shape]
  have acknowledged : next.acknowledgedThrough = slot.acknowledgedThrough := by rw [shape]
  have busy : next.inProgress = true := by rw [shape]
  have now : upcoming slot = operation := by rw [upcoming, room, turn]; rfl
  have progress : slot.completedThrough + 1 = operation := by
    have counted := own.progress
    rw [idle, now] at counted
    exact counted
  have bounds := own.acknowledged
  have begun := own.begun
  have fresh : ∀ entry, Holds j.entries entry →
      entryKey entry ≠ entryKey { sessionId := slot.session.id, operation := operation, request := request } := by
    intro entry present equal
    obtain ⟨mine, number⟩ := Prod.mk.inj equal
    have early := ((own.live operation).mp ⟨entry, present, mine, number⟩).2
    omega
  have older : ∀ entry, Holds j.entries entry → entry.sessionId = slot.session.id → entry.operation ≠ operation :=
    fun entry present mine number => fresh entry present (Prod.ext mine number)
  have present := holds_place placed
  refine kept_rewrite kept next entries held same (keyed_place kept.entryKeys placed fresh) (fun entry other => ?_)
    (fun id other => ?_) ?_ ?_ (fun entry mem mine => ?_)
  · rw [present]
    refine ⟨fun either => either.resolve_left ?_, .inr⟩
    rintro rfl
    exact other rfl
  · simp [HistoryView.add, executedBy, reservedBy, committedBy, Ne.symm other]
  · simp [HistoryView.add, openedBy]
  · refine ⟨same ▸ own.issued, by rw [completed, busy, advanced, progress]; rfl,
      by rw [completed, acknowledged]; exact bounds,
      by rw [acknowledged]; exact begun, fun number => ?_, fun entry mem mine => ?_, ?_, fun number late => ?_⟩
    · rw [acknowledged, advanced, same]
      constructor
      · rintro ⟨entry, mem, mine, equal⟩
        rcases (present entry).mp mem with rfl | before
        · simp only at equal
          omega
        · have range := (own.live number).mp ⟨entry, before, mine, equal⟩
          omega
      · rintro ⟨late, _⟩
        by_cases last : number = operation
        · exact ⟨_, (present _).mpr (.inl rfl), rfl, last.symm⟩
        · obtain ⟨entry, before, mine, equal⟩ := (own.live number).mpr ⟨late, by omega⟩
          exact ⟨entry, (present entry).mpr (.inr before), mine, equal⟩
    · rw [same] at mine
      rw [completed]
      rcases (present entry).mp mem with rfl | before
      · simp only [Bool.false_eq_true, false_iff, Nat.not_le]
        omega
      · exact own.settled entry before mine
    · simp only [HistoryView.add, executedBy, same, if_true, Option.toList_some, own.executed, now, advanced]
      have counted : operation + 1 - j.limits.firstOperationId = operation - j.limits.firstOperationId + 1 := by omega
      rw [counted, List.range'_1_concat]
      congr 2
      omega
    · rw [same]
      have old := own.unborn number (by omega)
      have apart : operation ≠ number := by omega
      simp [HistoryView.add, reservedBy, committedBy, old.1, old.2, apart]
  · rcases (present entry).mp mem with rfl | before
    · have old := own.unborn operation (by omega)
      constructor
      · simp [HistoryView.add, reservedBy, old.1]
      · simp [HistoryView.add, committedBy, old.2]
    · have old := kept.entries entry before
      have apart : operation ≠ entry.operation := fun equal => older entry before mine equal.symm
      constructor
      · simp [HistoryView.add, reservedBy, apart, old.reserved]
      · simp [HistoryView.add, committedBy, old.committed]

omit held in
theorem kept_commit {result : Bytes} {entry settled : JournalEntry}
    (shape : settled = { entry with committed := true, result := result })
    (held : Holds j.sessions slot) (named : slot.session = session) (busy : slot.inProgress = true)
    (found : j.entries.seek (awaits session.id operation) = some entry) :
    Kept ({ j with entries := j.entries.put (awaits session.id operation) (some settled) }.writeSession
        { slot with completedThrough := operation, inProgress := false })
      (v.add ⟨.commit session operation result, .done true⟩) := by
  subst named shape
  have own := kept.slots slot held
  obtain ⟨mem, passes⟩ := seek_some found
  simp only [awaits, Bool.and_eq_true, decide_eq_true_eq, Bool.not_eq_true'] at passes
  obtain ⟨⟨mine, number⟩, unsettled⟩ := passes
  have counted := own.progress
  rw [busy, Bool.toNat_true] at counted
  have range := (own.live operation).mp ⟨entry, mem, mine, number⟩
  have later : ¬ operation ≤ slot.completedThrough := by
    rw [← number, ← own.settled entry mem mine, unsettled]
    exact Bool.false_ne_true
  have turn : operation = slot.completedThrough + 1 := by omega
  have only : ∀ other, Holds j.entries other → other.awaits slot.session.id operation = true →
      entryKey other = entryKey entry := by
    intro other _ also
    simp only [awaits, Bool.and_eq_true, decide_eq_true_eq] at also
    rw [entryKey, entryKey, also.1.1, also.1.2, mine, number]
  have here : entry.awaits slot.session.id operation = true := by
    simp [awaits, mine, number, unsettled]
  have present := holds_put kept.entryKeys mem here only (some { entry with committed := true, result := result })
  have elsewhere : ∀ other, entryKey other ≠ entryKey entry → other.sessionId = slot.session.id →
    other.operation ≠ operation := by
    intro other differs also equal
    exact differs (by rw [entryKey, entryKey, also, equal, mine, number])
  refine kept_rewrite kept { slot with completedThrough := operation, inProgress := false } _ held rfl
    (keyed_put kept.entryKeys mem here only _ (by rintro value ⟨⟩; rfl)) (fun other foreign => ?_) (fun id other => ?_)
    ?_ ?_ (fun other there also => ?_)
  · rw [present]
    refine ⟨fun either => ?_, fun before => .inr ⟨before, fun equal => foreign ?_⟩⟩
    · rcases either with new | ⟨before, _⟩
      · cases new
        exact absurd mine foreign
      · exact before
    · rw [← mine]
      exact (Prod.mk.inj equal).1
  · simp [HistoryView.add, executedBy, reservedBy, committedBy, Ne.symm other]
  · simp [HistoryView.add, openedBy]
  · refine ⟨own.issued, ?_, show slot.acknowledgedThrough ≤ operation by omega, own.begun, fun wanted => ?_,
      fun other there also => ?_, ?_, fun wanted late => ?_⟩
    · simp only [upcoming, Bool.toNat_false] at counted ⊢
      omega
    · refine Iff.trans ?_ (own.live wanted)
      constructor
      · rintro ⟨other, there, also, equal⟩
        rcases (present other).mp there with new | ⟨before, _⟩
        · cases new
          exact ⟨entry, mem, mine, equal⟩
        · exact ⟨other, before, also, equal⟩
      · rintro ⟨other, before, also, equal⟩
        by_cases key : entryKey other = entryKey entry
        · obtain ⟨_, numbered⟩ := Prod.mk.inj key
          exact ⟨_, (present _).mpr (.inl rfl), mine, numbered.symm.trans equal⟩
        · exact ⟨other, (present other).mpr (.inr ⟨before, key⟩), also, equal⟩
    · rcases (present other).mp there with new | ⟨before, differs⟩
      · cases new
        simp [number]
      · have apart := elsewhere other differs also
        rw [own.settled other before also]
        show _ ↔ other.operation ≤ operation
        omega
    · simp only [HistoryView.add, executedBy, Option.toList_none, List.append_nil]
      exact own.executed
    · have late : upcoming slot ≤ wanted := late
      have old := own.unborn wanted late
      have apart : operation ≠ wanted := by omega
      simp [HistoryView.add, reservedBy, committedBy, old.1, old.2, apart]
  · rcases (present other).mp there with new | ⟨before, differs⟩
    · cases new
      have old := kept.entries entry mem
      constructor
      · simpa [HistoryView.add, reservedBy] using old.reserved
      · have nothing := old.committed
        simp only [unsettled, mine, number] at nothing
        simp [HistoryView.add, committedBy, nothing, mine, number]
    · have old := kept.entries other before
      have apart : operation ≠ other.operation := fun equal => elsewhere other differs also equal.symm
      constructor
      · simpa [HistoryView.add, reservedBy] using old.reserved
      · simpa [HistoryView.add, committedBy, apart] using old.committed

theorem holds_close (other : SessionSlot) :
    Holds (j.sessions.put (fun taken => taken.session = slot.session) none) other ↔
      Holds j.sessions other ∧ other.session.id ≠ slot.session.id := by
  have written := holds_put kept.sessionKeys held (p := fun taken => decide (taken.session = slot.session))
    (decide_eq_true rfl) (fun _ _ found => session_key_eq found) none other
  exact written.trans ⟨fun either => either.resolve_left nofun, .inr⟩

theorem kept_close (named : slot.session = session)
    (idle : slot.inProgress = false) (drained : slot.acknowledgedThrough = slot.completedThrough) :
    Kept { j with sessions := j.sessions.put (fun other => other.session = session) none } v := by
  subst named
  have own := kept.slots slot held
  have written := holds_close kept held
  have vacant : ∀ entry, Holds j.entries entry → entry.sessionId ≠ slot.session.id := by
    intro entry present mine
    have range := (own.live entry.operation).mp ⟨entry, present, mine, rfl⟩
    have counted := own.progress
    rw [idle, Bool.toNat_false] at counted
    omega
  refine ⟨keyed_put kept.sessionKeys held (decide_eq_true rfl) (fun _ _ found => session_key_eq found) none nofun,
    kept.entryKeys, fun other mem => ?_, kept.entries, fun entry present => ?_,
    kept.consecutive, kept.fresh, fun opened listed => ?_, kept.distinct⟩
  · exact { kept.slots other ((written other).mp mem).1 with }
  · obtain ⟨owner, there, mine⟩ := kept.owned entry present
    exact ⟨owner, (written owner).mpr ⟨there, fun same => vacant entry present (mine.symm.trans same)⟩, mine⟩
  · refine ⟨(kept.opened opened listed).1, fun other mem mine => ?_⟩
    exact (kept.opened opened listed).2 other ((written other).mp mem).1 mine

omit held in
theorem distinct_snoc (fresh : ∀ first ∈ v.opened, first.id = session.id → first = session) :
    ∀ first ∈ v.opened ++ [session], ∀ second ∈ v.opened ++ [session], first.id = second.id → first = second := by
  intro first one second two equal
  rcases mem_snoc.mp one with oldFirst | rfl
  · rcases mem_snoc.mp two with oldSecond | rfl
    · exact kept.distinct first oldFirst second oldSecond equal
    · exact fresh first oldFirst equal
  · rcases mem_snoc.mp two with oldSecond | rfl
    · exact (fresh second oldSecond equal.symm).symm
    · rfl

theorem kept_reopen : Kept j (v.add ⟨.openSession nonce peer, .opened (some slot.session)⟩) := by
  rw [view_opened]
  refine { kept with
    slots := fun other mem => { kept.slots other mem with }
    entries := fun entry mem => { kept.entries entry mem with }
    opened := fun session listed => ?_
    distinct := distinct_snoc kept fun first old equal => ((kept.opened first old).2 slot held equal.symm).symm }
  rcases mem_snoc.mp listed with old | rfl
  · exact kept.opened session old
  · refine ⟨(kept.slots slot held).issued, fun other mem equal => ?_⟩
    rw [keyed_unique kept.sessionKeys mem held equal]

end

end Rewrites

variable {j : TaskRecoveryJournal} {v : HistoryView} (kept : Kept j v)
include kept

theorem kept_open {session : RecoverySession} {sessions : SlotTable SessionSlot} (room : j.sessionsExhausted = false)
    (numbered : 0 < j.limits.firstOperationId) (number : session.id = j.nextSessionId)
    (shape : slot = SessionSlot.mk false false false session j.limits.firstOperationId (j.limits.firstOperationId - 1)
      (j.limits.firstOperationId - 1))
    (placed : j.sessions.place slot = some sessions) (filled : after.sessions = sessions)
    (entries : after.entries = j.entries)
    (limits : after.limits = j.limits) (counter : after.upcomingId = j.nextSessionId + 1) :
    Kept after (v.add ⟨.openSession nonce peer, .opened (some session)⟩) := by
  have now : j.upcomingId = j.nextSessionId := by rw [upcomingId, room]; rfl
  have named : slot.session = session := by rw [shape]
  have unheld : ∀ other, Holds j.sessions other → sessionKey other ≠ sessionKey slot := by
    intro other mem equal
    have issued := (kept.slots other mem).issued
    rw [sessionKey, sessionKey, named, number] at equal
    omega
  have unopened : ∀ first ∈ v.opened, first.id ≠ session.id := by
    intro first old equal
    have issued := (kept.opened first old).1
    omega
  have unowned : ∀ entry, Holds j.entries entry → entry.sessionId ≠ slot.session.id := by
    intro entry mem mine
    obtain ⟨owner, there, equal⟩ := kept.owned entry mem
    exact unheld owner there (equal.trans mine)
  have present := holds_place placed
  obtain ⟨executed, rest⟩ := kept.fresh session.id (by rw [number, now])
  have own : SlotKept after { v with opened := v.opened ++ [session] } slot := by
    have first : upcoming slot = j.limits.firstOperationId := by rw [shape]; rfl
    refine ⟨by rw [named, number, counter]; exact Nat.lt_succ_self _, ?_, by rw [shape], ?_, fun operation => ?_,
      fun entry mem mine => absurd mine (unowned entry (entries ▸ mem)), ?_, fun operation _ => named ▸ rest operation⟩
    · rw [first, shape, Bool.toNat_false]
      show j.limits.firstOperationId - 1 + 1 + 0 = _
      omega
    · rw [shape, limits]
      show _ ≤ j.limits.firstOperationId - 1 + 1
      omega
    · rw [first, entries]
      constructor
      · rintro ⟨entry, mem, mine, _⟩
        exact absurd mine (unowned entry mem)
      · rintro ⟨late, early⟩
        rw [shape] at late
        have late : j.limits.firstOperationId - 1 < operation := late
        omega
    · rw [first, limits, Nat.sub_self, named]
      exact executed
  rw [view_opened]
  subst filled
  refine ⟨keyed_place kept.sessionKeys placed unheld, entries ▸ kept.entryKeys, fun other mem => ?_,
    fun entry mem => { kept.entries entry (entries ▸ mem) with }, fun entry mem => ?_, limits ▸ kept.consecutive,
    fun id late => kept.fresh id (by omega), fun opened listed => ?_,
    distinct_snoc kept fun first old equal => absurd equal (unopened first old)⟩
  · rcases (present other).mp mem with rfl | before
    · exact own
    · have old := kept.slots other before
      have issued := old.issued
      exact ⟨by omega, old.progress, old.acknowledged, limits ▸ old.begun, entries ▸ old.live, entries ▸ old.settled,
        limits ▸ old.executed, old.unborn⟩
  · obtain ⟨owner, there, equal⟩ := kept.owned entry (entries ▸ mem)
    exact ⟨owner, (present owner).mpr (.inr there), equal⟩
  · rcases mem_snoc.mp listed with old | rfl
    · have known := kept.opened opened old
      refine ⟨by omega, fun other mem equal => ?_⟩
      rcases (present other).mp mem with rfl | before
      · exact absurd (named ▸ equal).symm (unopened opened old)
      · exact known.2 other before equal
    · refine ⟨by omega, fun other mem equal => ?_⟩
      rcases (present other).mp mem with rfl | before
      · exact named
      · exact absurd (equal.trans (congrArg RecoverySession.id named.symm)) (unheld other before)

theorem change_kept (change : Change j exchange after) : Kept after (v.add exchange) := by
  cases change with
  | still quiet => exact (view_quiet quiet v).symm ▸ kept
  | reopened held => exact kept_reopen kept held
  | opened room numbered number shape placed filled entries limits counter =>
    exact kept_open kept room numbered number shape placed filled entries limits counter
  | poisoned quiet held => exact (view_quiet quiet v).symm ▸ kept_poison kept held
  | acknowledged quiet held moved => exact (view_quiet quiet v).symm ▸ (kept_acknowledge kept held moved).1
  | executed held named idle room turn moved placed shape advanced =>
    obtain ⟨keeps, there, same⟩ := kept_acknowledge kept held moved
    subst same
    exact kept_execute keeps there named idle room turn placed shape advanced
  | committed held named busy found shape => exact kept_commit kept shape held named busy found
  | closed held named idle drained =>
    rw [view_quiet ⟨fun _ => rfl, fun _ _ => rfl, fun _ _ => rfl, rfl⟩]
    exact kept_close kept held named idle drained

end TaskRecoveryJournal

end Glimmer.Control
