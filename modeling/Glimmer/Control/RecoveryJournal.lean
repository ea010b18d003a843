import Glimmer.Control.TaskProtocol
import Glimmer.Control.Admission
import Glimmer.Lib.SlotTable
import Glimmer.Lib.Transcripts

namespace Glimmer.Control

open Lib Glimmer.Core

abbrev Token := UInt64 × UInt64

def nonzero (token : Token) : Bool := token.1 ≠ 0 || token.2 ≠ 0

structure RecoverySession where
  incarnation : Token
  nonce : Token
  peer : TaskPeerIdentity
  id : Nat
deriving DecidableEq

def kMaxSessions : Nat := 32

def kMaxEntries : Nat := 128

def kMaxMessageBytes : Nat := 256

structure JournalLimits where
  sessions : Nat := kMaxSessions
  entries : Nat := kMaxEntries
  firstSessionId : Nat := 1
  firstOperationId : Nat := 1

inductive BeginResult where
  | execute
  | replay (result : Bytes)
  | inProgress
  | rejected
  | full

-- A slot that is not used holds the default value, so it is empty here.
structure SessionSlot where
  poisoned : Bool := false
  inProgress : Bool := false
  operationsExhausted : Bool := false
  session : RecoverySession
  nextOperation : Nat
  completedThrough : Nat
  acknowledgedThrough : Nat

structure JournalEntry where
  committed : Bool := false
  sessionId : Nat
  operation : Nat
  request : Bytes
  result : Bytes := []

def JournalEntry.awaits (id operation : Nat) (entry : JournalEntry) : Bool :=
  entry.sessionId = id && entry.operation = operation && !entry.committed

-- Only the slots below the limits are ever looked at.
structure TaskRecoveryJournal where
  incarnation : Token
  limits : JournalLimits
  nextSessionId : Nat
  sessionsExhausted : Bool := false
  sessions : SlotTable SessionSlot
  entries : SlotTable JournalEntry

namespace TaskRecoveryJournal

def new (incarnation : Token) (limits : JournalLimits) : TaskRecoveryJournal :=
  { incarnation := incarnation
    limits := limits
    nextSessionId := limits.firstSessionId
    sessions := List.replicate limits.sessions none
    entries := List.replicate limits.entries none }

variable (j : TaskRecoveryJournal)

def valid : Bool :=
  nonzero j.incarnation && 0 < j.limits.sessions && j.limits.sessions ≤ kMaxSessions && 0 < j.limits.entries &&
    j.limits.entries ≤ kMaxEntries && 0 < j.limits.firstSessionId && 0 < j.limits.firstOperationId

def openSession (nonce : Token) (peer : TaskPeerIdentity) : Option RecoverySession × TaskRecoveryJournal :=
  if !j.valid ∨ !nonzero nonce ∨ peer.pid = 0 ∨ peer.startTimeTicks = 0 then (none, j)
  else match j.sessions.seek fun slot => slot.session.nonce = nonce with
    | some slot => (if slot.session.peer = peer then some slot.session else none, j)
    | none =>
      let session : RecoverySession :=
        { incarnation := j.incarnation, nonce := nonce, peer := peer, id := j.nextSessionId }
      let slot : SessionSlot :=
        { session := session
          nextOperation := j.limits.firstOperationId
          completedThrough := j.limits.firstOperationId - 1
          acknowledgedThrough := j.limits.firstOperationId - 1 }
      match j.sessions.place slot with
      | none => (none, j)
      | some sessions =>
        if j.sessionsExhausted then (none, j)
        else if j.nextSessionId = maxU64 then
          (some session, { j with sessions := sessions, sessionsExhausted := true })
        else (some session, { j with sessions := sessions, nextSessionId := j.nextSessionId + 1 })

def findSession (session : RecoverySession) : Option SessionSlot :=
  j.sessions.seek fun slot => slot.session = session

def findEntry (id operation : Nat) : Option JournalEntry :=
  j.entries.seek fun entry => entry.sessionId = id && entry.operation = operation

def writeSession (slot : SessionSlot) : TaskRecoveryJournal :=
  { j with sessions := j.sessions.put (fun other => other.session = slot.session) (some slot) }

def acknowledgeLocked (slot : SessionSlot) (through : Nat) : Option (SessionSlot × TaskRecoveryJournal) :=
  let covered (entry : JournalEntry) : Bool := entry.sessionId = slot.session.id && entry.operation ≤ through
  if through < slot.acknowledgedThrough ∨ slot.completedThrough < through then none
  else if (j.entries.seek fun entry => covered entry && !entry.committed).isSome then none
  else
    let acknowledged := { slot with acknowledgedThrough := through }
    some (acknowledged, { j with entries := j.entries.sweep covered }.writeSession acknowledged)

def beginOperation (session : RecoverySession) (operation acknowledgeThrough : Nat)
    (request : Bytes) : BeginResult × TaskRecoveryJournal :=
  if !j.valid ∨ operation = 0 ∨ request = [] ∨ kMaxMessageBytes < request.length then (.rejected, j)
  else match j.findSession session with
    | none => (.rejected, j)
    | some slot =>
      if operation ≤ slot.acknowledgedThrough ∨ operation ≤ acknowledgeThrough ∨
          acknowledgeThrough < slot.acknowledgedThrough ∨ slot.completedThrough < acknowledgeThrough then
        (.rejected, j)
      else match j.findEntry session.id operation with
        | some entry =>
          if entry.request ≠ request then (.rejected, j.writeSession { slot with poisoned := true })
          else match j.acknowledgeLocked slot acknowledgeThrough with
            | none => (.rejected, j)
            | some (_, after) => (if entry.committed then .replay entry.result else .inProgress, after)
        | none =>
          if slot.poisoned ∨ slot.inProgress ∨ slot.operationsExhausted ∨ operation ≠ slot.nextOperation then
            (.rejected, j)
          else match j.acknowledgeLocked slot acknowledgeThrough with
            | none => (.rejected, j)
            | some (acknowledged, after) =>
              match after.entries.place { sessionId := session.id, operation := operation, request := request } with
              | none => (.full, after)
              | some entries =>
                let reserved := { acknowledged with inProgress := true }
                (.execute, { after with entries := entries }.writeSession
                  (if operation = maxU64 then { reserved with operationsExhausted := true }
                    else { reserved with nextOperation := reserved.nextOperation + 1 }))

def commit (session : RecoverySession) (operation : Nat) (result : Bytes) : Bool × TaskRecoveryJournal :=
  if !j.valid ∨ result = [] ∨ kMaxMessageBytes < result.length then (false, j)
  else match j.findSession session with
    | none => (false, j)
    | some slot =>
      if !slot.inProgress then (false, j)
      else match j.entries.seek (JournalEntry.awaits session.id operation) with
        | none => (false, j)
        | some entry =>
          let settled := some { entry with committed := true, result := result }
          (true, { j with entries := j.entries.put (JournalEntry.awaits session.id operation) settled }.writeSession
            { slot with completedThrough := operation, inProgress := false })

def acknowledge (session : RecoverySession) (through : Nat) : Bool × TaskRecoveryJournal :=
  if !j.valid then (false, j)
  else match j.findSession session with
    | none => (false, j)
    | some slot =>
      match j.acknowledgeLocked slot through with
      | none => (false, j)
      | some (_, after) => (true, after)

def close (session : RecoverySession) : Bool × TaskRecoveryJournal :=
  if !j.valid then (false, j)
  else match j.findSession session with
    | none => (false, j)
    | some slot =>
      if slot.inProgress ∨ slot.acknowledgedThrough ≠ slot.completedThrough then (false, j)
      else (true, { j with sessions := j.sessions.put (fun other => other.session = session) none })

end TaskRecoveryJournal

inductive JournalCall where
  | openSession (nonce : Token) (peer : TaskPeerIdentity)
  | beginOperation (session : RecoverySession) (operation acknowledgeThrough : Nat) (request : Bytes)
  | commit (session : RecoverySession) (operation : Nat) (result : Bytes)
  | acknowledge (session : RecoverySession) (through : Nat)
  | close (session : RecoverySession)

inductive JournalReply where
  | opened (session : Option RecoverySession)
  | begun (result : BeginResult)
  | done (accepted : Bool)

abbrev JournalExchange := JournalCall × JournalReply

namespace TaskRecoveryJournal

def serve (j : TaskRecoveryJournal) : JournalCall → JournalReply × TaskRecoveryJournal
  | .openSession nonce peer => (.opened (j.openSession nonce peer).1, (j.openSession nonce peer).2)
  | .beginOperation session operation acknowledgeThrough request =>
    (.begun (j.beginOperation session operation acknowledgeThrough request).1,
      (j.beginOperation session operation acknowledgeThrough request).2)
  | .commit session operation result =>
    (.done (j.commit session operation result).1, (j.commit session operation result).2)
  | .acknowledge session through => (.done (j.acknowledge session through).1, (j.acknowledge session through).2)
  | .close session => (.done (j.close session).1, (j.close session).2)

def run (j : TaskRecoveryJournal) (calls : List JournalCall) : TaskRecoveryJournal := stateAfter serve j calls

def trace (j : TaskRecoveryJournal) (calls : List JournalCall) : List JournalExchange := transcript serve j calls

end TaskRecoveryJournal

open SlotTable

namespace TaskRecoveryJournal

def executedBy (id : Nat) : JournalExchange → Option Nat
  | ⟨.beginOperation session operation _ _, .begun .execute⟩ => if session.id = id then some operation else none
  | _ => none

def reservedBy (id operation : Nat) : JournalExchange → Option Bytes
  | ⟨.beginOperation session number _ request, .begun .execute⟩ =>
    if session.id = id ∧ number = operation then some request else none
  | _ => none

def committedBy (id operation : Nat) : JournalExchange → Option Bytes
  | ⟨.commit session number result, .done true⟩ => if session.id = id ∧ number = operation then some result else none
  | _ => none

def openedBy : JournalExchange → Option RecoverySession
  | ⟨.openSession _ _, .opened session⟩ => session
  | _ => none

structure Quiet (exchange : JournalExchange) : Prop where
  executed : ∀ id, executedBy id exchange = none
  reserved : ∀ id operation, reservedBy id operation exchange = none
  committed : ∀ id operation, committedBy id operation exchange = none
  opened : openedBy exchange = none

-- The number of the operation that would come next, had they no end.
def upcoming (slot : SessionSlot) : Nat := if slot.operationsExhausted then slot.nextOperation + 1 else slot.nextOperation

def upcomingId (j : TaskRecoveryJournal) : Nat := if j.sessionsExhausted then j.nextSessionId + 1 else j.nextSessionId

inductive Change (j : TaskRecoveryJournal) : JournalExchange → TaskRecoveryJournal → Prop where
  | still {exchange : JournalExchange} (quiet : Quiet exchange) : Change j exchange j
  | reopened {nonce : Token} {peer : TaskPeerIdentity} {slot : SessionSlot} (held : Holds j.sessions slot) :
      Change j ⟨.openSession nonce peer, .opened (some slot.session)⟩ j
  | opened {nonce : Token} {peer : TaskPeerIdentity} {session : RecoverySession} {slot : SessionSlot}
      {sessions : SlotTable SessionSlot} {after : TaskRecoveryJournal} (room : j.sessionsExhausted = false)
      (numbered : 0 < j.limits.firstOperationId) (number : session.id = j.nextSessionId)
      (shape : slot = SessionSlot.mk false false false session j.limits.firstOperationId (j.limits.firstOperationId - 1)
        (j.limits.firstOperationId - 1))
      (placed : j.sessions.place slot = some sessions) (filled : after.sessions = sessions)
      (entries : after.entries = j.entries) (limits : after.limits = j.limits)
      (counter : after.upcomingId = j.nextSessionId + 1) :
      Change j ⟨.openSession nonce peer, .opened (some session)⟩ after
  | poisoned {exchange : JournalExchange} {slot : SessionSlot} (quiet : Quiet exchange) (held : Holds j.sessions slot) :
      Change j exchange (j.writeSession { slot with poisoned := true })
  | acknowledged {exchange : JournalExchange} {slot next : SessionSlot} {through : Nat} {after : TaskRecoveryJournal}
      (quiet : Quiet exchange) (held : Holds j.sessions slot)
      (moved : j.acknowledgeLocked slot through = some (next, after)) : Change j exchange after
  | executed {session : RecoverySession} {operation through : Nat} {request : Bytes}
    {slot acknowledged next : SessionSlot}
      {after : TaskRecoveryJournal} {entries : SlotTable JournalEntry} (held : Holds j.sessions slot)
      (named : slot.session = session) (idle : slot.inProgress = false) (room : slot.operationsExhausted = false)
      (turn : operation = slot.nextOperation)
      (moved : j.acknowledgeLocked slot through = some (acknowledged, after))
      (placed : after.entries.place { sessionId := session.id, operation := operation, request := request } =
        some entries)
      (shape : next = { acknowledged with
        inProgress := true, operationsExhausted := next.operationsExhausted, nextOperation := next.nextOperation })
      (advanced : upcoming next = operation + 1) :
      Change j ⟨.beginOperation session operation through request, .begun .execute⟩
        ({ after with entries := entries }.writeSession next)
  | committed {session : RecoverySession} {operation : Nat} {result : Bytes} {slot : SessionSlot}
      {entry settled : JournalEntry} (held : Holds j.sessions slot) (named : slot.session = session)
      (busy : slot.inProgress = true) (found : j.entries.seek (JournalEntry.awaits session.id operation) = some entry)
      (shape : settled = { entry with committed := true, result := result }) :
      Change j ⟨.commit session operation result, .done true⟩
        ({ j with entries := j.entries.put (JournalEntry.awaits session.id operation) (some settled) }.writeSession
          { slot with completedThrough := operation, inProgress := false })
  | closed {session : RecoverySession} {slot : SessionSlot} (held : Holds j.sessions slot)
    (named : slot.session = session)
      (idle : slot.inProgress = false) (drained : slot.acknowledgedThrough = slot.completedThrough) :
      Change j ⟨.close session, .done true⟩
        { j with sessions := j.sessions.put (fun other => other.session = session) none }

variable {j : TaskRecoveryJournal} {session : RecoverySession} {through : Nat} {slot : SessionSlot}

theorem quiet_begin {operation : Nat} {request : Bytes} {result : BeginResult}
    (other : result ≠ .execute) : Quiet ⟨.beginOperation session operation through request, .begun result⟩ := by
  cases result with
  | execute => exact absurd rfl other
  | _ => exact ⟨fun _ => rfl, fun _ _ => rfl, fun _ _ => rfl, rfl⟩

theorem find_session_some (found : j.findSession session = some slot) :
    Holds j.sessions slot ∧ slot.session = session :=
  ⟨(seek_some found).1, of_decide_eq_true (seek_some found).2⟩

theorem acknowledge_locked_moves {next : SessionSlot} {after : TaskRecoveryJournal}
    (moved : j.acknowledgeLocked slot through = some (next, after)) :
    next = { slot with acknowledgedThrough := through } ∧ slot.acknowledgedThrough ≤ through ∧
      ∃ entries, after = { j with entries := entries }.writeSession next := by
  unfold acknowledgeLocked at moved
  simp only at moved
  split at moved
  · cases moved
  next range =>
  split at moved
  · cases moved
  · cases moved
    exact ⟨rfl, Nat.not_lt.mp (not_or.mp range).1, _, rfl⟩

theorem open_changes (nonce : Token) (peer : TaskPeerIdentity) :
    Change j ⟨.openSession nonce peer, .opened (j.openSession nonce peer).1⟩ (j.openSession nonce peer).2 := by
  have quiet : Quiet ⟨.openSession nonce peer, .opened none⟩ := ⟨fun _ => rfl, fun _ _ => rfl, fun _ _ => rfl, rfl⟩
  unfold openSession
  split
  · exact .still quiet
  next passed =>
  split
  · next slot found =>
    split
    · exact .reopened (seek_some found).1
    · exact .still quiet
  simp only
  split
  · exact .still quiet
  next sessions placed =>
  have numbered : 0 < j.limits.firstOperationId := by
    have valid : j.valid = true := by
      by_contra invalid
      exact passed (.inl (by simpa using invalid))
    simp only [TaskRecoveryJournal.valid, Bool.and_eq_true, decide_eq_true_eq] at valid
    exact valid.2
  split
  · exact .still quiet
  next room =>
  have free : j.sessionsExhausted = false := by simpa using room
  split
  · exact .opened free numbered rfl rfl placed rfl rfl rfl rfl
  · exact .opened free numbered rfl rfl placed rfl rfl rfl (by rw [upcomingId, free]; rfl)

variable (session : RecoverySession)

theorem begin_changes (operation through : Nat) (request : Bytes) :
    Change j ⟨.beginOperation session operation through request,
        .begun (j.beginOperation session operation through request).1⟩
      (j.beginOperation session operation through request).2 := by
  unfold beginOperation
  split
  · exact .still (quiet_begin nofun)
  split
  · exact .still (quiet_begin nofun)
  next slot found =>
  obtain ⟨held, named⟩ := find_session_some found
  split
  · exact .still (quiet_begin nofun)
  split
  · next entry _ =>
    split
    · exact .poisoned (quiet_begin nofun) held
    split
    · exact .still (quiet_begin nofun)
    · next after moved =>
      refine .acknowledged (quiet_begin ?_) held moved
      split <;> simp
  split
  · exact .still (quiet_begin nofun)
  next ready =>
  obtain ⟨_, idle, room, turn⟩ : _ ∧ _ ∧ _ ∧ _ := by simpa only [not_or] using ready
  split
  · exact .still (quiet_begin nofun)
  next acknowledged after moved =>
  obtain ⟨shape, _⟩ := acknowledge_locked_moves moved
  split
  · exact .acknowledged (quiet_begin nofun) held moved
  next entries placed =>
  refine .executed held named (by simpa using idle) (by simpa using room) (not_not.mp turn) moved
    placed ?_ ?_
  · split <;> rfl
  have number : acknowledged.nextOperation = operation := by
    rw [shape]
    exact (not_not.mp turn).symm
  have more : acknowledged.operationsExhausted = false := by
    rw [shape]
    simpa using room
  split
  · simp [upcoming, number]
  · simp [upcoming, number, more]

theorem commit_changes (operation : Nat) (result : Bytes) :
    Change j ⟨.commit session operation result, .done (j.commit session operation result).1⟩
      (j.commit session operation result).2 := by
  have quiet : Quiet ⟨.commit session operation result, .done false⟩ :=
    ⟨fun _ => rfl, fun _ _ => rfl, fun _ _ => rfl, rfl⟩
  unfold commit
  split
  · exact .still quiet
  split
  · exact .still quiet
  next slot found =>
  obtain ⟨held, named⟩ := find_session_some found
  split
  · exact .still quiet
  next busy =>
  split
  · exact .still quiet
  · next entry awaited => exact .committed held named (by simpa using busy) awaited rfl

theorem acknowledge_changes (through : Nat) :
    Change j ⟨.acknowledge session through, .done (j.acknowledge session through).1⟩
      (j.acknowledge session through).2 := by
  have quiet : ∀ done, Quiet ⟨.acknowledge session through, .done done⟩ :=
    fun _ => ⟨fun _ => rfl, fun _ _ => rfl, fun _ _ => rfl, rfl⟩
  unfold acknowledge
  split
  · exact .still (quiet _)
  split
  · exact .still (quiet _)
  next slot found =>
  split
  · exact .still (quiet _)
  · next after moved => exact .acknowledged (quiet _) (find_session_some found).1 moved

theorem close_changes : Change j ⟨.close session, .done (j.close session).1⟩ (j.close session).2 := by
  have quiet : ∀ done, Quiet ⟨.close session, .done done⟩ :=
    fun _ => ⟨fun _ => rfl, fun _ _ => rfl, fun _ _ => rfl, rfl⟩
  unfold close
  split
  · exact .still (quiet _)
  split
  · exact .still (quiet _)
  next slot found =>
  obtain ⟨held, named⟩ := find_session_some found
  split
  · exact .still (quiet _)
  · next done =>
    obtain ⟨idle, drained⟩ := not_or.mp done
    exact .closed held named (by simpa using idle) (not_not.mp drained)

theorem serve_changes (call : JournalCall) : Change j ⟨call, (j.serve call).1⟩ (j.serve call).2 := by
  cases call with
  | openSession nonce peer => exact open_changes nonce peer
  | beginOperation session operation through request => exact begin_changes session operation through request
  | commit session operation result => exact commit_changes session operation result
  | acknowledge session through => exact acknowledge_changes session through
  | close session => exact close_changes session

end TaskRecoveryJournal

end Glimmer.Control
