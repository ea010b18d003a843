import Glimmer.Control.LaunchGate

namespace Glimmer.Interceptor

open Lib Glimmer.Core Control

-- Event creation, recording and destruction succeed, so the event recorded behind a kernel is named by the kernel.
abbrev KernelId := Nat

structure LaunchBatchState where
  remainingLaunches : Nat
  activeCalls : Nat
  closeRequested : Bool

structure ThreadLaunchBatch where
  taskId : TaskId
  finalLaunch : Bool

structure PendingLaunch where
  taskId : TaskId
  sequence : Nat
  event : KernelId
  leaseLost : Bool := false

structure BatchState where
  closed : Bool := false
  failed : Bool := false

structure LaunchCompletionTracker where
  pending : List PendingLaunch := []
  batches : KeyedMap TaskId BatchState := ∅
  nextIndex : Nat := 0
  nextSequence : Nat := 1

namespace LaunchCompletionTracker

variable (t : LaunchCompletionTracker) (id : TaskId)

def hasPending : Bool := t.pending.any fun launch => launch.taskId = id

def loseLeases (pending : List PendingLaunch) (id : TaskId) : List PendingLaunch :=
  pending.map fun launch => if launch.taskId = id then { launch with leaseLost := true } else launch

-- The section in which track registers a recorded event; a failed batch rejects it.
def track (event : KernelId) : Bool × LaunchCompletionTracker :=
  let batch := t.batches.lookup id
  if batch.any BatchState.failed then (false, t)
  else
    (true, { t with
      batches := t.batches.insert id (batch.getD {})
      pending := t.pending ++ [{ taskId := id, sequence := t.nextSequence, event := event }]
      nextSequence := t.nextSequence + 1 })

-- The first result says how the gate's task ends, if this call ends it.
def closeBatch : Option Bool × LaunchCompletionTracker :=
  match t.batches.lookup id with
  | none => (none, t)
  | some batch =>
    if t.hasPending id then (none, { t with batches := t.batches.insert id { batch with closed := true } })
    else (some (!batch.failed), { t with batches := t.batches.erase id })

def fail : Bool × LaunchCompletionTracker :=
  if t.hasPending id then
    (false, { t with
      batches := t.batches.insert id { closed := true, failed := true }
      pending := loseLeases t.pending id })
  else (true, { t with batches := t.batches.erase id })

def pick : Option PendingLaunch × LaunchCompletionTracker :=
  let index := if t.nextIndex ≥ t.pending.length then 0 else t.nextIndex
  match t.pending[index]? with
  | none => (none, t)
  | some candidate => (some candidate, { t with nextIndex := (index + 1) % t.pending.length })

def isCandidate (candidate launch : PendingLaunch) : Bool :=
  launch.taskId = candidate.taskId ∧ launch.sequence = candidate.sequence

-- The removal of an event that was seen complete, and what it decides about its batch.
def retire (candidate : PendingLaunch) : Option Bool × LaunchCompletionTracker :=
  let id := candidate.taskId
  let rest := t.pending.eraseP (isCandidate candidate)
  let index := t.pending.findIdx (isCandidate candidate)
  let removed := { t with
    pending := rest
    nextIndex := if index = t.pending.length then t.nextIndex else if rest = [] then 0 else index % rest.length }
  match t.batches.lookup id with
  | none => (some false, removed)
  | some batch =>
    let failed := batch.failed || candidate.leaseLost
    let marked := if candidate.leaseLost then { removed with pending := loseLeases rest id } else removed
    if !marked.hasPending id && batch.closed then (some (!failed), { marked with batches := t.batches.erase id })
    else (none, { marked with batches := t.batches.insert id { batch with failed := failed } })

end LaunchCompletionTracker

-- Where a thread is between entering an intercepted launch and leaving it. The failing phases remember whether they end
-- a rejected track, whose batch entry is dropped last.
inductive LaunchPhase where
  | idle
  | requesting
  | waiting
  | admitted (id : TaskId)
  | launching (id : TaskId)
  | launched (id : TaskId) (kernel : KernelId)
  | failed (id : TaskId)
  | failing (id : TaskId) (rejected : Bool)
  | failingGate (id : TaskId) (rejected : Bool)
  | dropping (id : TaskId)
  | tracked (id : TaskId)
  | closing (id : TaskId)
  | closingGate (id : TaskId) (completes : Bool)
deriving DecidableEq

def LaunchPhase.admittedUnder : LaunchPhase → Option TaskId
  | .idle | .requesting | .waiting => none
  | .admitted id | .launching id | .launched id _ | .failed id | .failing id _ | .failingGate id _ | .dropping id
  | .tracked id | .closing id | .closingGate id _ => some id

inductive MonitorPhase where
  | idle
  | picked (candidate : PendingLaunch)
  | beating (candidate : PendingLaunch)
  | failing (candidate : PendingLaunch)
  | failingGate (candidate : PendingLaunch)
  | querying (candidate : PendingLaunch)
  | observed (candidate : PendingLaunch)
  | finishing (id : TaskId) (completes : Bool)

-- What the environment accepts: both counts are read as positive.
structure LaunchConfig where
  gate : LaunchGateOptions
  batchSize : Nat
  someSlot : 0 < gate.maxConcurrentLaunches
  someLaunch : 0 < batchSize

-- The gate, the batch map, the thread-local markers and the tracker, each under its own lock, and the position of every
-- thread and of the monitor. kernels holds what the device still runs as far as any event has shown; admissions lists
-- the launches that entered the driver, by task.
structure LaunchSystem where
  batchSize : Nat
  gate : LaunchGate
  batches : KeyedMap TaskId LaunchBatchState := ∅
  markers : KeyedMap ThreadId ThreadLaunchBatch := ∅
  tracker : LaunchCompletionTracker := {}
  phases : KeyedMap ThreadId LaunchPhase := ∅
  monitor : MonitorPhase := .idle
  kernels : KeyedMap KernelId TaskId := ∅
  nextKernel : Nat := 0
  admissions : List TaskId := []

-- One critical section of a launching thread or of the monitor; a step whose thread is elsewhere does nothing.
inductive LaunchStep where
  | enter (thread : ThreadId) (order : List TaskId)
  | acquire (thread : ThreadId) (now : TimePoint) (clock : Nat → TimePoint)
  | wake (thread : ThreadId) (clock : Nat → TimePoint)
  | emplace (thread : ThreadId) (allocated : Bool)
  | launch (thread : ThreadId) (succeeded : Bool)
  | dropFailed (thread : ThreadId)
  | failTracker (thread : ThreadId)
  | failGate (thread : ThreadId) (now : TimePoint) (clock : Nat → TimePoint)
  | dropRejected (thread : ThreadId)
  | track (thread : ThreadId)
  | finish (thread : ThreadId)
  | close (thread : ThreadId)
  | closeGate (thread : ThreadId) (now : TimePoint) (clock : Nat → TimePoint)
  | pick
  | beat (due : Bool)
  | heartbeat
  | failBeat
  | failBeatGate (now : TimePoint) (clock : Nat → TimePoint)
  | query (done : Bool)
  | retire
  | finishGate (now : TimePoint) (clock : Nat → TimePoint)

namespace LaunchSystem

def new (config : LaunchConfig) : LaunchSystem where
  batchSize := config.batchSize
  gate := .new config.gate

variable (sys : LaunchSystem) (thread : ThreadId) (id : TaskId) (rejected : Bool)

def phaseOf : LaunchPhase := (sys.phases.lookup thread).getD .idle

def move (phase : LaunchPhase) : LaunchSystem :=
  { sys with phases := sys.phases.insert thread phase }

-- The batch map is walked in its own order: the given ids first, then the rest.
def openBatch (order : List TaskId) : Option (TaskId × LaunchBatchState) :=
  (order ++ sys.batches.keys).findSome? fun id =>
    ((sys.batches.lookup id).filter fun batch => batch.remainingLaunches ≠ 0 ∧ ¬ batch.closeRequested).map fun batch =>
      (id, batch)

def clearMarker : LaunchSystem :=
  { sys with markers := sys.markers.erase thread }

def marks : Bool :=
  (sys.markers.lookup thread).any fun marker => marker.taskId = id

def beginLaunch (batch : LaunchBatchState) (final : Bool) : LaunchSystem :=
  { sys.move thread (.launching id) with
    batches := sys.batches.insert id batch
    markers := sys.markers.insert thread ⟨id, final⟩
    admissions := id :: sys.admissions }

def enter (order : List TaskId) : LaunchSystem :=
  match if sys.batchSize > 1 then sys.openBatch order else none with
  | none => sys.move thread .requesting
  | some (id, batch) =>
    let remaining := batch.remainingLaunches - 1
    sys.beginLaunch thread id
      { batch with remainingLaunches := remaining, activeCalls := batch.activeCalls + 1 } (remaining = 0)

def takeAnswer : AcquireResult × LaunchGate → LaunchSystem
  | (.granted id, gate) => { sys.move thread (.admitted id) with gate := gate }
  | (.waiting, gate) => { sys.move thread .waiting with gate := gate }
  | (_, gate) => { sys.move thread .idle with gate := gate }

def emplace (allocated : Bool) : LaunchSystem :=
  if allocated ∧ (sys.batches.lookup id).isNone then
    sys.beginLaunch thread id
      { remainingLaunches := sys.batchSize - 1, activeCalls := 1, closeRequested := false } (sys.batchSize = 1)
  else sys.move thread (.failingGate id false)

def launch (succeeded : Bool) : LaunchSystem :=
  if succeeded then
    { sys.move thread (.launched id sys.nextKernel) with
      kernels := sys.kernels.insert sys.nextKernel id
      nextKernel := sys.nextKernel + 1 }
  else sys.move thread (.failed id)

def dropFailed : LaunchSystem :=
  let dropped := { sys.move thread (.failing id false) with batches := sys.batches.erase id }
  if sys.marks thread id then dropped.clearMarker thread else dropped

def afterFail : LaunchPhase := if rejected then .dropping id else .idle

def failTracker : LaunchSystem :=
  match sys.tracker.fail id with
  | (true, tracker) => { sys.move thread (.failingGate id rejected) with tracker := tracker }
  | (false, tracker) => { sys.move thread (afterFail id rejected) with tracker := tracker }

def failGate (now : TimePoint)
    (clock : Nat → TimePoint) : LaunchSystem :=
  { sys.move thread (afterFail id rejected) with gate := (sys.gate.fail id now clock).2 }

def dropRejected : LaunchSystem :=
  let left := sys.move thread .idle
  if sys.marks thread id then { left.clearMarker thread with batches := sys.batches.erase id } else left

def track (kernel : KernelId) : LaunchSystem :=
  match sys.tracker.track id kernel with
  | (true, tracker) => { sys.move thread (.tracked id) with tracker := tracker }
  | (false, _) => sys.move thread (.failing id true)

def finish : LaunchSystem :=
  match sys.markers.lookup thread, sys.batches.lookup id with
  | some marker, some batch =>
    if marker.taskId ≠ id then sys.move thread .idle
    else if batch.activeCalls = 0 then (sys.move thread .idle).clearMarker thread
    else
      let left := { batch with
        activeCalls := batch.activeCalls - 1
        closeRequested := batch.closeRequested || marker.finalLaunch }
      if left.closeRequested ∧ left.activeCalls = 0 then
        { (sys.move thread (.closing id)).clearMarker thread with batches := sys.batches.erase id }
      else { (sys.move thread .idle).clearMarker thread with batches := sys.batches.insert id left }
  | some marker, none =>
    if marker.taskId ≠ id then sys.move thread .idle else (sys.move thread .idle).clearMarker thread
  | none, _ => sys.move thread .idle

def close : LaunchSystem :=
  match sys.tracker.closeBatch id with
  | (some completes, tracker) => { sys.move thread (.closingGate id completes) with tracker := tracker }
  | (none, tracker) => { sys.move thread .idle with tracker := tracker }

def endTask (gate : LaunchGate) (id : TaskId) (completes : Bool) (now : TimePoint) (clock : Nat → TimePoint) :
    LaunchGate :=
  if completes then (gate.complete id now clock).2 else (gate.fail id now clock).2

def monitorStep : LaunchStep → LaunchSystem
  | .pick =>
    match sys.monitor, sys.tracker.pick with
    | .idle, (some candidate, tracker) => { sys with monitor := .picked candidate, tracker := tracker }
    | _, _ => sys
  | .beat due =>
    match sys.monitor with
    | .picked candidate =>
      -- The heartbeat is due only while the launch is still listed.
      if due ∧ sys.tracker.pending.any (LaunchCompletionTracker.isCandidate candidate) then
        { sys with monitor := .beating candidate }
      else { sys with monitor := .querying candidate }
    | _ => sys
  | .heartbeat =>
    match sys.monitor with
    | .beating candidate =>
      if sys.gate.scheduler.taskState candidate.taskId = some .running then
        { sys with monitor := .querying candidate }
      else { sys with monitor := .failing candidate }
    | _ => sys
  | .failBeat =>
    match sys.monitor with
    | .failing candidate =>
      match sys.tracker.fail candidate.taskId with
      | (true, tracker) => { sys with monitor := .failingGate candidate, tracker := tracker }
      | (false, tracker) => { sys with monitor := .querying candidate, tracker := tracker }
    | _ => sys
  | .failBeatGate now clock =>
    match sys.monitor with
    | .failingGate candidate =>
      { sys with monitor := .querying candidate, gate := (sys.gate.fail candidate.taskId now clock).2 }
    | _ => sys
  | .query done =>
    match sys.monitor with
    | .querying candidate =>
      if done then { sys with monitor := .observed candidate, kernels := sys.kernels.erase candidate.event }
      else { sys with monitor := .idle }
    | _ => sys
  | .retire =>
    match sys.monitor with
    | .observed candidate =>
      match sys.tracker.retire candidate with
      | (some completes, tracker) =>
        { sys with monitor := .finishing candidate.taskId completes, tracker := tracker }
      | (none, tracker) => { sys with monitor := .idle, tracker := tracker }
    | _ => sys
  | .finishGate now clock =>
    match sys.monitor with
    | .finishing id completes => { sys with monitor := .idle, gate := endTask sys.gate id completes now clock }
    | _ => sys
  | _ => sys

def step : LaunchStep → LaunchSystem
  | .enter thread order => match sys.phaseOf thread with
      | .idle => sys.enter thread order
      | _ => sys
  | .acquire thread now clock => match sys.phaseOf thread with
      | .requesting => sys.takeAnswer thread (sys.gate.acquire thread false now clock)
      | _ => sys
  | .wake thread clock => match sys.phaseOf thread with
      | .waiting => sys.takeAnswer thread (sys.gate.wake thread false clock)
      | _ => sys
  | .emplace thread allocated => match sys.phaseOf thread with
      | .admitted id => sys.emplace thread id allocated
      | _ => sys
  | .launch thread succeeded => match sys.phaseOf thread with
      | .launching id => sys.launch thread id succeeded
      | _ => sys
  | .dropFailed thread => match sys.phaseOf thread with
      | .failed id => sys.dropFailed thread id
      | _ => sys
  | .failTracker thread => match sys.phaseOf thread with
      | .failing id rejected => sys.failTracker thread id rejected
      | _ => sys
  | .failGate thread now clock => match sys.phaseOf thread with
      | .failingGate id rejected => sys.failGate thread id rejected now clock
      | _ => sys
  | .dropRejected thread => match sys.phaseOf thread with
      | .dropping id => sys.dropRejected thread id
      | _ => sys
  | .track thread => match sys.phaseOf thread with
      | .launched id kernel => sys.track thread id kernel
      | _ => sys
  | .finish thread => match sys.phaseOf thread with
      | .tracked id => sys.finish thread id
      | _ => sys
  | .close thread => match sys.phaseOf thread with
      | .closing id => sys.close thread id
      | _ => sys
  | .closeGate thread now clock => match sys.phaseOf thread with
      | .closingGate id completes =>
        { sys.move thread .idle with gate := endTask sys.gate id completes now clock }
      | _ => sys
  | monitored => sys.monitorStep monitored

def run (steps : List LaunchStep) : LaunchSystem := steps.foldl step sys

-- Work under the task: a thread inside an admitted launch, or a kernel that no event has shown complete.
def InFlight : Prop :=
  (∃ thread, (sys.phaseOf thread).admittedUnder = some id) ∨ ∃ kernel, sys.kernels.lookup kernel = some id

end LaunchSystem

-- What a thread is to the task it holds: early and settled threads are calls of its batch, before and after their event
-- is registered; the others hold the task alone. Strays come only out of rejected events.
inductive Role where
  | early | settled | admitted | failing | closing | ending | stray
deriving DecidableEq

def LaunchPhase.seat : LaunchPhase → Option (Role × TaskId)
  | .idle | .requesting | .waiting => none
  | .admitted id => some (.admitted, id)
  | .launching id | .launched id _ | .failed id => some (.early, id)
  | .failing id false => some (.failing, id)
  | .failingGate id false => some (.ending, id)
  | .failing id true | .failingGate id true | .dropping id => some (.stray, id)
  | .tracked id => some (.settled, id)
  | .closing id => some (.closing, id)
  | .closingGate id _ => some (.ending, id)

def LaunchPhase.roleOn (id : TaskId) (phase : LaunchPhase) : Option Role :=
  (phase.seat.filter fun seat => seat.2 = id).map Prod.fst

def MonitorPhase.finishes (id : TaskId) : MonitorPhase → Nat
  | .finishing other _ => if other = id then 1 else 0
  | _ => 0

structure Card where
  batch : Option LaunchBatchState
  entry : Option BatchState
  listed : Bool
  seats : Role → Nat
  finishing : Nat

namespace Card

def holders (c : Card) : Nat := c.seats .admitted + c.seats .failing + c.seats .closing + c.seats .ending + c.finishing

def calls (c : Card) : Nat := c.seats .early + c.seats .settled

structure Held (c : Card) : Prop where
  by_ : c.batch ≠ none ∨ c.entry ≠ none ∨ 0 < c.holders

structure Valid (c : Card) : Prop where
  noStray : c.seats .stray = 0
  counted : c.calls = (c.batch.map LaunchBatchState.activeCalls).getD 0
  sole : c.holders ≤ 1
  unbatched : 0 < c.holders → c.batch = none
  failedClosed : ∀ entry, c.entry = some entry → entry.failed = true → entry.closed = true
  closedAlone : ∀ entry, c.entry = some entry → entry.closed = true → c.batch = none ∧ c.holders = 0
  entered : 0 < c.seats .settled + c.seats .closing → c.entry ≠ none
  ended : 0 < c.seats .admitted + c.seats .ending + c.finishing → c.entry = none
  listedEntry : c.listed = true → c.entry ≠ none

def shift (c : Card) (before after : Option Role) : Card :=
  { c with seats := fun role =>
      c.seats role - (if before = some role then 1 else 0) + (if after = some role then 1 else 0) }

theorem shift_none {c : Card} : c.shift none none = c := by
  simp [shift]

end Card

namespace LaunchSystem

variable (sys : LaunchSystem)

def seats (role : Role) (id : TaskId) : Nat :=
  KeyedMap.total (fun _ phase => if phase.roleOn id = some role then 1 else 0) sys.phases

def card (id : TaskId) : Card where
  batch := sys.batches.lookup id
  entry := sys.tracker.batches.lookup id
  listed := sys.tracker.hasPending id
  seats := fun role => sys.seats role id
  finishing := sys.monitor.finishes id

variable (thread : ThreadId) (phase : LaunchPhase) (id : TaskId)

theorem role_on_idle : LaunchPhase.idle.roleOn id = none := rfl

theorem seats_move (role : Role) (id : TaskId) :
    (sys.move thread phase).seats role id + (if (sys.phaseOf thread).roleOn id = some role then 1 else 0) =
      sys.seats role id + (if phase.roleOn id = some role then 1 else 0) := by
  have inserted := KeyedMap.total_insert
    (fun (_ : ThreadId) (phase : LaunchPhase) => if phase.roleOn id = some role then 1 else 0) sys.phases thread phase
  unfold seats move phaseOf
  cases found : sys.phases.lookup thread with
  | none =>
    rw [found] at inserted
    simpa [role_on_idle] using inserted
  | some old =>
    rw [found] at inserted
    simpa using inserted

theorem seat_taken {thread : ThreadId} {role : Role} {id : TaskId}
    (sits : (sys.phaseOf thread).roleOn id = some role) : 0 < sys.seats role id := by
  unfold phaseOf at sits
  cases found : sys.phases.lookup thread with
  | none =>
    rw [found, Option.getD_none, role_on_idle] at sits
    cases sits
  | some phase =>
    rw [found, Option.getD_some] at sits
    have weighed := KeyedMap.weigh_le_total
      (fun (_ : ThreadId) (phase : LaunchPhase) => if phase.roleOn id = some role then 1 else 0) sys.phases found
    rw [if_pos sits] at weighed
    exact weighed

theorem card_move :
    (sys.move thread phase).card id = (sys.card id).shift ((sys.phaseOf thread).roleOn id) (phase.roleOn id) := by
  unfold card Card.shift
  congr 1
  funext role
  dsimp only
  have moved := seats_move sys thread phase role id
  by_cases sits : (sys.phaseOf thread).roleOn id = some role
  · have taken := seat_taken sys sits
    rw [if_pos sits] at moved ⊢
    omega
  · rw [if_neg sits] at moved ⊢
    omega

end LaunchSystem

-- The life of one task, seen on its card. A thread that holds a seat is counted there.
inductive CallStep (c : Card) : Card → Prop where
  | joined (batch next : LaunchBatchState) (found : c.batch = some batch)
      (more : next.activeCalls = batch.activeCalls + 1) :
      CallStep c { c.shift none (some .early) with batch := some next }
  | emplaced (sits : 0 < c.seats .admitted) (batch : LaunchBatchState) (one : batch.activeCalls = 1) :
      CallStep c { c.shift (some .admitted) (some .early) with batch := some batch }
  | refused (sits : 0 < c.seats .admitted) : CallStep c (c.shift (some .admitted) (some .ending))
  | dropped (sits : 0 < c.seats .early) (batch : LaunchBatchState) (found : c.batch = some batch)
      (alone : batch.activeCalls = 1) : CallStep c { c.shift (some .early) (some .failing) with batch := none }
  | returned (sits : 0 < c.seats .settled) (batch next : LaunchBatchState) (found : c.batch = some batch)
      (fewer : batch.activeCalls = next.activeCalls + 1) :
      CallStep c { c.shift (some .settled) none with batch := some next }
  | lastReturned (sits : 0 < c.seats .settled) (batch : LaunchBatchState) (found : c.batch = some batch)
      (alone : batch.activeCalls = 1) : CallStep c { c.shift (some .settled) (some .closing) with batch := none }
  | left (sits : 0 < c.seats .ending) : CallStep c (c.shift (some .ending) none)

inductive TrackerStep (c : Card) : Card → Prop where
  | tracked (sits : 0 < c.seats .early) :
      TrackerStep c { c.shift (some .early) (some .settled) with entry := some (c.entry.getD {}), listed := true }
  | lost (sits : 0 < c.seats .failing) (listed : c.listed = true) :
      TrackerStep c { c.shift (some .failing) none with entry := some { closed := true, failed := true } }
  | withdrawn (sits : 0 < c.seats .failing) (unlisted : c.listed = false) :
      TrackerStep c { c.shift (some .failing) (some .ending) with entry := none }
  | closed (sits : 0 < c.seats .closing) (entry : BatchState) (found : c.entry = some entry) :
      TrackerStep c { c.shift (some .closing) none with entry := some { entry with closed := true } }
  | drained (sits : 0 < c.seats .closing) (unlisted : c.listed = false) :
      TrackerStep c { c.shift (some .closing) (some .ending) with entry := none }
  | retired (entry next : BatchState) (listed : Bool) (found : c.entry = some entry)
      (kept : next.closed = entry.closed) (blamed : next.failed = true → entry.closed = true) :
      TrackerStep c { c with entry := some next, listed := listed }
  | lastRetired (entry : BatchState) (found : c.entry = some entry) (closed : entry.closed = true) :
      TrackerStep c { c with entry := none, listed := false, finishing := 1 }
  | finished (one : c.finishing = 1) : TrackerStep c { c with finishing := 0 }

namespace Card

variable {c d : Card}

theorem batch_alone (valid : c.Valid) {batch : LaunchBatchState} (found : c.batch = some batch) : c.holders = 0 :=
  Nat.eq_zero_of_not_pos fun some => by simp [valid.unbatched some] at found

theorem busy_open (valid : c.Valid) (busy : c.batch ≠ none ∨ 0 < c.holders) (entry : BatchState)
    (found : c.entry = some entry) : entry.closed = false ∧ entry.failed = false := by
  have unclosed : entry.closed ≠ true := fun closed => by
    obtain ⟨unbatched, alone⟩ := valid.closedAlone entry found closed
    rcases busy with batch | holders
    · exact batch unbatched
    · omega
  exact ⟨by simpa using unclosed, by simpa using fun failed => unclosed (valid.failedClosed entry found failed)⟩

theorem call_batched (valid : c.Valid) (calling : 0 < c.calls) :
    ∃ batch, c.batch = some batch ∧ 0 < batch.activeCalls := by
  have counted := valid.counted
  cases found : c.batch with
  | none =>
    rw [found] at counted
    simp at counted
    omega
  | some batch =>
    rw [found] at counted
    simp at counted
    exact ⟨batch, rfl, by omega⟩

theorem call_step_valid (step : CallStep c d) (valid : c.Valid) : d.Valid := by
  have counted := valid.counted
  have sole := valid.sole
  cases step with
  | joined _ _ found | dropped _ _ found | returned _ _ _ found | lastReturned _ _ found =>
    have free := batch_alone valid found
    have unclosed := busy_open valid (.inl (by simp [found]))
    simp only [found, Option.map_some, Option.getD_some, calls, holders] at counted free
    refine ⟨valid.noStray, ?_, ?_, ?_, valid.failedClosed, ?_, fun settled => valid.entered ?_, fun bare => ?_,
      valid.listedEntry⟩
    · simp [shift, calls]
      omega
    · simp [shift, holders]
      omega
    · simp [shift, holders] <;> omega
    · intro entry stored closed
      simp [(unclosed entry stored).1] at closed
    · simp [shift] at settled
      omega
    · simp [shift] at bare
      omega
  | emplaced sits batch one =>
    have bare := valid.ended (by omega)
    have unbatched := valid.unbatched (by simp only [holders]; omega)
    simp only [unbatched, Option.map_none, Option.getD_none, calls, holders] at counted sole
    refine ⟨valid.noStray, ?_, ?_, ?_, valid.failedClosed, ?_, ?_, ?_, valid.listedEntry⟩ <;>
      simp [shift, calls, holders, bare] <;> omega
  | refused sits | left sits =>
    have bare := valid.ended (by omega)
    have unbatched := valid.unbatched (by simp only [holders]; omega)
    simp only [holders] at sole
    refine ⟨valid.noStray, counted, ?_, fun _ => unbatched, valid.failedClosed, ?_, valid.entered, fun _ => bare,
      valid.listedEntry⟩
    · simp [shift, holders]
      omega
    · simp [shift, bare]

theorem tracker_step_valid (step : TrackerStep c d) (valid : c.Valid) : d.Valid := by
  have counted := valid.counted
  have sole := valid.sole
  cases step with
  | tracked sits =>
    obtain ⟨batch, found, _⟩ := call_batched valid (by simp only [calls]; omega)
    have free := batch_alone valid found
    have unclosed := busy_open valid (.inl (by simp [found]))
    have fresh : (c.entry.getD {}).closed = false ∧ (c.entry.getD {}).failed = false := by
      cases stored : c.entry with
      | none => exact ⟨rfl, rfl⟩
      | some entry => exact unclosed entry stored
    simp only [calls] at counted
    refine ⟨valid.noStray, ?_, sole, valid.unbatched, ?_, ?_, fun _ => by simp, ?_, fun _ => by simp⟩
    · simp [shift, calls]
      omega
    · rintro entry ⟨rfl⟩ failed
      simp [fresh.2] at failed
    · rintro entry ⟨rfl⟩ closed
      simp [fresh.1] at closed
    · simp only [holders] at free
      simp [shift]
      omega
  | lost sits | closed sits =>
    have unbatched := valid.unbatched (by simp only [holders]; omega)
    simp only [holders] at sole
    refine ⟨valid.noStray, counted, ?_, fun _ => unbatched, ?_, ?_, fun _ => by simp, ?_, fun _ => by simp⟩
    · simp [shift, holders]
      omega
    · rintro entry ⟨rfl⟩ _
      rfl
    · refine fun _ _ _ => ⟨unbatched, ?_⟩
      simp [shift, holders]
      omega
    · simp [shift]
      omega
  | withdrawn sits unlisted | drained sits unlisted =>
    have unbatched := valid.unbatched (by simp only [holders]; omega)
    have free : c.seats .early + c.seats .settled = 0 := by simpa [calls, unbatched] using counted
    simp only [holders] at sole
    refine ⟨valid.noStray, counted, ?_, fun _ => unbatched, nofun, nofun, ?_, fun _ => rfl, ?_⟩
    · simp [shift, holders]
      omega
    · simp [shift]
      omega
    · simp [shift, unlisted]
  | retired entry next listed found kept blamed =>
    refine ⟨valid.noStray, counted, sole, valid.unbatched, ?_, ?_, fun _ => by simp, ?_, fun _ => by simp⟩
    · rintro _ ⟨rfl⟩ failed
      exact kept.trans (blamed failed)
    · rintro _ ⟨rfl⟩ closed
      exact valid.closedAlone entry found (kept.symm.trans closed)
    · intro bare
      cases found.symm.trans (valid.ended bare)
  | lastRetired entry found closed =>
    obtain ⟨unbatched, free⟩ := valid.closedAlone entry found closed
    have calling : c.seats .early + c.seats .settled = 0 := by simpa [calls, unbatched] using counted
    simp only [holders] at free
    refine ⟨valid.noStray, counted, ?_, fun _ => unbatched, nofun, nofun, ?_, fun _ => rfl, nofun⟩
    · simp only [holders]
      omega
    · dsimp only
      omega
  | finished one =>
    have unbatched := valid.unbatched (by simp only [holders]; omega)
    have bare := valid.ended (by omega)
    simp only [holders] at sole
    refine ⟨valid.noStray, counted, ?_, fun _ => unbatched, valid.failedClosed, fun entry stored => ?_, valid.entered,
      fun _ => bare, valid.listedEntry⟩
    · simp only [holders]
      omega
    · cases stored.symm.trans bare

theorem call_step_was_held (step : CallStep c d) : c.Held := by
  cases step with
  | joined batch next found more | dropped sits batch found alone | returned sits batch next found fewer
  | lastReturned sits batch found alone => exact ⟨.inl (by simp [found])⟩
  | emplaced sits batch one | refused sits | left sits => exact ⟨.inr (.inr (by simp only [holders]; omega))⟩

end Card

end Glimmer.Interceptor
