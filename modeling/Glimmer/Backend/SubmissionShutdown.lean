import Glimmer.Backend.SubmissionDrain

namespace Glimmer.Backend

open Lib

structure Kept (base system : System) : Prop where
  executor : system.queue.executor = base.queue.executor
  quarantined : system.queue.isQuarantined = base.queue.isQuarantined
  origin : ∀ entry ∈ system.queue.entries, ∃ old ∈ base.queue.entries,
    entry.sequence = old.sequence ∧ entry.phase = old.phase ∧ entry.generation = old.generation

theorem Kept.trans {first second third : System} (one : Kept first second) (two : Kept second third) :
    Kept first third := by
  refine ⟨two.executor.trans one.executor, two.quarantined.trans one.quarantined, ?_⟩
  intro entry mem
  obtain ⟨middle, there, sequence, phase, generation⟩ := two.origin entry mem
  obtain ⟨old, here, sequence', phase', generation'⟩ := one.origin middle there
  exact ⟨old, here, sequence.trans sequence', phase.trans phase', generation.trans generation'⟩

variable {sequence : Nat} {entry : Entry} {system : System} {releases : List Release}

theorem collect_mem {queue : Queue} (mem : entry ∈ (queue.collect sequence).entries) : entry ∈ queue.entries := by
  unfold Queue.collect at mem
  split at mem
  · exact mem
  · split at mem
    · exact (strike_mem.mp mem).1
    · exact mem

theorem move_payload_kept :
    Kept system { system with queue := (system.queue.movePayload sequence).1, releases := releases } := by
  obtain ⟨entries, same⟩ := move_payload_fixed system.queue sequence
  refine ⟨by simp [same], by simp [same], ?_⟩
  intro entry mem
  simp only [Queue.movePayload] at mem
  split at mem
  · exact ⟨entry, mem, rfl, rfl, rfl⟩
  · rcases amend_mem mem with ⟨old, _⟩ | ⟨old, there, _, rfl⟩
    · exact ⟨entry, old, rfl, rfl, rfl⟩
    · exact ⟨old, there, rfl, rfl, rfl⟩

theorem finish_release_kept {bytes : Nat} :
    Kept system { system with queue := system.queue.finishRelease sequence bytes, releases := releases } := by
  have fixed := collect_fixed
    (Queue.modifyEntry { system.queue with parameterBytes := system.queue.parameterBytes - bytes }
    sequence (fun entry => { entry with isReleasingPayload := false })) sequence
  refine ⟨fixed.2.2.2.1, fixed.2.2.2.2.2.2, ?_⟩
  intro entry mem
  rcases amend_mem (collect_mem mem) with ⟨old, _⟩ | ⟨old, there, _, rfl⟩
  · exact ⟨entry, old, rfl, rfl, rfl⟩
  · exact ⟨old, there, rfl, rfl, rfl⟩

section Pending
variable {start : System} {caller : Caller} {history : List Event}

theorem innermost (ready : Ready start caller history) {first : Release} {rest : List Release}
    (pending : (start.run history).releases = first :: rest) :
    first.thread = caller.thread ∧ lookupKey Release.thread caller.thread (start.run history).releases = some first := by
  obtain ⟨isAlive, owner⟩ := ready.current.pending.owned first (by rw [pending]; exact List.mem_cons_self)
  rw [ready.executing] at owner
  simp only [Option.some.injEq, Executor.mk.injEq] at owner
  exact ⟨owner.1.symm, by simp [pending, lookupKey, owner.1]⟩

def Release.sections (release : Release) : Nat := if release.moved.isNone then 2 else 1

variable (ready : Ready start caller history)
include ready

-- The executor finishes its releases, the innermost first. The induction is on the critical sections that are left.
theorem drain_pending {count : Nat} (bound : ((start.run history).releases.map Release.sections).sum ≤ count) :
    Drains start caller history (fun system => Kept (start.run history) system ∧ system.releases = []) := by
  induction count generalizing history with
  | zero =>
    refine drains_done ⟨⟨rfl, rfl, fun entry mem => ⟨entry, mem, rfl, rfl, rfl⟩⟩, ?_⟩
    cases pending : (start.run history).releases with
    | nil => rfl
    | cons first rest =>
      have pos : 1 ≤ first.sections := by
        unfold Release.sections
        split <;> decide
      rw [pending, List.map_cons, List.sum_cons] at bound
      omega
  | succ count ih =>
    have unique := ready.current.pending.unique
    cases pending : (start.run history).releases with
    | nil => exact drains_done ⟨⟨rfl, rfl, fun entry mem => ⟨entry, mem, rfl, rfl, rfl⟩⟩, pending⟩
    | cons first rest =>
      obtain ⟨own, found⟩ := innermost ready pending
      have listed : first ∈ (start.run history).releases := by
        rw [pending]
        exact List.mem_cons_self
      have turn : ∀ (event : Event) {after : System}, (start.run history).next event = after →
          event.drains caller = true → event.capability = none → Kept (start.run history) after →
          (after.releases.map Release.sections).sum ≤ count →
          Drains start caller history (fun system => Kept (start.run history) system ∧ system.releases = []) := by
        rintro event _ rfl drains free kept fewer
        rw [← run_snoc] at kept fewer
        refine drains_step event drains (fun capability presents => by cases free.symm.trans presents) ?_
        exact drains_weaken (ih (ready.later kept.executor) fewer) fun system reached => ⟨kept.trans reached.1, reached.2⟩
      obtain ⟨thread, sequence, moved⟩ := first
      cases moved with
      | none =>
        have fewer : ((amend Release.sequence sequence
            (fun release => { release with moved := some ((start.run history).queue.movePayload sequence).2 })
            (start.run history).releases).map Release.sections).sum + 2 = _ + 1 :=
          amend_sum Release.sections unique listed rfl
        refine turn (.movePayload caller.thread) (by simp only [System.next, System.step, found]; rfl)
          (by simp [Event.drains]) rfl (@move_payload_kept sequence _ _) ?_
        dsimp only
        omega
      | some bytes =>
        have fewer : ((strike Release.sequence sequence (start.run history).releases).map Release.sections).sum + 1 =
            _ := strike_sum Release.sections unique listed rfl
        refine turn (.finishRelease caller.thread) (by simp only [System.next, System.step, found]; rfl)
          (by simp [Event.drains]) rfl (@finish_release_kept sequence _ _ bytes) ?_
        dsimp only
        omega

theorem drain_command (mem : entry ∈ (start.run history).queue.entries) (unpaused : entry.phase ≠ .paused) :
    Drains start caller history (fun system => ∀ after ∈ system.queue.entries, after.sequence ≠ entry.sequence) := by
  refine drains_trans (drain_pending ready (Nat.le_refl _)) ?_
  rintro more ⟨kept, none⟩
  have later := ready.later kept.executor
  by_cases there : ∃ found ∈ (start.run (history ++ more)).queue.entries, found.sequence = entry.sequence
  · obtain ⟨found, listed, same⟩ := there
    obtain ⟨old, here, sequence, phase, _⟩ := kept.origin found listed
    have known := ready.current.listed.same_entry here mem (sequence.symm.trans same)
    have focus := Focus.start later.current listed
    rw [none] at focus
    refine drains_weaken (drain_unpaused later focus (by rw [phase, known]; exact unpaused)) ?_
    intro system gone after left
    rw [gone.queue] at left
    rw [← same]
    exact (strike_mem.mp left).2
  · exact drains_done (fun after left same => there ⟨after, left, same⟩)

-- One command after the other; a paused one waits until no other command is in the executor's hands.
theorem drain_commands {count : Nat} (none : (start.run history).releases = [])
    (healthy : (start.run history).queue.isQuarantined = false)
    (counted : ∀ entry ∈ (start.run history).queue.entries, entry.generation ≠ maxCounter)
    (bound : (start.run history).queue.entries.length ≤ count) :
    Drains start caller history (fun system => system.queue.entries = [] ∧
      system.queue.executor = some { thread := caller.thread, isAlive := true } ∧ system.releases = []) := by
  induction count generalizing history with
  | zero => exact drains_done ⟨List.eq_nil_of_length_eq_zero (Nat.le_zero.mp bound), ready.executing, none⟩
  | succ count ih =>
    have next : ∀ entry ∈ (start.run history).queue.entries,
        Drains start caller history (Gone (start.run history) entry.sequence) →
        Drains start caller history (fun system => system.queue.entries = [] ∧
          system.queue.executor = some { thread := caller.thread, isAlive := true } ∧ system.releases = []) := by
      intro entry mem drains
      refine drains_trans drains (fun more gone => ?_)
      have shape := gone.queue
      have fewer : (strike Entry.sequence entry.sequence (start.run history).queue.entries).length <
          (start.run history).queue.entries.length :=
        List.length_filter_lt_length_iff_exists.mpr ⟨entry, mem, by simp⟩
      refine ih (ready.later (by rw [shape])) gone.releases (by rw [shape]; exact healthy) ?_ ?_
      · rw [shape]
        exact fun other left => counted other (strike_mem.mp left).1
      · rw [shape]
        dsimp only
        omega
    have focused : ∀ entry ∈ (start.run history).queue.entries,
        Focus (start.run history) entry [] (start.run history) := by
      intro entry mem
      have focus := Focus.start ready.current mem
      rwa [none] at focus
    cases issuing : (start.run history).queue.isIssuing with
    | true =>
      obtain ⟨entry, mem, held⟩ := List.any_eq_true.mp issuing
      refine next entry mem (drain_unpaused ready (focused entry mem) ?_)
      intro paused
      simp [Entry.isIssuing, paused] at held
    | false =>
      cases entries : (start.run history).queue.entries with
      | nil => exact drains_done ⟨entries, ready.executing, none⟩
      | cons entry rest =>
        have mem : entry ∈ (start.run history).queue.entries := by
          rw [entries]
          exact List.mem_cons_self
        by_cases paused : entry.phase = .paused
        · exact next entry mem
            (drain_paused ready (focused entry mem) paused healthy issuing (counted entry mem))
        · exact next entry mem (drain_unpaused ready (focused entry mem) paused)

end Pending

theorem submission_queue_drains {session : ExecutionSessionIdentity} {limits : ExecutionSubmissionLimits}
    {processId identity : Nat} {queue : Queue} (constructed : construct session limits processId identity = some queue)
    (history : List Event) : ((System.run { queue := queue } history).queue.isQuarantined = true →
      (∀ later caller call, Call.admits call = true →
        ((System.run { queue := queue } (history ++ later)).step (.call caller call)).2.isSuccess = false) ∧
      ∀ thread, (System.run { queue := queue } history).queue.executor = some { thread := thread, isAlive := true } →
        ∀ entry ∈ (System.run { queue := queue } history).queue.entries, entry.phase ≠ .paused →
          Drains { queue := queue } { process := processId, thread := thread } history
            (fun system => ∀ after ∈ system.queue.entries, after.sequence ≠ entry.sequence)) ∧
    ((System.run { queue := queue } history).queue.isClosing = true →
      (System.run { queue := queue } history).queue.isQuarantined = false →
      ∀ thread, (System.run { queue := queue } history).queue.executor = some { thread := thread, isAlive := true } →
        (∀ entry ∈ (System.run { queue := queue } history).queue.entries, entry.generation ≠ maxCounter) →
        Drains { queue := queue } { process := processId, thread := thread } history
          (fun system => system.queue.entries = [] ∧
            (system.step (.call { process := processId, thread := thread } .shutdown)).2 = .flag true)) := by
  have sound := construct_sound constructed
  have shape := construct_some constructed
  have ready : ∀ thread,
      (System.run { queue := queue } history).queue.executor = some { thread := thread, isAlive := true } →
      Ready { queue := queue } { process := processId, thread := thread } history :=
    fun thread executing => ⟨sound, by rw [shape], by rw [shape], executing⟩
  refine ⟨fun quarantined => ⟨?_, ?_⟩, ?_⟩
  · intro later caller call admits
    rw [run_append]
    rcases call_answer _ caller call with same | same | performed
    · rw [same]
      rfl
    · rw [same]
      cases call <;> rfl
    · rw [performed]
      exact quarantined_perform (run_quarantined (run_sound sound history) quarantined later) caller admits
  · exact fun thread executing entry mem unpaused => drain_command (ready thread executing) mem unpaused
  intro _ healthy thread executing counted
  refine drains_trans (drain_pending (ready thread executing) (Nat.le_refl _)) ?_
  rintro more ⟨kept, none⟩
  have later := (ready thread executing).later kept.executor
  have still : ∀ entry ∈ (System.run { queue := queue } (history ++ more)).queue.entries,
      entry.generation ≠ maxCounter := by
    intro entry mem
    obtain ⟨old, there, _, _, generation⟩ := kept.origin entry mem
    rw [generation]
    exact counted old there
  refine drains_trans (drain_commands later none (kept.quarantined.trans healthy) still (Nat.le_refl _)) ?_
  rintro rest ⟨empty, executor, idle⟩
  have last : Ready { queue := queue } { process := processId, thread := thread } (history ++ more ++ rest) :=
    ⟨sound, later.empty, later.process, executor⟩
  refine drains_done ⟨empty, ?_⟩
  have answered : (System.run { queue := queue } (history ++ more ++ rest)).queue.perform
      { process := processId, thread := thread } .shutdown =
      ((System.run { queue := queue } (history ++ more ++ rest)).queue.close, .flag true) := by
    simp only [Queue.perform, Queue.shutdown, empty]
    rfl
  rw [last.call_step (idle_executor idle thread) .shutdown answered]

def pausedRun : List Event :=
  let executor : Caller := { process := 7, thread := 1 }
  let token : ExecutionIssueToken := { owner := some 9, sequence := 1, generation := 1 }
  [.call executor .bindExecutor,
    .call executor (.accept 1
      { operation := 3, context := 4, stream := 0, parameters := [1, 2, 3], lifetime := some 5 } true),
    .call executor (.takeNext none), .call executor (.publishHostResult token 0),
    .call executor (.pauseAfterPhysicalStop token), .call executor .close]

theorem paused_command_drains : ∃ queue, construct ⟨1, 2, 1, by decide⟩ ⟨2, 4, 8⟩ 7 9 = some queue ∧
      (System.run { queue := queue } pausedRun).queue.entries.map Entry.phase = [.paused] ∧
      Drains { queue := queue } { process := 7, thread := 1 } pausedRun
        (fun system => system.queue.entries = [] ∧
          (system.step (.call { process := 7, thread := 1 } .shutdown)).2 = .flag true) :=
  ⟨_, rfl, by decide +kernel, (@submission_queue_drains ⟨1, 2, 1, by decide⟩ ⟨2, 4, 8⟩ 7 9 _ rfl pausedRun).2
    (by decide +kernel) (by decide +kernel) 1 (by decide +kernel) (by decide +kernel)⟩

end Glimmer.Backend
