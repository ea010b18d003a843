import Glimmer.Transform.PersistentGrid
import Glimmer.Lib.TicketClaims

namespace Glimmer.Transform.Persistent

open Lib Kernel Phase

def Gathers (index : Nat) (phase : Phase) : Prop :=
  phase = .begin ∨ phase = .claim ∨ (index = 0 ∧ phase = .fetch) ∨ (index ≠ 0 ∧ phase = .ready)

-- The leader broadcasts its claim in two stores.
def Publishes (kernel : Kernel) (claim : Nat) (team : Team) (index : Nat) (phase : Phase) : Prop :=
  (index = 0 ∧ (phase = .storeFlat claim ∨ (phase = .storeValue claim ∧ team.flat = claim % word32) ∨
    (phase = .ready ∧ team.flat = claim % word32 ∧ team.value = if kernel.grid.total ≤ claim then 1 else 0))) ∨
  (index ≠ 0 ∧ (phase = .begin ∨ phase = .claim ∨ phase = .ready))

variable {index claim : Nat} {phase : Phase} {kernel : Kernel} {cta : Cta} {thread : Thread}

theorem gathers_still (gathers : Gathers index phase) (still : phase.isStill = true) : index ≠ 0 := by
  rcases gathers with rfl | rfl | ⟨_, rfl⟩ | ⟨other, _⟩
  · cases still
  · cases still
  · cases still
  · exact other

theorem publishes_still {team : Team}
    (publishes : Publishes kernel claim team index phase) (still : phase.isStill = true) : phase = .ready := by
  rcases publishes with ⟨_, rfl | ⟨rfl, _⟩ | ⟨ready, _⟩⟩ | ⟨_, rfl | rfl | ready⟩
  · cases still
  · cases still
  · exact ready
  · cases still
  · cases still
  · exact ready

-- A claim below the total is a ticket of the CTA; another one is not.
def Holds (kernel : Kernel) (counter : Nat) (tickets : List Nat) (spent : Prop) (past : List Nat) (claim : Nat) : Prop :=
  (claim < kernel.grid.total ∧ tickets = past ++ [claim] ∧ ¬spent) ∨
    (kernel.grid.total ≤ claim ∧ tickets = past ∧ (kernel.kind = .dynamic → kernel.grid.total ≤ counter))

-- Every thread reads the claim, and runs its block between the same barriers.
def Runs (kernel : Kernel) (cta : Cta) (past : List Nat) (claim left : Nat) (thread : Thread) : Prop :=
  (left = kernel.left claim ∧ (thread.phase = .loadFlat ∨ thread.phase = .loadValue claim) ∧
      thread.trace = past.map (kernel.coordinates cta)) ∨
    ((thread.phase = .body claim left ∨ thread.phase = .sync claim left) ∧
      thread.trace = (past ++ [claim]).map (kernel.coordinates cta))

def Leaves (kernel : Kernel) (cta : Cta) (tickets : List Nat) (thread : Thread) : Prop :=
  (thread.phase = .loadFlat ∨ (∃ flat, thread.phase = .loadValue flat) ∨ thread.phase = .exited) ∧
    thread.trace = tickets.map (kernel.coordinates cta)

theorem runs_still {past : List Nat} {left : Nat}
    (runs : Runs kernel cta past claim left thread) (still : thread.phase.isStill = true) :
    thread.phase = .sync claim left ∧ thread.trace = (past ++ [claim]).map (kernel.coordinates cta) := by
  rcases runs with ⟨_, reads | reads, _⟩ | ⟨body | sync, trace⟩
  · simp [reads, isStill] at still
  · simp [reads, isStill] at still
  · simp [body, isStill] at still
  · exact ⟨sync, trace⟩

theorem leaves_still {tickets : List Nat}
    (leaves : Leaves kernel cta tickets thread) (still : thread.phase.isStill = true) : thread.phase = .exited := by
  rcases leaves.1 with reads | ⟨flat, reads⟩ | exits
  · simp [reads, isStill] at still
  · simp [reads, isStill] at still
  · exact exits

def Gathering (kernel : Kernel) (cta : Cta) (past : List Nat) (team : Team) : Prop :=
  ∀ thread < kernel.threads, Gathers thread (team.thread thread).phase ∧
    (team.thread thread).trace = past.map (kernel.coordinates cta)

def Publishing (kernel : Kernel) (cta : Cta) (past : List Nat) (claim : Nat) (team : Team) : Prop :=
  ∀ thread < kernel.threads, Publishes kernel claim team thread (team.thread thread).phase ∧
    (team.thread thread).trace = past.map (kernel.coordinates cta)

-- Where the threads of a CTA can be that takes its blocks from the counter. A CTA is
-- spent when it has drawn a claim beyond the last block.
inductive Sharing (kernel : Kernel) (cta : Cta) (counter : Nat) (tickets : List Nat) (spent : Prop) (team : Team) : Prop
  | gather (unspent : ¬spent) (all : Gathering kernel cta tickets team)
  | publish (past : List Nat) (claim : Nat) (holds : Holds kernel counter tickets spent past claim)
      (all : Publishing kernel cta past claim team)
  | run (past : List Nat) (claim left : Nat) (unspent : ¬spent) (owned : tickets = past ++ [claim])
      (flat : team.flat = claim) (value : team.value = 0) (barred : 0 < left)
      (all : ∀ thread < kernel.threads, Runs kernel cta past claim left (team.thread thread))
  | leave (short : kernel.kind = .dynamic → kernel.grid.total ≤ counter) (value : team.value ≠ 0)
      (all : ∀ thread < kernel.threads, Leaves kernel cta tickets (team.thread thread))

def Team.put (team : Team) (index : Nat) (thread : Thread) (flat value : Nat) : Team where
  thread := Function.update team.thread index thread
  flat := flat
  value := value

variable {kernel : Kernel} {cta : Cta} {counter : Nat} {tickets : List Nat} {spent : Prop} {team : Team}
  {past : List Nat} {claim left : Nat}

theorem put_all (holds : Nat → Thread → Prop) (count number flat value : Nat) (new : Thread)
    (all : ∀ thread < count, holds thread (team.thread thread)) (here : holds number new) :
    ∀ thread < count, holds thread ((team.put number new flat value).thread thread) :=
  set_all holds count number new all here

theorem sharing_later {later : Nat} (sharing : Sharing kernel cta counter tickets spent team)
    (grown : counter ≤ later) : Sharing kernel cta later tickets spent team := by
  cases sharing with
  | gather unspent all => exact .gather unspent all
  | publish past claim holds all =>
    refine .publish past claim ?_ all
    rcases holds with held | ⟨beyond, same, short⟩
    · exact .inl held
    · exact .inr ⟨beyond, same, fun dynamic => Nat.le_trans (short dynamic) grown⟩
  | run past claim left unspent owned flat value barred all =>
    exact .run past claim left unspent owned flat value barred all
  | leave short value all => exact .leave (fun dynamic => Nat.le_trans (short dynamic) grown) value all

theorem still_step {device : Device} {index number : Nat}
    (still : ((device.team index).thread number).phase.isStill = true) :
    kernel.stepThread device index cta number = device := by
  cases phase : ((device.team index).thread number).phase <;> simp only [phase, isStill] at still
  all_goals first
    | (simp only [stepThread, phase]; done)
    | exact absurd still (by simp)

theorem cheaper_phase (less : phase.cost < thread.phase.cost) :
    kernel.threadCost tickets { thread with phase := phase } < kernel.threadCost tickets thread :=
  Nat.add_lt_add_right less _

def Moves (kernel : Kernel) (cta : Cta) (counter : Nat) (tickets : List Nat) (spent : Prop) (device : Device)
    (index number : Nat) : Prop :=
  ∃ new flat value, kernel.stepThread device index cta number =
      device.setTeam index ((device.team index).put number new flat value) ∧
    Sharing kernel cta counter tickets spent ((device.team index).put number new flat value) ∧
    kernel.threadCost tickets new < kernel.threadCost tickets ((device.team index).thread number)

variable {device : Device} {index number : Nat}

theorem leader_publishes (all : Gathering kernel cta past team) (pos : 0 < kernel.threads) {claim : Nat}
    (flat value : Nat) :
    Publishing kernel cta past claim (team.put 0 { team.thread 0 with phase := .storeFlat claim } flat value) := by
  intro thread small
  by_cases leads : thread = 0
  · subst leads
    exact ⟨.inl ⟨rfl, .inl rfl⟩, (all 0 pos).2⟩
  obtain ⟨gathers, trace⟩ := all thread small
  simp only [Team.put, Function.update_of_ne leads]
  refine ⟨.inr ⟨leads, ?_⟩, trace⟩
  rcases gathers with begins | claims | ⟨first, _⟩ | ⟨_, ready⟩
  · exact .inl begins
  · exact .inr (.inl claims)
  · exact absurd first leads
  · exact .inr (.inr ready)

def Team.rephase (team : Team) (index : Nat) (phase : Phase) : Team :=
  team.put index { team.thread index with phase := phase } team.flat team.value

section
variable (small : number < kernel.threads) (moving : ((device.team index).thread number).phase.isStill = false)
include small moving

theorem gather_moves (shared : kernel.isShared = true) (unspent : ¬spent)
    (all : Gathering kernel cta tickets (device.team index))
    (quiet : ((device.team index).thread number).phase ≠ .fetch) :
    Moves kernel cta counter tickets spent device index number := by
  obtain ⟨gathers, trace⟩ := all number small
  have stay : ∀ phase, Gathers number phase →
      Sharing kernel cta counter tickets spent ((device.team index).rephase number phase) := by
    intro phase here
    exact .gather unspent (put_all (fun thread new => Gathers thread new.phase ∧
      new.trace = tickets.map (kernel.coordinates cta)) _ _ _ _ _ all ⟨here, trace⟩)
  rcases gathers with begins | claims | ⟨_, fetches⟩ | ⟨_, ready⟩
  · refine ⟨_, _, _, ?_, stay .claim (.inr (.inl rfl)), cheaper_phase (by simp [begins, cost])⟩
    simp only [stepThread, begins, shared, if_true]
    rfl
  · cases role : kernel.isFollower number with
    | true =>
      have follows : number ≠ 0 := fun leads => by simp [(follower_iff kernel number).mpr leads] at role
      refine ⟨_, _, _, ?_, stay .ready (.inr (.inr (.inr ⟨follows, rfl⟩))), cheaper_phase (by simp [claims, cost])⟩
      simp only [stepThread, claims, role, if_true]
      rfl
    | false =>
      have leads := (follower_iff kernel number).mp role
      by_cases retreats : kernel.kind = .preemptive ∧ device.retreat ≠ 0
      · refine ⟨{ (device.team index).thread number with phase := .storeFlat kernel.grid.total },
          (device.team index).flat, (device.team index).value, ?_, ?_, cheaper_phase (by simp [claims, cost])⟩
        · simp only [stepThread, claims, role]
          rw [if_pos retreats]
          rfl
        · subst leads
          exact .publish tickets kernel.grid.total
            (.inr ⟨Nat.le_refl _, rfl, fun dynamic => absurd (retreats.1.symm.trans dynamic) (by decide)⟩)
            (leader_publishes all small _ _)
      · refine ⟨_, _, _, ?_, stay .fetch (.inr (.inr (.inl ⟨leads, rfl⟩))), cheaper_phase (by simp [claims, cost])⟩
        simp only [stepThread, claims, role]
        rw [if_neg retreats]
        rfl
  · exact absurd fetches quiet
  · simp [ready, isStill] at moving

theorem publish_moves (shared : kernel.isShared = true) (holds : Holds kernel counter tickets spent past claim)
    (all : Publishing kernel cta past claim (device.team index)) :
    Moves kernel cta counter tickets spent device index number := by
  obtain ⟨publishes, trace⟩ := all number small
  rcases publishes with ⟨leads, stage⟩ | ⟨follows, stage⟩
  · subst leads
    have stored : ∀ phase flat value,
        Publishes kernel claim ((device.team index).put 0 { (device.team index).thread 0 with phase := phase } flat value)
          0 phase →
        Sharing kernel cta counter tickets spent
          ((device.team index).put 0 { (device.team index).thread 0 with phase := phase } flat value) := by
      intro phase flat value here
      refine .publish past claim holds (fun thread inside => ?_)
      by_cases leads : thread = 0
      · subst leads
        exact ⟨here, trace⟩
      obtain ⟨other, old⟩ := all thread inside
      simp only [Team.put, Function.update_of_ne leads]
      refine ⟨.inr ⟨leads, ?_⟩, old⟩
      rcases other with ⟨first, _⟩ | ⟨_, stage⟩
      · exact absurd first leads
      · exact stage
    rcases stage with flat | ⟨value, written⟩ | ⟨ready, _⟩
    · refine ⟨_, claim % word32, (device.team index).value, ?_,
        stored (.storeValue claim) _ _ (.inl ⟨rfl, .inr (.inl ⟨rfl, rfl⟩)⟩),
        cheaper_phase (by simp [flat, cost])⟩
      simp only [stepThread, flat]
      rfl
    · refine ⟨_, (device.team index).flat, if kernel.grid.total ≤ claim then 1 else 0, ?_,
        stored .ready _ _ (.inl ⟨rfl, .inr (.inr ⟨rfl, written, rfl⟩)⟩),
        cheaper_phase (by simp [value, cost])⟩
      simp only [stepThread, value]
      rfl
    · simp [ready, isStill] at moving
  · have stay : ∀ phase, (phase = .begin ∨ phase = .claim ∨ phase = .ready) →
        Sharing kernel cta counter tickets spent ((device.team index).rephase number phase) := by
      intro phase here
      exact .publish past claim holds (put_all (fun thread new =>
        Publishes kernel claim (device.team index) thread new.phase ∧ new.trace = past.map (kernel.coordinates cta))
        _ _ _ _ _ all ⟨.inr ⟨follows, here⟩, trace⟩)
    have role : kernel.isFollower number = true := by
      cases role : kernel.isFollower number with
      | true => rfl
      | false => exact absurd ((follower_iff kernel number).mp role) follows
    rcases stage with begins | claims | ready
    · refine ⟨_, _, _, ?_, stay .claim (.inr (.inl rfl)), cheaper_phase (by simp [begins, cost])⟩
      simp only [stepThread, begins, shared, if_true]
      rfl
    · refine ⟨_, _, _, ?_, stay .ready (.inr (.inr rfl)), cheaper_phase (by simp [claims, cost])⟩
      simp only [stepThread, claims, role, if_true]
      rfl
    · simp [ready, isStill] at moving

theorem run_moves (unspent : ¬spent) (owned : tickets = past ++ [claim])
    (flat : (device.team index).flat = claim) (value : (device.team index).value = 0) (barred : 0 < left)
    (all : ∀ thread < kernel.threads, Runs kernel cta past claim left ((device.team index).thread thread)) :
    Moves kernel cta counter tickets spent device index number := by
  have stay : ∀ new, Runs kernel cta past claim left new → Sharing kernel cta counter tickets spent
      ((device.team index).put number new (device.team index).flat (device.team index).value) := by
    intro new here
    exact .run past claim left unspent owned flat value barred
      (put_all (fun _ new => Runs kernel cta past claim left new) _ _ _ _ _ all here)
  rcases all number small with ⟨top, reads | reads, trace⟩ | ⟨body | sync, trace⟩
  · refine ⟨{ (device.team index).thread number with phase := .loadValue (device.team index).flat }, _, _, ?_,
      stay _ (.inl ⟨top, .inr (by rw [flat]), trace⟩), cheaper_phase (by simp [reads, cost])⟩
    simp only [stepThread, reads]
    rfl
  · refine ⟨kernel.enter cta claim ((device.team index).thread number).trace, _, _, ?_, stay _ (.inr ⟨.inl ?_, ?_⟩), ?_⟩
    · simp only [stepThread, reads]
      rw [if_neg (by simp [value])]
      rfl
    · rw [top]
      rfl
    · simp [enter, trace, List.map_append, List.map_cons, List.map_nil]
    · have counted : ((device.team index).thread number).trace.length = past.length := by rw [trace, List.length_map]
      simp [threadCost, enter, reads, cost, counted, owned, roundCost]
  · have further : left ≠ 0 := Nat.pos_iff_ne_zero.mp barred
    refine ⟨{ (device.team index).thread number with phase := .sync claim left }, _, _, ?_,
      stay _ (.inr ⟨.inr rfl, trace⟩), cheaper_phase (by simp [body, cost])⟩
    simp only [stepThread, body, further, if_false]
    rfl
  · simp [sync, isStill] at moving

theorem leave_moves (short : kernel.kind = .dynamic → kernel.grid.total ≤ counter)
    (value : (device.team index).value ≠ 0)
    (all : ∀ thread < kernel.threads, Leaves kernel cta tickets ((device.team index).thread thread)) :
    Moves kernel cta counter tickets spent device index number := by
  obtain ⟨stage, trace⟩ := all number small
  have stay : ∀ phase, (phase = .loadFlat ∨ (∃ flat, phase = .loadValue flat) ∨ phase = .exited) →
      Sharing kernel cta counter tickets spent ((device.team index).rephase number phase) := by
    intro phase here
    exact .leave short value (put_all (fun _ new => Leaves kernel cta tickets new) _ _ _ _ _ all ⟨here, trace⟩)
  rcases stage with reads | ⟨flat, reads⟩ | exits
  · refine ⟨_, _, _, ?_, stay (.loadValue (device.team index).flat) (.inr (.inl ⟨_, rfl⟩)),
      cheaper_phase (by simp [reads, cost])⟩
    simp only [stepThread, reads]
    rfl
  · refine ⟨_, _, _, ?_, stay .exited (.inr (.inr rfl)), cheaper_phase (by simp [reads, cost])⟩
    simp only [stepThread, reads, if_pos value]
    rfl
  · simp [exits, isStill] at moving

theorem sharing_moves (shared : kernel.isShared = true)
    (sharing : Sharing kernel cta counter tickets spent (device.team index))
    (quiet : ((device.team index).thread number).phase ≠ .fetch) :
    Moves kernel cta counter tickets spent device index number := by
  cases sharing with
  | gather unspent all => exact gather_moves small moving shared unspent all quiet
  | publish past claim holds all => exact publish_moves small moving shared holds all
  | run past claim left unspent owned flat value barred all =>
    exact run_moves small moving unspent owned flat value barred all
  | leave short value all => exact leave_moves small moving short value all

end

def opened (kernel : Kernel) (cta : Cta) (team : Team) : Team :=
  { team with thread := fun thread => kernel.released cta (team.thread thread) }

def Opens (kernel : Kernel) (cta : Cta) (tickets : List Nat) (team : Team) : Prop :=
  ∀ thread < kernel.threads, kernel.threadCost tickets (kernel.released cta (team.thread thread)) <
        kernel.threadCost tickets (team.thread thread) ∧
      kernel.releasedCarries cta (team.thread thread) = false

theorem ready_released (ready : thread.phase = .ready) :
    kernel.released cta thread = { thread with phase := .loadFlat } := by
  simp [released, ready]

section
variable (waiting : ∀ thread < kernel.threads, (team.thread thread).phase.waits = true)
include waiting

theorem publish_released (small : kernel.grid.total < word32)
    (barred : kernel.kind ≠ .static) (pos : 0 < kernel.threads)
    (holds : Holds kernel counter tickets spent past claim) (all : Publishing kernel cta past claim team) :
    Sharing kernel cta counter tickets spent (opened kernel cta team) ∧ Opens kernel cta tickets team := by
  have ready : ∀ thread < kernel.threads, (team.thread thread).phase = .ready :=
    fun thread inside => publishes_still (all thread inside).1 (waits_still (waiting thread inside))
  have stored : team.flat = claim % word32 ∧ team.value = if kernel.grid.total ≤ claim then 1 else 0 := by
    rcases (all 0 pos).1 with ⟨_, flat | ⟨value, _⟩ | ⟨_, written⟩⟩ | ⟨other, _⟩
    · exact absurd ((ready 0 pos).symm.trans flat) (by simp)
    · exact absurd ((ready 0 pos).symm.trans value) (by simp)
    · exact written
    · exact absurd rfl other
  refine ⟨?_, fun thread small => ?_⟩
  rotate_left
  · rw [ready_released (ready thread small)]
    refine ⟨cheaper_phase (by simp [ready thread small, cost]), ?_⟩
    simp [releasedCarries, ready thread small]
  rcases holds with ⟨inside, owned, unspent⟩ | ⟨beyond, same, short⟩
  · refine .run past claim (kernel.left claim) unspent owned ?_ ?_ (left_positive barred claim) (fun thread here => ?_)
    · exact stored.1.trans (Nat.mod_eq_of_lt (Nat.lt_trans inside small))
    · exact stored.2.trans (if_neg (Nat.not_le_of_lt inside))
    · simp only [opened, ready_released (ready thread here)]
      exact .inl ⟨rfl, .inl rfl, (all thread here).2⟩
  · refine .leave short ?_ (fun thread here => ?_)
    · simp [opened, stored.2, if_pos beyond]
    · simp only [opened, ready_released (ready thread here)]
      exact ⟨.inl rfl, same ▸ (all thread here).2⟩

theorem run_released (shared : kernel.isShared = true) (unspent : ¬spent)
    (owned : tickets = past ++ [claim]) (flat : team.flat = claim) (value : team.value = 0) (barred : 0 < left)
    (all : ∀ thread < kernel.threads, Runs kernel cta past claim left (team.thread thread)) :
    Sharing kernel cta counter tickets spent (opened kernel cta team) ∧ Opens kernel cta tickets team := by
  have sync : ∀ thread < kernel.threads, (team.thread thread).phase = .sync claim left ∧
      (team.thread thread).trace = tickets.map (kernel.coordinates cta) := by
    intro thread inside
    obtain ⟨sync, trace⟩ := runs_still (all thread inside) (waits_still (waiting thread inside))
    exact ⟨sync, owned ▸ trace⟩
  refine ⟨?_, fun thread inside => ?opens⟩
  case opens =>
    have waits := (sync thread inside).1
    refine ⟨?_, by simp [releasedCarries, waits, finishCarries, shared]⟩
    simp only [released, waits]
    split
    · simp only [finish, shared, if_true]
      exact cheaper_phase (by simp only [waits, cost]; omega)
    · exact cheaper_phase (by simp only [waits, cost]; omega)
  by_cases last : left ≤ 1
  · refine .gather unspent (fun thread inside => ?_)
    simp only [opened, released, (sync thread inside).1, last, if_true, finish, shared]
    exact ⟨.inr (.inl rfl), (sync thread inside).2⟩
  · refine .run past claim (left - 1) unspent owned flat value (by omega) (fun thread inside => ?_)
    simp only [opened, released, (sync thread inside).1, last, if_false]
    exact .inr ⟨.inl rfl, owned ▸ (sync thread inside).2⟩

theorem sharing_release (shared : kernel.isShared = true) (small : kernel.grid.total < word32)
    (pos : 0 < kernel.threads) (sharing : Sharing kernel cta counter tickets spent team) :
    Sharing kernel cta counter tickets spent (opened kernel cta team) ∧ Opens kernel cta tickets team := by
  have barred : kernel.kind ≠ .static := fun static => by simp [isShared, static] at shared
  have waits := waiting 0 pos
  cases sharing with
  | gather unspent all => exact absurd rfl (gathers_still (all 0 pos).1 (waits_still waits))
  | publish past claim holds all => exact publish_released waiting small barred pos holds all
  | run past claim left unspent owned flat value further all =>
    exact run_released waiting shared unspent owned flat value further all
  | leave short value all => simp [leaves_still (all 0 pos) (waits_still waits), Phase.waits] at waits

end

variable (sharing : Sharing kernel cta counter tickets spent team)
include sharing

theorem fetch_gathers (small : number < kernel.threads) (fetches : (team.thread number).phase = .fetch) :
    number = 0 ∧ ¬spent ∧ Gathering kernel cta tickets team := by
  cases sharing with
  | gather unspent all =>
    refine ⟨?_, unspent, all⟩
    rcases (all number small).1 with begins | claims | ⟨leads, _⟩ | ⟨_, ready⟩
    · cases fetches.symm.trans begins
    · cases fetches.symm.trans claims
    · exact leads
    · cases fetches.symm.trans ready
  | publish past claim holds all =>
    have stage := (all number small).1
    simp [Publishes, fetches] at stage
  | run past claim left unspent owned flat value further all =>
    have stage := all number small
    simp [Runs, fetches] at stage
  | leave short value all =>
    have stage := all number small
    simp [Leaves, fetches] at stage

theorem sharing_live (pos : 0 < kernel.threads)
    (still : ∀ thread < kernel.threads, (team.thread thread).phase.isStill = true) :
    (∀ thread < kernel.threads, (team.thread thread).phase.waits = true) ∨
      (∀ thread < kernel.threads, (team.thread thread).phase = .exited) := by
  cases sharing with
  | gather unspent all => exact absurd rfl (gathers_still (all 0 pos).1 (still 0 pos))
  | publish past claim holds all =>
    refine .inl (fun thread small => ?_)
    rw [publishes_still (all thread small).1 (still thread small)]
    rfl
  | run past claim left unspent owned flat value further all =>
    refine .inl (fun thread small => ?_)
    rw [(runs_still (all thread small) (still thread small)).1]
    rfl
  | leave short value all => exact .inr (fun thread small => leaves_still (all thread small) (still thread small))

theorem sharing_traces (small : number < kernel.threads) :
    (team.thread number).trace <+: tickets.map (kernel.coordinates cta) ∧
      ((team.thread number).phase = .exited → (team.thread number).trace = tickets.map (kernel.coordinates cta) ∧
        (kernel.kind = .dynamic → kernel.grid.total ≤ counter)) := by
  cases sharing with
  | gather unspent all =>
    obtain ⟨stage, trace⟩ := all number small
    refine ⟨trace ▸ List.prefix_refl _, fun exits => ?_⟩
    simp [Gathers, exits] at stage
  | publish past claim holds all =>
    obtain ⟨stage, trace⟩ := all number small
    refine ⟨?_, fun exits => by simp [Publishes, exits] at stage⟩
    rcases holds with ⟨_, rfl, _⟩ | ⟨_, rfl, _⟩
    · rw [trace, List.map_append]
      exact List.prefix_append _ _
    · exact trace ▸ List.prefix_refl _
  | run past claim left unspent owned flat value further all =>
    refine ⟨?_, fun exits => by simpa [Runs, exits] using all number small⟩
    rcases all number small with ⟨_, _, trace⟩ | ⟨_, trace⟩
    · rw [trace, owned, List.map_append]
      exact List.prefix_append _ _
    · rw [trace, owned]
  | leave short value all =>
    obtain ⟨_, trace⟩ := all number small
    exact ⟨trace ▸ List.prefix_refl _, fun _ => ⟨trace, short⟩⟩

end Glimmer.Transform.Persistent
