import Glimmer.Transform.PersistentClaims
import Glimmer.Transform.PersistentCoverage
import Mathlib.Algebra.BigOperators.Intervals

namespace Glimmer.Transform.Persistent

open Lib Kernel Device

structure Keeps (kernel : Kernel) (cta : Cta) (counter : Nat) (tickets : List Nat) (spent : Prop) (team : Team) :
    Prop where
  follows : kernel.isShared = false → tickets = kernel.plan cta ∧ TeamFollows kernel cta tickets team
  shares : kernel.isShared = true → Sharing kernel cta counter tickets spent team

variable {kernel : Kernel} {tickets : Nat → List Nat} {spent : List Nat} {number index : Nat} {device : Device}
  {cta : Cta} {team : Team} {event : DeviceEvent}

section Teams
variable {counter : Nat} {tickets : List Nat} {spent : Prop}

theorem keeps_alone (alone : kernel.isShared = false) (planned : tickets = kernel.plan cta)
    (follows : TeamFollows kernel cta tickets team) : Keeps kernel cta counter tickets spent team :=
  ⟨fun _ => ⟨planned, follows⟩, fun shared => absurd (alone.symm.trans shared) (by decide)⟩

theorem keeps_shared (shared : kernel.isShared = true)
    (sharing : Sharing kernel cta counter tickets spent team) : Keeps kernel cta counter tickets spent team :=
  ⟨fun alone => absurd (alone.symm.trans shared) (by decide), fun _ => sharing⟩

theorem keeps_moves (sized : kernel.grid.Sized) (fits : cta.Fits kernel)
    (keeps : Keeps kernel cta counter tickets spent (device.team index)) (small : number < kernel.threads)
    (moving : ((device.team index).thread number).phase.isStill = false)
    (quiet : ((device.team index).thread number).phase ≠ .fetch) :
    ∃ new flat value,
      kernel.stepThread device index cta number =
        device.setTeam index ((device.team index).put number new flat value) ∧
      Keeps kernel cta counter tickets spent ((device.team index).put number new flat value) ∧
      kernel.threadCost tickets new < kernel.threadCost tickets ((device.team index).thread number) := by
  cases shared : kernel.isShared with
  | false =>
    obtain ⟨rfl, follows⟩ := keeps.follows shared
    have planned := private_plan shared sized fits
    have here := follows.threads number small
    obtain ⟨goes, cheap⟩ := own_step_follows shared planned here
    refine ⟨_, _, _, own_step_step shared planned here, ?_, cheap moving⟩
    refine keeps_alone shared rfl ⟨?_, fun barred => abreast_step barred (follows.abreast barred) small⟩
    exact put_all (fun _ thread => Following kernel cta (kernel.plan cta) thread) _ _ _ _ _ follows.threads goes
  | true =>
    obtain ⟨new, flat, value, stepped, sharing, cheap⟩ := sharing_moves small moving shared (keeps.shares shared) quiet
    exact ⟨new, flat, value, stepped, keeps_shared shared sharing, cheap⟩

theorem keeps_release (sized : kernel.grid.Sized) (pos : 0 < kernel.threads)
    (fits : cta.Fits kernel) (keeps : Keeps kernel cta counter tickets spent team)
    (waiting : ∀ thread < kernel.threads, (team.thread thread).phase.waits = true) :
    Keeps kernel cta counter tickets spent (opened kernel cta team) ∧ Opens kernel cta tickets team := by
  cases shared : kernel.isShared with
  | false =>
    obtain ⟨rfl, follows⟩ := keeps.follows shared
    have goes := fun thread small => released_follows shared (private_plan shared sized fits)
      (follows.threads thread small) (waiting thread small)
    refine ⟨keeps_alone shared rfl ⟨fun thread small => (goes thread small).1, fun barred => ?_⟩,
      fun thread small => ⟨(goes thread small).2.2, (goes thread small).2.1⟩⟩
    rcases abreast_still (follows.abreast barred) (fun thread small => waits_still (waiting thread small)) with
      ⟨claim, left, all⟩ | all
    · exact released_abreast shared barred all
    · refine .closed (fun thread small => ?_)
      have waits := waiting thread small
      simp [all thread small, Phase.waits] at waits
  | true =>
    obtain ⟨sharing, opens⟩ := sharing_release waiting shared (total_small sized) pos (keeps.shares shared)
    exact ⟨keeps_shared shared sharing, opens⟩

end Teams

namespace Kernel

def teamCost (kernel : Kernel) (tickets : List Nat) (team : Team) : Nat :=
  ∑ thread ∈ Finset.range kernel.threads, kernel.threadCost tickets (team.thread thread)

-- What the CTAs have still to do, and the rounds of the blocks that nobody has drawn.
def cost (kernel : Kernel) (tickets : Nat → List Nat) (device : Device) : Nat :=
  ∑ index ∈ Finset.range device.ctas.length, kernel.teamCost (tickets index) (device.team index) +
    kernel.threads * ∑ flat ∈ Finset.Ico device.counter kernel.grid.total, kernel.roundCost flat

end Kernel

section Costs
variable {blocks : List Nat}

theorem put_cost {flat value : Nat} {new : Thread} (small : number < kernel.threads)
    (cheap : kernel.threadCost blocks new < kernel.threadCost blocks (team.thread number)) :
    kernel.teamCost blocks (team.put number new flat value) < kernel.teamCost blocks team := by
  refine sum_one_smaller small ?_ (fun other apart => ?_)
  · simpa only [Team.put, Function.update_self] using cheap
  · simp [Team.put, Function.update_of_ne apart]

theorem set_team_cost (inside : index < device.ctas.length)
    (cheap : kernel.teamCost (tickets index) team < kernel.teamCost (tickets index) (device.team index)) :
    kernel.cost tickets (device.setTeam index team) < kernel.cost tickets device := by
  refine Nat.add_lt_add_right (sum_one_smaller inside ?_ (fun other apart => ?_)) _
  · simpa only [setTeam, Function.update_self] using cheap
  · simp [setTeam, Function.update_of_ne apart]

theorem ticket_cost {thread : Thread} (claim : Nat) (short : thread.trace.length ≤ blocks.length) :
    kernel.threadCost (blocks ++ [claim]) thread = kernel.threadCost blocks thread + kernel.roundCost claim := by
  simp only [threadCost, List.drop_append_of_le_length short, List.map_append, List.sum_append, List.map_cons,
    List.map_nil, List.sum_cons, List.sum_nil]
  omega

theorem ticket_team_cost (claim : Nat)
    (short : ∀ thread < kernel.threads, (team.thread thread).trace.length ≤ blocks.length) :
    kernel.teamCost (blocks ++ [claim]) team = kernel.teamCost blocks team + kernel.threads * kernel.roundCost claim := by
  unfold teamCost
  rw [Finset.sum_congr rfl (fun thread listed => ticket_cost claim (short thread (Finset.mem_range.mp listed))),
    Finset.sum_add_distrib, Finset.sum_const, Finset.card_range]
  rfl

theorem drawn_cost (inside : index < device.ctas.length) (left : device.counter < kernel.grid.total)
    (short : ∀ thread < kernel.threads, (team.thread thread).trace.length ≤ (tickets index).length)
    (cheap : kernel.teamCost (tickets index) team < kernel.teamCost (tickets index) (device.team index)) :
    kernel.cost (Function.update tickets index (tickets index ++ [device.counter]))
        { device.setTeam index team with counter := device.counter + 1 } < kernel.cost tickets device := by
  have pool : ∑ flat ∈ Finset.Ico device.counter kernel.grid.total, kernel.roundCost flat =
      kernel.roundCost device.counter +
        ∑ flat ∈ Finset.Ico (device.counter + 1) kernel.grid.total, kernel.roundCost flat :=
    Finset.sum_eq_sum_Ico_succ_bot left _
  have rounds : ∑ other ∈ Finset.range device.ctas.length,
      kernel.teamCost (Function.update tickets index (tickets index ++ [device.counter]) other)
        ((device.setTeam index team).team other) <
      ∑ other ∈ Finset.range device.ctas.length, (kernel.teamCost (tickets other) (device.team other) +
        if other = index then kernel.threads * kernel.roundCost device.counter else 0) := by
    refine sum_one_smaller inside ?_ (fun other apart => ?_)
    · simp only [setTeam, Function.update_self, if_true, ticket_team_cost device.counter short]
      omega
    · simp [setTeam, Function.update_of_ne apart, if_neg apart]
  rw [Finset.sum_add_distrib, Finset.sum_ite_eq' , if_pos (Finset.mem_range.mpr inside)] at rounds
  unfold cost
  rw [pool, Nat.mul_add]
  have same : ({ device.setTeam index team with counter := device.counter + 1 } : Device).ctas = device.ctas := rfl
  rw [same]
  simp only
  omega

end Costs

-- A device between two events. The tickets are the blocks of each CTA, the spent
-- CTAs those that have drawn a claim beyond the last block.
structure Sound (kernel : Kernel) (tickets : Nat → List Nat) (spent : List Nat) (device : Device) : Prop where
  fresh : ∀ index, device.ctas.length ≤ index → device.team index = idleTeam
  dry : device.carried = false
  fits : ∀ cta ∈ device.ctas, cta.Fits kernel
  teams : ∀ index cta, device.ctas[index]? = some cta →
    Keeps kernel cta device.counter (tickets index) (index ∈ spent) (device.team index)
  claims : kernel.isShared = true → Claims tickets kernel.grid.total device.counter
  unused : kernel.isShared = true → ∀ index, device.ctas.length ≤ index → tickets index = []
  listed : spent.Nodup ∧ ∀ index ∈ spent, index < device.ctas.length
  count : kernel.isShared = true → device.counter ≤ kernel.grid.total + spent.length

section Devices

theorem empty_sound : Sound kernel (fun _ => []) [] emptyDevice := by
  refine ⟨fun _ _ => rfl, rfl, by simp [emptyDevice], by simp [emptyDevice], fun _ => claims_start, fun _ _ _ => rfl,
    by simp, fun _ => Nat.zero_le _⟩

section
variable (sound : Sound kernel tickets spent device)
include sound

theorem retreat_sound (value : Nat) : Sound kernel tickets spent { device with retreat := value } :=
  ⟨sound.fresh, sound.dry, sound.fits, sound.teams, sound.claims, sound.unused, sound.listed, sound.count⟩

theorem launch_sound {added : List Cta} (fits : ∀ cta ∈ added, cta.Fits kernel) :
    ∃ later, Sound kernel later spent { device with ctas := device.ctas ++ added } := by
  have longer : ∀ index, (device.ctas ++ added).length ≤ index → device.ctas.length ≤ index := by
    intro index beyond
    rw [List.length_append] at beyond
    omega
  have listed : spent.Nodup ∧ ∀ index ∈ spent, index < (device.ctas ++ added).length := by
    refine ⟨sound.listed.1, fun index mem => ?_⟩
    rw [List.length_append]
    exact Nat.lt_add_right _ (sound.listed.2 index mem)
  have all : ∀ cta ∈ device.ctas ++ added, cta.Fits kernel := by
    intro cta mem
    rcases List.mem_append.mp mem with old | new
    · exact sound.fits cta old
    · exact fits cta new
  have old : ∀ index cta, (device.ctas ++ added)[index]? = some cta → index < device.ctas.length →
      device.ctas[index]? = some cta := fun index cta found inside => List.getElem?_append_left inside ▸ found
  cases shared : kernel.isShared with
  | false =>
    refine ⟨fun index => ((device.ctas ++ added)[index]?).elim [] kernel.plan,
      fun index beyond => sound.fresh index (longer index beyond), sound.dry, all, fun index cta found => ?_,
      fun clash => absurd (shared.symm.trans clash) (by decide),
      fun clash => absurd (shared.symm.trans clash) (by decide), listed,
      fun clash => absurd (shared.symm.trans clash) (by decide)⟩
    have planned : ((device.ctas ++ added)[index]?).elim [] kernel.plan = kernel.plan cta := by rw [found]; rfl
    rw [planned]
    by_cases inside : index < device.ctas.length
    · obtain ⟨same, follows⟩ := (sound.teams index cta (old index cta found inside)).follows shared
      exact keeps_alone shared rfl (same ▸ follows)
    · rw [show ({ device with ctas := device.ctas ++ added } : Device).team index = idleTeam from
        sound.fresh index (Nat.le_of_not_lt inside)]
      exact keeps_alone shared rfl idle_follows
  | true =>
    refine ⟨tickets, fun index beyond => sound.fresh index (longer index beyond), sound.dry, all,
      fun index cta found => ?_, sound.claims, fun _ index beyond => sound.unused shared index (longer index beyond),
      listed, sound.count⟩
    by_cases inside : index < device.ctas.length
    · exact sound.teams index cta (old index cta found inside)
    have beyond := Nat.le_of_not_lt inside
    rw [show ({ device with ctas := device.ctas ++ added } : Device).team index = idleTeam from
      sound.fresh index beyond, sound.unused shared index beyond]
    exact keeps_shared shared (.gather (fun mem => inside (sound.listed.2 index mem))
      (fun thread _ => ⟨.inl rfl, rfl⟩))

theorem spent_few (inside : index < device.ctas.length)
    (unspent : index ∉ spent) : spent.length < device.ctas.length := by
  have distinct : (index :: spent).Nodup := List.nodup_cons.mpr ⟨unspent, sound.listed.1⟩
  have near : index :: spent ⊆ List.range device.ctas.length := by
    intro other listed
    rcases List.mem_cons.mp listed with rfl | old
    · exact List.mem_range.mpr inside
    · exact List.mem_range.mpr (sound.listed.2 other old)
  simpa using (List.subperm_of_subset distinct near).length_le

variable (here : device.ctas[index]? = some cta)
include here

theorem set_team_sound (keeps : Keeps kernel cta device.counter (tickets index) (index ∈ spent) team) :
    Sound kernel tickets spent (device.setTeam index team) := by
  have inside := (List.getElem?_eq_some_iff.mp here).1
  refine ⟨fun other beyond => ?_, sound.dry, sound.fits, fun other cta' found => ?_, sound.claims, sound.unused,
    sound.listed, sound.count⟩
  · have apart : other ≠ index := fun same => by
      subst same
      exact Nat.lt_irrefl _ (Nat.lt_of_lt_of_le inside beyond)
    simp only [setTeam, Function.update_of_ne apart]
    exact sound.fresh other beyond
  · by_cases same : other = index
    · subst same
      cases found.symm.trans here
      simpa only [setTeam, Function.update_self] using keeps
    · simpa only [setTeam, Function.update_of_ne same] using sound.teams other cta' found

theorem draw_sound (shared : kernel.isShared = true) (unspent : index ∉ spent) {blocks later : List Nat}
    (claims : Claims (Function.update tickets index blocks) kernel.grid.total (device.counter + 1))
    (widened : later = spent ∨ later = index :: spent)
    (keeps : Keeps kernel cta (device.counter + 1) blocks (index ∈ later) team)
    (count : device.counter + 1 ≤ kernel.grid.total + later.length) :
    Sound kernel (Function.update tickets index blocks) later
      { device.setTeam index team with counter := device.counter + 1 } := by
  have inside := (List.getElem?_eq_some_iff.mp here).1
  have apart : ∀ other, device.ctas.length ≤ other → other ≠ index := by
    rintro other beyond rfl
    exact Nat.lt_irrefl _ (Nat.lt_of_lt_of_le inside beyond)
  have elsewhere : ∀ other, other ≠ index → (other ∈ later ↔ other ∈ spent) := by
    intro other same
    rcases widened with rfl | rfl
    · exact Iff.rfl
    · simp [same]
  refine ⟨fun other beyond => ?_, sound.dry, sound.fits, fun other cta' found => ?_, fun _ => claims,
    fun _ other beyond => ?_, ?_, fun _ => count⟩
  · simp only [setTeam, Function.update_of_ne (apart other beyond)]
    exact sound.fresh other beyond
  · by_cases same : other = index
    · subst same
      cases found.symm.trans here
      simpa only [setTeam, Function.update_self] using keeps
    · simp only [setTeam, Function.update_of_ne same, elsewhere other same]
      have kept := sound.teams other cta' found
      exact ⟨kept.follows, fun shared => sharing_later (kept.shares shared) (Nat.le_succ _)⟩
  · simp only [Function.update_of_ne (apart other beyond)]
    exact sound.unused shared other beyond
  · rcases widened with rfl | rfl
    · exact sound.listed
    · refine ⟨List.nodup_cons.mpr ⟨unspent, sound.listed.1⟩, fun other listed => ?_⟩
      rcases List.mem_cons.mp listed with rfl | old
      · exact inside
      · exact sound.listed.2 other old

-- Every CTA draws one claim too many at most, so the counter does not wrap.
theorem fetch_sound (shared : kernel.isShared = true) (room : kernel.grid.total + device.ctas.length < word64)
    (small : number < kernel.threads) (fetches : ((device.team index).thread number).phase = .fetch) :
    ∃ later done, Sound kernel later done (kernel.stepThread device index cta number) ∧
      kernel.cost later (kernel.stepThread device index cta number) < kernel.cost tickets device := by
  have inside := (List.getElem?_eq_some_iff.mp here).1
  obtain ⟨rfl, unspent, all⟩ := fetch_gathers ((sound.teams index cta here).shares shared) small fetches
  have count := sound.count shared
  have exact : (device.counter + 1) % word64 = device.counter + 1 := by
    have few := spent_few sound inside unspent
    exact Nat.mod_eq_of_lt (by omega)
  have stepped : kernel.stepThread device index cta 0 =
      { device.setTeam index ((device.team index).put 0 { (device.team index).thread 0 with
          phase := .storeFlat device.counter } (device.team index).flat (device.team index).value) with
        counter := device.counter + 1 } := by
    simp only [stepThread, fetches, exact]
    rfl
  have cheap : kernel.teamCost (tickets index) ((device.team index).put 0 { (device.team index).thread 0 with
      phase := .storeFlat device.counter } (device.team index).flat (device.team index).value) <
      kernel.teamCost (tickets index) (device.team index) :=
    put_cost small (cheaper_phase (by simp [fetches, Phase.cost]))
  rw [stepped]
  by_cases left : device.counter < kernel.grid.total
  · refine ⟨_, spent, draw_sound sound here shared unspent (claims_draw (sound.claims shared) index left) (.inl rfl)
      (keeps_shared shared ?_) ?_, drawn_cost inside left ?_ cheap⟩
    · exact .publish (tickets index) device.counter (.inl ⟨left, rfl, unspent⟩) (leader_publishes all small _ _)
    · omega
    · intro thread near
      have traces := put_all (fun _ new => new.trace = (tickets index).map (kernel.coordinates cta))
        kernel.threads 0 (device.team index).flat (device.team index).value
        { (device.team index).thread 0 with phase := .storeFlat device.counter }
        (fun thread near => (all thread near).2) (all 0 small).2 thread near
      rw [traces, List.length_map]
  · have beyond := Nat.le_of_not_lt left
    refine ⟨Function.update tickets index (tickets index), index :: spent,
      draw_sound sound here shared unspent ?_ (.inr rfl) (keeps_shared shared ?_) ?_, ?_⟩
    · rw [Function.update_eq_self]
      exact claims_overrun (sound.claims shared) beyond
    · exact .publish (tickets index) device.counter (.inr ⟨beyond, rfl, fun _ => Nat.le_succ_of_le beyond⟩)
        (leader_publishes all small _ _)
    · rw [List.length_cons]
      omega
    · rw [Function.update_eq_self]
      have moved := set_team_cost inside cheap
      have empty : Finset.Ico device.counter kernel.grid.total = ∅ := Finset.Ico_eq_empty_of_le beyond
      have emptied : Finset.Ico (device.counter + 1) kernel.grid.total = ∅ :=
        Finset.Ico_eq_empty_of_le (Nat.le_succ_of_le beyond)
      simpa only [cost, setTeam, empty, emptied] using moved

theorem step_sound (sized : kernel.grid.Sized)
    (room : kernel.isShared = true → kernel.grid.total + device.ctas.length < word64)
    (small : number < kernel.threads) (moving : ((device.team index).thread number).phase.isStill = false) :
    ∃ later done, Sound kernel later done (kernel.stepThread device index cta number) ∧
      kernel.cost later (kernel.stepThread device index cta number) < kernel.cost tickets device := by
  have inside := (List.getElem?_eq_some_iff.mp here).1
  have keeps := sound.teams index cta here
  by_cases draws : kernel.isShared = true ∧ ((device.team index).thread number).phase = .fetch
  · exact fetch_sound sound here draws.1 (room draws.1) small draws.2
  have quiet : ((device.team index).thread number).phase ≠ .fetch := by
    intro fetches
    cases shared : kernel.isShared with
    | true => exact draws ⟨shared, fetches⟩
    | false =>
      cases (keeps.follows shared).2.threads number small with
      | begin phase trace | exited phase trace => cases fetches.symm.trans phase
      | inside place claim left found phase barriers trace =>
        rcases phase with body | sync
        · cases fetches.symm.trans body
        · cases fetches.symm.trans sync
  obtain ⟨new, flat, value, stepped, kept, cheap⟩ :=
    keeps_moves sized (sound.fits cta (List.mem_of_getElem? here)) keeps small moving quiet
  rw [stepped]
  exact ⟨tickets, spent, set_team_sound sound here kept, set_team_cost inside (put_cost small cheap)⟩

theorem release_sound (sized : kernel.grid.Sized) (pos : 0 < kernel.threads)
    (waiting : ∀ thread < kernel.threads, ((device.team index).thread thread).phase.waits = true) :
    Sound kernel tickets spent (kernel.release device index cta) ∧
      kernel.cost tickets (kernel.release device index cta) < kernel.cost tickets device := by
  have inside := (List.getElem?_eq_some_iff.mp here).1
  obtain ⟨keeps, opens⟩ := keeps_release sized pos (sound.fits cta (List.mem_of_getElem? here))
    (sound.teams index cta here) waiting
  have dry : (List.range kernel.threads).any (fun thread =>
      kernel.releasedCarries cta ((device.team index).thread thread)) = false := by
    refine List.any_eq_false.mpr (fun thread listed => ?_)
    simp [(opens thread (List.mem_range.mp listed)).2]
  have shape : kernel.release device index cta = device.setTeam index (opened kernel cta (device.team index)) := by
    simp only [release, dry, carry_dry]
    rfl
  rw [shape]
  exact ⟨set_team_sound sound here keeps, set_team_cost inside (Finset.sum_lt_sum_of_nonempty
    (Finset.nonempty_range_iff.mpr (Nat.pos_iff_ne_zero.mp pos))
    (fun thread listed => (opens thread (Finset.mem_range.mp listed)).1))⟩

end

end Devices

def Kernel.enabled (kernel : Kernel) (device : Device) : DeviceEvent → Bool
  | .launch _ _ _ | .setRetreat _ => false
  | .step index thread =>
    decide (index < device.ctas.length ∧ thread < kernel.threads) && !((device.team index).thread thread).phase.isStill
  | .release index => decide (index < device.ctas.length) && kernel.allWait (device.team index)

def DeviceEvent.isLaunch : DeviceEvent → Bool
  | .launch _ _ _ => true
  | _ => false

def Kernel.moves (kernel : Kernel) (device : Device) : List DeviceEvent → Nat
  | [] => 0
  | event :: rest => (kernel.enabled device event).toNat + kernel.moves (kernel.next device event) rest

theorem all_wait_iff :
    kernel.allWait team = true ↔ ∀ thread < kernel.threads, (team.thread thread).phase.waits = true := by
  simp [allWait]

theorem event_sound (sized : kernel.grid.Sized) (pos : 0 < kernel.threads)
    (room : kernel.isShared = true → kernel.grid.total + device.ctas.length < word64)
    (sound : Sound kernel tickets spent device) (inner : event.isLaunch = false) :
    ∃ later done, Sound kernel later done (kernel.next device event) ∧
      kernel.cost later (kernel.next device event) + (kernel.enabled device event).toNat ≤
        kernel.cost tickets device := by
  have still : ∀ event, kernel.enabled device event = false → kernel.next device event = device →
      ∃ later done, Sound kernel later done (kernel.next device event) ∧
        kernel.cost later (kernel.next device event) + (kernel.enabled device event).toNat ≤ kernel.cost tickets device :=
    fun event off same => ⟨tickets, spent, by rwa [same], by simp [off, same]⟩
  cases event with
  | launch workers start count => exact absurd inner (by simp [DeviceEvent.isLaunch])
  | setRetreat value => exact ⟨tickets, spent, retreat_sound sound value, Nat.le_refl _⟩
  | step index thread =>
    cases here : device.ctas[index]? with
    | none => exact still _ (by simp [enabled, List.getElem?_eq_none_iff.mp here]) (by simp [next, here])
    | some cta =>
      have inside := (List.getElem?_eq_some_iff.mp here).1
      by_cases small : thread < kernel.threads
      · simp only [next, here, enabled, inside, small, true_and, decide_true, Bool.true_and, if_true]
        cases parked : ((device.team index).thread thread).phase.isStill with
        | true =>
          rw [still_step parked]
          exact ⟨tickets, spent, sound, Nat.le_refl _⟩
        | false => exact step_sound sound here sized room small parked
      · exact still _ (by simp [enabled, small]) (by simp [next, here, small])
  | release index =>
    cases here : device.ctas[index]? with
    | none => exact still _ (by simp [enabled, List.getElem?_eq_none_iff.mp here]) (by simp [next, here])
    | some cta =>
      have inside := (List.getElem?_eq_some_iff.mp here).1
      simp only [next, here, enabled, inside, decide_true, Bool.true_and]
      cases waits : kernel.allWait (device.team index) with
      | true =>
        have released := release_sound sound here sized pos ((all_wait_iff).mp waits)
        exact ⟨tickets, spent, released.1, released.2⟩
      | false => exact ⟨tickets, spent, sound, Nat.le_refl _⟩

theorem step_thread_ctas : (kernel.stepThread device index cta number).ctas = device.ctas := by
  unfold stepThread
  dsimp only
  split <;> first | rfl | (split <;> first | rfl | (split <;> rfl))

namespace Kernel

def ctasOf (kernel : Kernel) (schedule : List DeviceEvent) : List Cta :=
  schedule.flatMap (fun event =>
    match event with
    | .launch workers start count => kernel.launched workers start count
    | _ => [])

end Kernel

theorem next_ctas (device : Device) (event : DeviceEvent) :
    (kernel.next device event).ctas = device.ctas ++ kernel.ctasOf [event] := by
  cases event with
  | launch workers start count | setRetreat value => simp [next, ctasOf]
  | step | release =>
    simp only [next, ctasOf, List.flatMap_cons, List.flatMap_nil, List.append_nil]
    split
    · rfl
    · split
      · first | exact step_thread_ctas | rfl
      · rfl

theorem run_ctas (schedule : List DeviceEvent) (device : Device) :
    (kernel.run device schedule).ctas = device.ctas ++ kernel.ctasOf schedule := by
  induction schedule generalizing device with
  | nil => simp [run, ctasOf]
  | cons event rest ih =>
    have tail := ih (kernel.next device event)
    rw [next_ctas, List.append_assoc] at tail
    refine tail.trans ?_
    simp [ctasOf]

theorem inner_ctas (inner : event.isLaunch = false) : (kernel.next device event).ctas = device.ctas := by
  rw [next_ctas]
  cases event with
  | launch workers start count => exact absurd inner (by simp [DeviceEvent.isLaunch])
  | setRetreat value | step index thread | release index => simp [ctasOf]

def Kernel.Ended (kernel : Kernel) (device : Device) : Prop :=
  ∀ index < device.ctas.length, ∀ thread < kernel.threads, ((device.team index).thread thread).phase = .exited

theorem live_event (pos : 0 < kernel.threads) (sound : Sound kernel tickets spent device)
    (unended : ¬kernel.Ended device) : ∃ event, event.isLaunch = false ∧ kernel.enabled device event = true := by
  unfold Ended at unended
  push Not at unended
  obtain ⟨index, inside, thread, small, running⟩ := unended
  have keeps := sound.teams index _ (List.getElem?_eq_getElem inside)
  by_cases moves : ∃ number < kernel.threads, ((device.team index).thread number).phase.isStill = false
  · obtain ⟨number, near, moving⟩ := moves
    exact ⟨.step index number, rfl, by simp [enabled, inside, near, moving]⟩
  have still : ∀ number < kernel.threads, ((device.team index).thread number).phase.isStill = true := by
    intro number near
    cases phase : ((device.team index).thread number).phase.isStill with
    | true => rfl
    | false => exact absurd ⟨number, near, phase⟩ moves
  have live := match shared : kernel.isShared with
    | false => follows_live (keeps.follows shared).2 still
    | true => sharing_live (keeps.shares shared) pos still
  rcases live with waiting | exited
  · exact ⟨.release index, rfl, by simp [enabled, inside, (all_wait_iff).mpr waiting]⟩
  · exact absurd (exited thread small) running

theorem moves_bounded (sized : kernel.grid.Sized) (pos : 0 < kernel.threads) {later : List DeviceEvent}
    (inner : ∀ event ∈ later, event.isLaunch = false)
    (room : kernel.isShared = true → kernel.grid.total + device.ctas.length < word64)
    (sound : Sound kernel tickets spent device) : kernel.moves device later ≤ kernel.cost tickets device := by
  induction later generalizing device tickets spent with
  | nil => exact Nat.zero_le _
  | cons event rest ih =>
    have here := inner event List.mem_cons_self
    obtain ⟨after, done, kept, paid⟩ := event_sound sized pos room sound here
    have bound := ih (fun event listed => inner event (List.mem_cons_of_mem _ listed))
      (by rw [inner_ctas here]; exact room) kept
    rw [moves]
    omega

end Glimmer.Transform.Persistent
