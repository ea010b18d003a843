import Mathlib.Data.List.Induction

namespace Glimmer.Core.AdaptiveSlo

structure Options where
  initialReservedSlots : UInt64 := 0
  minReservedSlots : UInt64 := 0
  maxReservedSlots : UInt64 := 0
  priorityThreshold : UInt32 := 1
  targetQueueWaitMicroseconds : UInt64 := 0
  observationWindow : UInt64 := 32
  violationRatioPercent : UInt32 := 25
  increaseStep : UInt64 := 1
  decreaseStep : UInt64 := 1

structure Observation where
  priority : UInt32 := 0
  queueWaitMicroseconds : UInt64 := 0

structure Controller where
  reservedSlots : UInt64
  windowSamples : UInt64 := 0
  windowViolations : UInt64 := 0

variable (options : Options)

def normalised : Options :=
  let most := max options.maxReservedSlots options.minReservedSlots
  { options with
    maxReservedSlots := most
    initialReservedSlots := max options.minReservedSlots (min options.initialReservedSlots most)
    observationWindow := max 1 (min options.observationWindow 1000000)
    violationRatioPercent := max 1 (min options.violationRatioPercent 100)
    increaseStep := max options.increaseStep 1
    decreaseStep := max options.decreaseStep 1 }

def counts (observation : Observation) : Bool :=
  !(options.targetQueueWaitMicroseconds == 0 || observation.priority < options.priorityThreshold)

def violates (observation : Observation) : Bool :=
  observation.queueWaitMicroseconds > options.targetQueueWaitMicroseconds

def requiredViolations : UInt64 :=
  options.observationWindow / 100 * options.violationRatioPercent.toUInt64 +
    (options.observationWindow % 100 * options.violationRatioPercent.toUInt64 + 99) / 100

def adjusted (reserved : UInt64) (violated : Bool) : UInt64 :=
  if violated then reserved + min options.increaseStep (options.maxReservedSlots - reserved)
  else if reserved > options.minReservedSlots then
    reserved - min options.decreaseStep (reserved - options.minReservedSlots)
  else reserved

-- The options of a controller never change once they are normalised.
def observe (controller : Controller) (observation : Observation) : Controller × Option UInt64 :=
  if !counts options observation then (controller, none)
  else
    let samples := controller.windowSamples + 1
    let violations := controller.windowViolations + if violates options observation then 1 else 0
    if samples < options.observationWindow then
      ({ controller with windowSamples := samples, windowViolations := violations }, none)
    else
      let reserved := adjusted options controller.reservedSlots (requiredViolations options ≤ violations)
      ({ reservedSlots := reserved }, if reserved = controller.reservedSlots then none else some reserved)

def observed (run : Controller × List UInt64) (observation : Observation) : Controller × List UInt64 :=
  let (next, change) := observe options run.1 observation
  (next, run.2 ++ change.toList)

def observeAll (observations : List Observation) : Controller × List UInt64 :=
  observations.foldl (observed options) ({ reservedSlots := options.initialReservedSlots }, [])

-- What a full window of counted observations is for.
def reaction (reserved : Nat) (window : List Observation) : Nat :=
  if options.observationWindow.toNat * options.violationRatioPercent.toNat ≤
      100 * window.countP (violates options) then
    reserved + min options.increaseStep.toNat (options.maxReservedSlots.toNat - reserved)
  else reserved - min options.decreaseStep.toNat (reserved - options.minReservedSlots.toNat)

structure Normal : Prop where
  short : options.observationWindow.toNat ≤ 1000000
  percent : options.violationRatioPercent.toNat ≤ 100
  positive : 0 < options.observationWindow.toNat
  atLeast : options.minReservedSlots.toNat ≤ options.initialReservedSlots.toNat
  atMost : options.initialReservedSlots.toNat ≤ options.maxReservedSlots.toNat

theorem normalised_normal : Normal (normalised options) := by
  constructor <;>
    simp only [normalised, UInt64.toNat_max, UInt64.toNat_min, UInt32.toNat_max, UInt32.toNat_min,
      UInt64.reduceToNat, UInt32.reduceToNat] <;> omega

variable {options} (normal : Normal options)
include normal

theorem required_violations_exact (violations : UInt64) :
    requiredViolations options ≤ violations ↔
      options.observationWindow.toNat * options.violationRatioPercent.toNat ≤ 100 * violations.toNat := by
  have whole : options.observationWindow.toNat / 100 * _ ≤ 10000 * 100 :=
    Nat.mul_le_mul (by have := normal.short; omega) normal.percent
  have rest : options.observationWindow.toNat % 100 * _ ≤ 99 * 100 := Nat.mul_le_mul (by omega) normal.percent
  rw [← Nat.div_add_mod options.observationWindow.toNat 100, Nat.add_mul, Nat.mul_assoc, UInt64.le_iff_toNat_le]
  simp only [requiredViolations, UInt64.toNat_add, UInt64.toNat_mul, UInt64.toNat_div, UInt64.toNat_mod,
    UInt32.toNat_toUInt64, UInt64.reduceToNat]
  omega

omit normal in
theorem observe_uncounted {observation : Observation} (controller : Controller)
    (uncounted : ¬counts options observation) : observe options controller observation = (controller, none) := by
  rw [observe, if_pos (by simpa using uncounted)]

-- The counted observations so far are whole windows followed by the running one.
structure Tracks (options : Options) (controller : Controller) (full recent : List Observation) : Prop where
  atLeast : options.minReservedSlots.toNat ≤ controller.reservedSlots.toNat
  atMost : controller.reservedSlots.toNat ≤ options.maxReservedSlots.toNat
  whole : options.observationWindow.toNat ∣ full.length
  running : recent.length < options.observationWindow.toNat
  samples : controller.windowSamples.toNat = recent.length
  violations : controller.windowViolations.toNat = recent.countP (violates options)

theorem observe_counted {controller : Controller} {full recent : List Observation} {observation : Observation}
    (tracks : Tracks options controller full recent) (counted : counts options observation) :
    let after := (observe options controller observation).1
    after.reservedSlots.toNat = (if recent.length + 1 = options.observationWindow.toNat then
        reaction options controller.reservedSlots.toNat (recent ++ [observation])
      else controller.reservedSlots.toNat) ∧
    ∃ whole partly, whole ++ partly = full ++ recent ++ [observation] ∧ Tracks options after whole partly := by
  obtain ⟨atLeast, atMost, whole, running, samples, violations⟩ := tracks
  have short := normal.short
  have few := recent.countP_le_length (p := violates options)
  have sampled : (controller.windowSamples + 1).toNat = recent.length + 1 := by
    simp only [UInt64.toNat_add, samples, UInt64.reduceToNat]
    omega
  have violated : (controller.windowViolations + if violates options observation then 1 else 0).toNat =
      (recent ++ [observation]).countP (violates options) := by
    rw [UInt64.toNat_add, violations, List.countP_append, List.countP_singleton]
    split <;> simp only [UInt64.reduceToNat] <;> omega
  rw [observe, if_neg (by simpa using counted)]
  generalize controller.windowViolations + _ = added at violated ⊢
  dsimp only
  split
  next early =>
    rw [UInt64.lt_iff_toNat_lt, sampled] at early
    rw [if_neg (by omega)]
    exact ⟨rfl, full, recent ++ [observation], (List.append_assoc ..).symm,
      ⟨atLeast, atMost, whole, by simpa using early, by simpa using sampled, violated⟩⟩
  next ended =>
    rw [UInt64.lt_iff_toNat_lt, sampled] at ended
    have enough := required_violations_exact normal added
    have moved : (adjusted options controller.reservedSlots (requiredViolations options ≤ added)).toNat =
        reaction options controller.reservedSlots.toNat (recent ++ [observation]) := by
      have bound := options.maxReservedSlots.toNat_lt
      rw [violated] at enough
      simp only [adjusted, reaction, decide_eq_true_eq, enough, gt_iff_lt, UInt64.lt_iff_toNat_lt]
      split
      · simp only [UInt64.toNat_add, UInt64.toNat_min, UInt64.toNat_sub]
        omega
      split
      · simp only [UInt64.toNat_min, UInt64.toNat_sub]
        omega
      · omega
    have filled : recent.length + 1 = options.observationWindow.toNat := by omega
    refine ⟨by rw [if_pos filled, moved], full ++ recent ++ [observation], [], List.append_nil _,
      ⟨?_, ?_, ?_, normal.positive, rfl, rfl⟩⟩
    · rw [moved, reaction]
      split <;> omega
    · rw [moved, reaction]
      split <;> omega
    · rw [List.append_assoc, List.length_append]
      exact (Nat.dvd_add_iff_right whole).mp ⟨1, by simp [filled]⟩

theorem run_tracks (observations : List Observation) :
    ∃ full recent, full ++ recent = observations.filter (counts options) ∧
      Tracks options (observeAll options observations).1 full recent := by
  induction observations using List.reverseRecOn with
  | nil => exact ⟨[], [], rfl, ⟨normal.atLeast, normal.atMost, Nat.dvd_zero _, normal.positive, rfl, rfl⟩⟩
  | append_singleton earlier observation step =>
    obtain ⟨full, recent, seen, tracks⟩ := step
    rw [List.filter_append, ← seen, observeAll, List.foldl_append, List.foldl_cons, List.foldl_nil]
    by_cases counted : counts options observation
    · rw [List.filter_cons_of_pos counted]
      exact (observe_counted normal tracks counted).2
    · rw [List.filter_cons_of_neg counted, observed, observe_uncounted _ counted]
      exact ⟨full, recent, (List.append_nil _).symm, tracks⟩

omit normal in
theorem run_counted (observations : List Observation) :
    observeAll options (observations.filter (counts options)) = observeAll options observations := by
  rw [observeAll, List.foldl_filter, observeAll]
  congr
  funext run observation
  split
  · rfl
  next uncounted =>
  rw [observed, observe_uncounted _ uncounted]
  simp

omit normal in
theorem reservation_exact (options : Options) (earlier : List Observation) (observation : Observation) :
    let normal := normalised options
    let controller := (observeAll normal earlier).1
    let after := (observe normal controller observation).1
    normal.minReservedSlots ≤ controller.reservedSlots ∧ controller.reservedSlots ≤ normal.maxReservedSlots ∧
    observeAll normal (earlier.filter (counts normal)) = observeAll normal earlier ∧
    (observe normal controller observation).2 =
      (if after.reservedSlots = controller.reservedSlots then none else some after.reservedSlots) ∧
    if counts normal observation then
      ∃ full recent, full ++ recent = earlier.filter (counts normal) ∧
        normal.observationWindow.toNat ∣ full.length ∧ recent.length < normal.observationWindow.toNat ∧
        after.reservedSlots.toNat =
          if recent.length + 1 = normal.observationWindow.toNat then
            reaction normal controller.reservedSlots.toNat (recent ++ [observation])
          else controller.reservedSlots.toNat
    else after = controller := by
  intro normal controller
  obtain ⟨full, recent, seen, tracks⟩ := run_tracks (normalised_normal options) earlier
  refine ⟨UInt64.le_iff_toNat_le.mpr tracks.atLeast, UInt64.le_iff_toNat_le.mpr tracks.atMost,
    run_counted earlier, ?_, ?_⟩
  · unfold observe
    split
    · exact (if_pos rfl).symm
    dsimp only
    split
    · exact (if_pos rfl).symm
    · rfl
  split
  next counted =>
    exact ⟨full, recent, seen, tracks.whole, tracks.running,
      (observe_counted (normalised_normal options) tracks counted).1⟩
  next uncounted => exact congrArg Prod.fst (observe_uncounted controller uncounted)

omit normal in
theorem disabled_never_moves :
    let options := normalised { initialReservedSlots := 1, maxReservedSlots := 1, observationWindow := 1 }
    let observation : Observation := { priority := 1 }
    options.priorityThreshold ≤ observation.priority ∧ reaction options 1 [observation] = 0 ∧
      (observeAll options []).1.reservedSlots = 1 ∧ (observeAll options [observation]).1.reservedSlots = 1 := by
  decide +kernel

end Glimmer.Core.AdaptiveSlo
