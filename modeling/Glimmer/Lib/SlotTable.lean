import Mathlib.Data.List.Pairwise

namespace Glimmer.Lib

abbrev SlotTable (α : Type) := List (Option α)

namespace SlotTable

variable {α κ : Type}

def seek (p : α → Bool) (table : SlotTable α) : Option α := table.findSome? fun slot => slot.filter p

def put (p : α → Bool) (next : Option α) : SlotTable α → SlotTable α
  | [] => []
  | slot :: rest => if slot.any p then next :: rest else slot :: put p next rest

def place (value : α) : SlotTable α → Option (SlotTable α)
  | [] => none
  | none :: rest => some (some value :: rest)
  | some taken :: rest => (place value rest).map (some taken :: ·)

def sweep (p : α → Bool) (table : SlotTable α) : SlotTable α := table.map fun slot => slot.filter fun value => !p value

def Holds (table : SlotTable α) (value : α) : Prop := some value ∈ table

def Keyed (key : α → κ) (table : SlotTable α) : Prop :=
  table.Pairwise fun first second => ∀ u ∈ first, ∀ v ∈ second, key u ≠ key v

section Lookup
variable {p : α → Bool} {table : SlotTable α} {value : α}

theorem seek_some (found : seek p table = some value) : Holds table value ∧ p value = true := by
  obtain ⟨slot, mem, filtered⟩ := List.exists_of_findSome?_eq_some found
  obtain ⟨rfl, passes⟩ := Option.filter_eq_some_iff.mp filtered
  exact ⟨mem, passes⟩

theorem any_taken {slot : Option α} (hit : slot.any p = true) : ∃ taken, slot = some taken ∧ p taken = true := by
  cases slot with
  | none => cases hit
  | some taken => exact ⟨taken, rfl, hit⟩

theorem not_holds_replicate {n : Nat} : ¬ Holds (List.replicate n none) value := by
  intro held
  have absurd := List.eq_of_mem_replicate held
  cases absurd

end Lookup

variable {key : α → κ} {p : α → Bool} {table : SlotTable α}

theorem keyed_replicate {n : Nat} : Keyed key (List.replicate n none) :=
  List.pairwise_replicate.mpr (.inr nofun)

section
variable (keyed : Keyed key table)
include keyed

theorem keyed_unique {u v : α} (first : Holds table u) (second : Holds table v) (same : key u = key v) : u = v := by
  induction table with
  | nil => cases first
  | cons slot rest ih =>
    obtain ⟨apart, tail⟩ := List.pairwise_cons.mp keyed
    rcases List.mem_cons.mp first with here | there
    · rcases List.mem_cons.mp second with also | later
      · exact Option.some.inj (here.trans also.symm)
      · exact absurd same (apart (some v) later u here.symm v rfl)
    · rcases List.mem_cons.mp second with also | later
      · exact absurd same.symm (apart (some u) there v also.symm u rfl)
      · exact ih tail there later

theorem seek_unique {value : α} (held : Holds table value) (passes : p value = true)
    (only : ∀ other, p other = true → key other = key value) : seek p table = some value := by
  obtain ⟨found, seen⟩ := Option.isSome_iff_exists.mp
    (List.findSome?_isSome_iff.mpr ⟨some value, held, by simp [passes]⟩ : (seek p table).isSome = true)
  obtain ⟨listed, hit⟩ := seek_some seen
  exact seen.trans (congrArg some (keyed_unique keyed listed held (only found hit)))

omit keyed in
theorem holds_place {value : α} {after : SlotTable α} (placed : place value table = some after) (other : α) :
    Holds after other ↔ other = value ∨ Holds table other := by
  induction table generalizing after with
  | nil => cases placed
  | cons slot rest ih =>
    cases slot with
    | none =>
      cases placed
      simp [Holds]
    | some taken =>
      obtain ⟨grown, tail, rfl⟩ := Option.map_eq_some_iff.mp placed
      have inner := ih tail
      simp only [Holds, List.mem_cons, Option.some.injEq] at inner ⊢
      rw [inner]
      exact or_left_comm

theorem keyed_place {value : α} {after : SlotTable α} (placed : place value table = some after)
    (fresh : ∀ other, Holds table other → key other ≠ key value) : Keyed key after := by
  induction table generalizing after with
  | nil => cases placed
  | cons slot rest ih =>
    obtain ⟨apart, tail⟩ := List.pairwise_cons.mp keyed
    cases slot with
    | none =>
      cases placed
      refine List.pairwise_cons.mpr ⟨fun other mem u here v there => ?_, tail⟩
      cases here
      subst there
      exact (fresh v (List.mem_cons_of_mem _ mem)).symm
    | some taken =>
      obtain ⟨grown, inner, rfl⟩ := Option.map_eq_some_iff.mp placed
      refine List.pairwise_cons.mpr
        ⟨fun other mem u here v there => ?_, ih tail inner (fun w held => fresh w (List.mem_cons_of_mem _ held))⟩
      cases here
      subst there
      rcases (holds_place inner v).mp mem with rfl | before
      · exact fresh taken List.mem_cons_self
      · exact apart (some v) before taken rfl v rfl

omit keyed in
theorem put_split {found : α} (held : Holds table found) (here : p found = true) (next : Option α) :
    ∃ before taken after, table = before ++ some taken :: after ∧ p taken = true ∧
      put p next table = before ++ next :: after := by
  induction table with
  | nil => cases held
  | cons slot rest ih =>
    unfold put
    split
    · next hit =>
      obtain ⟨taken, rfl, passes⟩ := any_taken hit
      exact ⟨[], taken, rest, rfl, passes, rfl⟩
    · next missed =>
      have elsewhere : Holds rest found := by
        rcases List.mem_cons.mp held with now | later
        · rw [← now] at missed
          simp [here] at missed
        · exact later
      obtain ⟨before, taken, after, rfl, passes, same⟩ := ih elsewhere
      exact ⟨slot :: before, taken, after, rfl, passes, by rw [same]; rfl⟩

section Put
variable {found : α} (held : Holds table found) (here : p found = true)
  (only : ∀ other, Holds table other → p other = true → key other = key found) (next : Option α)
include held here only

theorem holds_put (other : α) :
    Holds (put p next table) other ↔ next = some other ∨ (Holds table other ∧ key other ≠ key found) := by
  obtain ⟨before, taken, after, rfl, passes, same⟩ := put_split held here next
  have own := only taken (List.mem_append_right _ List.mem_cons_self) passes
  obtain ⟨_, right, cross⟩ := List.pairwise_append.mp keyed
  have apart := (List.pairwise_cons.mp right).1
  rw [same]
  simp only [Holds, List.mem_append, List.mem_cons]
  refine ⟨?_, ?_⟩
  · rintro (early | new | late)
    · refine .inr ⟨.inl early, fun eq => ?_⟩
      exact cross (some other) early (some taken) List.mem_cons_self other rfl taken rfl (eq.trans own.symm)
    · exact .inl new.symm
    · exact .inr ⟨.inr (.inr late), fun eq => apart (some other) late taken rfl other rfl (own.trans eq.symm)⟩
  · rintro (new | ⟨early | now | late, differs⟩)
    · exact .inr (.inl new.symm)
    · exact .inl early
    · exact absurd ((congrArg key (Option.some.inj now)).trans own) differs
    · exact .inr (.inr late)

theorem keyed_put (kept : ∀ value ∈ next, key value = key found) : Keyed key (put p next table) := by
  obtain ⟨before, taken, after, rfl, passes, same⟩ := put_split held here next
  have own := only taken (List.mem_append_right _ List.mem_cons_self) passes
  obtain ⟨left, right, cross⟩ := List.pairwise_append.mp keyed
  obtain ⟨apart, tail⟩ := List.pairwise_cons.mp right
  rw [same]
  refine List.pairwise_append.mpr ⟨left, List.pairwise_cons.mpr ⟨fun other mem u fresh v there => ?_, tail⟩,
    fun first early second late u now v there => ?_⟩
  · rw [kept u fresh, ← own]
    exact apart other mem taken rfl v there
  · rcases List.mem_cons.mp late with rfl | later
    · rw [kept v there, ← own]
      exact cross first early (some taken) List.mem_cons_self u now taken rfl
    · exact cross first early second (List.mem_cons_of_mem _ later) u now v there

end Put

omit keyed in
theorem holds_sweep (other : α) : Holds (sweep p table) other ↔ Holds table other ∧ p other = false := by
  unfold Holds sweep
  rw [List.mem_map]
  refine ⟨?_, fun ⟨held, stays⟩ => ⟨some other, held, by simp [stays]⟩⟩
  rintro ⟨slot, mem, filtered⟩
  obtain ⟨rfl, passes⟩ := Option.filter_eq_some_iff.mp filtered
  exact ⟨mem, by simpa using passes⟩

theorem keyed_sweep : Keyed key (sweep p table) := by
  refine List.pairwise_map.mpr (keyed.imp fun {first second} apart u here v there => ?_)
  exact apart u (Option.filter_eq_some_iff.mp here).1 v (Option.filter_eq_some_iff.mp there).1

end

end SlotTable

end Glimmer.Lib
