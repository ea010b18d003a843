import Mathlib.Data.List.Nodup
import Mathlib.Algebra.BigOperators.Group.List.Basic
import Mathlib.Algebra.GroupWithZero.Nat

namespace Glimmer.Lib

variable {α κ : Type} [DecidableEq κ] (key : α → κ)

def lookupKey (wanted : κ) (roster : List α) : Option α := roster.find? (fun record => decide (key record = wanted))

def amend (wanted : κ) (change : α → α) (roster : List α) : List α :=
  roster.map (fun record => if key record = wanted then change record else record)

def strike (wanted : κ) (roster : List α) : List α := roster.filter (fun record => decide (key record ≠ wanted))

variable {record old : α}

section Lookup
variable {key} {roster : List α} {wanted : κ}

theorem lookup_key_some (found : lookupKey key wanted roster = some record) : record ∈ roster ∧ key record = wanted :=
  ⟨List.mem_of_find?_eq_some found, by simpa using List.find?_some found⟩

theorem lookup_key_none (absent : lookupKey key wanted roster = none) : ∀ record ∈ roster, key record ≠ wanted := by
  intro record mem
  simpa using List.find?_eq_none.mp absent record mem

theorem lookup_key_mem (distinct : (roster.map key).Nodup) (mem : record ∈ roster) :
    lookupKey key (key record) roster = some record := by
  cases found : lookupKey key (key record) roster with
  | none => exact absurd rfl (lookup_key_none found record mem)
  | some other =>
    obtain ⟨listed, same⟩ := lookup_key_some found
    rw [List.inj_on_of_nodup_map distinct listed mem same]

end Lookup

section Amend
variable {key} {roster : List α} {wanted : κ} {change : α → α}

theorem amend_length : (amend key wanted change roster).length = roster.length := by
  simp [amend]

theorem amend_keys (kept : ∀ record, key (change record) = key record) :
    (amend key wanted change roster).map key = roster.map key := by
  rw [amend, List.map_map]
  refine List.map_congr_left (fun record _ => ?_)
  simp only [Function.comp_apply]
  split
  · exact kept record
  · rfl

theorem amend_mem (mem : record ∈ amend key wanted change roster) :
    (record ∈ roster ∧ key record ≠ wanted) ∨ ∃ old ∈ roster, key old = wanted ∧ record = change old := by
  obtain ⟨old, listed, shape⟩ := List.mem_map.mp mem
  split at shape
  · next here => exact .inr ⟨old, listed, here, shape.symm⟩
  · next other => exact .inl (shape ▸ ⟨listed, other⟩)

theorem amend_forall {holds : α → Prop} (distinct : (roster.map key).Nodup) (listed : old ∈ roster)
    (here : key old = wanted) (all : ∀ record ∈ roster, holds record) (new : holds (change old)) :
    ∀ record ∈ amend key wanted change roster, holds record := by
  intro record mem
  rcases amend_mem mem with ⟨same, _⟩ | ⟨other, kept, found, rfl⟩
  · exact all record same
  · rw [List.inj_on_of_nodup_map distinct kept listed (found.trans here.symm)]
    exact new

theorem mem_amend_hit (listed : old ∈ roster) (here : key old = wanted) : change old ∈ amend key wanted change roster :=
  List.mem_map.mpr ⟨old, listed, by rw [if_pos here]⟩

theorem mem_amend_other (listed : record ∈ roster) (other : key record ≠ wanted) :
    record ∈ amend key wanted change roster :=
  List.mem_map.mpr ⟨record, listed, by rw [if_neg other]⟩

theorem amend_absent (absent : ∀ record ∈ roster, key record ≠ wanted) : amend key wanted change roster = roster := by
  refine (List.map_congr_left (fun record mem => ?_)).trans (List.map_id _)
  rw [if_neg (absent record mem)]
  rfl

theorem amend_unique (distinct : (roster.map key).Nodup) (listed : old ∈ roster) (here : key old = wanted)
    {other : α → α} (same : change old = other old) :
    amend key wanted change roster = amend key wanted other roster := by
  refine List.map_congr_left (fun record mem => ?_)
  split
  · next found =>
    rw [List.inj_on_of_nodup_map distinct mem listed (found.trans here.symm)]
    exact same
  · rfl

theorem amend_amend {later : α → α} (kept : ∀ record, key record = wanted → key (change record) = wanted) :
    amend key wanted later (amend key wanted change roster) = amend key wanted (later ∘ change) roster := by
  rw [amend, amend, List.map_map]
  refine List.map_congr_left (fun record _ => ?_)
  simp only [Function.comp_apply]
  by_cases here : key record = wanted
  · rw [if_pos here, if_pos (kept record here), if_pos here]
  · rw [if_neg here, if_neg here, if_neg here]

omit [DecidableEq κ] in
theorem listed_split (distinct : (roster.map key).Nodup) (listed : old ∈ roster) (here : key old = wanted) :
    ∃ before after, roster = before ++ old :: after ∧ (∀ record ∈ before, key record ≠ wanted) ∧
      ∀ record ∈ after, key record ≠ wanted := by
  obtain ⟨before, after, rfl⟩ := List.append_of_mem listed
  rw [List.map_append, List.map_cons] at distinct
  obtain ⟨fresh, _⟩ := List.nodup_cons.mp (List.nodup_middle.mp distinct)
  refine ⟨before, after, rfl, fun record mem same => fresh ?_, fun record mem same => fresh ?_⟩
  · exact List.mem_append_left _ (List.mem_map.mpr ⟨record, mem, same.trans here.symm⟩)
  · exact List.mem_append_right _ (List.mem_map.mpr ⟨record, mem, same.trans here.symm⟩)

theorem amend_sum (weight : α → Nat) (distinct : (roster.map key).Nodup) (listed : old ∈ roster)
    (here : key old = wanted) :
    ((amend key wanted change roster).map weight).sum + weight old = (roster.map weight).sum + weight (change old) := by
  obtain ⟨before, after, rfl, left, right⟩ := listed_split distinct listed here
  have changed : amend key wanted change (before ++ old :: after) =
      amend key wanted change before ++ change old :: amend key wanted change after := by
    simp [amend, here]
  rw [changed, amend_absent left, amend_absent right]
  simp only [List.map_append, List.map_cons, List.sum_append, List.sum_cons]
  omega

end Amend

section Strike
variable {key} {roster : List α} {wanted : κ}

theorem strike_mem : record ∈ strike key wanted roster ↔ record ∈ roster ∧ key record ≠ wanted := by
  simp [strike]

theorem strike_distinct (distinct : (roster.map key).Nodup) : ((strike key wanted roster).map key).Nodup :=
  distinct.sublist (List.filter_sublist.map key)

theorem strike_length_le : (strike key wanted roster).length ≤ roster.length := List.length_filter_le _ _

theorem strike_absent (absent : ∀ record ∈ roster, key record ≠ wanted) : strike key wanted roster = roster :=
  List.filter_eq_self.mpr (by simpa using absent)

theorem strike_amend {change : α → α} (kept : ∀ record, key record = wanted → key (change record) = wanted) :
    strike key wanted (amend key wanted change roster) = strike key wanted roster := by
  induction roster with
  | nil => rfl
  | cons first rest ih =>
    unfold strike amend at ih ⊢
    by_cases here : key first = wanted
    · simpa [here, kept first here] using ih
    · simpa [here] using ih

theorem strike_sum (weight : α → Nat) (distinct : (roster.map key).Nodup) (listed : old ∈ roster)
    (here : key old = wanted) : ((strike key wanted roster).map weight).sum + weight old = (roster.map weight).sum := by
  obtain ⟨before, after, rfl, left, right⟩ := listed_split distinct listed here
  have struck : strike key wanted (before ++ old :: after) = strike key wanted before ++ strike key wanted after := by
    simp [strike, here]
  rw [struck, strike_absent left, strike_absent right]
  simp only [List.map_append, List.map_cons, List.sum_append, List.sum_cons]
  omega

end Strike

theorem filter_sum {roster : List α} {weight : α → Nat} {keep : α → Bool}
    (light : ∀ record ∈ roster, keep record = false → weight record = 0) :
    ((roster.filter keep).map weight).sum = (roster.map weight).sum := by
  induction roster with
  | nil => rfl
  | cons first rest ih =>
    have tail := ih (fun record mem => light record (List.mem_cons_of_mem _ mem))
    rw [List.map_cons, List.sum_cons]
    cases kept : keep first with
    | true => rw [List.filter_cons_of_pos kept, List.map_cons, List.sum_cons, tail]
    | false =>
      rw [List.filter_cons_of_neg (by simp [kept]), light first List.mem_cons_self kept, Nat.zero_add]
      exact tail

end Glimmer.Lib
