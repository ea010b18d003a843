import Mathlib.Data.List.Rotate

namespace Glimmer.Lib

variable {α β : Type}

-- Visit at most the given number of entries of a ring, starting at the cursor, and stop at the first one that answers.
def scanFrom (ring : List α) (visit : α → Option β) : Nat → Nat → Option β
  | 0, _ => none
  | attempts + 1, cursor =>
    match ring[cursor]?.bind visit with
    | some found => some found
    | none => scanFrom ring visit attempts ((cursor + 1) % ring.length)

variable {entries ring : List α} {visit : α → Option β} {cursor a b length : Nat}

theorem find_some_congr {other : α → Option β}
    (same : ∀ entry ∈ entries, visit entry = other entry) : entries.findSome? visit = entries.findSome? other := by
  induction entries with
  | nil => rfl
  | cons entry rest ih =>
    rw [List.findSome?_cons, List.findSome?_cons, same entry (by simp),
      ih fun later mem => same later (List.mem_cons_of_mem _ mem)]

theorem find_some_narrow {wider : α → Option β} {fresh found : β}
    (keeps : ∀ entry answer, visit entry = some answer → wider entry = some answer)
    (adds : ∀ entry answer, wider entry = some answer → answer = fresh ∨ visit entry = some answer)
    (other : found ≠ fresh) (result : entries.findSome? wider = some found) : entries.findSome? visit = some found := by
  induction entries with
  | nil => simp at result
  | cons entry rest ih =>
    rw [List.findSome?_cons] at result ⊢
    cases answer : wider entry with
    | some value =>
      rw [answer] at result
      cases result
      rw [(adds entry found answer).resolve_left other]
    | none =>
      rw [answer] at result
      cases before : visit entry with
      | none => exact ih result
      | some value => exact absurd ((keeps entry value before).symm.trans answer) (by simp)

theorem find_some_grown_ring {entry : α} (inRange : cursor ≤ ring.length) (silent : visit entry = none) :
    ((ring ++ [entry]).rotate cursor).findSome? visit = (ring.rotate cursor).findSome? visit := by
  rw [List.rotate_eq_drop_append_take (by simp; omega), List.rotate_eq_drop_append_take inRange,
    List.drop_append_of_le_length inRange, List.take_append_of_le_length inRange]
  simp [List.findSome?_append, silent]

theorem take_rotate_succ (ring : List α) (cursor count : Nat) (inRange : cursor < ring.length)
    (bounded : count + 1 ≤ ring.length) :
    (ring.rotate cursor).take (count + 1) = ring[cursor] :: (ring.rotate ((cursor + 1) % ring.length)).take count := by
  apply List.ext_getElem
  · simp only [List.length_take, List.length_rotate, List.length_cons]
    omega
  · intro index left right
    cases index with
    | zero =>
      simp [List.getElem_take, List.getElem_rotate, List.getElem_cons_zero, Nat.mod_eq_of_lt inRange]
    | succ rest =>
      have shifted : (rest + 1 + cursor) % ring.length = (rest + (cursor + 1) % ring.length) % ring.length := by
        rw [Nat.add_mod rest ((cursor + 1) % ring.length), Nat.mod_mod, ← Nat.add_mod]
        congr 1
        omega
      simp [List.getElem_take, List.getElem_rotate, List.getElem_cons_succ, shifted]

theorem scan_from_eq (ring : List α) (visit : α → Option β) (attempts cursor : Nat)
    (inRange : cursor < ring.length) (bounded : attempts ≤ ring.length) :
    scanFrom ring visit attempts cursor = ((ring.rotate cursor).take attempts).findSome? visit := by
  induction attempts generalizing cursor with
  | zero => simp [scanFrom]
  | succ attempts ih =>
    have next : (cursor + 1) % ring.length < ring.length := Nat.mod_lt _ (by omega)
    rw [take_rotate_succ ring cursor attempts inRange bounded, List.findSome?_cons, scanFrom,
      List.getElem?_eq_getElem inRange, Option.bind_some, ih _ next (by omega)]
    cases visit ring[cursor] <;> rfl

theorem scan_full_turn (inRange : cursor < ring.length) :
    scanFrom ring visit ring.length cursor = (ring.rotate cursor).findSome? visit := by
  rw [scan_from_eq ring visit ring.length cursor inRange (Nat.le_refl _)]
  congr 1
  simp

-- A scan that stands at the cursor reaches position a before position b.
def Before (cursor a b : Nat) : Prop := (cursor ≤ a ∧ b < cursor) ∨ ((cursor ≤ a ↔ cursor ≤ b) ∧ a < b)

instance (cursor a b : Nat) : Decidable (Before cursor a b) := by
  unfold Before
  infer_instance

theorem before_flip (ne : a ≠ b) : Before cursor b a ↔ ¬ Before cursor a b := by
  unfold Before
  omega

theorem next_cursor (inRange : cursor < length) :
    (cursor + 1) % length = if cursor + 1 = length then 0 else cursor + 1 := by
  split
  · next last => rw [last, Nat.mod_self]
  · exact Nat.mod_eq_of_lt (by omega)

theorem before_visited (inRange : cursor < length) (other : b < length) (ne : cursor ≠ b) :
    Before cursor cursor b ∧ ¬ Before ((cursor + 1) % length) cursor b := by
  rw [next_cursor inRange]
  unfold Before
  split <;> omega

theorem before_unvisited (first : a < length) (second : b < length) (inRange : cursor < length)
    (notFirst : cursor ≠ a) (notSecond : cursor ≠ b) : Before ((cursor + 1) % length) a b ↔ Before cursor a b := by
  rw [next_cursor inRange]
  unfold Before
  split <;> omega

end Glimmer.Lib
