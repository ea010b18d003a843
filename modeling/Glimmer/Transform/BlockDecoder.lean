import Mathlib.Data.List.Basic

namespace Glimmer.Transform

-- The input and the output are what is left to read and what has been written. A length starts with its nibble.
def extendedLength (size : Nat) : Nat → List UInt8 → Option (Nat × List UInt8)
  | _, [] => none
  | value, extra :: rest =>
    if extra.toNat > size ∨ value > size - extra.toNat then none
    else if extra.toNat = 255 then extendedLength size (value + extra.toNat) rest
    else some (value + extra.toNat, rest)

def blockLength (size value : Nat) (input : List UInt8) : Option (Nat × List UInt8) :=
  if value = 15 then extendedLength size value input else some (value, input)

def copyMatch (distance : Nat) (output : List UInt8) : Nat → List UInt8
  | 0 => output
  | count + 1 =>
    let copied := copyMatch distance output count
    copied ++ [copied.getD (copied.length - distance) 0]

-- Every round consumes its token, so the length of the input covers the rounds.
def decompressFrom (size : Nat) : Nat → List UInt8 → List UInt8 → Option (List UInt8)
  | rounds + 1, token :: input, output => do
    let (literals, input) ← blockLength size (token.toNat / 16) input
    if literals > input.length ∨ literals > size - output.length then none
    else
      let output := output ++ input.take literals
      match input.drop literals with
      | [] => if output.length = size then some output else none
      | [_] => none
      | low :: high :: input =>
        let distance := low.toNat + 256 * high.toNat
        if distance = 0 ∨ distance > output.length then none
        else
          let (count, input) ← blockLength size (token.toNat % 16) input
          if size - output.length < 4 ∨ count > size - output.length - 4 then none
          else decompressFrom size rounds input (copyMatch distance output (count + 4))
  | _, _, _ => none

def decompress (input : List UInt8) (size : Nat) : Option (List UInt8) := decompressFrom size input.length input []

-- Literals, then a match of four bytes at least.
structure BlockSequence where
  literals : List UInt8
  distance : Nat
  more : Nat
  named : 0 < distance ∧ distance < 65536

def lengthBytes (count : Nat) : List UInt8 :=
  if count < 15 then []
  else List.replicate ((count - 15) / 255) 255 ++ [UInt8.ofNat ((count - 15) % 255)]

def blockToken (literals low : Nat) : UInt8 := UInt8.ofNat (16 * min literals 15 + low)

namespace BlockSequence

variable (s : BlockSequence)

def encoding : List UInt8 :=
  blockToken s.literals.length (min s.more 15) :: lengthBytes s.literals.length ++ s.literals ++
    [UInt8.ofNat (s.distance % 256), UInt8.ofNat (s.distance / 256)] ++ lengthBytes s.more

-- A match repeats the last bytes, as many as its distance, for as long as it lasts.
def expand (output : List UInt8) : List UInt8 :=
  let written := output ++ s.literals
  let window := written.drop (written.length - s.distance)
  written ++ (List.range (s.more + 4)).map fun index => window.getD (index % s.distance) 0

end BlockSequence

-- The last token has no match; its low nibble is not looked at.
structure Block where
  sequences : List BlockSequence
  last : List UInt8
  spare : Fin 16

namespace Block

def encode (last : List UInt8) (spare : Fin 16) : List BlockSequence → List UInt8
  | [] => blockToken last.length spare :: lengthBytes last.length ++ last
  | s :: rest => s.encoding ++ encode last spare rest

-- Every match starts inside what has been decoded before it.
def Reaches : List UInt8 → List BlockSequence → Prop
  | _, [] => True
  | output, s :: rest => s.distance ≤ (output ++ s.literals).length ∧ Reaches (s.expand output) rest

def expandFrom (last : List UInt8) : List UInt8 → List BlockSequence → List UInt8
  | output, [] => output ++ last
  | output, s :: rest => expandFrom last (s.expand output) rest

def encoding (block : Block) : List UInt8 := encode block.last block.spare block.sequences

def expansion (block : Block) : List UInt8 := expandFrom block.last [] block.sequences

end Block

theorem copy_match_eq (distance : Nat) (output : List UInt8) (pos : 0 < distance)
    (inside : distance ≤ output.length) (count : Nat) :
    copyMatch distance output count = output ++ (List.range count).map fun index =>
      (output.drop (output.length - distance)).getD (index % distance) 0 := by
  induction count with
  | zero => simp [copyMatch]
  | succ count ih =>
    rw [copyMatch, ih, List.range_succ, List.map_append, ← List.append_assoc]
    refine congrArg (_ ++ ·) (congrArg ([·]) ?_)
    by_cases near : count < distance
    · have here : output.length + count - distance < output.length := by omega
      have place : output.length - distance + count = output.length + count - distance := by omega
      simp [List.getElem?_append, here, Nat.mod_eq_of_lt near, place]
    · have past : output.length + count - distance = output.length + (count - distance) := by omega
      have again : count % distance = (count - distance) % distance := Nat.mod_eq_sub_mod (Nat.not_lt.mp near)
      have within : count - distance < count := by omega
      simp [past, again, within]

theorem token_high {literals low : Nat} (small : low < 16) : (blockToken literals low).toNat / 16 = min literals 15 := by
  simp only [blockToken, UInt8.toNat_ofNat']
  omega

theorem token_low {literals low : Nat} (small : low < 16) : (blockToken literals low).toNat % 16 = low := by
  simp only [blockToken, UInt8.toNat_ofNat']
  omega

theorem token_split (token : UInt8) {literals : Nat} (high : token.toNat / 16 = min literals 15) :
    token = blockToken literals (token.toNat % 16) := by
  rw [blockToken, ← high, Nat.div_add_mod, UInt8.ofNat_toNat]

-- Bytes of 255 and a smaller one; none may carry the length beyond the output.
theorem extended_length_iff (size value : Nat) (input rest : List UInt8) (count : Nat) :
    extendedLength size value input = some (count, rest) ↔ value ≤ count ∧ count ≤ size ∧
      input = List.replicate ((count - value) / 255) 255 ++ UInt8.ofNat ((count - value) % 255) :: rest := by
  induction input generalizing value with
  | nil => simp [extendedLength]
  | cons extra input ih =>
    have byte := extra.toNat_lt
    have full : extra = 255 ↔ extra.toNat = 255 := UInt8.toNat_inj.symm
    unfold extendedLength
    by_cases small : count - value < 255
    · have only : extra = UInt8.ofNat (count - value) ↔ extra.toNat = count - value := by
        rw [← UInt8.toNat_inj, UInt8.toNat_ofNat', Nat.mod_eq_of_lt (by omega)]
      simp only [Nat.div_eq_of_lt small, Nat.mod_eq_of_lt small, List.replicate_zero, List.nil_append,
        List.cons.injEq, only]
      split
      · simp
        omega
      split
      · rw [ih]
        omega
      · simp only [Option.some.injEq, Prod.mk.injEq]
        rw [← and_assoc, ← and_assoc]
        exact and_congr_left fun _ => by omega
    · have next : count - value = count - (value + 255) + 255 := by omega
      rw [next, Nat.add_div_right _ (by decide), Nat.add_mod_right, List.replicate_succ, List.cons_append,
        List.cons.injEq, full]
      split
      · simp
        omega
      split
      · next more =>
        rw [more, ih]
        simp
        omega
      · simp
        omega

theorem block_length_iff {size nibble count : Nat} (small : nibble < 16) (input rest : List UInt8) :
    blockLength size nibble input = some (count, rest) ↔
      nibble = min count 15 ∧ (15 ≤ count → count ≤ size) ∧ input = lengthBytes count ++ rest := by
  unfold blockLength lengthBytes
  by_cases short : count < 15
  · rw [if_pos short]
    split
    · rw [extended_length_iff]
      omega
    · simp only [Option.some.injEq, Prod.mk.injEq, List.nil_append]
      rw [← and_assoc]
      exact and_congr_left fun _ => by omega
  · rw [if_neg short]
    split
    · rw [extended_length_iff, List.append_assoc, List.singleton_append, ‹nibble = 15›]
      rw [← and_assoc, ← and_assoc]
      exact and_congr_left fun _ => by omega
    · simp only [Option.some.injEq, Prod.mk.injEq]
      omega

theorem expand_eq (s : BlockSequence) (output : List UInt8) (inside : s.distance ≤ (output ++ s.literals).length) :
    s.expand output = copyMatch s.distance (output ++ s.literals) (s.more + 4) :=
  (copy_match_eq _ _ s.named.1 inside _).symm

theorem expand_length (s : BlockSequence) (output : List UInt8) :
    (s.expand output).length = output.length + s.literals.length + s.more + 4 := by
  simp [BlockSequence.expand]
  omega

variable {size rounds : Nat} {token : UInt8} {input output final : List UInt8}

-- One round of the loop reads the last literals, or a sequence whose match fits.
theorem round_cases (decoded : decompressFrom size (rounds + 1) (token :: input) output = some final) :
    (∃ last, token.toNat / 16 = min last.length 15 ∧ input = lengthBytes last.length ++ last ∧ output ++ last = final ∧
      final.length = size) ∨
    ∃ (s : BlockSequence) (rest : List UInt8), token :: input = s.encoding ++ rest ∧
    s.distance ≤ (output ++ s.literals).length ∧
      decompressFrom size rounds rest (s.expand output) = some final := by
  have byte := token.toNat_lt
  simp only [decompressFrom, Option.bind_eq_bind, Option.bind_eq_some_iff, Prod.exists] at decoded
  obtain ⟨count, after, read, result⟩ := decoded
  obtain ⟨nibble, _, rfl⟩ := (block_length_iff (by omega) _ _).mp read
  split at result
  · cases result
  next fits =>
  have taken : (after.take count).length = count := by
    rw [List.length_take]
    omega
  have whole := List.take_append_drop count after
  split at result
  · next ended =>
    split at result
    · next exact_size =>
      cases result
      refine .inl ⟨after.take count, by rw [taken, nibble], ?_, rfl, exact_size⟩
      rw [taken, ← whole, ended, List.append_nil, List.take_take, Nat.min_self]
    · cases result
  · cases result
  next low high after' left =>
  split at result
  · cases result
  next inside =>
  rw [Option.bind_eq_some_iff] at result
  obtain ⟨⟨more, rest⟩, reread, result⟩ := result
  obtain ⟨lower, _, rfl⟩ := (block_length_iff (by omega) _ _).mp reread
  dsimp only at result
  split at result
  · cases result
  have below := low.toNat_lt
  have above := high.toNat_lt
  let s : BlockSequence := ⟨after.take count, low.toNat + 256 * high.toNat, more, by omega⟩
  have near : s.distance ≤ (output ++ s.literals).length := by
    simp only [s]
    omega
  refine .inr ⟨s, rest, ?_, near, by rw [expand_eq s output near]; exact result⟩
  have first : (low.toNat + 256 * high.toNat) % 256 = low.toNat := by omega
  have second : (low.toNat + 256 * high.toNat) / 256 = high.toNat := by omega
  rw [left] at whole
  simp only [BlockSequence.encoding, s, taken, ← lower, ← token_split token nibble, first, second, UInt8.ofNat_toNat]
  nth_rewrite 1 [← whole]
  simp

theorem last_round (spare : Fin 16) (last : List UInt8) (fits : (output ++ last).length = size) :
    decompressFrom size (rounds + 1) (blockToken last.length spare :: lengthBytes last.length ++ last) output =
      some (output ++ last) := by
  rw [List.length_append] at fits
  have read : blockLength size (min last.length 15) (lengthBytes last.length ++ last) = some (last.length, last) :=
    (block_length_iff (by omega) _ _).mpr ⟨rfl, by omega, rfl⟩
  have inside : last.length ≤ size - output.length := by omega
  simp [decompressFrom, token_high spare.isLt, read, inside, fits]

theorem sequence_round (s : BlockSequence) (rest : List UInt8) (inside : s.distance ≤ (output ++ s.literals).length)
    (fits : (s.expand output).length ≤ size) :
    decompressFrom size (rounds + 1) (s.encoding ++ rest) output = decompressFrom size rounds rest (s.expand output) := by
  have named := s.named
  rw [expand_length] at fits
  rw [expand_eq s output inside]
  rw [List.length_append] at inside
  have low : min s.more 15 < 16 := by omega
  let after := s.literals ++ UInt8.ofNat (s.distance % 256) :: UInt8.ofNat (s.distance / 256) ::
    (lengthBytes s.more ++ rest)
  have read : blockLength size (min s.literals.length 15) (lengthBytes s.literals.length ++ after) =
      some (s.literals.length, after) := (block_length_iff (by omega) _ _).mpr ⟨rfl, by omega, rfl⟩
  have reread : blockLength size (min s.more 15) (lengthBytes s.more ++ rest) = some (s.more, rest) :=
    (block_length_iff low _ _).mpr ⟨rfl, by omega, rfl⟩
  have shape : s.encoding ++ rest = blockToken s.literals.length (min s.more 15) ::
    (lengthBytes s.literals.length ++ after) := by
    simp [BlockSequence.encoding, after]
  have taken : after.take s.literals.length = s.literals := by simp [after]
  have dropped : after.drop s.literals.length = UInt8.ofNat (s.distance % 256) :: UInt8.ofNat (s.distance / 256) ::
      (lengthBytes s.more ++ rest) := by simp [after]
  have long : s.literals.length ≤ after.length := by simp [after]
  have distance : s.distance % 256 % 2 ^ 8 + 256 * (s.distance / 256 % 2 ^ 8) = s.distance := by omega
  rw [shape]
  simp only [decompressFrom, token_high low, token_low low, read, reread, taken, dropped, Option.bind_eq_bind,
    Option.bind_some, UInt8.toNat_ofNat', distance, List.length_append]
  rw [if_neg (by omega), if_neg (by omega), if_neg (by omega)]

theorem expand_from_length (last output : List UInt8) (sequences : List BlockSequence) :
    output.length ≤ (Block.expandFrom last output sequences).length := by
  induction sequences generalizing output with
  | nil => simp [Block.expandFrom]
  | cons s rest ih =>
    have grown := expand_length s output
    have longer := ih (s.expand output)
    rw [Block.expandFrom]
    omega

theorem decompress_from_iff (covered : input.length ≤ rounds) : decompressFrom size rounds input output = some final ↔
    ∃ sequences last spare, Block.encode last spare sequences = input ∧ Block.Reaches output sequences ∧
      Block.expandFrom last output sequences = final ∧ final.length = size := by
  constructor
  · intro decoded
    induction rounds generalizing input output with
    | zero => simp [decompressFrom] at decoded
    | succ rounds ih =>
      cases input with
      | nil => simp [decompressFrom] at decoded
      | cons token input =>
        rcases round_cases decoded with ⟨last, high, rfl, ended, exact_size⟩ | ⟨s, rest, shape, inside, later⟩
        · refine ⟨[], last, ⟨token.toNat % 16, by omega⟩, ?_, trivial, ended, exact_size⟩
          rw [Block.encode, ← token_split token high]
          rfl
        · have shorter := congrArg List.length shape
          simp [BlockSequence.encoding] at shorter covered
          obtain ⟨sequences, last, spare, rfl, reaches, ended, exact_size⟩ := ih (by omega) later
          exact ⟨s :: sequences, last, spare, shape.symm, ⟨inside, reaches⟩, ended, exact_size⟩
  · rintro ⟨sequences, last, spare, rfl, reaches, ended, exact_size⟩
    induction sequences generalizing rounds output with
    | nil =>
      cases rounds with
      | zero => simp [Block.encode] at covered
      | succ rounds =>
        subst ended
        exact last_round spare last exact_size
    | cons s rest ih =>
      have fits := expand_from_length last (s.expand output) rest
      rw [← Block.expandFrom, ended, exact_size] at fits
      cases rounds with
      | zero => simp [Block.encode, BlockSequence.encoding] at covered
      | succ rounds =>
        rw [Block.encode, sequence_round s _ reaches.1 fits]
        refine ih ?_ reaches.2 ended
        simp [Block.encode, BlockSequence.encoding] at covered
        omega

theorem decompress_exact :
    (∀ input size output, decompress input size = some output ↔ ∃ block : Block, block.encoding = input ∧
      Block.Reaches [] block.sequences ∧ block.expansion = output ∧ output.length = size) ∧
    ∀ block : Block, Block.Reaches [] block.sequences →
      decompress block.encoding block.expansion.length = some block.expansion := by
  refine ⟨fun input size output => ?_, fun block reaches => ?_⟩
  · rw [decompress, decompress_from_iff (Nat.le_refl _)]
    constructor
    · rintro ⟨sequences, last, spare, coded, reaches, ended, exact_size⟩
      exact ⟨⟨sequences, last, spare⟩, coded, reaches, ended, exact_size⟩
    · rintro ⟨⟨sequences, last, spare⟩, coded, reaches, ended, exact_size⟩
      exact ⟨sequences, last, spare, coded, reaches, ended, exact_size⟩
  · exact (decompress_from_iff (Nat.le_refl _)).mpr ⟨_, _, _, rfl, reaches, rfl, rfl⟩

end Glimmer.Transform
