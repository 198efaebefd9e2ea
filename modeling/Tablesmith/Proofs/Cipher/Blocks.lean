import Mathlib
import Tablesmith.Cipher.Aes

/-!
# Blocks and chains

Every step of a round has an inverse. The bytes of the substitution are all different,
since every byte is among them; the rows move back; and mixing the columns is a matrix
over the field of 256 elements, whose inverse is checked by its coefficients
(`mix_mix`). So decryption undoes encryption under any round keys, and the other way
round (`decrypt_encrypt`, `encrypt_decrypt`).

A filled message ends with one to sixteen bytes that all hold their number, and nothing else
is taken off again (`unpad?_eq_some_iff`). Blocks are a list of bytes of their length times
sixteen (`toBlocks?_eq_some_iff`). A chain is decrypted block by block, since the block before
is at hand on both sides in its encrypted form.
-/

namespace Tablesmith.Cipher.Aes

variable {a b byte : UInt8} {block key : Block}

/-- The set of some bytes as the bits of a number. -/
private def bitsOf (bytes : List UInt8) (bits : Nat) : Nat :=
  bytes.foldl (fun bits byte => bits ||| 2 ^ byte.toNat) bits

private theorem testBit_bitsOf (bytes : List UInt8) (bits : Nat) :
    (bitsOf bytes bits).testBit byte.toNat = true ↔ byte ∈ bytes ∨ bits.testBit byte.toNat = true := by
  induction bytes generalizing bits with
  | nil => simp [bitsOf]
  | cons first bytes ih =>
    show (bitsOf bytes (bits ||| 2 ^ first.toNat)).testBit byte.toNat = true ↔ _
    rw [ih, Nat.testBit_or, Nat.testBit_two_pow, Bool.or_eq_true, decide_eq_true_eq, UInt8.toNat_inj, List.mem_cons,
      eq_comm (a := byte)]
    tauto

/-- Every byte is a substitute. -/
theorem mem_substitutes (byte : UInt8) : byte ∈ substitutes.toList := by
  have all_bits : bitsOf substitutes.toList 0 = 2 ^ 256 - 1 := by decide +kernel
  have bit : (bitsOf substitutes.toList 0).testBit byte.toNat = true := by
    rw [all_bits, Nat.testBit_two_pow_sub_one]
    exact decide_eq_true byte.toNat_lt
  rw [testBit_bitsOf] at bit
  simpa using bit

theorem substitute_restore (byte : UInt8) : substitute (restore byte) = byte := by
  have inside : substitutes.toList.idxOf byte < substitutes.toList.length := List.idxOf_lt_length_of_mem (mem_substitutes byte)
  have size : substitutes.toList.length = 256 := by decide +kernel
  have small : substitutes.toList.idxOf byte < 256 := by omega
  have restored : (restore byte).toNat = substitutes.toList.idxOf byte := by
    have below := byte.toNat_lt
    simp [restore, sources, Array.getD_eq_getD_getElem?, below]
    omega
  rw [substitute, restored, Array.getD_eq_getD_getElem?, ← Array.getElem?_toList, List.getElem?_eq_getElem inside,
    Option.getD_some, List.getElem_idxOf]

/-- No two bytes have one substitute, since there are no more bytes than substitutes. -/
theorem substitute_injective : Function.Injective substitute := by
  apply Finite.injective_iff_surjective.mpr
  intro byte
  exact ⟨restore byte, substitute_restore byte⟩

theorem restore_substitute (byte : UInt8) : restore (substitute byte) = byte := by
  apply substitute_injective
  exact substitute_restore (substitute byte)

theorem map_restore_substitute (block : Block) : (block.map substitute).map restore = block := by
  simp [Vector.map_map, Function.comp_def, restore_substitute]

theorem map_substitute_restore (block : Block) : (block.map restore).map substitute = block := by
  simp [Vector.map_map, Function.comp_def, substitute_restore]

theorem add_add (key block : Block) : add key (add key block) = block := by
  apply Vector.ext
  intro i inside
  simp [add]

theorem unshiftRows_shiftRows (block : Block) : unshiftRows (shiftRows block) = block := by
  apply Vector.ext
  intro i inside
  have place : ((i + 12 * (i % 4)) % 16 + 4 * ((i + 12 * (i % 4)) % 16 % 4)) % 16 = i := by omega
  simp only [unshiftRows, shiftRows, Vector.getElem_ofFn, place]

theorem shiftRows_unshiftRows (block : Block) : shiftRows (unshiftRows block) = block := by
  apply Vector.ext
  intro i inside
  have place : ((i + 4 * (i % 4)) % 16 + 12 * ((i + 4 * (i % 4)) % 16 % 4)) % 16 = i := by omega
  simp only [unshiftRows, shiftRows, Vector.getElem_ofFn, place]

/-- What doubling a byte with this upper bit adds to the shifted byte. -/
private def carry (upper : UInt8) : UInt8 :=
  if upper = 0 then 0 else 0x1b

private theorem double_eq (byte : UInt8) : double byte = (byte <<< 1) ^^^ carry (byte &&& 0x80) := by
  unfold double carry
  split
  · rw [UInt8.xor_zero]
  · rfl

private theorem upper_eq : ∀ code < 256, UInt8.ofNat code &&& 0x80 = 0 ∨ UInt8.ofNat code &&& 0x80 = 0x80 := by
  decide +kernel

private theorem carry_add (a b : UInt8) : carry ((a ^^^ b) &&& 0x80) = carry (a &&& 0x80) ^^^ carry (b &&& 0x80) := by
  have upper : (a ^^^ b) &&& 0x80 = (a &&& 0x80) ^^^ (b &&& 0x80) := by
    apply UInt8.toNat.inj
    simp only [UInt8.toNat_and, UInt8.toNat_xor, Nat.and_xor_distrib_right]
  have kinds (byte : UInt8) : byte &&& 0x80 = 0 ∨ byte &&& 0x80 = 0x80 := by
    have known := upper_eq byte.toNat byte.toNat_lt
    rwa [UInt8.ofNat_toNat] at known
  rw [upper]
  rcases kinds a with a_upper | a_upper <;> rcases kinds b with b_upper | b_upper <;> rw [a_upper, b_upper] <;> decide

theorem double_add (a b : UInt8) : double (a ^^^ b) = double a ^^^ double b := by
  rw [double_eq, double_eq, double_eq, carry_add, UInt8.shiftLeft_xor]
  ac_rfl

theorem ifBit_add (factor bit a b : UInt8) : ifBit factor bit (a ^^^ b) = ifBit factor bit a ^^^ ifBit factor bit b := by
  unfold ifBit
  split
  · rfl
  · rfl

theorem times_add (factor a b : UInt8) : times factor (a ^^^ b) = times factor a ^^^ times factor b := by
  simp only [times, double_add, ifBit_add]
  ac_rfl

theorem below_zero (block : Block) (i : Fin 16) : below block i 0 = block[i] := by
  have place : i.val / 4 * 4 + (i.val % 4 + 0) % 4 = i.val := by omega
  simp only [below, place]
  rfl

theorem below_round (block : Block) (i : Fin 16) (steps : Nat) : below block i (steps + 4) = below block i steps := by
  have place : i.val / 4 * 4 + (i.val % 4 + (steps + 4)) % 4 = i.val / 4 * 4 + (i.val % 4 + steps) % 4 := by omega
  simp only [below, place]

theorem below_mix (f₀ f₁ f₂ f₃ : UInt8) (block : Block) (i : Fin 16) (steps : Nat) :
    below (mix f₀ f₁ f₂ f₃ block) i steps =
      times f₀ (below block i steps) ^^^ times f₁ (below block i (steps + 1)) ^^^ times f₂ (below block i (steps + 2)) ^^^
        times f₃ (below block i (steps + 3)) := by
  have place (further : Nat) :
      (i.val / 4 * 4 + (i.val % 4 + steps) % 4) / 4 * 4 + ((i.val / 4 * 4 + (i.val % 4 + steps) % 4) % 4 + further) % 4 =
        i.val / 4 * 4 + (i.val % 4 + (steps + further)) % 4 := by omega
  have here := place 0
  simp only [Nat.add_zero] at here
  simp only [below, mix, Vector.getElem_ofFn, Nat.add_zero, here, place]

/-- A matrix undoes another on a byte: their product keeps the byte in its diagonal and has zeros elsewhere. All rows of
    the product have the same coefficients, since those of the factors are turned from row to row. -/
def Undoes (f₀ f₁ f₂ f₃ g₀ g₁ g₂ g₃ x : UInt8) : Prop :=
  times f₀ (times g₀ x) ^^^ times f₁ (times g₃ x) ^^^ times f₂ (times g₂ x) ^^^ times f₃ (times g₁ x) = x ∧
    times f₀ (times g₁ x) ^^^ times f₁ (times g₀ x) ^^^ times f₂ (times g₃ x) ^^^ times f₃ (times g₂ x) = 0 ∧
      times f₀ (times g₂ x) ^^^ times f₁ (times g₁ x) ^^^ times f₂ (times g₀ x) ^^^ times f₃ (times g₃ x) = 0 ∧
        times f₀ (times g₃ x) ^^^ times f₁ (times g₂ x) ^^^ times f₂ (times g₁ x) ^^^ times f₃ (times g₀ x) = 0

instance (f₀ f₁ f₂ f₃ g₀ g₁ g₂ g₃ x : UInt8) : Decidable (Undoes f₀ f₁ f₂ f₃ g₀ g₁ g₂ g₃ x) :=
  inferInstanceAs (Decidable (_ ∧ _ ∧ _ ∧ _))

theorem mix_mix {f₀ f₁ f₂ f₃ g₀ g₁ g₂ g₃ : UInt8} (undoes : ∀ x, Undoes f₀ f₁ f₂ f₃ g₀ g₁ g₂ g₃ x) (block : Block) :
    mix f₀ f₁ f₂ f₃ (mix g₀ g₁ g₂ g₃ block) = block := by
  apply Vector.ext
  intro i inside
  have four := below_round block ⟨i, inside⟩ 0
  have five := below_round block ⟨i, inside⟩ 1
  have six := below_round block ⟨i, inside⟩ 2
  have mixed : (mix f₀ f₁ f₂ f₃ (mix g₀ g₁ g₂ g₃ block))[i] = below (mix f₀ f₁ f₂ f₃ (mix g₀ g₁ g₂ g₃ block)) ⟨i, inside⟩ 0 :=
    (below_zero _ ⟨i, inside⟩).symm
  have place : below block ⟨i, inside⟩ 0 = block[i] := below_zero block ⟨i, inside⟩
  rw [mixed, below_mix, below_mix, below_mix, below_mix, below_mix]
  simp only [Nat.zero_add, Nat.reduceAdd] at four five six ⊢
  rw [four, five, six]
  simp only [times_add]
  generalize below block ⟨i, inside⟩ 0 = x₀ at place ⊢
  generalize below block ⟨i, inside⟩ 1 = x₁
  generalize below block ⟨i, inside⟩ 2 = x₂
  generalize below block ⟨i, inside⟩ 3 = x₃
  calc
    _ = (times f₀ (times g₀ x₀) ^^^ times f₁ (times g₃ x₀) ^^^ times f₂ (times g₂ x₀) ^^^ times f₃ (times g₁ x₀)) ^^^
        (times f₀ (times g₁ x₁) ^^^ times f₁ (times g₀ x₁) ^^^ times f₂ (times g₃ x₁) ^^^ times f₃ (times g₂ x₁)) ^^^
        (times f₀ (times g₂ x₂) ^^^ times f₁ (times g₁ x₂) ^^^ times f₂ (times g₀ x₂) ^^^ times f₃ (times g₃ x₂)) ^^^
        (times f₀ (times g₃ x₃) ^^^ times f₁ (times g₂ x₃) ^^^ times f₂ (times g₁ x₃) ^^^ times f₃ (times g₀ x₃)) := by
      ac_rfl
    _ = x₀ ^^^ 0 ^^^ 0 ^^^ 0 := by rw [(undoes x₀).1, (undoes x₁).2.1, (undoes x₂).2.2.1, (undoes x₃).2.2.2]
    _ = x₀ := by simp
    _ = block[i] := place

private theorem row_add (f₀ f₁ f₂ f₃ g₀ g₁ g₂ g₃ a b : UInt8) :
    times f₀ (times g₀ (a ^^^ b)) ^^^ times f₁ (times g₁ (a ^^^ b)) ^^^ times f₂ (times g₂ (a ^^^ b)) ^^^
        times f₃ (times g₃ (a ^^^ b)) =
      (times f₀ (times g₀ a) ^^^ times f₁ (times g₁ a) ^^^ times f₂ (times g₂ a) ^^^ times f₃ (times g₃ a)) ^^^
        (times f₀ (times g₀ b) ^^^ times f₁ (times g₁ b) ^^^ times f₂ (times g₂ b) ^^^ times f₃ (times g₃ b)) := by
  simp only [times_add]
  ac_rfl

theorem Undoes.add {f₀ f₁ f₂ f₃ g₀ g₁ g₂ g₃ : UInt8} (a_undone : Undoes f₀ f₁ f₂ f₃ g₀ g₁ g₂ g₃ a)
    (b_undone : Undoes f₀ f₁ f₂ f₃ g₀ g₁ g₂ g₃ b) : Undoes f₀ f₁ f₂ f₃ g₀ g₁ g₂ g₃ (a ^^^ b) := by
  obtain ⟨a₀, a₁, a₂, a₃⟩ := a_undone
  obtain ⟨b₀, b₁, b₂, b₃⟩ := b_undone
  refine ⟨?_, ?_, ?_, ?_⟩
  · rw [row_add, a₀, b₀]
  · rw [row_add, a₁, b₁, UInt8.xor_zero]
  · rw [row_add, a₂, b₂, UInt8.xor_zero]
  · rw [row_add, a₃, b₃, UInt8.xor_zero]

/-- It is enough to look at the bytes that have one half zero, since every byte is the sum of two of them. -/
private theorem undoes_of_halves {f₀ f₁ f₂ f₃ g₀ g₁ g₂ g₃ : UInt8}
    (upper : ∀ half < 16, Undoes f₀ f₁ f₂ f₃ g₀ g₁ g₂ g₃ (UInt8.ofNat (half * 16)))
    (lower : ∀ half < 16, Undoes f₀ f₁ f₂ f₃ g₀ g₁ g₂ g₃ (UInt8.ofNat half)) (byte : UInt8) :
    Undoes f₀ f₁ f₂ f₃ g₀ g₁ g₂ g₃ byte := by
  have small := byte.toNat_lt
  have halves : ∀ code < 256, UInt8.ofNat (code / 16 * 16) ^^^ UInt8.ofNat (code % 16) = UInt8.ofNat code := by
    decide +kernel
  have sum := halves byte.toNat small
  rw [UInt8.ofNat_toNat] at sum
  rw [← sum]
  exact (upper (byte.toNat / 16) (by omega)).add (lower (byte.toNat % 16) (by omega))

theorem unmixColumns_mixColumns (block : Block) : unmixColumns (mixColumns block) = block := by
  apply mix_mix
  apply undoes_of_halves
  · decide +kernel
  · decide +kernel

theorem mixColumns_unmixColumns (block : Block) : mixColumns (unmixColumns block) = block := by
  apply mix_mix
  apply undoes_of_halves
  · decide +kernel
  · decide +kernel

theorem decryptRounds_encryptRounds : ∀ (keys : List Block) (block : Block), decryptRounds keys (encryptRounds keys block) = block
  | [], _ => rfl
  | [last], block => by
    rw [encryptRounds, decryptRounds, add_add, unshiftRows_shiftRows, map_restore_substitute]
  | key :: second :: rest, block => by
    have ih := decryptRounds_encryptRounds (second :: rest)
      (add key (mixColumns (shiftRows (block.map substitute))))
    rw [encryptRounds, decryptRounds, ih, add_add, unmixColumns_mixColumns, unshiftRows_shiftRows, map_restore_substitute]
    · simp
    · simp

theorem encryptRounds_decryptRounds : ∀ (keys : List Block) (block : Block), encryptRounds keys (decryptRounds keys block) = block
  | [], _ => rfl
  | [last], block => by
    rw [decryptRounds, encryptRounds, map_substitute_restore, shiftRows_unshiftRows, add_add]
  | key :: second :: rest, block => by
    have ih := encryptRounds_decryptRounds (second :: rest) block
    rw [decryptRounds, encryptRounds, map_substitute_restore, shiftRows_unshiftRows, mixColumns_unmixColumns, add_add, ih]
    · simp
    · simp

theorem decrypt_encrypt (keys : List Block) (block : Block) : decrypt keys (encrypt keys block) = block := by
  cases keys with
  | nil => rfl
  | cons first rest => rw [encrypt, decrypt, decryptRounds_encryptRounds, add_add]

theorem encrypt_decrypt (keys : List Block) (block : Block) : encrypt keys (decrypt keys block) = block := by
  cases keys with
  | nil => rfl
  | cons first rest => rw [decrypt, encrypt, add_add, encryptRounds_decryptRounds]

end Tablesmith.Cipher.Aes

namespace Tablesmith.Cipher

variable {bytes kept : List UInt8} {block : Block} {blocks : List Block}

theorem unpad?_eq_some_iff :
    unpad? bytes = some kept ↔
      ∃ added, 0 < added ∧ added ≤ blockSize ∧ bytes = kept ++ List.replicate added (UInt8.ofNat added) := by
  constructor
  · intro unpadded
    unfold unpad? at unpadded
    split at unpadded
    · cases unpadded
    · next last ends =>
      by_cases filled : 0 < last.toNat ∧ last.toNat ≤ blockSize ∧
          bytes.drop (bytes.take (bytes.length - last.toNat)).length = List.replicate last.toNat last
      · simp only [filled, and_self, ↓reduceIte, Option.some.injEq] at unpadded
        obtain ⟨some_added, at_most, rest⟩ := filled
        rw [unpadded] at rest
        have front : bytes.take kept.length = kept := by
          rw [← unpadded, List.length_take, List.take_eq_take_iff]
          omega
        refine ⟨last.toNat, some_added, at_most, ?_⟩
        calc
          bytes = bytes.take kept.length ++ bytes.drop kept.length := (List.take_append_drop _ _).symm
          _ = kept ++ List.replicate last.toNat (UInt8.ofNat last.toNat) := by rw [front, rest, UInt8.ofNat_toNat]
      · simp only [filled, ↓reduceIte, reduceCtorEq] at unpadded
  · rintro ⟨added, some_added, at_most, rfl⟩
    have small : added < 256 := Nat.lt_of_le_of_lt at_most (by decide)
    have ends : (kept ++ List.replicate added (UInt8.ofNat added)).getLast? = some (UInt8.ofNat added) := by
      have positive : added ≠ 0 := by omega
      simp [List.getLast?_append, List.getLast?_replicate, positive]
    have number : (UInt8.ofNat added).toNat = added := by
      rw [UInt8.toNat_ofNat']
      omega
    have front : (kept ++ List.replicate added (UInt8.ofNat added)).take
        ((kept ++ List.replicate added (UInt8.ofNat added)).length - added) = kept := by
      simp
    unfold unpad?
    simp only [ends, number, front, List.drop_left, and_true]
    rw [if_pos ⟨some_added, at_most⟩]

theorem length_pad_mod (bytes : List UInt8) : (pad bytes).length % 16 = 0 := by
  simp only [pad, blockSize, List.length_append, List.length_replicate]
  omega

theorem unpad?_pad (bytes : List UInt8) : unpad? (pad bytes) = some bytes := by
  rw [unpad?_eq_some_iff]
  refine ⟨blockSize - bytes.length % blockSize, ?_, ?_, rfl⟩
  · simp only [blockSize]
    omega
  · exact Nat.sub_le _ _

/-- Whole blocks are filled in one way only. -/
theorem pad_of_unpad? (unpadded : unpad? bytes = some kept) (whole : bytes.length % 16 = 0) : pad kept = bytes := by
  obtain ⟨added, some_added, at_most, rfl⟩ := unpad?_eq_some_iff.mp unpadded
  have missing : blockSize - kept.length % blockSize = added := by
    simp only [List.length_append, List.length_replicate, blockSize] at *
    omega
  simp only [pad, missing]

private theorem eq_bytes (block : Block) :
    block = #v[block[0], block[1], block[2], block[3], block[4], block[5], block[6], block[7], block[8], block[9], block[10],
      block[11], block[12], block[13], block[14], block[15]] := by
  apply Vector.ext
  intro i inside
  interval_cases i <;> rfl

theorem length_ofBlocks (blocks : List Block) : (ofBlocks blocks).length = 16 * blocks.length := by
  induction blocks with
  | nil => rfl
  | cons block blocks ih =>
    simp only [ofBlocks, List.flatMap_cons, List.length_append, Vector.length_toList, List.length_cons] at ih ⊢
    omega

theorem toBlocks?_ofBlocks (blocks : List Block) : toBlocks? (ofBlocks blocks) = some blocks := by
  induction blocks with
  | nil => rfl
  | cons block blocks ih =>
    have bytes := eq_bytes block
    rw [bytes]
    show (toBlocks? (ofBlocks blocks)).map _ = _
    rw [ih]
    rfl

theorem ofBlocks_of_toBlocks? (taken : toBlocks? bytes = some blocks) : ofBlocks blocks = bytes := by
  induction bytes using toBlocks?.induct generalizing blocks with
  | case1 =>
    cases taken
    rfl
  | case2 b₀ b₁ b₂ b₃ b₄ b₅ b₆ b₇ b₈ b₉ b₁₀ b₁₁ b₁₂ b₁₃ b₁₄ b₁₅ rest ih =>
    rw [toBlocks?] at taken
    obtain ⟨further, rest_taken, rfl⟩ := Option.map_eq_some_iff.mp taken
    have back := ih rest_taken
    show [b₀, b₁, b₂, b₃, b₄, b₅, b₆, b₇, b₈, b₉, b₁₀, b₁₁, b₁₂, b₁₃, b₁₄, b₁₅] ++ ofBlocks further = _
    rw [back]
    rfl
  | case3 bytes not_empty not_long =>
    rw [toBlocks?] at taken
    · cases taken
    · exact not_empty
    · exact not_long

theorem toBlocks?_eq_some_iff : toBlocks? bytes = some blocks ↔ bytes = ofBlocks blocks := by
  constructor
  · exact fun taken => (ofBlocks_of_toBlocks? taken).symm
  · rintro rfl
    exact toBlocks?_ofBlocks blocks

theorem ofBlocks_injective {other : List Block} (same : ofBlocks blocks = ofBlocks other) : blocks = other := by
  have taken := congrArg toBlocks? same
  rw [toBlocks?_ofBlocks, toBlocks?_ofBlocks] at taken
  exact Option.some.inj taken

theorem exists_toBlocks? (whole : bytes.length % 16 = 0) : ∃ blocks, toBlocks? bytes = some blocks := by
  induction bytes using toBlocks?.induct with
  | case1 => exact ⟨[], rfl⟩
  | case2 b₀ b₁ b₂ b₃ b₄ b₅ b₆ b₇ b₈ b₉ b₁₀ b₁₁ b₁₂ b₁₃ b₁₄ b₁₅ rest ih =>
    have rest_whole : rest.length % 16 = 0 := by
      simp only [List.length_cons] at whole
      omega
    obtain ⟨blocks, taken⟩ := ih rest_whole
    rw [toBlocks?, taken]
    exact ⟨_, rfl⟩
  | case3 bytes not_empty not_long =>
    exfalso
    match bytes, whole with
    | [], _ => exact not_empty rfl
    | b₀ :: b₁ :: b₂ :: b₃ :: b₄ :: b₅ :: b₆ :: b₇ :: b₈ :: b₉ :: b₁₀ :: b₁₁ :: b₁₂ :: b₁₃ :: b₁₄ :: b₁₅ :: rest, _ =>
      exact not_long _ _ _ _ _ _ _ _ _ _ _ _ _ _ _ _ _ rfl

theorem decryptChain_encryptChain (keys : List Block) (previous : Block) (blocks : List Block) :
    decryptChain keys previous (encryptChain keys previous blocks) = blocks := by
  induction blocks generalizing previous with
  | nil => rfl
  | cons block blocks ih =>
    simp only [encryptChain, decryptChain]
    rw [ih, Aes.decrypt_encrypt, Aes.add_add]

theorem encryptChain_decryptChain (keys : List Block) (previous : Block) (blocks : List Block) :
    encryptChain keys previous (decryptChain keys previous blocks) = blocks := by
  induction blocks generalizing previous with
  | nil => rfl
  | cons block blocks ih =>
    simp only [encryptChain, decryptChain]
    rw [Aes.add_add, Aes.encrypt_decrypt, ih]

end Tablesmith.Cipher
