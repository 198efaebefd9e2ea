import Mathlib
import Tablesmith.Cipher.Basic
import Tablesmith.Proofs.Cipher.Base64
import Tablesmith.Proofs.Cipher.Blocks
import Tablesmith.Proofs.Text.Trim

/-!
# Encrypted documents read back

Under one key every text has one encrypted form, and nothing else is decrypted
(`decrypt_eq_ok_iff`): each step from the text to the written characters has a decoder that
accepts exactly what the step produces.
-/

namespace Tablesmith.DocumentCipher

open Cipher Text

variable {cipher : DocumentCipher} {encrypted text : String} {bytes : List UInt8}

theorem bytesText?_eq_some_iff : bytesText? bytes = some text ↔ bytes = textBytes text := by
  constructor
  · intro read
    unfold bytesText? String.fromUTF8? at read
    split at read
    · cases read
      rfl
    · cases read
  · rintro rfl
    have whole : (⟨(textBytes text).toArray⟩ : ByteArray) = text.toByteArray := rfl
    rw [bytesText?, whole, String.fromUTF8?, dif_pos text.isValidUTF8]
    rfl

/-- The blocks of a text, filled up. -/
theorem exists_blocks (text : String) : ∃ blocks, ofBlocks blocks = pad (textBytes text) ∧
    ∀ cipher : DocumentCipher, (encrypt cipher text).toList =
      Base64.encode (ofBlocks (encryptChain cipher.roundKeys cipher.first blocks)) := by
  obtain ⟨blocks, taken⟩ := exists_toBlocks? (length_pad_mod (textBytes text))
  refine ⟨blocks, ofBlocks_of_toBlocks? taken, fun cipher => ?_⟩
  simp only [encrypt, taken, Option.getD_some, String.toList_ofList]

theorem trim_encrypt (cipher : DocumentCipher) (text : String) : trim (cipher.encrypt text) = cipher.encrypt text := by
  obtain ⟨blocks, -, written⟩ := exists_blocks text
  have clear : ∀ c ∈ (cipher.encrypt text).toList, isBlank c = false := by
    intro c member
    rw [written cipher] at member
    exact Base64.not_blank_of_mem_encode member
  have parts : (cipher.encrypt text).toList = [] ++ ((cipher.encrypt text).toList ++ []) := by simp
  apply String.toList_injective
  exact toList_trim_of_parts parts (List.forall_mem_nil _) (List.forall_mem_nil _) clear

/-- A decrypted text is what the blocks that are read hold behind the chain, up to what fills them. -/
theorem decrypt_ok_iff : cipher.decrypt encrypted = .ok text ↔
    ∃ blocks, Base64.decode? (trim encrypted).toList = some (ofBlocks blocks) ∧
      unpad? (ofBlocks (decryptChain cipher.roundKeys cipher.first blocks)) = some (textBytes text) := by
  have core : (trim encrypted).toList = dropBlankEnd (dropBlankStart encrypted.toList) := String.toList_ofList
  rw [core]
  unfold decrypt
  constructor
  · intro decrypted
    split at decrypted
    · cases decrypted
    · next coded read =>
      split at decrypted
      · cases decrypted
      · next plain unpadded =>
        split at decrypted
        · cases decrypted
        · next whole text_read =>
          cases decrypted
          obtain ⟨blocks, taken, kept⟩ := Option.bind_eq_some_iff.mp unpadded
          refine ⟨blocks, ?_, ?_⟩
          · rw [← toBlocks?_eq_some_iff.mp taken]
            exact read
          · rw [← bytesText?_eq_some_iff.mp text_read]
            exact kept
  · rintro ⟨blocks, read, unpadded⟩
    simp only [read, toBlocks?_ofBlocks, Option.bind_some, unpadded, bytesText?_eq_some_iff.mpr rfl]

/-- The decrypted texts are the ones whose encrypted form is there between white space. -/
theorem decrypt_eq_ok_iff : cipher.decrypt encrypted = .ok text ↔ cipher.encrypt text = trim encrypted := by
  obtain ⟨blocks, filled, written⟩ := exists_blocks text
  have same_chars : cipher.encrypt text = trim encrypted ↔ (cipher.encrypt text).toList = (trim encrypted).toList :=
    String.toList_inj.symm
  rw [decrypt_ok_iff, same_chars, written cipher]
  constructor
  · rintro ⟨coded, read, unpadded⟩
    have whole : (ofBlocks (decryptChain cipher.roundKeys cipher.first coded)).length % 16 = 0 := by
      rw [length_ofBlocks]
      exact Nat.mul_mod_right 16 _
    have same_bytes : ofBlocks blocks = ofBlocks (decryptChain cipher.roundKeys cipher.first coded) :=
      filled.trans (pad_of_unpad? unpadded whole)
    rw [ofBlocks_injective same_bytes, encryptChain_decryptChain]
    exact (Base64.decode?_eq_some_iff.mp read).symm
  · intro same
    refine ⟨encryptChain cipher.roundKeys cipher.first blocks, ?_, ?_⟩
    · exact Base64.decode?_eq_some_iff.mpr same.symm
    · rw [decryptChain_encryptChain, filled, unpad?_pad]

theorem decrypt_encrypted (cipher : DocumentCipher) (text : String) : cipher.decrypt (cipher.encrypt text) = .ok text := by
  rw [decrypt_eq_ok_iff, trim_encrypt]

/-- Encryption under an accepted passphrase is undone by decryption, and nothing but its results can be decrypted: a
    decrypted text encrypts to the same characters again, apart from white space around them. -/
theorem encryption_invertible {passphrase : String} (accepted : isPassphrase passphrase = true) :
    ∃ cipher, ofPassphrase passphrase = .ok cipher ∧
      (∀ text, cipher.decrypt (cipher.encrypt text) = .ok text) ∧
      (∀ encrypted text, cipher.decrypt encrypted = .ok text → cipher.encrypt text = trim encrypted) ∧
      (∀ encrypted, (∃ text, cipher.decrypt encrypted = .ok text) ↔ ∃ text, trim encrypted = cipher.encrypt text) := by
  refine ⟨_, if_pos accepted, decrypt_encrypted _, ?_, ?_⟩
  · intro encrypted text decrypted
    exact decrypt_eq_ok_iff.mp decrypted
  · intro encrypted
    constructor
    · rintro ⟨text, decrypted⟩
      exact ⟨text, (decrypt_eq_ok_iff.mp decrypted).symm⟩
    · rintro ⟨text, written⟩
      exact ⟨text, decrypt_eq_ok_iff.mpr written.symm⟩

/-- Eight characters are enough, whatever their number of bytes. -/
theorem encryption_invertible_eight_letters :
    isPassphrase "schlüßel" = true ∧
      ∃ cipher, ofPassphrase "schlüßel" = .ok cipher ∧
        (∀ text, cipher.decrypt (cipher.encrypt text) = .ok text) ∧
        (∀ encrypted text, cipher.decrypt encrypted = .ok text → cipher.encrypt text = trim encrypted) ∧
        (∀ encrypted, (∃ text, cipher.decrypt encrypted = .ok text) ↔ ∃ text, trim encrypted = cipher.encrypt text) :=
  ⟨by decide, encryption_invertible (by decide)⟩

end Tablesmith.DocumentCipher
