import Mathlib
import Tablesmith.Schema.Discovery

/-!
# The words of a header

A header is the mark of the primary key, or a word with a word in brackets behind it,
or a plain name. What is read off it is its only reading (`read_eq_iff`).
-/

namespace Tablesmith.Header

open Text

variable {raw name mark : String} {header : Header}

/-- A text of word characters that is not empty. -/
def IsWord (text : String) : Prop :=
  text ≠ "" ∧ ∀ c ∈ text.toList, isWordChar c = true

/-- A word with a mark in brackets behind it. -/
def marked (name mark : String) : String :=
  name ++ "[" ++ mark ++ "]"

/-- What a header says about its column. -/
inductive Declares : String → Header → Prop
  | key {raw : String} : sameAscii raw keyMark = true → Declares raw ⟨raw, .primaryKey⟩
  | markedKey {name mark : String} : IsWord name → IsWord mark → sameAscii mark keyMark = true →
      Declares (marked name mark) ⟨name, .primaryKey⟩
  | reference {name table : String} : IsWord name → IsWord table → sameAscii table keyMark = false →
      Declares (marked name table) ⟨name, .reference table⟩
  | plain {raw : String} : sameAscii raw keyMark = false → (∀ name mark, IsWord name → IsWord mark → raw ≠ marked name mark) →
      Declares raw ⟨raw, .value⟩

theorem bracket_no_word : isWordChar '[' = false ∧ isWordChar ']' = false := by
  decide +kernel

private theorem word_before {word : List Char} {c : Char} (rest : List Char) (word_chars : ∀ c ∈ word, isWordChar c = true)
    (ends : isWordChar c = false) :
    (word ++ c :: rest).takeWhile isWordChar = word ∧ (word ++ c :: rest).dropWhile isWordChar = c :: rest := by
  rw [List.takeWhile_append_of_pos word_chars, List.dropWhile_append_of_pos word_chars]
  simp [ends]

theorem toList_marked (name mark : String) :
    (marked name mark).toList = name.toList ++ '[' :: (mark.toList ++ ']' :: []) := by
  simp [marked]

private theorem isWord_ofList {chars : List Char} (filled : chars ≠ []) (word_chars : ∀ c ∈ chars, isWordChar c = true) :
    IsWord (String.ofList chars) := by
  constructor
  · intro empty
    apply filled
    simpa using congrArg String.toList empty
  · simpa using word_chars

theorem splitMark?_eq_some_iff : splitMark? raw = some (name, mark) ↔ IsWord name ∧ IsWord mark ∧ raw = marked name mark := by
  constructor
  · intro split
    simp only [splitMark?] at split
    split at split
    · next rest opens =>
      by_cases words : raw.toList.takeWhile isWordChar ≠ [] ∧ rest.takeWhile isWordChar ≠ [] ∧
          rest.dropWhile isWordChar = [']']
      · rw [if_pos words] at split
        cases split
        obtain ⟨name_filled, mark_filled, closes⟩ := words
        refine ⟨isWord_ofList name_filled fun c => List.mem_takeWhile_imp,
          isWord_ofList mark_filled fun c => List.mem_takeWhile_imp, ?_⟩
        apply String.toList_injective
        rw [toList_marked, String.toList_ofList, String.toList_ofList, ← closes, List.takeWhile_append_dropWhile, ← opens,
          List.takeWhile_append_dropWhile]
      · rw [if_neg words] at split
        cases split
    · cases split
  · rintro ⟨⟨name_filled, name_chars⟩, ⟨mark_filled, mark_chars⟩, rfl⟩
    obtain ⟨no_opening, no_closing⟩ := bracket_no_word
    have name_part := word_before (mark.toList ++ ']' :: []) name_chars no_opening
    have mark_part := word_before [] mark_chars no_closing
    have name_chars_filled : name.toList ≠ [] := by simpa using name_filled
    have mark_chars_filled : mark.toList ≠ [] := by simpa using mark_filled
    simp only [splitMark?, toList_marked, name_part, mark_part]
    simp [name_chars_filled, mark_chars_filled]

/-- No letter of the key mark is a bracket. -/
theorem marked_ne_keyMark : sameAscii (marked name mark) keyMark = false := by
  rw [Bool.eq_false_iff]
  intro same
  have letters : (marked name mark).toList.map Char.toLower = keyMark.toList.map Char.toLower := by simpa [sameAscii] using same
  have bracket : '[' ∈ (marked name mark).toList.map Char.toLower := by
    rw [toList_marked]
    exact List.mem_map.mpr ⟨'[', by simp, by decide⟩
  rw [letters] at bracket
  exact absurd bracket (by decide)

/-- What is read off a header is what it declares. -/
theorem read_eq_iff : read raw = header ↔ Declares raw header := by
  constructor
  · rintro rfl
    unfold read
    by_cases key : sameAscii raw keyMark = true
    · rw [if_pos key]
      exact .key key
    · rw [if_neg key]
      cases split : splitMark? raw with
      | none =>
        refine .plain (by simpa using key) ?_
        intro name mark name_word mark_word same
        rw [splitMark?_eq_some_iff.mpr ⟨name_word, mark_word, same⟩] at split
        cases split
      | some words =>
        obtain ⟨name, mark⟩ := words
        obtain ⟨name_word, mark_word, rfl⟩ := splitMark?_eq_some_iff.mp split
        by_cases is_key : sameAscii mark keyMark = true
        · simp only [is_key, ↓reduceIte]
          exact .markedKey name_word mark_word is_key
        · simp only [is_key, Bool.false_eq_true, ↓reduceIte]
          exact .reference name_word mark_word (by simpa using is_key)
  · intro declares
    cases declares with
    | key is_key => rw [read, if_pos is_key]
    | markedKey name_word mark_word is_key =>
      rw [read, marked_ne_keyMark, splitMark?_eq_some_iff.mpr ⟨name_word, mark_word, rfl⟩]
      simp [is_key]
    | reference name_word table_word no_key_mark =>
      rw [read, marked_ne_keyMark, splitMark?_eq_some_iff.mpr ⟨name_word, table_word, rfl⟩]
      simp [no_key_mark]
    | plain no_key_mark unmarked =>
      have no_split : splitMark? raw = none := by
        rw [Option.eq_none_iff_forall_ne_some]
        rintro ⟨name, mark⟩ split
        obtain ⟨name_word, mark_word, same⟩ := splitMark?_eq_some_iff.mp split
        exact unmarked name mark name_word mark_word same
      rw [read, no_key_mark, no_split]
      simp

end Tablesmith.Header
