import Mathlib
import Tablesmith.Text.Characters

/-!
# White space around a word

Trimming splits a text into white space, what is kept, and white space. A word
without white space in it is what is kept of every text that has it in the middle.
-/

namespace Tablesmith.Text

variable {text : String} {chars core : List Char} {space : Char → Prop} {word : List Char → Prop}

/-- A word with characters of one kind around it. -/
def Surrounded (space : Char → Prop) (word : List Char → Prop) (chars : List Char) : Prop :=
  ∃ lead core trail, chars = lead ++ (core ++ trail) ∧ (∀ c ∈ lead, space c) ∧ (∀ c ∈ trail, space c) ∧ word core

theorem dropBlankEnd_append_eq (chars : List Char) :
    dropBlankEnd chars ++ (chars.reverse.takeWhile isBlank).reverse = chars := by
  rw [dropBlankEnd, ← List.reverse_append, List.takeWhile_append_dropWhile, List.reverse_reverse]

theorem trim_parts (text : String) : Surrounded (isBlank · = true) (· = (trim text).toList) text.toList := by
  refine ⟨text.toList.takeWhile isBlank, _, ((dropBlankStart text.toList).reverse.takeWhile isBlank).reverse, ?_, ?_, ?_, rfl⟩
  · rw [trim, String.toList_ofList, dropBlankEnd_append_eq, dropBlankStart, List.takeWhile_append_dropWhile]
  · exact fun c member => List.mem_takeWhile_imp member
  · exact fun c member => List.mem_takeWhile_imp (List.mem_reverse.mp member)

theorem dropWhile_clear (clear : ∀ c ∈ chars, isBlank c = false) : chars.dropWhile isBlank = chars := by
  cases chars with
  | nil => rfl
  | cons c chars => rw [List.dropWhile_cons, clear c List.mem_cons_self, if_neg Bool.false_ne_true]

theorem dropWhile_blank_append {lead : List Char} (blank : ∀ c ∈ lead, isBlank c = true) (chars : List Char) :
    (lead ++ chars).dropWhile isBlank = chars.dropWhile isBlank :=
  List.dropWhile_append_of_pos blank

theorem dropBlankEnd_append {trail : List Char} (clear : ∀ c ∈ core, isBlank c = false) (blank : ∀ c ∈ trail, isBlank c = true) :
    dropBlankEnd (core ++ trail) = core := by
  have reversed_blank : ∀ c ∈ trail.reverse, isBlank c = true := fun c member => blank c (List.mem_reverse.mp member)
  have reversed_clear : ∀ c ∈ core.reverse, isBlank c = false := fun c member => clear c (List.mem_reverse.mp member)
  rw [dropBlankEnd, List.reverse_append, dropWhile_blank_append reversed_blank, dropWhile_clear reversed_clear,
    List.reverse_reverse]

theorem toList_trim_of_parts {lead trail : List Char} (parts : text.toList = lead ++ (core ++ trail))
    (lead_blank : ∀ c ∈ lead, isBlank c = true) (trail_blank : ∀ c ∈ trail, isBlank c = true)
    (clear : ∀ c ∈ core, isBlank c = false) : (trim text).toList = core := by
  rw [trim, String.toList_ofList, parts, dropBlankStart, dropWhile_blank_append lead_blank]
  cases core with
  | nil =>
    have all_dropped : trail.dropWhile isBlank = [] := List.dropWhile_eq_nil_iff.mpr trail_blank
    rw [List.nil_append, all_dropped]
    rfl
  | cons c core =>
    have kept : (c :: core ++ trail).dropWhile isBlank = c :: core ++ trail := by
      rw [List.cons_append, List.dropWhile_cons, clear c List.mem_cons_self, if_neg Bool.false_ne_true]
    rw [kept, dropBlankEnd_append clear trail_blank]

/-- A word without white space in it stands between white space exactly if trimming leaves it. -/
theorem surrounded_blank_iff (clear : ∀ core, word core → ∀ c ∈ core, isBlank c = false) :
    Surrounded (isBlank · = true) word text.toList ↔ word (trim text).toList := by
  constructor
  · rintro ⟨lead, core, trail, parts, lead_blank, trail_blank, is_word⟩
    rwa [toList_trim_of_parts parts lead_blank trail_blank (clear core is_word)]
  · intro is_word
    obtain ⟨lead, core, trail, parts, lead_blank, trail_blank, rfl⟩ := trim_parts text
    exact ⟨lead, _, trail, parts, lead_blank, trail_blank, is_word⟩

/-- Where only some white space counts, all white space of the text has to be of that kind. -/
theorem surrounded_iff_of_blank (blank : ∀ c, space c → isBlank c = true)
    (clear : ∀ core, word core → ∀ c ∈ core, isBlank c = false) :
    Surrounded space word chars ↔
      Surrounded (isBlank · = true) word chars ∧ ∀ c ∈ chars, isBlank c = true → space c := by
  constructor
  · rintro ⟨lead, core, trail, rfl, lead_space, trail_space, is_word⟩
    refine ⟨⟨lead, core, trail, rfl, fun c member => blank c (lead_space c member),
      fun c member => blank c (trail_space c member), is_word⟩, ?_⟩
    intro c member is_blank
    rcases List.mem_append.mp member with before | within
    · exact lead_space c before
    · rcases List.mem_append.mp within with inside | after
      · rw [clear core is_word c inside] at is_blank
        cases is_blank
      · exact trail_space c after
  · rintro ⟨⟨lead, core, trail, rfl, lead_blank, trail_blank, is_word⟩, counts⟩
    refine ⟨lead, core, trail, rfl, ?_, ?_, is_word⟩
    · exact fun c member => counts c (List.mem_append_left _ member) (lead_blank c member)
    · exact fun c member =>
        counts c (List.mem_append_right _ (List.mem_append_right _ member)) (trail_blank c member)

end Tablesmith.Text
