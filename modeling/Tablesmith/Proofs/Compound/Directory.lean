import Mathlib
import Tablesmith.Compound.File
import Tablesmith.Proofs.Compound.Chain
import Tablesmith.Proofs.Text.Unicode

/-!
# The directory of a compound file

A directory that was written entry after entry is read back (`readDirectory_flatten`), and a name
finds the entry that has it, if no other has (`extent?_eq_some`).
-/

namespace Tablesmith.Compound

open Binary Text Text.Encoding

/-- A name that an entry can write: short, of ASCII characters, and without the zero that ends it. -/
structure IsName (name : String) : Prop where
  short : name.length ≤ 31
  ascii : ∀ c ∈ name.toList, 0 < c.toNat ∧ c.toNat < 128

/-- Characters in two bytes each. -/
def wideBytes (text : List Char) : List UInt8 :=
  text.flatMap fun c => [UInt8.ofNat c.toNat, 0]

/-- A name with the zero at its end. -/
def nameBytes (name : String) : List UInt8 :=
  wideBytes (name.toList ++ ['\x00'])

theorem length_wideBytes (text : List Char) : (wideBytes text).length = 2 * text.length := by
  induction text with
  | nil => rfl
  | cons c text ih =>
    rw [wideBytes, List.flatMap_cons, List.length_append, ← wideBytes, ih, List.length_cons, List.length_cons,
      List.length_cons, List.length_nil]
    omega

theorem units_wideBytes {text : List Char} (ascii : ∀ c ∈ text, c.toNat < 128) :
    units .little (wideBytes text) = text.map Char.toNat := by
  induction text with
  | nil => rfl
  | cons c text ih =>
    obtain ⟨small, rest_ascii⟩ := List.forall_mem_cons.mp ascii
    have unit : ByteOrder.little.unit (UInt8.ofNat c.toNat) 0 = c.toNat := by
      simp [ByteOrder.unit]
      omega
    have rest := ih rest_ascii
    cases text with
    | nil => simp [wideBytes, units, unit]
    | cons next text =>
      simp only [wideBytes, List.flatMap_cons, List.cons_append, List.nil_append, List.map_cons] at rest ⊢
      rw [units, unit, rest]
      simp

/-- Bytes that do not begin with a mark are of the usual order. -/
theorem decodeMarked_of_ascii {first : UInt8} {rest : List UInt8} (ascii : first < 0x80) :
    decodeMarked (first :: rest) = decodeUtf16 .little (first :: rest) := by
  unfold decodeMarked
  split
  · next marked =>
    obtain ⟨rfl, -⟩ := List.cons.inj marked
    exact absurd ascii (by decide)
  · next marked =>
    obtain ⟨rfl, -⟩ := List.cons.inj marked
    exact absurd ascii (by decide)
  · next marked =>
    obtain ⟨rfl, -⟩ := List.cons.inj marked
    exact absurd ascii (by decide)
  · rfl

theorem decodeMarked_wideBytes {text : List Char} (ascii : ∀ c ∈ text, c.toNat < 128) :
    decodeMarked (wideBytes text) = text := by
  have unmarked : decodeMarked (wideBytes text) = decodeUtf16 .little (wideBytes text) := by
    cases text with
    | nil => rfl
    | cons c text =>
      obtain ⟨small, -⟩ := List.forall_mem_cons.mp ascii
      refine decodeMarked_of_ascii ?_
      rw [UInt8.lt_iff_toNat_lt, UInt8.toNat_ofNat']
      exact Nat.lt_of_le_of_lt (Nat.mod_le _ _) small
  have small : ∀ unit ∈ text.map Char.toNat, unit < 0xd800 := by
    intro unit member
    obtain ⟨c, c_member, rfl⟩ := List.mem_map.mp member
    exact Nat.lt_trans (ascii c c_member) (by decide)
  rw [unmarked, decodeUtf16, units_wideBytes ascii, decodeUnits_of_small small, List.map_map]
  exact (List.map_congr_left fun c _ => Char.ofNat_toNat c).trans (List.map_id text)

/-- Bytes that write an entry. One that is not used writes an empty name of no length. -/
structure WritesEntry (piece : List UInt8) (entry : String × Extent) : Prop where
  length : piece.length = entrySize
  name : entry.1 = "" ∧ field 64 2 piece = 0 ∨
    IsName entry.1 ∧ field 64 2 piece = (nameBytes entry.1).length ∧ nameBytes entry.1 <+: piece
  start : field 116 4 piece = entry.2.start
  size : field 120 8 piece = entry.2.size

variable {piece : List UInt8} {pieces : List (List UInt8)} {entry : String × Extent}
  {entries : List (String × Extent)} {name : String} {extent : Extent}

theorem entryName_eq (written : WritesEntry piece entry) : entryName piece = entry.1 := by
  rw [entryName]
  rcases written.name with ⟨unused, no_length⟩ | ⟨is_name, name_length, begins⟩
  · rw [no_length, unused]
    rfl
  · have ascii : ∀ c ∈ entry.1.toList ++ ['\x00'], c.toNat < 128 := by
      intro c member
      rcases List.mem_append.mp member with in_name | zero
      · exact (is_name.ascii c in_name).2
      · rw [List.mem_singleton.mp zero]
        decide
    have not_ended : ∀ c ∈ entry.1.toList, decide (c ≠ '\x00') = true := by
      rintro c member
      refine decide_eq_true fun zero => ?_
      have positive := (is_name.ascii c member).1
      rw [zero] at positive
      exact absurd positive (by decide)
    have fits : (nameBytes entry.1).length ≤ 64 := by
      have short := is_name.short
      rw [nameBytes, length_wideBytes, List.length_append, String.length_toList, List.length_singleton]
      omega
    have text : decodeMarked (piece.take (min (field 64 2 piece) 64)) = entry.1.toList ++ ['\x00'] := by
      rw [name_length, Nat.min_eq_left fits, ← List.prefix_iff_eq_take.mp begins, nameBytes,
        decodeMarked_wideBytes ascii]
    simp only [text]
    rw [List.takeWhile_append_of_pos not_ended, List.takeWhile_cons_of_neg (by decide), List.append_nil,
      String.ofList_toList]

theorem readEntry_eq (written : WritesEntry piece entry) : readEntry piece = entry := by
  rw [readEntry, entryName_eq written, written.start, written.size]

theorem length_of_written (written : List.Forall₂ WritesEntry pieces entries) :
    ∀ piece ∈ pieces, piece.length = entrySize := by
  induction written with
  | nil => exact List.forall_mem_nil _
  | cons here _ ih => exact List.forall_mem_cons.mpr ⟨here.length, ih⟩

/-- A directory that was written entry after entry is read back. -/
theorem readDirectory_flatten (written : List.Forall₂ WritesEntry pieces entries) :
    readDirectory pieces.flatten = entries := by
  have even := length_of_written written
  have none_shorter := List.filter_eq_self.mpr fun piece member => decide_eq_true (even piece member)
  rw [readDirectory, chunks_flatten (by decide) even, none_shorter]
  clear even none_shorter
  induction written with
  | nil => rfl
  | cons here _ ih => rw [List.map_cons, readEntry_eq here, ih]

/-- No two entries that are used have one name. -/
def DistinctNames (entries : List (String × Extent)) : Prop :=
  entries.Pairwise fun one other => one.1 = other.1 → one.1 = ""

theorem extent?_eq_some (distinct : DistinctNames entries) (used : name ≠ "") (member : (name, extent) ∈ entries) :
    extent? entries name = some extent := by
  obtain ⟨before, after, rfl⟩ := List.append_of_mem member
  have later := (List.pairwise_cons.mp (List.pairwise_append.mp distinct).2.1).1
  refine List.lookup_eq_some_iff.mpr ⟨after.reverse, before.reverse, by simp, ?_⟩
  intro other other_member
  simpa using fun same => used (later other (List.mem_reverse.mp other_member) same)

theorem extent?_eq_none (absent : ∀ entry ∈ entries, entry.1 ≠ name) : extent? entries name = none := by
  refine List.lookup_eq_none_iff.mpr fun entry member => ?_
  simpa using (absent entry (List.mem_reverse.mp member)).symm

end Tablesmith.Compound
