import Mathlib
import Tablesmith.Compound.File

/-!
# Sectors and their chains

A file is cut into sectors of one size. A chain of sectors that an allocation table
links one after the other, up to a mark, is followed to its end and gives the sectors in
order (`chain?_eq_some`): it comes to no sector twice (`nodup_of_isChain`), so that it
is never longer than the table (`length_le_of_isChain`).
-/

namespace Tablesmith.Binary

variable {size place : Nat} {bytes : List UInt8}

theorem field_append {front rest : List UInt8} {offset more length : Nat} (before : front.length = offset) :
    field (offset + more) length (front ++ rest) = field more length rest := by
  rw [field, field, slice, slice, ← List.drop_drop, List.drop_left' before]

theorem field_front {front rest : List UInt8} {length : Nat} (long : front.length = length) :
    field 0 length (front ++ rest) = number front := by
  rw [field, slice, List.drop_zero, List.take_left' long]

theorem chunks_of_ne_nil (some_size : 0 < size) (filled : bytes ≠ []) :
    chunks size bytes = bytes.take size :: chunks size (bytes.drop size) := by
  rw [chunks, if_neg (by simp [filled, Nat.ne_of_gt some_size])]

theorem chunks_nil (size : Nat) : chunks size [] = [] := by
  rw [chunks, if_pos (.inr rfl)]

/-- A piece that begins before the end is the slice at its place. -/
theorem getElem?_chunks (some_size : 0 < size) (inside : place * size < bytes.length) :
    (chunks size bytes)[place]? = some (slice (place * size) size bytes) := by
  induction place generalizing bytes with
  | zero =>
    have filled : bytes ≠ [] := List.ne_nil_of_length_pos (by omega)
    rw [chunks_of_ne_nil some_size filled, slice, Nat.zero_mul, List.drop_zero]
    rfl
  | succ place ih =>
    have filled : bytes ≠ [] := List.ne_nil_of_length_pos (by omega)
    have next_inside : place * size < (bytes.drop size).length := by
      rw [Nat.succ_mul] at inside
      rw [List.length_drop]
      omega
    rw [chunks_of_ne_nil some_size filled, List.getElem?_cons_succ, ih next_inside, slice, slice, List.drop_drop,
      Nat.succ_mul, Nat.add_comm]

/-- Pieces of one size that were put together are found again. -/
theorem chunks_flatten (some_size : 0 < size) {pieces : List (List UInt8)}
    (even : ∀ piece ∈ pieces, piece.length = size) : chunks size pieces.flatten = pieces := by
  induction pieces with
  | nil => exact chunks_nil size
  | cons piece pieces ih =>
    obtain ⟨length, rest_even⟩ := List.forall_mem_cons.mp even
    have filled : (piece :: pieces).flatten ≠ [] := List.ne_nil_of_length_pos (by simp; omega)
    rw [chunks_of_ne_nil some_size filled, List.flatten_cons, List.take_left' length, List.drop_left' length,
      ih rest_even]

/-- A piece of what pieces of one size are together is the slice at its place. -/
theorem slice_flatten (some_size : 0 < size) {pieces : List (List UInt8)}
    (even : ∀ piece ∈ pieces, piece.length = size) {piece : List UInt8} (here : pieces[place]? = some piece) :
    slice (place * size) size pieces.flatten = piece := by
  obtain ⟨before, -⟩ := List.getElem?_eq_some_iff.mp here
  have inside : place * size < pieces.flatten.length := by
    rw [List.length_flatten, List.map_congr_left even, List.map_const', List.sum_replicate, smul_eq_mul]
    exact Nat.mul_lt_mul_of_pos_right before some_size
  have found := getElem?_chunks some_size inside
  rw [chunks_flatten some_size even, here] at found
  exact (Option.some.inj found).symm

end Tablesmith.Binary

namespace Tablesmith.Compound

/-- From a start the places are gone through in order, each a sector that leads to the next, and the last leads to a
mark. Without any place the start is a mark. -/
def IsChain (next? : Nat → Option Nat) : Nat → List Nat → Prop
  | start, [] => sectorLimit ≤ start
  | start, place :: rest =>
    start = place ∧ place < sectorLimit ∧ ∃ following, next? place = some following ∧ IsChain next? following rest

instance decidableIsChain (next? : Nat → Option Nat) : ∀ start places, Decidable (IsChain next? start places)
  | start, [] => inferInstanceAs (Decidable (sectorLimit ≤ start))
  | start, place :: rest =>
    match leads : next? place with
    | none => isFalse (by simp [IsChain, leads])
    | some following =>
      have := decidableIsChain next? following rest
      decidable_of_iff (start = place ∧ place < sectorLimit ∧ IsChain next? following rest) (by simp [IsChain, leads])

section determinism

variable {next? : Nat → Option Nat} {start : Nat} {places others : List Nat}

theorem eq_of_isChain (first : IsChain next? start places) (second : IsChain next? start others) :
    places = others := by
  induction places generalizing start others with
  | nil =>
    cases others with
    | nil => rfl
    | cons other others =>
      obtain ⟨rfl, is_sector, -⟩ := second
      exact absurd first (Nat.not_le.mpr is_sector)
  | cons place places ih =>
    obtain ⟨rfl, is_sector, following, leads, rest_linked⟩ := first
    cases others with
    | nil => exact absurd second (Nat.not_le.mpr is_sector)
    | cons other others =>
      obtain ⟨rfl, -, other_following, other_leads, others_linked⟩ := second
      obtain rfl : following = other_following := Option.some.inj (leads.symm.trans other_leads)
      rw [ih rest_linked others_linked]

/-- From each of its places on a chain is a chain. -/
theorem exists_suffix_isChain (linked : IsChain next? start places) {place : Nat} (member : place ∈ places) :
    ∃ suffix, suffix <:+ places ∧ IsChain next? place suffix := by
  induction places generalizing start with
  | nil => cases member
  | cons first rest ih =>
    rcases List.mem_cons.mp member with rfl | later
    · obtain ⟨rfl, -⟩ := id linked
      exact ⟨start :: rest, List.suffix_rfl, linked⟩
    · obtain ⟨-, -, following, -, rest_linked⟩ := linked
      obtain ⟨suffix, ends, suffix_linked⟩ := ih rest_linked later
      exact ⟨suffix, ends.trans (List.suffix_cons first rest), suffix_linked⟩

/-- A chain that ends comes to no place twice, because it would go on from both in the same way. -/
theorem nodup_of_isChain (linked : IsChain next? start places) : places.Nodup := by
  induction places generalizing start with
  | nil => exact List.nodup_nil
  | cons place rest ih =>
    obtain ⟨rfl, -, following, -, rest_linked⟩ := id linked
    refine List.nodup_cons.mpr ⟨fun again => ?_, ih rest_linked⟩
    obtain ⟨suffix, ends, suffix_linked⟩ := exists_suffix_isChain rest_linked again
    have shorter := ends.length_le
    rw [← eq_of_isChain linked suffix_linked, List.length_cons] at shorter
    omega

end determinism

section content

variable {content? : Nat → Option (List UInt8)} {content : Nat → List UInt8} {table : Array Nat}
  {start fuel : Nat} {places : List Nat}

theorem follow?_eq_some (linked : IsChain (table[·]?) start places)
    (held : ∀ place ∈ places, content? place = some (content place)) (enough : places.length ≤ fuel) :
    follow? content? table fuel start = some (places.flatMap content) := by
  induction places generalizing start fuel with
  | nil =>
    have past : sectorLimit ≤ start := linked
    unfold follow?
    rw [if_pos past, List.flatMap_nil]
  | cons place rest ih =>
    obtain ⟨rfl, is_sector, following, leads, rest_linked⟩ := linked
    obtain ⟨here, rest_held⟩ := List.forall_mem_cons.mp held
    obtain ⟨fuel, rfl⟩ : ∃ less, fuel = less + 1 := Nat.exists_eq_succ_of_ne_zero (by simp at enough; omega)
    have leads : table[start]? = some following := leads
    have rest_content := ih rest_linked rest_held (Nat.le_of_succ_le_succ enough)
    unfold follow?
    rw [if_neg (Nat.not_le.mpr is_sector)]
    simp only [here, leads, rest_content, Option.map_some, List.flatMap_cons]

theorem lt_size_of_isChain (linked : IsChain (table[·]?) start places) : ∀ place ∈ places, place < table.size := by
  induction places generalizing start with
  | nil => exact List.forall_mem_nil _
  | cons place rest ih =>
    obtain ⟨-, -, following, leads, rest_linked⟩ := linked
    obtain ⟨inside, -⟩ := Array.getElem?_eq_some_iff.mp leads
    exact List.forall_mem_cons.mpr ⟨inside, ih rest_linked⟩

/-- Different entries of a table are no more than it has. -/
theorem length_le_size {size : Nat} (distinct : places.Nodup) (inside : ∀ place ∈ places, place < size) :
    places.length ≤ size := by
  have listed : places ⊆ List.range size := fun place member => List.mem_range.mpr (inside place member)
  simpa using (distinct.subperm listed).length_le

theorem length_le_of_isChain (linked : IsChain (table[·]?) start places) : places.length ≤ table.size :=
  length_le_size (nodup_of_isChain linked) (lt_size_of_isChain linked)

/-- A chain of sectors that are there is followed to its end. -/
theorem chain?_eq_some (linked : IsChain (table[·]?) start places)
    (held : ∀ place ∈ places, content? place = some (content place)) :
    chain? content? table start = some (places.flatMap content) :=
  follow?_eq_some linked held (length_le_of_isChain linked)

end content

end Tablesmith.Compound
