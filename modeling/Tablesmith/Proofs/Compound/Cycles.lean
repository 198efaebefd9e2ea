import Mathlib
import Tablesmith.Proofs.Compound.Chain

/-!
# Chains that come back

A chain is followed for as many steps as its allocation table has entries. That is enough for
every chain that ends, because it comes to no sector twice (`length_le_of_isChain`). A chain
that goes on for longer has come back to a sector, and then it has no end
(`not_isChain_of_isCyclic`). So a chain is refused for its length only if it is cyclic: of a
chain whose sectors are all there, the sectors that were left behind are so many different
entries of the table that it ends in time, or it has come to one of them again
(`exists_follow?_of_acyclic`).
-/

namespace Tablesmith.Compound

open Binary

/-- There is a piece at a place exactly if the data reach it, and it is the slice there. -/
theorem getElem?_chunks_eq_some_iff {size place : Nat} {bytes content : List UInt8} :
    (chunks size bytes)[place]? = some content ↔ slice (place * size) size bytes = content ∧ content ≠ [] := by
  by_cases some_size : 0 < size
  · induction place generalizing bytes with
    | zero =>
      by_cases filled : bytes = []
      · subst filled
        simp only [chunks_nil, List.getElem?_nil, reduceCtorEq, false_iff, not_and, slice, List.drop_nil, List.take_nil]
        exact fun nothing some_content => some_content nothing.symm
      · rw [chunks_of_ne_nil some_size filled, slice, Nat.zero_mul, List.drop_zero, List.getElem?_cons_zero, Option.some_inj]
        refine ⟨fun same => ⟨same, ?_⟩, fun same => same.1⟩
        rw [← same]
        exact fun nothing => filled ((List.take_eq_nil_iff.mp nothing).resolve_left some_size.ne')
    | succ place ih =>
      have next_place : slice ((place + 1) * size) size bytes = slice (place * size) size (bytes.drop size) := by
        rw [slice, slice, List.drop_drop, Nat.succ_mul, Nat.add_comm]
      rw [next_place, ← ih]
      by_cases filled : bytes = []
      · simp [filled, chunks_nil]
      · rw [chunks_of_ne_nil some_size filled, List.getElem?_cons_succ]
  · obtain rfl : size = 0 := by omega
    rw [chunks, if_pos (.inl rfl), slice, List.take_zero]
    simp only [List.getElem?_nil, reduceCtorEq, false_iff, not_and]
    exact fun nothing some_content => some_content nothing.symm

/-- The content of a sector, which begins behind the header and the sectors before it. -/
def sectorContent (size : Nat) (data : List UInt8) (sector : Nat) : List UInt8 :=
  slice ((sector + 1) * size) size data

/-- The content of a small sector, which begins behind the small sectors before it. -/
def miniSectorContent (size : Nat) (data : List UInt8) (sector : Nat) : List UInt8 :=
  slice (sector * size) size data

/-- Sectors are found where they have content. -/
def Finds (content? : Nat → Option (List UInt8)) (content : Nat → List UInt8) : Prop :=
  ∀ sector bytes, content? sector = some bytes ↔ content sector = bytes ∧ bytes ≠ []

theorem finds_sector? (size : Nat) (data : List UInt8) :
    Finds (sector? (chunks size data).toArray) (sectorContent size data) := by
  intro sector bytes
  rw [sector?, List.getElem?_toArray, getElem?_chunks_eq_some_iff, sectorContent]

theorem finds_miniSector? (size : Nat) (data : List UInt8) :
    Finds (miniSector? (chunks size data).toArray) (miniSectorContent size data) := by
  intro sector bytes
  rw [miniSector?, List.getElem?_toArray, getElem?_chunks_eq_some_iff, miniSectorContent]

section follow

variable {content? : Nat → Option (List UInt8)} {content : Nat → List UInt8} {table : Array Nat}
  {start sector next fuel : Nat} {sectors : List Nat} {bytes : List UInt8}

theorem follow?_of_limit (past : sectorLimit ≤ sector) : follow? content? table fuel sector = some [] := by
  unfold follow?
  rw [if_pos past]

theorem follow?_zero (is_sector : sector < sectorLimit) : follow? content? table 0 sector = none := by
  unfold follow?
  rw [if_neg (Nat.not_le.mpr is_sector)]

theorem follow?_succ_eq_some_iff (finds : Finds content? content) (is_sector : sector < sectorLimit) :
    follow? content? table (fuel + 1) sector = some bytes ↔ content sector ≠ [] ∧
      ∃ next, table[sector]? = some next ∧ ∃ later, follow? content? table fuel next = some later ∧
        bytes = content sector ++ later := by
  conv_lhs => unfold follow?
  rw [if_neg (Nat.not_le.mpr is_sector)]
  cases held : content? sector with
  | none =>
    have nothing : content sector = [] := by
      by_contra some_content
      cases held.symm.trans ((finds sector _).mpr ⟨rfl, some_content⟩)
    simp [nothing]
  | some found =>
    obtain ⟨rfl, some_content⟩ := (finds sector found).mp held
    cases leads : table[sector]? with
    | none => simp
    | some next => simp [some_content, eq_comm]

/-- What is read off is a chain up to its end, sector by sector. -/
theorem exists_isChain_of_follow? (finds : Finds content? content)
    (read : follow? content? table fuel start = some bytes) : ∃ sectors, IsChain (table[·]?) start sectors ∧
      (∀ sector ∈ sectors, content sector ≠ []) ∧ bytes = sectors.flatMap content := by
  induction fuel generalizing start bytes with
  | zero =>
    by_cases past : sectorLimit ≤ start
    · rw [follow?_of_limit past] at read
      cases read
      exact ⟨[], past, by simp, rfl⟩
    · rw [follow?_zero (Nat.not_le.mp past)] at read
      cases read
  | succ fuel ih =>
    by_cases past : sectorLimit ≤ start
    · rw [follow?_of_limit past] at read
      cases read
      exact ⟨[], past, by simp, rfl⟩
    · obtain ⟨some_content, next, leads, later, later_read, rfl⟩ :=
        (follow?_succ_eq_some_iff finds (Nat.not_le.mp past)).mp read
      obtain ⟨sectors, linked, filled, rfl⟩ := ih later_read
      refine ⟨start :: sectors, ⟨rfl, Nat.not_le.mp past, next, leads, linked⟩, ?_, List.flatMap_cons.symm⟩
      exact List.forall_mem_cons.mpr ⟨some_content, filled⟩

theorem chain?_eq_some_iff (finds : Finds content? content) : chain? content? table start = some bytes ↔
    ∃ sectors, IsChain (table[·]?) start sectors ∧ (∀ sector ∈ sectors, content sector ≠ []) ∧
      bytes = sectors.flatMap content := by
  constructor
  · exact exists_isChain_of_follow? finds
  · rintro ⟨sectors, linked, filled, rfl⟩
    exact chain?_eq_some linked fun sector member => (finds sector _).mpr ⟨rfl, filled sector member⟩

/-- The next one is the entry of the sector in the table. -/
def LeadsTo (table : Array Nat) (sector next : Nat) : Prop :=
  sector < sectorLimit ∧ table[sector]? = some next

/-- From the start the chain comes to a sector to which it comes back. -/
def IsCyclic (table : Array Nat) (start : Nat) : Prop :=
  ∃ sector, Relation.ReflTransGen (LeadsTo table) start sector ∧ Relation.TransGen (LeadsTo table) sector sector

/-- Every sector to which the chain comes is in the table and has content. -/
def IsSound (table : Array Nat) (content : Nat → List UInt8) (start : Nat) : Prop :=
  ∀ sector, Relation.ReflTransGen (LeadsTo table) start sector → sector < sectorLimit →
    sector < table.size ∧ content sector ≠ []

theorem IsChain.exists_of_leadsTo (linked : IsChain (table[·]?) sector sectors) (leads : LeadsTo table sector next) :
    ∃ rest, sectors = sector :: rest ∧ IsChain (table[·]?) next rest := by
  cases sectors with
  | nil => exact absurd linked (Nat.not_le.mpr leads.1)
  | cons first rest =>
    obtain ⟨rfl, -, following, same, rest_linked⟩ := linked
    obtain rfl : following = next := Option.some.inj (same.symm.trans leads.2)
    exact ⟨rest, rfl, rest_linked⟩

theorem IsChain.exists_of_reaches (linked : IsChain (table[·]?) start sectors)
    (reaches : Relation.ReflTransGen (LeadsTo table) start sector) : ∃ rest, IsChain (table[·]?) sector rest := by
  induction reaches with
  | refl => exact ⟨sectors, linked⟩
  | tail _ leads ih =>
    obtain ⟨rest, rest_linked⟩ := ih
    obtain ⟨shorter, -, shorter_linked⟩ := rest_linked.exists_of_leadsTo leads
    exact ⟨shorter, shorter_linked⟩

theorem IsChain.exists_shorter (linked : IsChain (table[·]?) start sectors)
    (reaches : Relation.TransGen (LeadsTo table) start sector) :
    ∃ rest, IsChain (table[·]?) sector rest ∧ rest.length < sectors.length := by
  induction reaches with
  | single leads =>
    obtain ⟨rest, rfl, rest_linked⟩ := linked.exists_of_leadsTo leads
    exact ⟨rest, rest_linked, Nat.lt_succ_self _⟩
  | tail _ leads ih =>
    obtain ⟨rest, rest_linked, shorter⟩ := ih
    obtain ⟨last, rfl, last_linked⟩ := rest_linked.exists_of_leadsTo leads
    exact ⟨last, last_linked, (Nat.lt_succ_self _).trans shorter⟩

/-- A cyclic chain has no end: from a sector to which it comes back it would have two. -/
theorem not_isChain_of_isCyclic (cyclic : IsCyclic table start) : ¬ IsChain (table[·]?) start sectors := by
  intro linked
  obtain ⟨sector, reaches, comes_back⟩ := cyclic
  obtain ⟨rest, rest_linked⟩ := linked.exists_of_reaches reaches
  obtain ⟨shorter, shorter_linked, less⟩ := rest_linked.exists_shorter comes_back
  rw [eq_of_isChain rest_linked shorter_linked] at less
  exact Nat.lt_irrefl _ less

theorem IsCyclic.of_leadsTo (leads : LeadsTo table start next) (cyclic : IsCyclic table next) : IsCyclic table start := by
  obtain ⟨sector, reaches, comes_back⟩ := cyclic
  exact ⟨sector, reaches.head leads, comes_back⟩

theorem IsSound.of_leadsTo (leads : LeadsTo table start next) (sound : IsSound table content start) :
    IsSound table content next :=
  fun sector reaches => sound sector (reaches.head leads)

section behind

variable {behind : List Nat}

theorem not_mem_behind (acyclic : ¬ IsCyclic table start)
    (leads : ∀ sector ∈ behind, Relation.TransGen (LeadsTo table) sector start) : start ∉ behind :=
  fun again => acyclic ⟨start, .refl, leads start again⟩

/-- As long as a chain does not come back, it has left behind fewer sectors than there are. -/
theorem length_behind_lt (acyclic : ¬ IsCyclic table start) (here : start < table.size) (distinct : behind.Nodup)
    (inside : ∀ sector ∈ behind, sector < table.size)
    (leads : ∀ sector ∈ behind, Relation.TransGen (LeadsTo table) sector start) : behind.length < table.size :=
  length_le_size (List.nodup_cons.mpr ⟨not_mem_behind acyclic leads, distinct⟩) (List.forall_mem_cons.mpr ⟨here, inside⟩)

/-- The induction is on the steps that are left. The sectors that the chain has left behind are different entries of the
table, so that together with the steps they are enough for the whole table. -/
theorem exists_follow?_of_acyclic (finds : Finds content? content) (acyclic : ¬ IsCyclic table start)
    (sound : IsSound table content start) (distinct : behind.Nodup)
    (inside : ∀ sector ∈ behind, sector < table.size)
    (leads : ∀ sector ∈ behind, Relation.TransGen (LeadsTo table) sector start)
    (enough : table.size ≤ fuel + behind.length) : ∃ bytes, follow? content? table fuel start = some bytes := by
  induction fuel generalizing start behind with
  | zero =>
    by_cases past : sectorLimit ≤ start
    · exact ⟨[], follow?_of_limit past⟩
    · have room := length_behind_lt acyclic (sound start .refl (Nat.not_le.mp past)).1 distinct inside leads
      omega
  | succ fuel ih =>
    by_cases past : sectorLimit ≤ start
    · exact ⟨[], follow?_of_limit past⟩
    · obtain ⟨here, some_content⟩ := sound start .refl (Nat.not_le.mp past)
      have step : LeadsTo table start table[start] := ⟨Nat.not_le.mp past, Array.getElem?_eq_getElem here⟩
      have now_inside : ∀ sector ∈ start :: behind, sector < table.size := List.forall_mem_cons.mpr ⟨here, inside⟩
      have now_leads : ∀ sector ∈ start :: behind, Relation.TransGen (LeadsTo table) sector table[start] :=
        List.forall_mem_cons.mpr ⟨.single step, fun sector earlier => (leads sector earlier).tail step⟩
      obtain ⟨later, read⟩ := ih (fun cyclic => acyclic (cyclic.of_leadsTo step)) (sound.of_leadsTo step)
        (List.nodup_cons.mpr ⟨not_mem_behind acyclic leads, distinct⟩) now_inside now_leads
        (by rw [List.length_cons]; omega)
      exact ⟨_, (follow?_succ_eq_some_iff finds (Nat.not_le.mp past)).mpr ⟨some_content, _, step.2, later, read, rfl⟩⟩

end behind

end follow

/-- A way to read chains reads what the sectors of a chain hold, in the order of the chain, exactly if the chain leads
through sectors with content to a mark. It comes to no sector twice, and everything else is damage: a cyclic chain is, and
a chain that is not cyclic is none as long as its sectors are there. -/
structure FollowsToEnd (content : Nat → List UInt8) (read : Array Nat → Nat → Except CompoundError (List UInt8)) :
    Prop where
  ends : ∀ table start, (∃ bytes, read table start = .ok bytes) ∨ read table start = .error .damaged
  followed : ∀ (table : Array Nat) (start : Nat) (bytes : List UInt8), read table start = .ok bytes ↔
    ∃ sectors, IsChain (table[·]?) start sectors ∧ (∀ sector ∈ sectors, content sector ≠ []) ∧
      bytes = sectors.flatMap content
  distinct : ∀ (table : Array Nat) (start : Nat) (sectors : List Nat), IsChain (table[·]?) start sectors →
    sectors.Nodup ∧ sectors.length ≤ table.size
  cyclic : ∀ table start, IsCyclic table start → read table start = .error .damaged
  acyclic : ∀ table start, ¬ IsCyclic table start → IsSound table content start → ∃ bytes, read table start = .ok bytes

section need

variable {content? : Nat → Option (List UInt8)} {content : Nat → List UInt8}

theorem needChain_eq_ok_iff {table : Array Nat} {start : Nat} {bytes : List UInt8} :
    needChain content? table start = .ok bytes ↔ chain? content? table start = some bytes := by
  rw [needChain]
  cases chain? content? table start <;> simp

theorem needChain_ends (content? : Nat → Option (List UInt8)) (table : Array Nat) (start : Nat) :
    (∃ bytes, needChain content? table start = .ok bytes) ∨ needChain content? table start = .error .damaged := by
  rw [needChain]
  cases chain? content? table start <;> simp

theorem followsToEnd_of_finds (finds : Finds content? content) : FollowsToEnd content (needChain content?) where
  ends := needChain_ends content?
  followed table start bytes := by rw [needChain_eq_ok_iff, chain?_eq_some_iff finds]
  distinct table start sectors linked := ⟨nodup_of_isChain linked, length_le_of_isChain linked⟩
  cyclic table start cyclic := by
    refine (needChain_ends content? table start).resolve_left ?_
    rintro ⟨bytes, read⟩
    obtain ⟨sectors, linked, -⟩ := (chain?_eq_some_iff finds).mp (needChain_eq_ok_iff.mp read)
    exact not_isChain_of_isCyclic cyclic linked
  acyclic table start acyclic sound := by
    obtain ⟨bytes, read⟩ := exists_follow?_of_acyclic finds acyclic sound List.nodup_nil (List.forall_mem_nil _)
      (List.forall_mem_nil _) (Nat.le_refl table.size)
    exact ⟨bytes, needChain_eq_ok_iff.mpr read⟩

end need

/-- Chains of sectors and of small sectors are followed to their ends or refused, whatever the sizes of the sectors and
the data are. -/
theorem chains_followed_to_end (size : Nat) (data : List UInt8) :
    FollowsToEnd (sectorContent size data) (needChain (sector? (chunks size data).toArray)) ∧
      FollowsToEnd (miniSectorContent size data) (needChain (miniSector? (chunks size data).toArray)) :=
  ⟨followsToEnd_of_finds (finds_sector? size data), followsToEnd_of_finds (finds_miniSector? size data)⟩

-- A chain may use every entry of its table, and one more step shows that it has come back.
example : chain? (fun sector => some [UInt8.ofNat sector]) #[2, 0xfffffffe, 1] 0 = some [0, 2, 1] ∧
    chain? (fun sector => some [UInt8.ofNat sector]) #[2, 0, 1] 0 = none := by decide

end Tablesmith.Compound
