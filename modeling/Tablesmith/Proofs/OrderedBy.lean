import Mathlib
import Tablesmith.OrderedBy

/-!
# What an ordered collection holds

The list of a collection says everything about it: what a key finds is the item
of the list with that key, and no two items of the list have one key. What an
insertion does is stated of this list and of what keys find, and a collection
that is built by insertions alone is what its last item of every key makes it.
-/

namespace Tablesmith.OrderedBy

variable {α κ : Type} [BEq κ] [Hashable κ] {key : α → κ}

@[simp] theorem toList_empty : (OrderedBy.empty : OrderedBy key).toList = [] := rfl

@[simp] theorem find?_empty [LawfulBEq κ] (k : κ) : (OrderedBy.empty : OrderedBy key).find? k = none := by
  simp [find?, empty]

theorem find?_eq_some_iff [LawfulBEq κ] {collection : OrderedBy key} {k : κ} {item : α} :
    collection.find? k = some item ↔ item ∈ collection.toList ∧ key item = k := by
  constructor
  · intro found
    obtain ⟨i, at_i, here⟩ := Option.bind_eq_some_iff.mp found
    have same := (collection.index_iff k i).mp at_i
    rw [here] at same
    exact ⟨by simpa [toList] using Array.mem_of_getElem? here, Option.some.inj same⟩
  · rintro ⟨member, rfl⟩
    obtain ⟨i, here⟩ := Array.getElem?_of_mem (Array.mem_def.mpr (by simpa [toList] using member))
    have at_i := (collection.index_iff (key item) i).mpr (by simp [here])
    simp [find?, at_i, here]

theorem find?_eq_none_iff [LawfulBEq κ] {collection : OrderedBy key} {k : κ} :
    collection.find? k = none ↔ ∀ item ∈ collection.toList, key item ≠ k := by
  rw [Option.eq_none_iff_forall_ne_some]
  constructor
  · intro none_found item member same
    exact none_found item (find?_eq_some_iff.mpr ⟨member, same⟩)
  · intro away item found
    obtain ⟨member, same⟩ := find?_eq_some_iff.mp found
    exact away item member same

theorem contains_iff [LawfulBEq κ] {collection : OrderedBy key} {k : κ} :
    collection.contains k = true ↔ ∃ item ∈ collection.toList, key item = k := by
  rw [contains, Option.isSome_iff_exists]
  exact exists_congr (fun _ => find?_eq_some_iff)

theorem nodup_keys (collection : OrderedBy key) : (collection.toList.map key).Nodup := by
  rw [List.nodup_iff_injective_getElem]
  intro ⟨i, i_in⟩ ⟨j, j_in⟩ same
  simp only [toList, List.length_map, Array.length_toList, List.getElem_map, Array.getElem_toList] at i_in j_in same
  have at_i := (collection.index_iff (key collection.items[i]) i).mpr (by simp [i_in])
  have at_j := (collection.index_iff (key collection.items[i]) j).mpr (by simp [j_in, same])
  simpa using at_i.symm.trans at_j

section insertion
variable [LawfulBEq κ]

theorem toList_insert_of_new {collection : OrderedBy key} {item : α} (new : collection.find? (key item) = none) :
    (collection.insert item).toList = collection.toList ++ [item] := by
  unfold insert
  split
  · next i found =>
    have inside := lt_size_of_index found
    simp [find?, found, inside] at new
  · simp [toList]

/-- An item whose key is in use takes the place of the earlier one. -/
theorem toList_insert_of_known {collection : OrderedBy key} {item old : α}
    (known : collection.find? (key item) = some old) :
    ∃ before after, collection.toList = before ++ old :: after ∧
      (collection.insert item).toList = before ++ item :: after := by
  unfold insert
  split
  · next i found =>
    have inside := lt_size_of_index found
    have here : collection.items[i] = old := by simpa [find?, found, inside] using known
    refine ⟨collection.items.toList.take i, collection.items.toList.drop (i+1), ?_, ?_⟩
    · have at_i := List.drop_eq_getElem_cons (show i < collection.items.toList.length by simpa using inside)
      rw [Array.getElem_toList, here] at at_i
      rw [← at_i, List.take_append_drop, toList]
    · simp only [toList, Array.toList_set]
      rw [List.set_eq_take_append_cons_drop, if_pos (by simpa using inside)]
  · next missing => simp [find?, missing] at known

theorem mem_toList_insert {collection : OrderedBy key} {item other : α} :
    other ∈ (collection.insert item).toList ↔
      other = item ∨ (other ∈ collection.toList ∧ key other ≠ key item) := by
  cases known : collection.find? (key item) with
  | none =>
    have away := find?_eq_none_iff.mp known
    rw [toList_insert_of_new known]
    simp only [List.mem_append, List.mem_singleton]
    constructor
    · rintro (member | same)
      · exact Or.inr ⟨member, away other member⟩
      · exact Or.inl same
    · rintro (same | ⟨member, _⟩)
      · exact Or.inr same
      · exact Or.inl member
  | some old =>
    obtain ⟨before, after, split_old, split_new⟩ := toList_insert_of_known known
    have old_key : key old = key item := (find?_eq_some_iff.mp known).2
    have distinct := collection.nodup_keys
    rw [split_old, List.map_append, List.map_cons, List.nodup_append] at distinct
    obtain ⟨_, distinct_after, apart⟩ := distinct
    have not_before : ∀ x ∈ before, key x ≠ key item := by
      intro x member same
      exact apart (key x) (List.mem_map_of_mem member) (key old) List.mem_cons_self (same.trans old_key.symm)
    have not_after : ∀ x ∈ after, key x ≠ key item := by
      intro x member same
      exact (List.nodup_cons.mp distinct_after).1
        (List.mem_map.mpr ⟨x, member, same.trans old_key.symm⟩)
    rw [split_new, split_old]
    simp only [List.mem_append, List.mem_cons]
    constructor
    · rintro (member | same | member)
      · exact Or.inr ⟨Or.inl member, not_before other member⟩
      · exact Or.inl same
      · exact Or.inr ⟨Or.inr (Or.inr member), not_after other member⟩
    · rintro (same | ⟨member | same | member, away⟩)
      · exact Or.inr (Or.inl same)
      · exact Or.inl member
      · exact absurd (same ▸ old_key) away
      · exact Or.inr (Or.inr member)

theorem find?_insert (collection : OrderedBy key) (item : α) (k : κ) :
    (collection.insert item).find? k = if key item == k then some item else collection.find? k := by
  apply Option.ext
  intro other
  rw [find?_eq_some_iff, mem_toList_insert]
  by_cases same : key item = k
  · subst same
    simp only [BEq.rfl, ↓reduceIte, Option.some.injEq]
    constructor
    · rintro ⟨equal | ⟨_, away⟩, same⟩
      · exact equal.symm
      · exact absurd same away
    · rintro rfl
      exact ⟨Or.inl rfl, rfl⟩
  · simp only [beq_iff_eq, same, ↓reduceIte, find?_eq_some_iff]
    constructor
    · rintro ⟨rfl | ⟨member, _⟩, holds⟩
      · exact absurd holds same
      · exact ⟨member, holds⟩
    · rintro ⟨member, rfl⟩
      exact ⟨Or.inr ⟨member, Ne.symm same⟩, rfl⟩

/-- What a key finds behind a row of insertions is the last item with that key. -/
theorem find?_foldl_insert (items : List α) (collection : OrderedBy key) (k : κ) :
    (items.foldl insert collection).find? k =
      (items.reverse.find? fun item => key item == k).or (collection.find? k) := by
  induction items generalizing collection with
  | nil => simp
  | cons item items ih =>
    rw [List.foldl_cons, ih, find?_insert, List.reverse_cons, List.find?_append, Option.or_assoc]
    by_cases same : key item == k <;> simp [same]

/-- Items without a common key stand in the order in which they were inserted. -/
theorem toList_foldl_insert (items : List α) (collection : OrderedBy key)
    (distinct : ((collection.toList ++ items).map key).Nodup) :
    (items.foldl insert collection).toList = collection.toList ++ items := by
  induction items generalizing collection with
  | nil => simp
  | cons item items ih =>
    have new : collection.find? (key item) = none := by
      rw [find?_eq_none_iff]
      intro other member same
      rw [List.map_append, List.nodup_append] at distinct
      exact distinct.2.2 (key other) (List.mem_map_of_mem member) (key item) (by simp) same
    have inserted := toList_insert_of_new new
    rw [List.foldl_cons, ih _ (by simpa [inserted] using distinct), inserted, List.append_assoc, List.singleton_append]

/-- A key that is new goes to the end. -/
theorem map_key_insert (collection : OrderedBy key) (item : α) : (collection.insert item).toList.map key =
    if key item ∈ collection.toList.map key then collection.toList.map key
    else collection.toList.map key ++ [key item] := by
  cases known : collection.find? (key item) with
  | none =>
    have new : key item ∉ collection.toList.map key := by
      rintro member
      obtain ⟨other, stored, same⟩ := List.mem_map.mp member
      exact find?_eq_none_iff.mp known other stored same
    rw [if_neg new, toList_insert_of_new known, List.map_append, List.map_singleton]
  | some old =>
    obtain ⟨before, after, split_old, split_new⟩ := toList_insert_of_known known
    obtain ⟨member, same⟩ := find?_eq_some_iff.mp known
    rw [if_pos (List.mem_map.mpr ⟨old, member, same⟩), split_old, split_new]
    simp [same]

/-- Insertions leave every key once, in the order of its first item. -/
theorem map_key_foldl_insert (items : List α) :
    (items.foldl insert (empty : OrderedBy key)).toList.map key = (items.map key).eraseDups := by
  induction items using List.reverseRecOn with
  | nil => rfl
  | append_singleton items item ih =>
    rw [List.foldl_concat, map_key_insert, ih, List.map_append, List.map_singleton, List.eraseDups_append]
    by_cases member : key item ∈ items.map key
    · simp [member, List.removeAll]
    · simp [member, List.removeAll, List.eraseDups_cons]

/-- The items are what their keys find. -/
theorem toList_eq_filterMap (collection : OrderedBy key) :
    collection.toList = (collection.toList.map key).filterMap collection.find? := by
  have found : ∀ item ∈ collection.toList, (collection.find? ∘ key) item = some item := fun item member =>
    find?_eq_some_iff.mpr ⟨member, rfl⟩
  rw [List.filterMap_map, List.filterMap_congr found, List.filterMap_some]

/-- Insertions leave the last item of every key, in the order of the first items of the keys. -/
theorem toList_foldl_insert_empty (items : List α) : (items.foldl insert (empty : OrderedBy key)).toList =
    (items.map key).eraseDups.filterMap fun k => items.reverse.find? fun item => key item == k := by
  rw [toList_eq_filterMap, map_key_foldl_insert]
  refine List.filterMap_congr fun k _ => ?_
  rw [find?_foldl_insert, find?_empty, Option.or_none]

end insertion

end Tablesmith.OrderedBy

namespace Tablesmith.TextMap

variable {ν : Type}

theorem get?_eq_some_iff {map : TextMap ν} {name : String} {value : ν} :
    map.get? name = some value ↔ (name, value) ∈ map.toList := by
  rw [get?, Option.map_eq_some_iff]
  constructor
  · rintro ⟨⟨found, held⟩, known, rfl⟩
    obtain ⟨member, rfl⟩ := OrderedBy.find?_eq_some_iff.mp known
    exact member
  · intro member
    exact ⟨(name, value), OrderedBy.find?_eq_some_iff.mpr ⟨member, rfl⟩, rfl⟩

theorem mem_keys_iff {map : TextMap ν} {name : String} : name ∈ map.keys ↔ ∃ value, map.get? name = some value := by
  rw [keys, List.mem_map]
  constructor
  · rintro ⟨⟨found, value⟩, member, rfl⟩
    exact ⟨value, get?_eq_some_iff.mpr member⟩
  · rintro ⟨value, known⟩
    exact ⟨(name, value), get?_eq_some_iff.mp known, rfl⟩

theorem get?_insert (map : TextMap ν) (name : String) (value : ν) (other : String) :
    TextMap.get? (map.insert (name, value)) other = if name = other then some value else map.get? other := by
  rw [get?, OrderedBy.find?_insert]
  by_cases same : name = other
  · simp [same]
  · simp [same, get?]

/-- A name that is new goes to the end. -/
theorem keys_insert (map : TextMap ν) (name : String) (value : ν) :
    TextMap.keys (map.insert (name, value)) = if name ∈ map.keys then map.keys else map.keys ++ [name] :=
  OrderedBy.map_key_insert map (name, value)

/-- What a name finds in a map made by insertions is the value of the last entry with that name. -/
theorem get?_foldl_insert (entries : List (String × ν)) (name : String) :
    TextMap.get? (entries.foldl OrderedBy.insert OrderedBy.empty) name =
      (entries.reverse.find? fun entry => entry.1 == name).map Prod.snd := by
  rw [get?, OrderedBy.find?_foldl_insert, OrderedBy.find?_empty, Option.or_none]

end Tablesmith.TextMap
