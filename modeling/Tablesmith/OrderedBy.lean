import Std.Data.HashMap

/-!
# Collections in order of first use

Each item has a key, and no two items of a collection have the same one. A new item goes to the end;
an item whose key is in use takes the place of the earlier one.
-/

namespace Tablesmith

/-- Items in the order in which their keys were first used. The index says where the item of a key
is. -/
structure OrderedBy {α κ : Type} [BEq κ] [Hashable κ] (key : α → κ) where
  items : Array α
  index : Std.HashMap κ Nat
  index_iff : ∀ (k : κ) (i : Nat), index[k]? = some i ↔ items[i]?.map key = some k

namespace OrderedBy

variable {α κ : Type} [BEq κ] [Hashable κ] {key : α → κ}

/-- The collection without items. -/
def empty : OrderedBy key where
  items := #[]
  index := ∅
  index_iff := by simp

theorem lt_size_of_index {collection : OrderedBy key} {k : κ} {i : Nat}
    (found : collection.index[k]? = some i) : i < collection.items.size := by
  have at_i := (collection.index_iff k i).1 found
  rcases Nat.lt_or_ge i collection.items.size with small | large
  · exact small
  · simp [large] at at_i

/-- Adds an item, in place of the one with its key if there is one. -/
def insert [LawfulBEq κ] (collection : OrderedBy key) (item : α) : OrderedBy key :=
  match found : collection.index[key item]? with
  | some i =>
    { collection with
      items := collection.items.set i item (lt_size_of_index found)
      index_iff := by
        intro k j
        rw [collection.index_iff, Array.getElem?_set]
        split
        · next same =>
          subst same
          rw [(collection.index_iff (key item) i).1 found]
          simp
        · rfl }
  | none =>
    let index := collection.index.insert (key item) collection.items.size
    { collection with
      items := collection.items.push item
      index := index
      index_iff := by
        intro k j
        rw [Std.HashMap.getElem?_insert, Array.getElem?_push]
        by_cases same : key item = k
        · subst same
          by_cases last : j = collection.items.size
          · simp [last]
          · have absent : collection.items[j]?.map key ≠ some (key item) := by
              intro holds
              rw [(collection.index_iff (key item) j).2 holds] at found
              cases found
            simpa [last, eq_comm] using absent
        · by_cases last : j = collection.items.size
          · have absent : collection.index[k]? ≠ some j := by
              intro holds
              exact absurd (lt_size_of_index holds) (by omega)
            simp [same, last] at absent ⊢
            exact absent
          · simp [same, last, collection.index_iff] }

/-- The item with the given key. -/
def find? (collection : OrderedBy key) (k : κ) : Option α :=
  (collection.index[k]?).bind fun i => collection.items[i]?

def contains (collection : OrderedBy key) (k : κ) : Bool :=
  (collection.find? k).isSome

def toList (collection : OrderedBy key) : List α :=
  collection.items.toList

def size (collection : OrderedBy key) : Nat :=
  collection.items.size

/-- There is no item at all. -/
def isEmpty (collection : OrderedBy key) : Bool :=
  collection.items.isEmpty

end OrderedBy

/-- A map from texts that remembers in which order its keys were first used. -/
abbrev TextMap (ν : Type) : Type :=
  OrderedBy (Prod.fst : String × ν → String)

namespace TextMap

def get? {ν : Type} (map : TextMap ν) (key : String) : Option ν :=
  (map.find? key).map Prod.snd

def keys {ν : Type} (map : TextMap ν) : List String :=
  map.toList.map Prod.fst

end TextMap

end Tablesmith
