import Mathlib
import Tablesmith.Proofs.Scan
import Tablesmith.Proofs.Text.Lowercase
import Tablesmith.PropertyType

/-!
# Aliases

A list of items makes each alias stand for the type of its last item, and for the type of that name
if there is none (`ofItems_ok_iff`). Without items, texts stand for the types that they name
(`resolve_builtin_eq_ofName`). The entries say all there is to say, so the list that they are written as makes the
same aliases again (`ofItems_toItems`).
-/

namespace Tablesmith

open Text

variable {name key : String} {type : PropertyType} {k : String}

/-- What aliases are compared by is compared by itself. -/
theorem aliasKey_aliasKey (name : String) : aliasKey (aliasKey name) = aliasKey name := by
  have trimmed : IsTrimmed (aliasKey name).toList := by
    rw [aliasKey, toList_toLowercase]
    exact isTrimmed_lowerFrom (isTrimmed_trim name)
  rw [aliasKey, trim_of_isTrimmed trimmed]
  exact toLowercase_toLowercase _

theorem PropertyType.mem_all (type : PropertyType) : type ∈ all := by
  cases type <;> decide

theorem PropertyType.ofName?_name (type : PropertyType) : ofName? type.name = some type := by
  cases type <;> decide +kernel

namespace TypeAliases

variable {entries others : List (String × PropertyType)}

/-- The entries are in the order of their aliases, and no alias has two. -/
def IsSorted (entries : List (String × PropertyType)) : Prop :=
  (entries.map Prod.fst).Pairwise (· < ·)

theorem isSorted_cons_iff {entry : String × PropertyType} :
    IsSorted (entry :: entries) ↔ (∀ other ∈ entries, entry.1 < other.1) ∧ IsSorted entries := by
  rw [IsSorted, List.map_cons, List.pairwise_cons, List.forall_mem_map]
  rfl

theorem textLe_iff {left right : String} : textLe left right = true ↔ left ≤ right := by
  rw [textLe, Bool.not_eq_true', decide_eq_false_iff_not, not_lt]

theorem mem_insertSorted {entry : String × PropertyType} (member : entry ∈ insertSorted key type entries) :
    entry = (key, type) ∨ entry ∈ entries := by
  induction entries with
  | nil => exact .inl (List.mem_singleton.mp member)
  | cons first rest ih =>
    rw [insertSorted] at member
    split_ifs at member with same before
    · rcases List.mem_cons.mp member with rfl | later
      · exact .inl rfl
      · exact .inr (List.mem_cons_of_mem _ later)
    · exact List.mem_cons.mp member
    · rcases List.mem_cons.mp member with rfl | later
      · exact .inr List.mem_cons_self
      · exact (ih later).imp id (List.mem_cons_of_mem _)

theorem isSorted_insertSorted (sorted : IsSorted entries) : IsSorted (insertSorted key type entries) := by
  induction entries with
  | nil => exact List.pairwise_singleton _ _
  | cons first rest ih =>
    obtain ⟨first_least, rest_sorted⟩ := isSorted_cons_iff.mp sorted
    rw [insertSorted]
    split_ifs with same before
    · exact isSorted_cons_iff.mpr ⟨fun other listed => same ▸ first_least other listed, rest_sorted⟩
    · have less : key < first.1 := lt_of_le_of_ne (textLe_iff.mp before) same
      refine isSorted_cons_iff.mpr ⟨fun other listed => ?_, sorted⟩
      rcases List.mem_cons.mp listed with rfl | later
      · exact less
      · exact less.trans (first_least other later)
    · have greater : first.1 < key := lt_of_not_ge fun le => before (textLe_iff.mpr le)
      refine isSorted_cons_iff.mpr ⟨fun other listed => ?_, ih rest_sorted⟩
      rcases mem_insertSorted listed with rfl | earlier
      · exact greater
      · exact first_least other earlier

theorem lookup_cons_eq_ite (entry : String × PropertyType) (entries : List (String × PropertyType)) (k : String) :
    (entry :: entries).lookup k = if k = entry.1 then some entry.2 else entries.lookup k := by
  rw [List.lookup_cons]
  split_ifs with here
  · rw [beq_iff_eq.mpr here]
  · rw [beq_eq_false_iff_ne.mpr here]

theorem lookup_insertSorted (entries : List (String × PropertyType)) (key : String) (type : PropertyType) (k : String) :
    (insertSorted key type entries).lookup k = if k = key then some type else entries.lookup k := by
  induction entries with
  | nil => exact lookup_cons_eq_ite (key, type) [] k
  | cons first rest ih =>
    rw [insertSorted]
    by_cases same : key = first.1
    · rw [if_pos same, lookup_cons_eq_ite, lookup_cons_eq_ite, ← same]
      by_cases here : k = key <;> simp [here]
    · rw [if_neg same]
      by_cases before : textLe key first.1 = true
      · rw [if_pos before, lookup_cons_eq_ite]
      · rw [if_neg before, lookup_cons_eq_ite, lookup_cons_eq_ite, ih]
        by_cases here : k = key
        · rw [if_pos here, if_pos here, if_neg (here ▸ same)]
        · rw [if_neg here, if_neg here]

theorem IsSorted.lookup_eq_some_iff (sorted : IsSorted entries) : entries.lookup k = some type ↔ (k, type) ∈ entries := by
  induction entries with
  | nil => simp
  | cons first rest ih =>
    obtain ⟨first_least, rest_sorted⟩ := isSorted_cons_iff.mp sorted
    rw [lookup_cons_eq_ite, List.mem_cons]
    split_ifs with here
    · have not_later : (k, type) ∉ rest := fun later => absurd (first_least _ later) (by simp [here])
      rw [or_iff_left not_later, Option.some.injEq, Prod.ext_iff, and_iff_right here, eq_comm]
    · have not_first : (k, type) ≠ first := fun same => here (congrArg Prod.fst same)
      rw [or_iff_right not_first, ih rest_sorted]

/-- Sorted entries are known by what is looked up in them. -/
theorem IsSorted.ext (sorted : IsSorted entries) (others_sorted : IsSorted others)
    (same : ∀ k, entries.lookup k = others.lookup k) : entries = others := by
  have nodup : ∀ {listed : List (String × PropertyType)}, IsSorted listed → listed.Nodup := fun sorted =>
    List.Nodup.of_map Prod.fst (List.Pairwise.imp (fun less => ne_of_lt less) sorted)
  have perm : entries.Perm others := by
    refine (List.perm_ext_iff_of_nodup (nodup sorted) (nodup others_sorted)).mpr ?_
    rintro ⟨k, type⟩
    rw [← sorted.lookup_eq_some_iff, ← others_sorted.lookup_eq_some_iff, same]
  have entries_rise : entries.Pairwise fun first second => first.1 < second.1 := List.pairwise_map.mp sorted
  have others_rise : others.Pairwise fun first second => first.1 < second.1 := List.pairwise_map.mp others_sorted
  exact List.Perm.eq_of_pairwise (fun _ _ _ _ less greater => absurd less (lt_asymm greater)) entries_rise others_rise perm

variable {aliases other : TypeAliases} {definitions : List (String × PropertyType)}

/-- The entries are sorted, and their aliases are what aliases are compared by. -/
structure IsProper (aliases : TypeAliases) : Prop where
  sorted : IsSorted aliases.entries
  keyed : ∀ entry ∈ aliases.entries, aliasKey entry.1 = entry.1

/-- Defines one alias after the other. -/
def define (aliases : TypeAliases) (definitions : List (String × PropertyType)) : TypeAliases :=
  definitions.foldl (fun aliases entry => aliases.insert entry.1 entry.2) aliases

theorem isProper_empty : IsProper ⟨[]⟩ :=
  ⟨List.Pairwise.nil, List.forall_mem_nil _⟩

theorem IsProper.insert (proper : aliases.IsProper) (name : String) (type : PropertyType) :
    (aliases.insert name type).IsProper where
  sorted := isSorted_insertSorted proper.sorted
  keyed := by
    intro entry listed
    rcases mem_insertSorted listed with rfl | listed
    · exact aliasKey_aliasKey name
    · exact proper.keyed entry listed

theorem IsProper.define (proper : aliases.IsProper) (definitions : List (String × PropertyType)) :
    (aliases.define definitions).IsProper := by
  induction definitions generalizing aliases with
  | nil => exact proper
  | cons entry definitions ih => exact ih (proper.insert entry.1 entry.2)

/-- A text stands for a type if there is an entry of its alias and of the type. -/
theorem IsProper.resolve_eq_some_iff (proper : aliases.IsProper) :
    aliases.resolve name = some type ↔ (aliasKey name, type) ∈ aliases.entries :=
  proper.sorted.lookup_eq_some_iff

/-- Aliases are known by what texts stand for. -/
theorem IsProper.ext (proper : aliases.IsProper) (other_proper : other.IsProper)
    (same : ∀ name, aliases.resolve name = other.resolve name) : aliases = other := by
  have unkeyed : ∀ {listed : TypeAliases}, listed.IsProper → ∀ k, aliasKey k ≠ k → listed.entries.lookup k = none := by
    intro listed proper k apart
    rw [Option.eq_none_iff_forall_ne_some]
    intro type found
    exact apart (proper.keyed (k, type) (proper.sorted.lookup_eq_some_iff.mp found))
  suffices entries : aliases.entries = other.entries by
    cases aliases
    cases other
    exact congrArg _ entries
  refine proper.sorted.ext other_proper.sorted fun k => ?_
  by_cases keyed : aliasKey k = k
  · have same_resolve := same k
    rwa [resolve, resolve, keyed] at same_resolve
  · rw [unkeyed proper k keyed, unkeyed other_proper k keyed]

theorem resolve_insert (aliases : TypeAliases) (name : String) (type : PropertyType) (other : String) :
    (aliases.insert name type).resolve other =
      if aliasKey other = aliasKey name then some type else aliases.resolve other :=
  lookup_insertSorted _ _ _ _

/-- The last of the definitions of a text's alias. -/
def lastOf (definitions : List (String × PropertyType)) (name : String) : Option (String × PropertyType) :=
  definitions.reverse.find? fun entry => aliasKey entry.1 == aliasKey name

theorem lastOf_eq_none_iff : lastOf definitions name = none ↔ ∀ entry ∈ definitions, aliasKey entry.1 ≠ aliasKey name := by
  simp [lastOf]

theorem aliasKey_of_lastOf {entry : String × PropertyType} (last : lastOf definitions name = some entry) :
    entry ∈ definitions ∧ aliasKey entry.1 = aliasKey name :=
  ⟨List.mem_reverse.mp (List.mem_of_find?_eq_some last), by simpa using List.find?_some last⟩

/-- Behind a row of definitions a text stands for the type of the last one of its alias. -/
theorem resolve_define (definitions : List (String × PropertyType)) (aliases : TypeAliases) (name : String) :
    (aliases.define definitions).resolve name = ((lastOf definitions name).map Prod.snd).or (aliases.resolve name) := by
  induction definitions generalizing aliases with
  | nil => rfl
  | cons entry definitions ih =>
    rw [define, List.foldl_cons, ← define, ih, resolve_insert, lastOf, lastOf, List.reverse_cons, List.find?_append,
      Option.map_or, Option.or_assoc]
    by_cases same : aliasKey name = aliasKey entry.1
    · simp [same]
    · have apart : (aliasKey entry.1 == aliasKey name) = false := beq_eq_false_iff_ne.mpr (Ne.symm same)
      simp [same, apart]

theorem builtin_eq_define : builtin = define ⟨[]⟩ (PropertyType.all.map fun type => (type.name, type)) := by
  rw [builtin, define, List.foldl_map]

theorem isProper_builtin : builtin.IsProper :=
  builtin_eq_define ▸ isProper_empty.define _

/-- Without items a text stands for the type of that name. -/
theorem resolve_builtin_eq_some_iff : builtin.resolve name = some type ↔ aliasKey type.name = aliasKey name := by
  have apart : ∀ first ∈ PropertyType.all, ∀ second ∈ PropertyType.all,
      aliasKey first.name = aliasKey second.name → first = second := by
    decide +kernel
  have nothing : (⟨[]⟩ : TypeAliases).resolve name = none := rfl
  rw [builtin_eq_define, resolve_define, nothing, Option.or_none, Option.map_eq_some_iff]
  constructor
  · rintro ⟨entry, last, rfl⟩
    obtain ⟨listed, same⟩ := aliasKey_of_lastOf last
    obtain ⟨type, _, rfl⟩ := List.mem_map.mp listed
    exact same
  · intro same
    obtain ⟨entry, last⟩ : ∃ entry, lastOf (PropertyType.all.map fun type => (type.name, type)) name = some entry := by
      rw [← Option.isSome_iff_exists, Option.isSome_iff_ne_none, Ne, lastOf_eq_none_iff]
      exact fun none_same => none_same (type.name, type) (List.mem_map_of_mem type.mem_all) same
    obtain ⟨listed, same_last⟩ := aliasKey_of_lastOf last
    obtain ⟨last_type, known, rfl⟩ := List.mem_map.mp listed
    exact ⟨_, last, apart last_type known type type.mem_all (same_last.trans same.symm)⟩

/-- A text names a type if it does so but for the case of ASCII letters and white space around it. -/
theorem ofName?_eq_some_iff {text : String} :
    PropertyType.ofName? text = some type ↔ sameAscii type.name (trim text) = true := by
  have apart : ∀ first ∈ PropertyType.all, ∀ second ∈ PropertyType.all,
      first.name.toList.map Char.toLower = second.name.toList.map Char.toLower → first = second := by
    decide +kernel
  have named {other : PropertyType} (found : PropertyType.ofName? text = some other) : sameAscii other.name (trim text) = true := by
    have holds := List.find?_some found
    exact holds
  refine ⟨named, fun same => ?_⟩
  obtain ⟨other, found⟩ : ∃ other, PropertyType.ofName? text = some other := by
    rw [← Option.isSome_iff_exists, PropertyType.ofName?, List.find?_isSome]
    exact ⟨type, type.mem_all, same⟩
  have letters := (sameAscii_iff.mp (named found)).trans (sameAscii_iff.mp same).symm
  rw [found, apart other other.mem_all type type.mem_all letters]

/-- Both ways to look up the name of a type find the same one, whatever the text. -/
theorem resolve_builtin_eq_ofName (name : String) : builtin.resolve name = PropertyType.ofName? name := by
  ext type
  have trimmed : trim type.name = type.name := by
    cases type <;> decide +kernel
  have plain : type.name.toList.all (fun c => decide (c.toLower.toNat < 128 ∧ c.toLower ≠ 'k')) = true := by
    cases type <;> decide +kernel
  simp only [List.all_eq_true, decide_eq_true_eq] at plain
  rw [resolve_builtin_eq_some_iff, ofName?_eq_some_iff, aliasKey, aliasKey, trimmed, toLowercase_eq_iff plain]

/-- The type that an item defines its alias as. -/
def Item.definition (item : Item) : Except UnknownType (String × PropertyType) :=
  match PropertyType.ofName? item.typeName with
  | some type => .ok (item.name, type)
  | none => .error ⟨item⟩

theorem Item.definition_eq_ok_iff {item : Item} {entry : String × PropertyType} :
    item.definition = .ok entry ↔ item.name = entry.1 ∧ PropertyType.ofName? item.typeName = some entry.2 := by
  unfold definition
  cases PropertyType.ofName? item.typeName <;> simp [Prod.ext_iff]

theorem Item.definition_eq_error_iff {item : Item} {unknown : UnknownType} :
    item.definition = .error unknown ↔ PropertyType.ofName? item.typeName = none ∧ unknown = ⟨item⟩ := by
  unfold definition
  cases PropertyType.ofName? item.typeName <;> simp [eq_comm]

theorem ofItems_eq (items : List Item) :
    ofItems items =
      items.foldlM (fun aliases item => item.definition.map fun entry => aliases.insert entry.1 entry.2) builtin := by
  refine congrArg (fun step => items.foldlM step builtin) (funext₂ fun aliases item => ?_)
  unfold Item.definition
  cases PropertyType.ofName? item.typeName <;> rfl

/-- Items whose types are all known define their aliases one after the other, on top of the names of the types. -/
theorem ofItems_ok_iff {items : List Item} : ofItems items = .ok aliases ↔
    ∃ definitions, List.Forall₂ (fun item entry => item.definition = .ok entry) items definitions ∧
      aliases = builtin.define definitions := by
  rw [ofItems_eq]
  exact Outcome.foldlM_map_ok_iff

/-- The type that the item names is known. -/
def Item.IsKnown (item : Item) : Prop :=
  ∃ type, PropertyType.ofName? item.typeName = some type

theorem Item.isKnown_iff {item : Item} : item.IsKnown ↔ ∀ unknown, ¬ item.definition = .error unknown := by
  simp only [IsKnown, definition_eq_error_iff, not_and, ← Option.ne_none_iff_exists']
  exact ⟨fun known _ missing => absurd missing known, fun never missing => never ⟨item⟩ missing rfl⟩

theorem Item.definition_eq_error_iff_not_isKnown {item : Item} {unknown : UnknownType} :
    item.definition = .error unknown ↔ ¬ item.IsKnown ∧ unknown = ⟨item⟩ := by
  rw [definition_eq_error_iff, IsKnown, ← Option.ne_none_iff_exists', not_not]

/-- The items are looked at one after the other. -/
theorem reports_ofItems (items : List Item) :
    Reports (fun item unknown => Item.definition item = .error unknown) (ofItems items) items := by
  have one_by_one : Reports (fun item unknown => Item.definition item = .error unknown) (ofItems items)
      (items.flatMap fun item => [item]) := by
    rw [ofItems_eq]
    exact .foldlM (fun aliases item => (reports_place fun unknown => Iff.rfl).map _) items builtin
  rwa [List.flatMap_singleton'] at one_by_one

theorem ofItems_concat (items : List Item) (item : Item) : ofItems (items ++ [item]) =
    ofItems items >>= fun aliases => item.definition.map fun entry => aliases.insert entry.1 entry.2 := by
  rw [ofItems_eq, ofItems_eq, List.foldlM_append]
  refine congrArg _ (funext fun aliases => ?_)
  rw [List.foldlM_cons]
  cases item.definition <;> rfl

theorem isProper_ofItems {items : List Item} (made : ofItems items = .ok aliases) : aliases.IsProper := by
  obtain ⟨definitions, _, rfl⟩ := ofItems_ok_iff.mp made
  exact isProper_builtin.define definitions

/-- The text stands for the type: it is the one that the last item of the text's alias names, or, if there is no such item,
the one of that name. -/
def Means (items : List Item) (name : String) (type : PropertyType) : Prop :=
  match (items.filter fun item => aliasKey item.name = aliasKey name).getLast? with
  | some item => PropertyType.ofName? item.typeName = some type
  | none => aliasKey type.name = aliasKey name

theorem means_concat_iff {items : List Item} {item : Item} : Means (items ++ [item]) name type ↔
    if aliasKey name = aliasKey item.name then PropertyType.ofName? item.typeName = some type else Means items name type := by
  unfold Means
  split_ifs with same
  · simp [List.filter_append, same]
  · simp [List.filter_append, Ne.symm same]

theorem resolve_ofItems {items : List Item} (made : ofItems items = .ok aliases) :
    aliases.resolve name = some type ↔ Means items name type := by
  induction items using List.reverseRecOn generalizing aliases with
  | nil =>
    cases made
    exact resolve_builtin_eq_some_iff
  | append_singleton items item ih =>
    rw [ofItems_concat] at made
    obtain ⟨before, made_before, inserted⟩ := Outcome.bind_ok_iff.mp made
    obtain ⟨entry, defined, rfl⟩ := Outcome.map_ok_iff.mp inserted
    obtain ⟨named, known⟩ := Item.definition_eq_ok_iff.mp defined
    rw [means_concat_iff, resolve_insert, named, known]
    split_ifs
    · exact Iff.rfl
    · exact ih made_before

/-- The list that aliases are written as makes them again. -/
theorem ofItems_toItems {items : List Item} (made : ofItems items = .ok aliases) : ofItems aliases.toItems = .ok aliases := by
  have proper := isProper_ofItems made
  have defined : List.Forall₂ (fun item entry => Item.definition item = .ok entry) aliases.toItems aliases.entries := by
    rw [toItems, List.forall₂_map_left_iff, List.forall₂_same]
    exact fun entry _ => Item.definition_eq_ok_iff.mpr ⟨rfl, entry.2.ofName?_name⟩
  refine ofItems_ok_iff.mpr ⟨aliases.entries, defined, proper.ext (isProper_builtin.define _) fun name => ?_⟩
  rw [resolve_define]
  cases last : lastOf aliases.entries name with
  | some entry =>
    obtain ⟨listed, same⟩ := aliasKey_of_lastOf last
    rw [proper.keyed entry listed] at same
    exact proper.resolve_eq_some_iff.mpr (same ▸ listed)
  | none =>
    have unknown : aliases.resolve name = none := by
      rw [Option.eq_none_iff_forall_ne_some]
      intro type found
      exact lastOf_eq_none_iff.mp last _ (proper.resolve_eq_some_iff.mp found) (aliasKey_aliasKey name)
    obtain ⟨definitions, _, rfl⟩ := ofItems_ok_iff.mp made
    rw [unknown, Option.map_none, Option.none_or]
    rw [resolve_define, Option.or_eq_none_iff] at unknown
    exact unknown.2.symm

/-- Only an item whose type is unknown is refused, and of several the first one. -/
theorem ofItems_error_iff {items : List Item} {unknown : UnknownType} : ofItems items = .error unknown ↔
    ∃ before item after, items = before ++ item :: after ∧ (∀ earlier ∈ before, earlier.IsKnown) ∧ ¬ item.IsKnown ∧
      unknown = ⟨item⟩ := by
  rw [reports_ofItems items unknown, FirstOffence]
  simp only [← Item.isKnown_iff]
  simp only [Item.definition_eq_error_iff_not_isKnown]

theorem exists_ofItems {items : List Item} (known : ∀ item ∈ items, item.IsKnown) : ∃ aliases, ofItems items = .ok aliases := by
  cases made : ofItems items with
  | ok aliases => exact ⟨aliases, rfl⟩
  | error unknown =>
    obtain ⟨before, item, after, rfl, _, not_known, _⟩ := ofItems_error_iff.mp made
    exact absurd (known item (List.mem_append_right _ List.mem_cons_self)) not_known

end TypeAliases

end Tablesmith
