import Mathlib
import Tablesmith.Proofs.Json.Printing
import Tablesmith.Settings.File

/-!
# Texts of settings

Which settings an object gives does not depend on the order of its members, nor on members that are
no settings (`HasMembers`). Settings are read again from their text (`ofText?_toText`), and so are
alias lists (`itemsOfText?_toText`).
-/

namespace Tablesmith

open Json

variable {written : List Char} {setting other : Setting} {settings start result : Settings} {seen : List Setting}
  {members others : List (List Char × Json)} {value : Json} {text : String}

theorem Json.nameText?_eq_some_iff {name : String} : nameText? written = some name ↔ Spells name.toList written := by
  rw [nameText?, Option.map_eq_some_iff]
  constructor
  · rintro ⟨chars, unescaped, rfl⟩
    rw [String.toList_ofList]
    exact unescape?_eq_some_iff.mp unescaped
  · intro spells
    exact ⟨_, unescape?_eq_some_iff.mpr spells, String.ofList_toList⟩

theorem Setting.ofName?_eq_some_iff {name : String} : ofName? name = some setting ↔ setting.name = name := by
  constructor
  · intro found
    simpa using List.find?_some found
  · rintro rfl
    cases setting <;> decide

/-- The setting whose name is written. -/
def Setting.ofWritten? (written : List Char) : Option Setting :=
  (nameText? written).bind ofName?

theorem Setting.ofWritten?_eq_some_iff : ofWritten? written = some setting ↔ Spells setting.name.toList written := by
  simp only [ofWritten?, Option.bind_eq_some_iff, nameText?_eq_some_iff, ofName?_eq_some_iff]
  constructor
  · rintro ⟨_, spells, rfl⟩
    exact spells
  · intro spells
    exact ⟨_, spells, rfl⟩

theorem Setting.mem_all (setting : Setting) : setting ∈ all := by
  cases setting <;> decide

namespace Settings

theorem get?_set (settings : Settings) (setting other : Setting) (value : Option String) :
    (settings.set setting value).get? other = if other = setting then value else settings.get? other := by
  cases setting <;> cases other <;> rfl

theorem ext_get? (same : ∀ setting, settings.get? setting = result.get? setting) : settings = result := by
  obtain ⟨_, _, _, _, _, _, _, _⟩ := settings
  obtain ⟨_, _, _, _, _, _, _, _⟩ := result
  rw [Settings.mk.injEq]
  exact ⟨same .tablePath, same .stringFileName, same .enumFileName, same .scriptOutputPath, same .tableOutputPath,
    same .stringOutputPath, same .encryptionKey, same .typeAliasPath⟩

/-- The settings that members give, in their order. -/
def given (members : List (List Char × Json)) : List Setting :=
  members.filterMap fun member => Setting.ofWritten? member.1

theorem given_cons_of_some {member : List Char × Json} (known : Setting.ofWritten? member.1 = some setting) :
    given (member :: members) = setting :: given members :=
  List.filterMap_cons_some known

theorem given_cons_of_none {member : List Char × Json} (unknown : Setting.ofWritten? member.1 = none) :
    given (member :: members) = given members :=
  List.filterMap_cons_none unknown

/-- The members are what has to be added to some settings to get others: their names are texts, none of them gives a setting
that was seen before or that another gives, and they tell how the settings differ. -/
structure HasMembers (start : Settings) (seen : List Setting) (members : List (List Char × Json)) (result : Settings) : Prop where
  named : ∀ member ∈ members, ∃ name, Spells name member.1
  distinct : (given members).Nodup
  fresh : ∀ setting ∈ seen, setting ∉ given members
  told : ∀ member ∈ members, ∀ setting, Setting.ofWritten? member.1 = some setting →
    member.2.optionalText? = some (result.get? setting)
  kept : ∀ setting, setting ∉ given members → result.get? setting = start.get? setting

theorem hasMembers_nil_iff : HasMembers start seen [] result ↔ result = start := by
  constructor
  · intro has
    exact ext_get? fun setting => has.kept setting List.not_mem_nil
  · rintro rfl
    exact ⟨List.forall_mem_nil _, List.nodup_nil, fun _ _ => List.not_mem_nil, List.forall_mem_nil _, fun _ _ => rfl⟩

theorem hasMembers_cons_of_unknown {name : List Char} (spells : Spells name written)
    (unknown : Setting.ofWritten? written = none) :
    HasMembers start seen ((written, value) :: members) result ↔ HasMembers start seen members result := by
  have same : given ((written, value) :: members) = given members := given_cons_of_none unknown
  constructor
  · intro has
    exact ⟨(List.forall_mem_cons.mp has.named).2, same ▸ has.distinct, same ▸ has.fresh, (List.forall_mem_cons.mp has.told).2,
      same ▸ has.kept⟩
  · intro has
    refine ⟨List.forall_mem_cons.mpr ⟨⟨name, spells⟩, has.named⟩, same ▸ has.distinct, same ▸ has.fresh,
      List.forall_mem_cons.mpr ⟨fun setting known => ?_, has.told⟩, same ▸ has.kept⟩
    rw [unknown] at known
    cases known

theorem hasMembers_cons_of_known {given_text : Option String} (known : Setting.ofWritten? written = some setting)
    (new : setting ∉ seen) (read : value.optionalText? = some given_text) :
    HasMembers start seen ((written, value) :: members) result ↔
      HasMembers (start.set setting given_text) (setting :: seen) members result := by
  have same : given ((written, value) :: members) = setting :: given members := given_cons_of_some known
  constructor
  · intro has
    have distinct := has.distinct
    rw [same, List.nodup_cons] at distinct
    refine ⟨(List.forall_mem_cons.mp has.named).2, distinct.2, ?_, (List.forall_mem_cons.mp has.told).2, fun other away => ?_⟩
    · intro other seen_before
      rcases List.mem_cons.mp seen_before with rfl | seen_before
      · exact distinct.1
      · have apart := has.fresh other seen_before
        rw [same] at apart
        exact fun member => apart (List.mem_cons_of_mem _ member)
    · rw [get?_set]
      split_ifs with this_one
      · subst this_one
        have told := has.told _ List.mem_cons_self _ known
        rw [read] at told
        exact (Option.some.inj told).symm
      · refine has.kept other ?_
        rw [same, List.mem_cons]
        exact not_or.mpr ⟨this_one, away⟩
  · intro has
    have apart := has.fresh setting List.mem_cons_self
    refine ⟨List.forall_mem_cons.mpr ⟨⟨_, Setting.ofWritten?_eq_some_iff.mp known⟩, has.named⟩, ?_, fun other seen_before => ?_,
      List.forall_mem_cons.mpr ⟨fun other also_known => ?_, has.told⟩, fun other away => ?_⟩
    · rw [same, List.nodup_cons]
      exact ⟨apart, has.distinct⟩
    · rw [same, List.mem_cons]
      exact not_or.mpr ⟨fun this_one => new (this_one ▸ seen_before), has.fresh other (List.mem_cons_of_mem _ seen_before)⟩
    · obtain rfl : setting = other := Option.some.inj (known.symm.trans also_known)
      rw [read, has.kept setting apart, get?_set, if_pos rfl]
    · rw [same, List.mem_cons, not_or] at away
      rw [has.kept other away.2, get?_set, if_neg away.1]

/-- What an object is read as is what its members give. -/
theorem ofMembers?_eq_some_iff : ofMembers? start seen members = some result ↔ HasMembers start seen members result := by
  induction members generalizing start seen with
  | nil => rw [hasMembers_nil_iff, ofMembers?, Option.some.injEq, eq_comm]
  | cons member members ih =>
    obtain ⟨written, value⟩ := member
    rw [ofMembers?, Option.bind_eq_bind, Option.bind_eq_some_iff]
    constructor
    · rintro ⟨name, named, read⟩
      have spells := nameText?_eq_some_iff.mp named
      split at read
      · next unknown =>
        rw [hasMembers_cons_of_unknown spells (by rw [Setting.ofWritten?, named]; exact unknown)]
        exact ih.mp read
      · next setting known =>
        have of_written : Setting.ofWritten? written = some setting := by
          rw [Setting.ofWritten?, named]
          exact known
        obtain ⟨new, read⟩ := Option.ite_none_left_eq_some.mp read
        obtain ⟨given_text, value_read, read⟩ := Option.bind_eq_some_iff.mp read
        rw [hasMembers_cons_of_known of_written (by simpa using new) value_read]
        exact ih.mp read
    · intro has
      obtain ⟨name, spells⟩ := has.named _ List.mem_cons_self
      have named : nameText? written = some (String.ofList name) := by
        rw [nameText?_eq_some_iff, String.toList_ofList]
        exact spells
      refine ⟨_, named, ?_⟩
      have of_written : Setting.ofWritten? written = Setting.ofName? (String.ofList name) := by
        rw [Setting.ofWritten?, named]
        rfl
      split
      · next unknown => exact ih.mpr ((hasMembers_cons_of_unknown spells (of_written.trans unknown)).mp has)
      · next setting known =>
        have told := has.told _ List.mem_cons_self _ (of_written.trans known)
        have new : setting ∉ seen := by
          intro seen_before
          have apart := has.fresh setting seen_before
          rw [given_cons_of_some (of_written.trans known)] at apart
          exact apart List.mem_cons_self
        rw [if_neg (by simpa using new), told]
        exact ih.mpr ((hasMembers_cons_of_known (of_written.trans known) new told).mp has)

theorem optionalText?_member (settings : Settings) (setting : Setting) :
    (settings.member setting).2.optionalText? = some (settings.get? setting) := by
  rw [member]
  cases settings.get? setting with
  | none => rfl
  | some text =>
    have read : optionalText? (ofText text) = (ofText text).text?.map some := rfl
    rw [read, text?_ofText]
    rfl

theorem given_written (settings : Settings) :
    given ((Setting.all.map settings.member).map fun member => (escape member.1.toList, member.2)) = Setting.all := by
  have of_written : ∀ setting ∈ Setting.all, Setting.ofWritten? (escape (settings.member setting).1.toList) = some setting :=
    fun _ _ => Setting.ofWritten?_eq_some_iff.mpr (spells_escape _)
  rw [given, List.map_map, List.filterMap_map]
  exact (List.filterMap_congr of_written).trans List.filterMap_some

theorem hasMembers_written (settings : Settings) : HasMembers empty []
    ((Setting.all.map settings.member).map fun member => (escape member.1.toList, member.2)) settings where
  named := by
    rintro written member
    obtain ⟨named, _, rfl⟩ := List.mem_map.mp member
    exact ⟨_, spells_escape _⟩
  distinct := by
    rw [given_written]
    decide
  fresh := List.forall_mem_nil _
  told := by
    rintro written member other known
    obtain ⟨named, listed, rfl⟩ := List.mem_map.mp member
    obtain ⟨setting, _, rfl⟩ := List.mem_map.mp listed
    obtain rfl : other = setting := by
      have this_one := Setting.ofWritten?_eq_some_iff.mpr (spells_escape setting.name.toList)
      exact Option.some.inj (known.symm.trans this_one)
    exact optionalText?_member settings other
  kept := by
    intro setting away
    rw [given_written] at away
    exact absurd setting.mem_all away

theorem isProper_written (settings : Settings) : IsProper (ofMembers (Setting.all.map settings.member)) := by
  refine isProper_ofMembers fun member listed => ?_
  obtain ⟨setting, _, rfl⟩ := List.mem_map.mp listed
  rw [Settings.member]
  cases settings.get? setting with
  | none => exact .null
  | some text => exact isProper_ofText text

/-- Settings are what their text is read as. -/
theorem ofText?_toText (settings : Settings) : ofText? settings.toText = some settings := by
  rw [ofText?, toText, read?_write (isProper_written settings)]
  exact ofMembers?_eq_some_iff.mpr (hasMembers_written settings)

theorem ofText?_of_isText (is_text : IsText text (.object members)) :
    ofText? text = some settings ↔ HasMembers empty [] members settings := by
  rw [ofText?, read?_eq_some_iff.mpr is_text]
  exact ofMembers?_eq_some_iff

/-- The name of a member says no setting's name. -/
def IsForeign (member : List Char × Json) : Prop :=
  ∀ setting : Setting, ¬ Spells setting.name.toList member.1

theorem IsForeign.ofWritten? {member : List Char × Json} (foreign : IsForeign member) : Setting.ofWritten? member.1 = none :=
  Option.eq_none_iff_forall_ne_some.mpr fun setting known => foreign setting (Setting.ofWritten?_eq_some_iff.mp known)

/-- Other members are in another order, and foreign members are among them. -/
theorem given_perm {extra : List (List Char × Json)} (rearranged : others.Perm (members ++ extra))
    (foreign : ∀ member ∈ extra, IsForeign member) : (given others).Perm (given members) := by
  have no_extra : given extra = [] :=
    List.filterMap_eq_nil_iff.mpr fun member listed => (foreign member listed).ofWritten?
  have same : given (members ++ extra) = given members := by
    rw [given, List.filterMap_append]
    exact (congrArg (given members ++ ·) no_extra).trans (List.append_nil _)
  rw [← same]
  exact rearranged.filterMap _

/-- An object with foreign members gives the same settings, in whatever order its members are, if there is a text that the
foreign names say; without such a text it gives none. -/
theorem hasMembers_rearranged {extra : List (List Char × Json)} (has : HasMembers start seen members settings)
    (rearranged : others.Perm (members ++ extra)) (foreign : ∀ member ∈ extra, IsForeign member) :
    HasMembers start seen others settings ↔ ∀ member ∈ extra, ∃ name, Spells name member.1 := by
  have same_given := given_perm rearranged foreign
  constructor
  · intro has_others member listed
    exact has_others.named member (rearranged.mem_iff.mpr (List.mem_append_right _ listed))
  · intro named
    refine ⟨fun member listed => ?_, same_given.nodup_iff.mpr has.distinct, fun setting seen_before => ?_,
      fun member listed setting known => ?_, fun setting away => ?_⟩
    · rcases List.mem_append.mp (rearranged.mem_iff.mp listed) with listed | listed
      · exact has.named member listed
      · exact named member listed
    · rw [same_given.mem_iff]
      exact has.fresh setting seen_before
    · rcases List.mem_append.mp (rearranged.mem_iff.mp listed) with listed | listed
      · exact has.told member listed setting known
      · rw [(foreign member listed).ofWritten?] at known
        cases known
    · rw [same_given.mem_iff] at away
      exact has.kept setting away

end Settings

namespace TypeAliases

theorem isProper_itemJson (item : Item) : Json.IsProper (itemJson item) := by
  refine isProper_ofMembers fun member listed => ?_
  rcases List.mem_pair.mp listed with rfl | rfl
  · exact isProper_ofText item.name
  · exact isProper_ofText item.typeName

/-- An item is what its object is read as. -/
theorem itemOfJson?_itemJson (item : Item) : itemOfJson? (itemJson item) = some item := by
  have alias_named : nameText? (escape aliasMember.toList) = some aliasMember := nameText?_eq_some_iff.mpr (spells_escape _)
  have type_named : nameText? (escape typeMember.toList) = some typeMember := nameText?_eq_some_iff.mpr (spells_escape _)
  have apart : typeMember ≠ aliasMember := by decide
  have fill (text : String) : fillOnce? none (ofText text) = some (some text) := by
    rw [fillOnce?, text?_ofText, Option.map_some]
  simp [itemJson, ofMembers, itemOfJson?, itemOfMembers?, alias_named, type_named, apart, fill]

/-- An alias list is what its text is read as. -/
theorem itemsOfText?_toText (aliases : TypeAliases) : itemsOfText? aliases.toText = some aliases.toItems := by
  have proper : Json.IsProper (.array (aliases.toItems.map itemJson)) := by
    refine .array fun element listed => ?_
    obtain ⟨item, _, rfl⟩ := List.mem_map.mp listed
    exact isProper_itemJson item
  have items_read (items : List Item) : (items.map itemJson).mapM itemOfJson? = some items := by
    induction items with
    | nil => rfl
    | cons item items ih =>
      rw [List.map_cons, List.mapM_cons, itemOfJson?_itemJson, ih]
      rfl
  rw [itemsOfText?, toText, read?_write proper]
  exact items_read aliases.toItems

end TypeAliases

end Tablesmith
