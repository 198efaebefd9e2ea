import Mathlib
import Tablesmith.Proofs.Run.Ends
import Tablesmith.Proofs.Settings.File
import Tablesmith.Proofs.TypeAlias

/-!
# Loading what was saved

Settings that are saved are loaded again. A file with members that are no settings, or with its
members in another order, is loaded as the same settings, unless a name is not a text
(`Settings.load_keeps_settings`). Aliases that are saved are loaded again, too
(`TypeAliases.ofItems_persist`).
-/

namespace Tablesmith

open Files Json Running Steps
open Outcome (mapError_ok_iff)

variable {session last before after : Session} {path text : String} {settings : Settings}

/-- What was written is read. -/
theorem Files.FileTree.read_of_write {tree other : FileTree} {content : ByteArray}
    (written : tree.write path content = .ok other) :
    other.read path = .ok content := by
  obtain ⟨route, located, free, rfl⟩ := write_ok_iff.mp written
  have below : route ≠ [] := ne_root_of_not_directory free
  refine read_ok_iff.mpr ⟨route, (sameDirectories_put free).locate_ok_iff.mpr located, ?_⟩
  rw [entry?_put below, if_pos rfl]

namespace Settings

theorem load_ends_iff : Ends (load path) session settings last ↔
    ∃ text, session.tree.read path = .ok text.toUTF8 ∧ ofText? text = some settings ∧ last = session := by
  rw [load, withFile_ends_iff]
  constructor
  · intro ran
    obtain ⟨text, middle, read, parsed⟩ := bind_ok_iff.mp ran
    obtain ⟨read, rfl⟩ := readText_ends_iff.mp read
    split at parsed
    · next found known =>
      obtain ⟨rfl, rfl⟩ := pure_ok_iff.mp parsed
      exact ⟨text, read, known, rfl⟩
    · cases parsed
  · rintro ⟨text, read, known, rfl⟩
    refine bind_ok_iff.mpr ⟨text, last, readText_ends_iff.mpr ⟨read, rfl⟩, ?_⟩
    rw [known]
    rfl

theorem load_of_save (saves : Ends (settings.save path) session () last) : Ends (load path) last settings last := by
  obtain ⟨tree, written, rfl⟩ := ofFile_change_ok_iff.mp saves
  exact load_ends_iff.mpr ⟨_, FileTree.read_of_write written, ofText?_toText settings, rfl⟩

/-- At the path there is a file, which is a JSON text of an object with these members. -/
def HoldsObject (session : Session) (path : String) (members : List (List Char × Json)) : Prop :=
  ∃ text : String, session.tree.read path = .ok text.toUTF8 ∧ IsText text (.object members)

theorem HoldsObject.load_ends_iff {members : List (List Char × Json)} (holds : HoldsObject session path members) :
    Ends (load path) session settings last ↔ HasMembers empty [] members settings ∧ last = session := by
  obtain ⟨text, read, is_text⟩ := holds
  rw [Settings.load_ends_iff]
  constructor
  · rintro ⟨other, also_read, known, rfl⟩
    obtain rfl : other = text := by
      have same := Except.ok.inj (also_read.symm.trans read)
      have decoded := fromUTF8?_toUTF8 other
      rw [same, fromUTF8?_toUTF8] at decoded
      exact (Option.some.inj decoded).symm
    exact ⟨(ofText?_of_isText is_text).mp known, rfl⟩
  · rintro ⟨has, rfl⟩
    exact ⟨text, read, (ofText?_of_isText is_text).mpr has, rfl⟩

/-- Settings that are saved are loaded again, and they can be saved wherever a path leads to no directory. A file that is loaded
as settings is loaded as the same ones behind a change of the order of its members and with foreign members among them, if the
names of these are texts; otherwise it is not loaded. -/
theorem load_keeps_settings :
    (∀ (settings : Settings) (path : String) (session saved : Session),
      Ends (settings.save path) session () saved → Ends (load path) saved settings saved) ∧
    (∀ (settings : Settings) (path : String) (session : Session) (route : Route),
      session.tree.locate path = .ok route → session.tree.hasDirectory route = false →
        ∃ saved, Ends (settings.save path) session () saved) ∧
    (∀ (path : String) (before after : Session) (settings : Settings) (members others extra : List (List Char × Json)),
      HoldsObject before path members → Ends (load path) before settings before → HoldsObject after path others →
        others.Perm (members ++ extra) → (∀ member ∈ extra, IsForeign member) →
          ∀ (loaded : Settings) (last : Session), Ends (load path) after loaded last ↔
            (∀ member ∈ extra, ∃ name, Spells name member.1) ∧ loaded = settings ∧ last = after) := by
  refine ⟨fun _ _ _ _ => load_of_save, fun settings path session route located free => ⟨_, writeText_ends located free⟩, ?_⟩
  intro path before after settings members others extra held loads holds rearranged foreign loaded last
  have has := (held.load_ends_iff.mp loads).1
  have has_iff := hasMembers_rearranged has rearranged foreign
  rw [holds.load_ends_iff]
  constructor
  · rintro ⟨has_others, rfl⟩
    have named : ∀ member ∈ extra, ∃ name, Spells name member.1 := fun member listed =>
      has_others.named member (rearranged.mem_iff.mpr (List.mem_append_right _ listed))
    have same := ofMembers?_eq_some_iff.mpr has_others
    rw [ofMembers?_eq_some_iff.mpr (has_iff.mpr named)] at same
    exact ⟨named, (Option.some.inj same).symm, rfl⟩
  · rintro ⟨named, rfl, rfl⟩
    exact ⟨has_iff.mpr named, rfl⟩

/-- A session with a file of this text and nothing else. -/
def sampleSession (text : String) : Session :=
  Session.start (FileTree.empty.put ["settings.json"] (.file text.toUTF8)) fun _ => false

theorem sampleSession_read (text : String) : (sampleSession text).tree.read "/settings.json" = .ok text.toUTF8 := rfl

theorem isForeign_of_ofWritten? {member : List Char × Json} (unknown : Setting.ofWritten? member.1 = none) :
    IsForeign member := by
  intro setting spells
  rw [Setting.ofWritten?_eq_some_iff.mpr spells] at unknown
  cases unknown

/-- The directory of the tables, and no name of the localization workbook. -/
def sampleMembers : List (List Char × Json) :=
  [("table_path".toList, .string "data".toList), ("string_file_name".toList, .null)]

/-- A member that is no setting and holds half a pair of surrogates. -/
def sampleExtra : List (List Char × Json) :=
  [("notes".toList, .array [.number ['1'], .object [("x".toList, .string "\\ud800".toList)], .bool true])]

def sampleText : String :=
  "\x7b\"table_path\": \"data\", \"string_file_name\": null\x7d"

def sampleOther : String :=
  "\x7b\"notes\": [1, \x7b\"x\": \"\\ud800\"\x7d, true], \"string_file_name\":null, \"table_path\": \"data\"\x7d"

/-- The settings are loaded from both files, and saved over the first and loaded again. -/
theorem load_keeps_sample :
    Ends (load "/settings.json") (sampleSession sampleText) { empty with tablePath := some "data" } (sampleSession sampleText) ∧
    Ends (load "/settings.json") (sampleSession sampleOther) { empty with tablePath := some "data" }
      (sampleSession sampleOther) ∧
    ∃ saved,
      Ends (({ empty with tablePath := some "data" } : Settings).save "/settings.json") (sampleSession sampleText) () saved ∧
      Ends (load "/settings.json") saved { empty with tablePath := some "data" } saved := by
  have holds : HoldsObject (sampleSession sampleText) "/settings.json" sampleMembers :=
    ⟨_, sampleSession_read _, read?_eq_some_iff.mp (by cbv)⟩
  have holds_other : HoldsObject (sampleSession sampleOther) "/settings.json" (sampleExtra ++ sampleMembers.reverse) :=
    ⟨_, sampleSession_read _, read?_eq_some_iff.mp (by cbv)⟩
  have loads : Ends (load "/settings.json") (sampleSession sampleText) { empty with tablePath := some "data" }
      (sampleSession sampleText) :=
    load_ends_iff.mpr ⟨_, sampleSession_read _, by cbv, rfl⟩
  have rearranged : (sampleExtra ++ sampleMembers.reverse).Perm (sampleMembers ++ sampleExtra) :=
    List.perm_append_comm.trans (sampleMembers.reverse_perm.append_right _)
  have foreign : ∀ member ∈ sampleExtra, IsForeign member := by
    rintro member listed
    obtain rfl := List.mem_singleton.mp listed
    exact isForeign_of_ofWritten? (by cbv)
  have named : ∀ member ∈ sampleExtra, ∃ name, Spells name member.1 := by
    rintro member listed
    obtain rfl := List.mem_singleton.mp listed
    exact ⟨"notes".toList, unescape?_eq_some_iff.mp (by cbv)⟩
  have located : (sampleSession sampleText).tree.locate "/settings.json" = .ok ["settings.json"] := rfl
  have free : (sampleSession sampleText).tree.hasDirectory ["settings.json"] = false := rfl
  obtain ⟨saved, saves⟩ := load_keeps_settings.2.1 _ _ _ _ located free
  refine ⟨loads, ?_, saved, saves, load_keeps_settings.1 _ _ _ _ saves⟩
  exact (load_keeps_settings.2.2 _ _ _ _ _ _ _ holds loads holds_other rearranged foreign _ _).mpr ⟨named, rfl, rfl⟩

/-- A file with a member that is no setting, and nothing else, is not loaded if the name of the member is half a pair of
surrogates. -/
theorem load_refuses_lone_surrogate :
    HoldsObject (sampleSession "\x7b\x7d") "/settings.json" [] ∧
    Ends (load "/settings.json") (sampleSession "\x7b\x7d") empty (sampleSession "\x7b\x7d") ∧
    HoldsObject (sampleSession "\x7b\"\\ud800\": 1\x7d") "/settings.json" ([] ++ [("\\ud800".toList, .number ['1'])]) ∧
    (∀ member ∈ [("\\ud800".toList, Json.number ['1'])], IsForeign member) ∧
    ∀ settings last, ¬ Ends (load "/settings.json") (sampleSession "\x7b\"\\ud800\": 1\x7d") settings last := by
  have bare : HoldsObject (sampleSession "\x7b\x7d") "/settings.json" [] :=
    ⟨_, sampleSession_read _, read?_eq_some_iff.mp (by cbv)⟩
  have lone : HoldsObject (sampleSession "\x7b\"\\ud800\": 1\x7d") "/settings.json" [("\\ud800".toList, .number ['1'])] :=
    ⟨_, sampleSession_read _, read?_eq_some_iff.mp (by cbv)⟩
  have no_text : ∀ name, ¬ Spells name "\\ud800".toList := by
    intro name spells
    have unescaped : unescape? "\\ud800".toList = none := by cbv
    rw [unescape?_eq_some_iff.mpr spells] at unescaped
    cases unescaped
  refine ⟨bare, bare.load_ends_iff.mpr ⟨hasMembers_nil_iff.mpr rfl, rfl⟩, lone, ?_, ?_⟩
  · rintro member listed
    obtain rfl := List.mem_singleton.mp listed
    exact isForeign_of_ofWritten? (by cbv)
  · intro settings last loads
    obtain ⟨has, _⟩ := lone.load_ends_iff.mp loads
    obtain ⟨name, spells⟩ := has.named _ List.mem_cons_self
    exact no_text name spells

end Settings

namespace TypeAliases

theorem isPresent_ends {content : ByteArray} (read : session.tree.read path = .ok content) :
    Ends (liftM (Workspace.isPresent path : StateM Session Bool)) session true session := by
  obtain ⟨route, located, found⟩ := FileTree.read_ok_iff.mp read
  have present : (session.tree.find? path).isSome = true := by
    rw [FileTree.find?, located]
    exact congrArg Option.isSome found
  rw [Ends, run_liftState]
  exact congrArg (fun present => (Except.ok present, session)) present

theorem load_of_save {items : List Item} {aliases : TypeAliases} (made : ofItems items = .ok aliases)
    (saves : Ends (aliases.save path) session () last) : Ends (load path) last aliases last := by
  obtain ⟨tree, written, rfl⟩ := ofFile_change_ok_iff.mp saves
  have read := FileTree.read_of_write written
  refine bind_ok_iff.mpr ⟨true, _, isPresent_ends read, ?_⟩
  rw [if_pos rfl]
  refine bind_ok_iff.mpr ⟨_, _, readText_ends_iff.mpr ⟨read, rfl⟩, ?_⟩
  rw [itemsOfText?_toText]
  exact ofResult_ok_iff.mpr ⟨ofItems_toItems made, rfl⟩

/-- Items whose types are all known make aliases that stand for what the last item of an alias says, that are listed in order,
each once, and that are made again by the list they are written as, also when that list is saved and loaded. Of items whose
types are not all known the first such one is refused. -/
theorem ofItems_persist (items : List Item) :
    ((∀ item ∈ items, item.IsKnown) → ∃ aliases, ofItems items = .ok aliases ∧
      (∀ name type, aliases.resolve name = some type ↔ Means items name type) ∧
      (aliases.entries.map Prod.fst).Pairwise (· < ·) ∧
      (∀ name type, (name, type) ∈ aliases.entries ↔ aliasKey name = name ∧ aliases.resolve name = some type) ∧
      ofItems aliases.toItems = .ok aliases ∧
      (∀ path session saved, Ends (aliases.save path) session () saved → Ends (load path) saved aliases saved) ∧
      ∀ path session route, session.tree.locate path = .ok route → session.tree.hasDirectory route = false →
        ∃ saved, Ends (aliases.save path) session () saved) ∧
    ∀ unknown, ofItems items = .error unknown ↔ ∃ before item after, items = before ++ item :: after ∧
      (∀ earlier ∈ before, earlier.IsKnown) ∧ ¬ item.IsKnown ∧ unknown = ⟨item⟩ := by
  refine ⟨fun known => ?_, fun unknown => ofItems_error_iff⟩
  obtain ⟨aliases, made⟩ := exists_ofItems known
  have proper := isProper_ofItems made
  refine ⟨aliases, made, fun name type => resolve_ofItems made, proper.sorted, fun name type => ?_, ofItems_toItems made,
    fun path session saved saves => load_of_save made saves,
    fun path session route located free => ⟨_, writeText_ends located free⟩⟩
  rw [proper.resolve_eq_some_iff]
  constructor
  · intro listed
    have keyed := proper.keyed (name, type) listed
    exact ⟨keyed, keyed.symm ▸ listed⟩
  · rintro ⟨keyed, listed⟩
    exact keyed ▸ listed

/-- An alias that is defined twice, one that ends in a sigma, and one that is the name of a type. -/
def sampleItems : List Item :=
  [⟨"Text", "string"⟩, ⟨" ΟΔΟΣ ", " INT "⟩, ⟨"BOOL", "long"⟩, ⟨"text ", "double"⟩]

theorem ofItems_persist_sample :
    (∃ aliases, ofItems sampleItems = .ok aliases ∧ aliases.resolve " TEXT" = some .double ∧ aliases.resolve "οδος" = some .int ∧
      aliases.resolve "bool" = some .long ∧ aliases.resolve "DateTime" = some .dateTime ∧ ofItems aliases.toItems = .ok aliases ∧
      ∃ saved, Ends (aliases.save "/aliases.json") (Settings.sampleSession "") () saved ∧
        Ends (load "/aliases.json") saved aliases saved) ∧
    ofItems (sampleItems ++ [⟨"colour", "rgb"⟩, ⟨"shape", "mesh"⟩]) = .error ⟨⟨"colour", "rgb"⟩⟩ := by
  have known : ∀ item ∈ sampleItems, item.IsKnown := by
    have types : ∀ item ∈ sampleItems, PropertyType.ofName? item.typeName ≠ none := by decide +kernel
    exact fun item listed => Option.ne_none_iff_exists'.mp (types item listed)
  have unknown : ¬ Item.IsKnown ⟨"colour", "rgb"⟩ := by
    have no_type : PropertyType.ofName? "rgb" = none := by decide +kernel
    rintro ⟨type, found⟩
    rw [no_type] at found
    cases found
  obtain ⟨aliases, made, resolves, _, _, again, loads, saves⟩ := (ofItems_persist sampleItems).1 known
  have located : (Settings.sampleSession "").tree.locate "/aliases.json" = .ok ["aliases.json"] := rfl
  obtain ⟨saved, saved_ends⟩ := saves _ _ _ located rfl
  have last (name : String) (item : Item) (type : PropertyType)
      (found : (sampleItems.filter fun item => aliasKey item.name = aliasKey name).getLast? = some item)
      (meant : PropertyType.ofName? item.typeName = some type) : aliases.resolve name = some type := by
    refine (resolves name type).mpr ?_
    rw [Means, found]
    exact meant
  have unlisted : (sampleItems.filter fun item => aliasKey item.name = aliasKey "DateTime").getLast? = none := by decide +kernel
  refine ⟨⟨aliases, made, last " TEXT" ⟨"text ", "double"⟩ .double (by decide +kernel) (by decide +kernel),
    last "οδος" ⟨" ΟΔΟΣ ", " INT "⟩ .int (by decide +kernel) (by decide +kernel),
    last "bool" ⟨"BOOL", "long"⟩ .long (by decide +kernel) (by decide +kernel), (resolves _ _).mpr ?_, again, saved, saved_ends,
    loads _ _ _ saved_ends⟩, ?_⟩
  · rw [Means, unlisted]
    rfl
  · exact ((ofItems_persist _).2 _).mpr ⟨sampleItems, _, _, rfl, known, unknown, rfl⟩

end TypeAliases

end Tablesmith
