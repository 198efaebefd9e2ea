import Mathlib
import Tablesmith.Proofs.Biff.CellRecords
import Tablesmith.Proofs.Grid.Resolution
import Tablesmith.Proofs.Ooxml.Worksheet
import Tablesmith.Workbook.Format

/-!
# The kinds of the cells that are read

No reader of a workbook stores a cell without a kind. A package stores a cell only when
its kind is known. A book stores numbers by their style: every kind that it has for a
style comes from a number format, and no format makes a number empty. Neither reader
gives a workbook without sheets (`WorkbookFormat.read_isTyped`).
-/

namespace Tablesmith

open Grid Outcome

variable {sheet : Sheet} {cell : Cell}

/-- No cell of the sheet is of the kind of cells that are not there. -/
def Grid.Sheet.IsTyped (sheet : Sheet) : Prop :=
  ∀ cell ∈ sheet.cells.toList, cell.kind ≠ .empty

theorem Grid.Sheet.isTyped_empty (file name : String) : (Sheet.empty file name).IsTyped :=
  List.forall_mem_nil _

theorem Grid.Sheet.IsTyped.push (typed : sheet.IsTyped) (kind : cell.kind ≠ .empty) : (sheet.push cell).IsTyped := by
  intro other member
  rcases OrderedBy.mem_toList_insert.mp member with rfl | ⟨stored, _⟩
  · exact kind
  · exact typed other stored

theorem Grid.Sheet.IsTyped.pushAll {cells : List Cell} (typed : sheet.IsTyped) (kinds : ∀ cell ∈ cells, cell.kind ≠ .empty) :
    (cells.foldl Sheet.push sheet).IsTyped := by
  induction cells generalizing sheet with
  | nil => exact typed
  | cons cell cells ih =>
    obtain ⟨kind, kinds⟩ := List.forall_mem_cons.mp kinds
    exact ih (typed.push kind) kinds

/-- Sheets that are read one by one. -/
theorem isTyped_of_mapM {ε α : Type} {reader : α → Except ε Sheet} {items : List α} {sheets : List Sheet}
    (typed : ∀ item sheet, reader item = .ok sheet → sheet.IsTyped) (filled : items ≠ [])
    (read : items.mapM reader = .ok sheets) : sheets ≠ [] ∧ ∀ sheet ∈ sheets, sheet.IsTyped := by
  have each := mapM_ok_iff.mp read
  constructor
  · rintro rfl
    exact filled (List.forall₂_nil_right_iff.mp each)
  · intro sheet member
    obtain ⟨item, _, sheet_read⟩ := exists_mem_of_forall₂ each member
    exact typed item sheet sheet_read

namespace Ooxml

open Xml Zip

theorem readPart_ok {σ : Type} {step : σ → Event → Except XmlFault σ} {start last : σ} {document : Document}
    (read : readPart step start document = .ok last) : document.events.foldlM step start = .ok last := by
  obtain ⟨result, done, given⟩ := bind_ok_iff.mp (mapError_ok_iff.mp read)
  split at given
  · cases given
    exact done
  · cases given

theorem isTyped_readWorksheet {package : Archive} {file : String} {kinds : Array CellKind} {tab : Tab}
    (read : readWorksheet package file kinds tab = .ok sheet) : sheet.IsTyped := by
  obtain ⟨document, _, read⟩ := bind_ok_iff.mp read
  obtain ⟨last, part_read, given⟩ := bind_ok_iff.mp read
  cases given
  refine foldlM_keeps (fun worksheet : Worksheet => worksheet.sheet.IsTyped) ?_ (Sheet.isTyped_empty file tab.name)
    (readPart_ok part_read)
  intro event _ worksheet next typed stepped
  -- Only the end of a cell stores one, and only if the cell has a kind.
  rw [Worksheet.sheet_step stepped]
  refine typed.pushAll fun cell member => ?_
  have stored := Option.mem_toList.mp member
  unfold Worksheet.storedBy? at stored
  split at stored
  · next stores =>
    cases stored
    exact stores.2.2.1
  · cases stored

theorem readPackage_isTyped {file : String} {bytes : List UInt8} {sheets : List Sheet} {shared : List String}
    (read : readPackage file bytes = .ok (sheets, shared)) : sheets ≠ [] ∧ ∀ sheet ∈ sheets, sheet.IsTyped := by
  unfold readPackage at read
  dsimp only at read
  split_ifs at read
  · cases read
  obtain ⟨package, _, read⟩ := bind_ok_iff.mp read
  obtain ⟨tabs, _, read⟩ := bind_ok_iff.mp read
  split_ifs at read with no_tab
  · cases read
  obtain ⟨kinds, _, read⟩ := bind_ok_iff.mp read
  obtain ⟨_, _, read⟩ := bind_ok_iff.mp read
  obtain ⟨_, all_read, given⟩ := bind_ok_iff.mp read
  cases given
  have filled : tabs.tabs.reverse ≠ [] := fun empty => no_tab (List.isEmpty_iff.mpr (List.reverse_eq_nil_iff.mp empty))
  exact isTyped_of_mapM (fun _ _ => isTyped_readWorksheet) filled all_read

end Ooxml

theorem Grid.CellKind.ofFormatCode_ne_empty (code : String) (system : DateSystem) :
    CellKind.ofFormatCode code system ≠ .empty := by
  rw [CellKind.ofFormatCode, FormatScan.kind]
  split <;> exact nofun

theorem Grid.CellKind.ofBuiltinFormat?_ne_empty (id : String) (system : DateSystem) :
    CellKind.ofBuiltinFormat? id system ≠ some .empty := by
  unfold CellKind.ofBuiltinFormat?
  split_ifs <;> exact nofun

theorem Grid.CellKind.ofStyles_ne_empty {codes : List (String × CellKind)} (given : ∀ entry ∈ codes, entry.2 ≠ .empty)
    (styles : List String) (system : DateSystem) : ∀ kind ∈ CellKind.ofStyles styles codes system, kind ≠ .empty := by
  intro kind member
  obtain ⟨id, _, rfl⟩ := List.mem_map.mp member
  split
  · next kind found =>
    obtain ⟨before, after, split, _⟩ := List.lookup_eq_some_iff.mp found
    have listed : (id, kind) ∈ codes.reverse := by simp [split]
    exact given _ (List.mem_reverse.mp listed)
  · cases built_in : CellKind.ofBuiltinFormat? id system with
    | none => exact nofun
    | some kind =>
      rintro rfl
      exact CellKind.ofBuiltinFormat?_ne_empty id system built_in

theorem Grid.CellKind.ofStyle_ne_empty {kinds : Array CellKind} (given : ∀ kind ∈ kinds, kind ≠ .empty) (index : Nat) :
    CellKind.ofStyle kinds index ≠ .empty := by
  rw [CellKind.ofStyle]
  cases found : kinds[index]? with
  | none => exact nofun
  | some kind => exact given kind (Array.mem_of_getElem? found)

namespace Biff

/-- The style of a number does not make a cell empty. -/
def Context.IsTyped (context : Context) : Prop :=
  ∀ kind ∈ context.kinds, kind ≠ .empty

variable {context : Context} {content : Content}

theorem Context.IsTyped.number (typed : context.IsTyped) (style : Nat) (value : String) :
    (context.number style value).kind ≠ .empty :=
  CellKind.ofStyle_ne_empty typed style

theorem kind_flagContent (isError : Bool) (value : Nat) : (flagContent isError value).kind ≠ .empty := by
  unfold flagContent
  split <;> exact nofun

theorem gives_readFlag : Gives (fun content => content.kind ≠ .empty) readFlag :=
  gives_bind fun _ => gives_bind fun _ => gives_bind fun _ => gives_pure (kind_flagContent _ _)

theorem gives_readNumberContent (typed : context.IsTyped) :
    Gives (fun content => content.kind ≠ .empty) (readNumberContent context) :=
  gives_bind fun _ => gives_bind fun _ => gives_pure (typed.number _ _)

theorem gives_readPackedContent (typed : context.IsTyped) :
    Gives (fun content => content.kind ≠ .empty) (readPackedContent context) :=
  gives_bind fun _ => gives_bind fun _ => gives_pure (typed.number _ _)

theorem gives_readSharedIndex : Gives (fun content => content.kind ≠ .empty) readSharedIndex :=
  gives_bind fun _ => gives_bind fun _ => gives_pure nofun

theorem gives_readLabel : Gives (fun content => content.kind ≠ .empty) (readLabel context) :=
  gives_bind fun _ => gives_bind fun _ => gives_pure nofun

theorem kind_formulaResult (typed : context.IsTyped) {style bits : Nat}
    (found : formulaResult context style bits = .content content) : content.kind ≠ .empty := by
  unfold formulaResult at found
  split at found
  · cases found
    exact typed.number _ _
  · dsimp only at found
    split at found
    · cases found
    · cases found
      exact nofun
    · cases found
      exact kind_flagContent _ _
    · cases found
      exact nofun
    · cases found

theorem kind_formulaContent (typed : context.IsTyped) {style bits : Nat} {next? : Option Record} {taken : Bool}
    (found : formulaContent context style bits next? = .ok (content, taken)) : content.kind ≠ .empty := by
  unfold formulaContent at found
  split at found
  · next result =>
    cases found
    exact kind_formulaResult typed result
  · cases found
  · split at found
    · split at found
      · obtain ⟨text, _, given⟩ := bind_ok_iff.mp found
        cases given
        exact nofun
      · cases found
    · cases found

/-- A cell record that says what is in its cell says a kind. -/
theorem gives_readCellRecord (typed : context.IsTyped) (kind : CellRecord) :
    Gives (fun found => ∀ content, found.2 = .inl content → content.kind ≠ .empty) (readCellRecord context kind) := by
  refine gives_bind fun position => ?_
  have answers {reading : Reading Content} (gives : Gives (fun content => content.kind ≠ .empty) reading) :
      Gives (fun found : (Nat × Nat) × (Content ⊕ Nat × Nat) => ∀ content, found.2 = .inl content → content.kind ≠ .empty)
        (do return (position, .inl (← reading))) := by
    refine gives.bind fun content kind => gives_pure ?_
    rintro _ ⟨⟩
    exact kind
  cases kind with
  | flag => exact answers gives_readFlag
  | number => exact answers (gives_readNumberContent typed)
  | packed => exact answers (gives_readPackedContent typed)
  | shared => exact answers gives_readSharedIndex
  | label => exact answers gives_readLabel
  | formula => exact gives_bind fun _ => gives_pure nofun

theorem isTyped_store (typed : sheet.IsTyped) (kind : content.kind ≠ .empty) (position : Nat × Nat) :
    (store sheet position content).IsTyped := by
  unfold store
  split
  · exact typed
  · exact typed.push kind

theorem isTyped_storeCell (kinds : context.IsTyped) (typed : sheet.IsTyped) {kind : CellRecord} {record : Record}
    {next? : Option Record} {stored : Sheet} {taken : Bool}
    (done : storeCell context sheet kind record next? = .ok (stored, taken)) : stored.IsTyped := by
  obtain ⟨⟨position, found⟩, read, done⟩ := bind_ok_iff.mp done
  have given := (gives_readCellRecord kinds kind).read read
  cases found with
  | inl content =>
    cases done
    exact isTyped_store typed (given content rfl) position
  | inr formula =>
    obtain ⟨⟨content, _⟩, result, done⟩ := bind_ok_iff.mp done
    cases done
    exact isTyped_store typed (kind_formulaContent kinds result) position

theorem gives_readRow (typed : context.IsTyped) (row column count : Nat) :
    Gives (fun cells => ∀ cell ∈ cells, cell.kind ≠ .empty) (readRow context row column count) := by
  induction count generalizing column with
  | zero => exact gives_pure (List.forall_mem_nil _)
  | succ count ih =>
    refine (gives_readPackedContent typed).bind fun content kind => ?_
    exact (ih (column + 1)).bind fun rest kinds => gives_pure (List.forall_mem_cons.mpr ⟨kind, kinds⟩)

theorem kind_rowCells (typed : context.IsTyped) {record : Record} {cells : List Cell}
    (read : rowCells context record = .ok cells) : ∀ cell ∈ cells, cell.kind ≠ .empty := by
  obtain ⟨_, _, read⟩ := bind_ok_iff.mp read
  dsimp only at read
  split at read
  · cases read
  · exact (gives_bind fun _ => gives_readRow typed _ _ _).read read

theorem isTyped_readCells (kinds : context.IsTyped) (typed : sheet.IsTyped) {taken : Bool} {records : List Record}
    {last : Sheet} (read : readCells context sheet taken records = .ok last) : last.IsTyped := by
  -- A record may be read with the one before it, so this is by the records that are left, taken or not.
  induction records generalizing sheet taken with
  | nil =>
    cases read
    exact typed
  | cons record rest ih =>
    unfold readCells at read
    split_ifs at read
    · exact ih typed read
    · cases read
      exact typed
    · split at read
      · next cells row => exact ih (typed.pushAll (kind_rowCells kinds row)) read
      · cases read
    · split at read
      · exact ih typed read
      · split at read
        · next stored => exact ih (isTyped_storeCell kinds typed stored) read
        · cases read

theorem gives_readFormat (narrow : Text.Encoding) (system : DateSystem) :
    Gives (fun format => format.2 ≠ .empty) (readFormat narrow system) :=
  gives_bind fun _ => gives_bind fun _ => gives_pure (CellKind.ofFormatCode_ne_empty _ _)

/-- A record of the globals leaves the formats as they are or adds one. -/
theorem formats_absorb {globals next : Globals} {record : Record} (absorbed : globals.absorb record = .ok next) :
    next.formats = globals.formats ∨ ∃ format, next.formats = globals.formats ++ [format] ∧ format.2 ≠ .empty := by
  unfold Globals.absorb at absorbed
  split at absorbed
  · cases absorbed
    exact .inl rfl
  · cases absorbed
  · obtain ⟨_, _, given⟩ := bind_ok_iff.mp absorbed
    cases given
    exact .inl rfl
  · obtain ⟨_, _, given⟩ := bind_ok_iff.mp absorbed
    split at given
    · cases given
      exact .inl rfl
    · cases given
  · obtain ⟨format, read, given⟩ := bind_ok_iff.mp absorbed
    cases given
    exact .inr ⟨format, rfl, (gives_readFormat _ _).read read⟩
  · obtain ⟨_, _, given⟩ := bind_ok_iff.mp absorbed
    cases given
    exact .inl rfl
  · obtain ⟨_, _, given⟩ := bind_ok_iff.mp absorbed
    cases given
    exact .inl rfl
  · obtain ⟨_, _, given⟩ := bind_ok_iff.mp absorbed
    cases given
    exact .inl rfl

theorem kind_ofRecords {globals : Globals} {records : List Record} (read : Globals.ofRecords records = .ok globals) :
    ∀ kind ∈ globals.cellKinds, kind ≠ .empty := by
  refine CellKind.ofStyles_ne_empty ?_ _ _
  refine foldlM_keeps (fun globals => ∀ format ∈ globals.formats, format.2 ≠ .empty) ?_ (List.forall_mem_nil _) read
  intro record _ globals next given absorbed
  obtain same | ⟨format, added, kind⟩ := formats_absorb absorbed
  · rwa [same]
  · rw [added]
    exact List.forall_mem_append.mpr ⟨given, List.forall_mem_singleton.mpr kind⟩

theorem isTyped_readWorksheet {file : String} {stream : List UInt8} {place : SheetPlace} (kinds : context.IsTyped)
    (read : readWorksheet context file stream place = .ok sheet) : sheet.IsTyped :=
  isTyped_readCells kinds (Sheet.isTyped_empty file place.name) read

theorem readBook_isTyped {file : String} {bytes : List UInt8} {sheets : List Sheet} {shared : List String}
    (read : readBook file bytes = .ok (sheets, shared)) : sheets ≠ [] ∧ ∀ sheet ∈ sheets, sheet.IsTyped := by
  obtain ⟨container, _, read⟩ := bind_ok_iff.mp read
  obtain ⟨stream?, _, read⟩ := bind_ok_iff.mp read
  cases stream? with
  | none => cases read
  | some stream =>
    obtain ⟨globals, globals_read, read⟩ := bind_ok_iff.mp read
    dsimp only at read
    split_ifs at read with no_sheet
    · cases read
    obtain ⟨_, all_read, given⟩ := bind_ok_iff.mp read
    cases given
    have kinds : Context.IsTyped ⟨globals.narrow, globals.cellKinds.toArray⟩ := by
      intro kind member
      exact kind_ofRecords (mapError_ok_iff.mp globals_read) kind (List.mem_toArray.mp member)
    have filled : globals.sheets ≠ [] := fun empty => no_sheet (List.isEmpty_iff.mpr empty)
    exact isTyped_of_mapM (fun _ _ => isTyped_readWorksheet kinds) filled (mapError_ok_iff.mp all_read)

end Biff

theorem WorkbookFormat.read_isTyped {format : WorkbookFormat} {path : String} {bytes : List UInt8} {sheets : List Sheet}
    {shared : List String} (read : format.read path bytes = .ok (sheets, shared)) :
    sheets ≠ [] ∧ ∀ sheet ∈ sheets, sheet.IsTyped := by
  cases format with
  | package => exact Ooxml.readPackage_isTyped read
  | book => exact Biff.readBook_isTyped read

end Tablesmith
