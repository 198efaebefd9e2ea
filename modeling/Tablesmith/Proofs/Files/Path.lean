import Mathlib
import Tablesmith.Files.Path

/-!
# Names in paths

A name without a slash is one piece of any path that it ends. So the path of an
entry of a directory has the pieces of the directory and then the name, whichever
way the path of the directory is written (`pieces_join`), and it tells the name.
-/

namespace Tablesmith.Path

theorem splitSlashes_ne_nil (path : List Char) : splitSlashes path ≠ [] := by
  cases path with
  | nil => simp [splitSlashes]
  | cons c rest =>
    rw [splitSlashes]
    split
    · simp
    · split <;> simp

theorem pieces_ne_nil (path : String) : pieces path ≠ [] := by
  simp [pieces, splitSlashes_ne_nil]

theorem splitSlashes_append_slash (path rest : List Char) :
    splitSlashes (path ++ '/' :: rest) = splitSlashes path ++ splitSlashes rest := by
  induction path with
  | nil => simp [splitSlashes]
  | cons c path ih =>
    rw [List.cons_append, splitSlashes, splitSlashes, ih]
    by_cases slash : c = '/'
    · simp [slash]
    · rw [if_neg slash, if_neg slash]
      cases split : splitSlashes path with
      | nil => exact absurd split (splitSlashes_ne_nil path)
      | cons piece pieces => rfl

theorem splitSlashes_of_no_slash {name : List Char} (whole : '/' ∉ name) : splitSlashes name = [name] := by
  induction name with
  | nil => rfl
  | cons c name ih =>
    obtain ⟨not_slash, rest_whole⟩ := not_or.mp (mt List.mem_cons.mpr whole)
    rw [splitSlashes, if_neg (Ne.symm not_slash), ih rest_whole]

theorem no_slash_of_mem_splitSlashes {path piece : List Char} (member : piece ∈ splitSlashes path) : '/' ∉ piece := by
  induction path generalizing piece with
  | nil =>
    rw [splitSlashes, List.mem_singleton] at member
    simp [member]
  | cons c path ih =>
    rw [splitSlashes] at member
    split at member
    · rcases List.mem_cons.mp member with rfl | later
      · simp
      · exact ih later
    · next not_slash =>
      split at member
      · rw [List.mem_singleton] at member
        simp [member, Ne.symm not_slash]
      · next first rest split =>
        rcases List.mem_cons.mp member with rfl | later
        · have first_whole := ih (split ▸ List.mem_cons_self)
          simp [first_whole, Ne.symm not_slash]
        · exact ih (split ▸ List.mem_cons_of_mem first later)

theorem pieces_append_slash (path rest : String) : pieces (path ++ "/" ++ rest) = pieces path ++ pieces rest := by
  rw [pieces, pieces, pieces, ← List.map_append, ← splitSlashes_append_slash]
  simp

theorem no_slash_of_mem_pieces {path piece : String} (member : piece ∈ pieces path) : '/' ∉ piece.toList := by
  obtain ⟨chars, inside, rfl⟩ := List.mem_map.mp member
  rw [String.toList_ofList]
  exact no_slash_of_mem_splitSlashes inside

theorem pieces_of_no_slash {name : String} (whole : '/' ∉ name.toList) : pieces name = [name] := by
  rw [pieces, splitSlashes_of_no_slash whole, List.map_singleton, String.ofList_toList]

/-- An ending without a slash only lengthens the last piece. -/
theorem pieces_append_of_no_slash (path : String) {ending : String} (whole : '/' ∉ ending.toList) :
    ∃ parts last, '/' ∉ last.toList ∧ pieces (path ++ ending) = parts ++ [last ++ ending] := by
  have split (chars : List Char) : ∃ parts last, splitSlashes chars = parts ++ [last] ∧
      splitSlashes (chars ++ ending.toList) = parts ++ [last ++ ending.toList] := by
    induction chars with
    | nil => exact ⟨[], [], rfl, splitSlashes_of_no_slash whole⟩
    | cons c chars ih =>
      obtain ⟨parts, last, before, after⟩ := ih
      rw [List.cons_append, splitSlashes, splitSlashes, before, after]
      by_cases slash : c = '/'
      · exact ⟨[] :: parts, last, by simp [slash], by simp [slash]⟩
      · cases parts with
        | nil => exact ⟨[], c :: last, by simp [slash], by simp [slash]⟩
        | cons part parts => exact ⟨(c :: part) :: parts, last, by simp [slash], by simp [slash]⟩
  obtain ⟨parts, last, before, after⟩ := split path.toList
  have last_whole : '/' ∉ last := no_slash_of_mem_splitSlashes (before ▸ List.mem_append_right parts List.mem_cons_self)
  refine ⟨parts.map String.ofList, String.ofList last, by simpa using last_whole, ?_⟩
  rw [pieces, String.toList_append, after]
  simp

theorem isAbsolute_of_no_slash {name : String} (whole : '/' ∉ name.toList) : isAbsolute name = false := by
  rw [isAbsolute]
  cases chars : name.toList with
  | nil => rfl
  | cons c rest =>
    have not_slash : c ≠ '/' := by
      rintro rfl
      exact whole (by simp [chars])
    simp [not_slash]

/-- Other characters than slashes are kept in the pieces. -/
theorem mem_splitSlashes_iff {path : List Char} {c : Char} (not_slash : c ≠ '/') :
    (∃ piece ∈ splitSlashes path, c ∈ piece) ↔ c ∈ path := by
  induction path with
  | nil => simp [splitSlashes]
  | cons first path ih =>
    rw [splitSlashes, List.mem_cons, ← ih]
    by_cases slash : first = '/'
    · have other : c ≠ first := slash ▸ not_slash
      simp [slash, not_slash]
    · rw [if_neg slash]
      cases split : splitSlashes path with
      | nil => exact absurd split (splitSlashes_ne_nil path)
      | cons piece pieces => simp [or_assoc]

theorem forall_pieces_not_mem_iff {path : String} {c : Char} (not_slash : c ≠ '/') :
    (∀ piece ∈ pieces path, c ∉ piece.toList) ↔ c ∉ path.toList := by
  rw [← mem_splitSlashes_iff not_slash]
  simp [pieces]

/-- The first piece of a path from the top is empty. -/
theorem isAbsolute_iff {path : String} (filled : path ≠ "") :
    isAbsolute path = true ↔ ∃ rest, pieces path = "" :: rest := by
  rw [isAbsolute, pieces]
  cases chars : path.toList with
  | nil => exact absurd (String.toList_inj.mp (chars.trans String.toList_empty.symm)) filled
  | cons first rest =>
    rw [splitSlashes]
    by_cases slash : first = '/'
    · simp [slash]
    · rw [if_neg slash]
      cases split : splitSlashes rest with
      | nil => exact absurd split (splitSlashes_ne_nil rest)
      | cons piece pieces => simp [slash]

/-- A name that an entry of a directory can have. -/
structure IsName (name : String) : Prop where
  whole : '/' ∉ name.toList
  filled : name ≠ ""
  here : name ≠ "."
  up : name ≠ ".."

instance (name : String) : Decidable (IsName name) :=
  decidable_of_iff ('/' ∉ name.toList ∧ name ≠ "" ∧ name ≠ "." ∧ name ≠ "..")
    ⟨fun ⟨whole, filled, here, up⟩ => ⟨whole, filled, here, up⟩,
      fun proper => ⟨proper.whole, proper.filled, proper.here, proper.up⟩⟩

theorem IsName.pieces {name : String} (proper : IsName name) : pieces name = [name] :=
  pieces_of_no_slash proper.whole

theorem IsName.isAbsolute {name : String} (proper : IsName name) : isAbsolute name = false :=
  isAbsolute_of_no_slash proper.whole

theorem isAbsolute_append {directory : String} (filled : directory ≠ "") (rest : String) :
    Path.isAbsolute (directory ++ rest) = Path.isAbsolute directory := by
  have chars : directory.toList ≠ [] := by simpa using filled
  rw [Path.isAbsolute, Path.isAbsolute, String.toList_append, List.head?_append_of_ne_nil _ chars]

/-- The path of an entry is that of its directory, a slash if there is none yet, and the name. -/
theorem join_eq {directory name : String} (whole : '/' ∉ name.toList) : join directory name =
    if directory = "" then name
    else if directory.toList.getLast? = some '/' then directory ++ name else directory ++ "/" ++ name := by
  simp [join, isAbsolute_of_no_slash whole]

/-- The pieces of the path of an entry are those of the directory, but for an empty one behind its last slash, and the
name. -/
theorem pieces_join_parts (directory : String) {name : String} (whole : '/' ∉ name.toList) :
    ∃ parts, pieces (join directory name) = parts ++ [name] ∧
      (pieces directory = parts ∨ pieces directory = parts ++ [""]) := by
  have alone := pieces_of_no_slash whole
  have no_piece : pieces "" = [""] := by decide
  rw [join_eq whole]
  split
  · next empty =>
    subst empty
    exact ⟨[], alone, .inr no_piece⟩
  · split
    · next slash =>
      obtain ⟨chars, chars_are⟩ := List.getLast?_eq_some_iff.mp slash
      obtain ⟨shorter, rfl⟩ : ∃ shorter, directory = shorter ++ "/" :=
        ⟨String.ofList chars, String.toList_inj.mp (by simp [chars_are])⟩
      refine ⟨pieces shorter, by rw [pieces_append_slash, alone], .inr ?_⟩
      rw [← no_piece, ← pieces_append_slash, String.append_empty]
    · exact ⟨pieces directory, by rw [pieces_append_slash, alone], .inl rfl⟩

/-- The path of an entry ends in its name. -/
theorem pieces_join (directory : String) {name : String} (whole : '/' ∉ name.toList) :
    ∃ parts, pieces (join directory name) = parts ++ [name] :=
  (pieces_join_parts directory whole).imp fun _ => And.left

theorem suffix_join (directory name : String) : name.toList <:+ (join directory name).toList := by
  unfold join
  split
  · exact List.suffix_rfl
  · split
    · exact ⟨directory.toList, by simp⟩
    · exact ⟨directory.toList ++ ['/'], by simp⟩

theorem join_injective {directory name other : String} (proper : IsName name) (other_proper : IsName other)
    (same : join directory name = join directory other) : name = other := by
  rw [join_eq proper.whole, join_eq other_proper.whole] at same
  have lists := congrArg String.toList same
  split at lists
  · exact String.toList_inj.mp lists
  · split at lists
    · exact String.toList_inj.mp (by simpa using lists)
    · exact String.toList_inj.mp (by simpa using lists)

theorem listed_injective {base name other : String} (proper : IsName name) (other_proper : IsName other)
    (same : listed base [name] = listed base [other]) : name = other := by
  simp only [listed, String.intercalate_singleton, List.foldl_cons, List.foldl_nil] at same
  split at same
  · exact same
  · exact join_injective proper other_proper same

/-- The path of a listed file ends in its name. -/
theorem pieces_listed (base : String) (route : List String) {name : String} (whole : '/' ∉ name.toList) :
    ∃ parts, pieces (listed base (route ++ [name])) = parts ++ [name] := by
  rw [listed]
  split
  · induction route with
    | nil => exact ⟨[], by simp [pieces_of_no_slash whole]⟩
    | cons first route ih =>
      obtain ⟨parts, rest_pieces⟩ := ih
      rw [List.cons_append, String.intercalate_cons_of_ne_nil (by simp), pieces_append_slash, rest_pieces]
      exact ⟨pieces first ++ parts, by simp⟩
  · rw [List.foldl_append]
    exact pieces_join _ whole

theorem IsName.fileName? {name : String} (proper : IsName name) : fileName? name = some name := by
  simp [Path.fileName?, proper.pieces, proper.filled, proper.here, proper.up]

/-- The stem of a path is that of the name in which it ends. -/
theorem stem_of_pieces {path name : String} {parts : List String} (proper : IsName name) (ends : pieces path = parts ++ [name]) :
    stem path = stem name := by
  have named : Path.fileName? path = some name := by
    simp [Path.fileName?, ends, proper.filled, proper.here, proper.up]
  rw [stem, stem, named, proper.fileName?]

/-- A name is split at a dot behind which there is no other. -/
theorem splitName_append_dot {stem ending : List Char} (filled : stem ≠ []) (last : '.' ∉ ending) :
    splitName (stem ++ '.' :: ending) = (stem, some ending) := by
  have no_dot : ∀ c ∈ ending.reverse, decide (c ≠ '.') = true := by
    intro c member
    have other : c ≠ '.' := by
      rintro rfl
      exact last (List.mem_reverse.mp member)
    simpa using other
  have reversed : (stem ++ '.' :: ending).reverse = ending.reverse ++ '.' :: stem.reverse := by simp
  rw [splitName, reversed, List.takeWhile_append_of_pos no_dot, List.dropWhile_append_of_pos no_dot]
  simp [filled]

theorem splitName_eq_some_iff {chars stem ending : List Char} :
    splitName chars = (stem, some ending) ↔ stem ≠ [] ∧ '.' ∉ ending ∧ chars = stem ++ '.' :: ending := by
  constructor
  · intro split
    unfold splitName at split
    dsimp only at split
    split_ifs at split with bare
    · cases split
    · obtain ⟨rfl, same⟩ := Prod.mk.inj split
      cases same
      have parts : chars.reverse = chars.reverse.takeWhile (· ≠ '.') ++ chars.reverse.dropWhile (· ≠ '.') :=
        (List.takeWhile_append_dropWhile).symm
      refine ⟨bare, ?_, ?_⟩
      · intro dot
        have other := List.mem_takeWhile_imp (List.mem_reverse.mp dot)
        exact of_decide_eq_true other rfl
      · cases rest : chars.reverse.dropWhile (· ≠ '.') with
        | nil => exact absurd (by rw [rest]; rfl) bare
        | cons dot before =>
          have is_dot : dot = '.' := by
            have first := List.head?_dropWhile_not (· ≠ '.') chars.reverse
            rw [rest] at first
            simpa using first
          rw [rest, is_dot] at parts
          conv_lhs => rw [← List.reverse_reverse chars, parts]
          simp
  · rintro ⟨filled, last, rfl⟩
    exact splitName_append_dot filled last

/-- The extension of a name is what stands behind its last dot, if something stands before that. -/
theorem extension?_eq_some_iff {name ending : String} (proper : IsName name) : extension? name = some ending ↔
    ∃ stem, stem ≠ "" ∧ '.' ∉ ending.toList ∧ name = stem ++ "." ++ ending := by
  rw [extension?, proper.fileName?, Option.bind_some, Option.map_eq_some_iff]
  constructor
  · rintro ⟨chars, behind, rfl⟩
    obtain ⟨filled, last, split⟩ := splitName_eq_some_iff.mp (Prod.ext rfl behind)
    exact ⟨String.ofList (splitName name.toList).1, by simpa using filled, by simpa using last,
      String.toList_inj.mp (by simpa using split)⟩
  · rintro ⟨stem, filled, last, rfl⟩
    have split : splitName (stem ++ "." ++ ending).toList = (stem.toList, some ending.toList) :=
      splitName_eq_some_iff.mpr ⟨by simpa using filled, last, by simp⟩
    exact ⟨ending.toList, congrArg Prod.snd split, String.ofList_toList⟩

/-- The names that the path goes through, in order. Empty pieces and dots go nowhere. -/
def names (path : String) : List String :=
  (pieces path).filter fun piece => piece ≠ "" ∧ piece ≠ "."

theorem names_join (directory : String) {name : String} (proper : IsName name) :
    names (join directory name) = names directory ++ [name] := by
  obtain ⟨parts, entry_pieces, directory_pieces⟩ := pieces_join_parts directory proper.whole
  have kept : [name].filter (fun piece => piece ≠ "" ∧ piece ≠ ".") = [name] := by
    simp [proper.filled, proper.here]
  rw [names, names, entry_pieces, List.filter_append, kept]
  rcases directory_pieces with same | ended
  · rw [same]
  · simp [ended]

theorem names_foldl_join {route : List String} (proper : ∀ name ∈ route, IsName name) (directory : String) :
    names (route.foldl join directory) = names directory ++ route := by
  induction route generalizing directory with
  | nil => simp
  | cons name route ih =>
    obtain ⟨name_proper, route_proper⟩ := List.forall_mem_cons.mp proper
    rw [List.foldl_cons, ih route_proper, names_join directory name_proper, List.append_assoc, List.singleton_append]

theorem join_name_ne_empty (directory : String) {name : String} (proper : IsName name) : join directory name ≠ "" := by
  intro empty
  have nowhere : names "" = [] := by decide
  have named := names_join directory proper
  simp [empty, nowhere] at named

private theorem intercalate_cons_eq_foldl_join {route : List String} {front : String} (proper : ∀ name ∈ route, IsName name)
    (filled : front ≠ "") (open_end : front.toList.getLast? ≠ some '/') :
    String.intercalate "/" (front :: route) = route.foldl join front := by
  induction route generalizing front with
  | nil => simp
  | cons name route ih =>
    obtain ⟨name_proper, route_proper⟩ := List.forall_mem_cons.mp proper
    have joined : join front name = front ++ "/" ++ name := by
      rw [join_eq name_proper.whole, if_neg filled, if_neg open_end]
    have next_open : (front ++ "/" ++ name).toList.getLast? ≠ some '/' := by
      have chars : name.toList ≠ [] := by simpa using name_proper.filled
      rw [String.toList_append, List.getLast?_append_of_ne_nil _ chars]
      exact fun slash => name_proper.whole (List.mem_of_mem_getLast? slash)
    rw [List.foldl_cons, joined, ← ih route_proper (by simp) next_open, String.intercalate_cons_of_ne_nil (by simp)]
    cases route with
    | nil => simp [String.append_assoc]
    | cons next route =>
      have more : next :: route ≠ [] := by simp
      rw [String.intercalate_cons_of_ne_nil more, String.intercalate_cons_of_ne_nil more]
      simp only [String.append_assoc]

/-- Names with slashes between them are the path that is put together from them. -/
theorem intercalate_eq_foldl_join {route : List String} (proper : ∀ name ∈ route, IsName name) :
    String.intercalate "/" route = route.foldl join "" := by
  cases route with
  | nil => simp
  | cons name route =>
    obtain ⟨name_proper, route_proper⟩ := List.forall_mem_cons.mp proper
    have first : join "" name = name := by rw [join_eq name_proper.whole, if_pos rfl]
    have open_end : name.toList.getLast? ≠ some '/' := fun slash => name_proper.whole (List.mem_of_mem_getLast? slash)
    rw [List.foldl_cons, first, intercalate_cons_eq_foldl_join route_proper name_proper.filled open_end]

/-- The path of a listed file goes through the names that the directory does, and then through its own. -/
theorem names_listed {route : List String} (proper : ∀ name ∈ route, IsName name) (base : String) :
    names (listed base route) = names base ++ route := by
  rw [listed]
  split
  · next here =>
    have nowhere : names base = names "" := here ▸ by decide
    rw [intercalate_eq_foldl_join proper, names_foldl_join proper, nowhere]
  · exact names_foldl_join proper base

theorem join_ne_empty {directory name : String} (filled : directory ≠ "") : join directory name ≠ "" := by
  unfold join
  split
  · next either =>
    rcases either with absolute | empty
    · rintro rfl
      simp [isAbsolute] at absolute
    · exact absurd empty filled
  · split <;> simp [filled]

theorem descend_ne_empty {base piece next : String} (filled : base ≠ "") (descended : descend? base piece = some next) :
    next ≠ "" := by
  unfold descend? at descended
  split at descended
  · split at descended
    · cases descended
    · next piece_filled =>
      cases descended
      exact piece_filled
  · cases descended
    exact join_ne_empty filled

private theorem foldlM_descend_ne_empty {parts : List String} {base last : String} (filled : base ≠ "")
    (descended : parts.foldlM descend? base = some last) : last ≠ "" := by
  induction parts generalizing base with
  | nil =>
    cases descended
    exact filled
  | cons part parts ih =>
    obtain ⟨next, here, rest⟩ := Option.bind_eq_some_iff.mp descended
    exact ih (descend_ne_empty filled here) rest

/-- Files are never listed under an empty path. -/
theorem listing_ne_empty {directory base : String} (listing : listing? directory = some base) : base ≠ "" := by
  unfold listing? at listing
  split at listing
  · exact foldlM_descend_ne_empty (by decide) listing
  · exact foldlM_descend_ne_empty (by decide) listing

/-- The path begins with dots, and where a name is due it has an empty piece: `./` and `.//x` are such paths. -/
def IsDotted (path : String) : Prop :=
  ∃ count rest, pieces path = List.replicate (count + 1) "." ++ "" :: rest

theorem descend?_of_ne_here {base : String} (away : base ≠ ".") (piece : String) : descend? base piece = some (join base piece) := by
  rw [descend?, if_neg away]

theorem join_ne_here {base piece : String} (filled : base ≠ "") (whole : '/' ∉ piece.toList) : join base piece ≠ "." := by
  intro here
  have slash : '/' ∈ (join base piece).toList := by
    rw [join_eq whole, if_neg filled]
    split
    · next ended => simp [List.mem_of_mem_getLast? ended]
    · simp
  rw [here] at slash
  exact absurd slash (by decide)

private theorem foldlM_descend_isSome {parts : List String} {base : String} (filled : base ≠ "") (away : base ≠ ".")
    (whole : ∀ piece ∈ parts, '/' ∉ piece.toList) : parts.foldlM descend? base ≠ none := by
  induction parts generalizing base with
  | nil => simp
  | cons piece parts ih =>
    obtain ⟨piece_whole, parts_whole⟩ := List.forall_mem_cons.mp whole
    rw [List.foldlM_cons, descend?_of_ne_here away]
    exact ih (join_ne_empty filled) (join_ne_here filled piece_whole) parts_whole

private theorem foldlM_descend_here_eq_none_iff {parts : List String} (whole : ∀ piece ∈ parts, '/' ∉ piece.toList) :
    parts.foldlM descend? "." = none ↔ ∃ count rest, parts = List.replicate count "." ++ "" :: rest := by
  induction parts with
  | nil => simp
  | cons piece parts ih =>
    obtain ⟨piece_whole, parts_whole⟩ := List.forall_mem_cons.mp whole
    rw [List.foldlM_cons, descend?, if_pos rfl]
    by_cases empty : piece = ""
    · rw [if_pos empty]
      exact ⟨fun _ => ⟨0, parts, by simp [empty]⟩, fun _ => rfl⟩
    · rw [if_neg empty]
      by_cases here : piece = "."
      · subst here
        refine (ih parts_whole).trans ⟨?_, ?_⟩
        · rintro ⟨count, rest, rfl⟩
          exact ⟨count + 1, rest, rfl⟩
        · rintro ⟨count, rest, split⟩
          cases count with
          | zero => simp at split
          | succ count => exact ⟨count, rest, by simpa [List.replicate_succ] using split⟩
      · refine iff_of_false (foldlM_descend_isSome empty here parts_whole) ?_
        rintro ⟨count, rest, split⟩
        cases count with
        | zero => exact empty (List.cons.inj split).1
        | succ count => exact here (List.cons.inj split).1

/-- Files can be listed below every path but those that have dots in front of an empty piece. -/
theorem listing?_eq_none_iff {directory : String} : listing? directory = none ↔ IsDotted directory := by
  have whole : ∀ piece ∈ pieces directory, '/' ∉ piece.toList := fun _ => no_slash_of_mem_pieces
  unfold listing? IsDotted
  split
  · next rest split =>
    rw [split] at whole ⊢
    refine iff_of_false (foldlM_descend_isSome (by decide) (by decide) (List.forall_mem_cons.mp whole).2) ?_
    rintro ⟨count, others, dotted⟩
    simp [List.replicate_succ] at dotted
  · next relative =>
    rw [foldlM_descend_here_eq_none_iff whole]
    constructor
    · rintro ⟨count, rest, split⟩
      cases count with
      | zero => exact absurd split (relative rest)
      | succ count => exact ⟨count, rest, split⟩
    · rintro ⟨count, rest, split⟩
      exact ⟨count + 1, rest, split⟩

end Tablesmith.Path
