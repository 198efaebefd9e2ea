import Mathlib
import Tablesmith.Proofs.Biff.SharedText
import Tablesmith.Proofs.Steps

/-!
# The table of shared texts

A shared text may carry formatting runs and a phonetic guide, which stand behind all of
its characters. Both are passed over right behind the first fragment, by steps that
stay within one piece. So the tables that are read right whatever their characters are,
are those whose texts keep to the pieces: a text with a further fragment carries
nothing, and what is carried is not cut (`readSharedTable_eq_iff`).

Where a text carries something behind a further fragment, the first bytes of that
fragment are taken for it. Two texts that differ in the first character of the fragment
are then read as the same, so one of them is misread (`misread_letter`).
-/

namespace Tablesmith.Biff

open Text Text.Encoding Zip

variable {narrow : Encoding} {pieces : Payload} {place : List UInt8 × Payload} {n : Nat}

/-- The payload from a place on: what is left of a piece, and the pieces after it. -/
def payloadAt (place : List UInt8 × Payload) : Payload :=
  behind place.1 place.2

/-- The place where some pieces begin, the last of which goes on at another place. -/
def ahead : Payload → List UInt8 × Payload → List UInt8 × Payload
  | [], place => place
  | [last], place => (last ++ place.1, place.2)
  | piece :: next :: pieces, place => (piece, payloadAt (ahead (next :: pieces) place))

/-- All bytes, if there are any, are in one piece. -/
def Uncut (pieces : Payload) : Prop :=
  pieces.flatten = [] ∨ pieces.flatten ∈ pieces

/-- A shared text in fragments, with the pieces of the formatting runs and of the phonetic guide
that it carries. -/
structure SharedItem where
  text : String
  first : Fragment
  further : List Fragment
  runs : Payload
  guide : Payload

namespace SharedItem

/-- Everything before the characters: their number, the options, and the sizes of what is carried. -/
def header (item : SharedItem) : List UInt8 :=
  two (textUnits item.text.toList).length ++ (item.first.options ::
    ((if hasRuns item.first.options.toNat then two (item.runs.flatten.length / 4) else []) ++
      if hasGuide item.first.options.toNat then four item.guide.flatten.length else []))

/-- The place where a text begins that is stored before another place: the characters, then the
runs, then the guide. Every further fragment begins a piece. -/
def laid (item : SharedItem) (place : List UInt8 × Payload) : List UInt8 × Payload :=
  ahead ((item.header ++ item.first.characters) :: item.further.map Fragment.stored)
    (ahead item.runs (ahead item.guide place))

/-- All that is stored of a text but its characters. -/
def shape (item : SharedItem) : List (UInt8 × Nat) × Payload × Payload :=
  ((item.first :: item.further).map fun fragment => (fragment.options, fragment.units.length), item.runs, item.guide)

/-- A text of characters of the Basic Multilingual Plane that is cut between characters and within
what it carries, and whose sizes fit into their fields. -/
structure Legal (narrow : Encoding) (item : SharedItem) : Prop where
  basic : ∀ c ∈ item.text.toList, c.toNat < 0x10000
  whole : ((item.first :: item.further).map Fragment.units).flatten = textUnits item.text.toList
  short : (textUnits item.text.toList).length < 256 ^ 2
  fits : ∀ fragment ∈ item.first :: item.further, fragment.Fits narrow
  filled : item.further ≠ [] → ∀ fragment ∈ item.first :: item.further, fragment.units ≠ []
  runs_whole : item.runs.flatten.length % 4 = 0
  runs_few : item.runs.flatten.length / 4 < 256 ^ 2
  runs_marked : hasRuns item.first.options.toNat = false → item.runs.flatten = []
  guide_short : item.guide.flatten.length < 256 ^ 4
  guide_marked : hasGuide item.first.options.toNat = false → item.guide.flatten = []

/-- A text keeps to the pieces: its characters are in one piece if it carries anything, and neither
the runs nor the guide are cut. -/
structure Kept (item : SharedItem) : Prop where
  characters : item.further = [] ∨ item.runs.flatten = [] ∧ item.guide.flatten = []
  runs : Uncut item.runs
  guide : Uncut item.guide

end SharedItem

/-- The payload of a table of shared texts: the number of their uses, their number and the texts. -/
def storedTable (uses : Nat) (items : List SharedItem) (place : List UInt8 × Payload) : Payload :=
  payloadAt (ahead [four uses ++ four items.length] (items.foldr SharedItem.laid place))

theorem payloadAt_ahead_cons (piece : List UInt8) (filled : pieces ≠ []) (place : List UInt8 × Payload) :
    payloadAt (ahead (piece :: pieces) place) = behind piece (payloadAt (ahead pieces place)) := by
  cases pieces with
  | nil => exact absurd rfl filled
  | cons next pieces => rfl

theorem spread_eq_payloadAt (bytes : List UInt8) (further : List Fragment) (place : List UInt8 × Payload) :
    spread place.1 place.2 bytes further = payloadAt (ahead (bytes :: further.map Fragment.stored) place) := by
  induction further generalizing bytes with
  | nil => rfl
  | cons fragment further ih =>
    rw [spread, ih, List.map_cons, payloadAt_ahead_cons bytes (List.cons_ne_nil _ _)]

/-- Pieces without bytes leave the payload as it is. -/
theorem payloadAt_ahead_of_flatten (empty : pieces.flatten = []) (place : List UInt8 × Payload) :
    payloadAt (ahead pieces place) = payloadAt place := by
  induction pieces with
  | nil => rfl
  | cons piece pieces ih =>
    obtain ⟨piece_empty, rest_empty⟩ := List.append_eq_nil_iff.mp (List.flatten_cons.symm.trans empty)
    subst piece_empty
    cases pieces with
    | nil => rfl
    | cons next pieces => rw [payloadAt_ahead_cons [] (List.cons_ne_nil _ _), behind, if_pos rfl, ih rest_empty]

theorem uncut_of_flatten_eq_nil (empty : pieces.flatten = []) : Uncut pieces :=
  Or.inl empty

theorem uncut_nil_cons : Uncut ([] :: pieces) ↔ Uncut pieces := by
  unfold Uncut
  rw [List.flatten_cons, List.nil_append, List.mem_cons]
  tauto

/-- If some byte is in the first piece, either it has all of them or the bytes are cut. -/
theorem uncut_cons {piece : List UInt8} (filled : piece ≠ []) : Uncut (piece :: pieces) ↔ pieces.flatten = [] := by
  unfold Uncut
  rw [List.flatten_cons]
  constructor
  · rintro (empty | member)
    · exact (List.append_eq_nil_iff.mp empty).2
    · rcases List.mem_cons.mp member with same | later
      · exact List.append_right_eq_self.mp same
      · have shorter := (List.sublist_flatten_of_mem later).length_le
        have some_bytes := List.length_pos_of_ne_nil filled
        rw [List.length_append] at shorter
        omega
  · intro empty
    rw [empty, List.append_nil]
    exact Or.inr List.mem_cons_self

theorem takeBytes_uncut (uncut : Uncut pieces) (place : List UInt8 × Payload) :
    takeBytes pieces.flatten.length (payloadAt (ahead pieces place)) = (pieces.flatten, payloadAt place) := by
  induction pieces with
  | nil => exact takeBytes_zero _
  | cons piece pieces ih =>
    by_cases last : pieces = []
    · subst last
      rw [List.flatten_singleton]
      exact takeBytes_behind
    by_cases empty : piece = []
    · subst empty
      have rest_taken := ih (uncut_nil_cons.mp uncut)
      rwa [payloadAt_ahead_cons [] last, behind, if_pos rfl, List.flatten_cons, List.nil_append]
    · have rest_empty := (uncut_cons empty).mp uncut
      have taken : takeBytes piece.length (behind (piece ++ []) (payloadAt (ahead pieces place))) =
          (piece, behind [] (payloadAt (ahead pieces place))) := takeBytes_behind
      rw [List.append_nil] at taken
      rw [payloadAt_ahead_cons piece last, List.flatten_cons, rest_empty, List.append_nil, taken, behind, if_pos rfl,
        payloadAt_ahead_of_flatten rest_empty]

/-- Of bytes that are cut, only those in front of the cut are taken. -/
theorem takeBytes_cut (cut : ¬ Uncut pieces) (place : List UInt8 × Payload) :
    (takeBytes pieces.flatten.length (payloadAt (ahead pieces place))).1.length ≠ pieces.flatten.length := by
  induction pieces with
  | nil => exact absurd (Or.inl rfl) cut
  | cons piece pieces ih =>
    by_cases empty : piece = []
    · subst empty
      have rest_cut := fun uncut => cut (uncut_nil_cons.mpr uncut)
      have filled : pieces ≠ [] := by
        rintro rfl
        exact rest_cut (Or.inl rfl)
      rw [payloadAt_ahead_cons [] filled, behind, if_pos rfl, List.flatten_cons, List.nil_append]
      exact ih rest_cut
    · have rest_filled := fun rest_empty => cut ((uncut_cons empty).mpr rest_empty)
      have filled : pieces ≠ [] := by
        rintro rfl
        exact rest_filled rfl
      have more := List.length_pos_of_ne_nil rest_filled
      have few : piece.length ≤ (piece ++ pieces.flatten).length := by
        rw [List.length_append]
        exact Nat.le_add_right _ _
      rw [payloadAt_ahead_cons piece filled, List.flatten_cons, takeBytes_short empty few, List.length_append]
      show piece.length ≠ piece.length + pieces.flatten.length
      omega

theorem run_skip (n : Nat) (payload : Payload) :
    (skip n).run payload =
      if (takeBytes n payload).1.length = n then .ok ((), (takeBytes n payload).2) else .error ⟨n⟩ := by
  have taken : (readUpTo n).run payload = .ok (takeBytes n payload) := rfl
  rw [skip, readBytes, StateT.run_bind, StateT.run_bind, taken]
  by_cases all : (takeBytes n payload).1.length = n
  · simp only [bind, Except.bind, if_pos all]
    rfl
  · simp only [bind, Except.bind, if_neg all]
    rfl

theorem run_skip_uncut (uncut : Uncut pieces) (place : List UInt8 × Payload) :
    (skip pieces.flatten.length).run (payloadAt (ahead pieces place)) = .ok ((), payloadAt place) := by
  rw [run_skip, takeBytes_uncut uncut, if_pos rfl]

theorem run_skip_cut (cut : ¬ Uncut pieces) (place : List UInt8 × Payload) :
    (skip pieces.flatten.length).run (payloadAt (ahead pieces place)) = .error ⟨pieces.flatten.length⟩ := by
  rw [run_skip, if_neg (takeBytes_cut cut place)]

/-- A number that is stored only if an option is set, and is zero otherwise. -/
theorem run_readOptional_spread {present : Bool} {value : Nat} {field left more : List UInt8} {rest : Payload}
    (further : List Fragment) (sized : field.length = n) (stored : Binary.number field = value)
    (absent : present = false → value = 0) :
    (readOptional present n).run (spread left rest ((if present then field else []) ++ more) further) =
      .ok (value, spread left rest more further) := by
  cases present with
  | true =>
    rw [readOptional, if_pos rfl, if_pos rfl, run_readNumber_spread field further sized, stored]
  | false =>
    rw [absent rfl]
    rfl

theorem readSharedText_eq (narrow : Encoding) : readSharedText narrow = do
    let count ← readNumber 2
    let options ← readNumber 1
    let runs ← readOptional (hasRuns options) 2
    let guide ← readOptional (hasGuide options) 4
    let fragment ← readCharacters narrow (isWide options) count
    skip (4 * runs)
    skip guide
    let rest ← readFurther narrow (count - fragment.2)
    return String.ofList (fragment.1 ++ rest) := by
  simp only [readSharedText, readRichFragment, bind_assoc, pure_bind]

namespace SharedItem

variable {item : SharedItem}

/-- What is done behind the characters of the first fragment. -/
def remaining (narrow : Encoding) (item : SharedItem) : Reading String := do
  skip item.runs.flatten.length
  skip item.guide.flatten.length
  let rest ← readFurther narrow (item.further.map Fragment.units).flatten.length
  return String.ofList (decodeUnits item.first.units ++ rest)

theorem Legal.length_units (legal : item.Legal narrow) :
    item.first.units.length + (item.further.map Fragment.units).flatten.length = (textUnits item.text.toList).length := by
  rw [← legal.whole, List.map_cons, List.flatten_cons, List.length_append]

theorem payloadAt_laid (item : SharedItem) (place : List UInt8 × Payload) :
    payloadAt (item.laid place) =
      spread (ahead item.runs (ahead item.guide place)).1 (ahead item.runs (ahead item.guide place)).2
        (item.header ++ item.first.characters) item.further := by
  rw [spread_eq_payloadAt]
  rfl

theorem run_readSharedText_laid (legal : item.Legal narrow) (place : List UInt8 × Payload) :
    (readSharedText narrow).run (payloadAt (item.laid place)) =
      (item.remaining narrow).run
        (spread (ahead item.runs (ahead item.guide place)).1 (ahead item.runs (ahead item.guide place)).2 [] item.further) := by
  rw [payloadAt_laid]
  generalize (ahead item.runs (ahead item.guide place)).1 = left
  generalize (ahead item.runs (ahead item.guide place)).2 = rest
  have size := legal.length_units
  have first_fits : item.first.Fits narrow := legal.fits item.first List.mem_cons_self
  have ends : item.first.units.length = (textUnits item.text.toList).length ∨
      item.further ≠ [] ∧ item.first.units ≠ [] ∧ item.first.units.length ≤ (textUnits item.text.toList).length := by
    by_cases goes_on : item.further = []
    · rw [goes_on] at size
      exact Or.inl (by simpa using size)
    · exact Or.inr ⟨goes_on, legal.filled goes_on item.first List.mem_cons_self, by omega⟩
  have runs_absent : hasRuns item.first.options.toNat = false → item.runs.flatten.length / 4 = 0 := by
    intro unmarked
    rw [legal.runs_marked unmarked]
    rfl
  have guide_absent : hasGuide item.first.options.toNat = false → item.guide.flatten.length = 0 := by
    intro unmarked
    rw [legal.guide_marked unmarked]
    rfl
  have runs_size : 4 * (item.runs.flatten.length / 4) = item.runs.flatten.length := by
    have whole := legal.runs_whole
    omega
  have missing : (textUnits item.text.toList).length - item.first.units.length =
      (item.further.map Fragment.units).flatten.length := by omega
  have counted (more : List UInt8) : (readNumber 2).run
      (spread left rest (two (textUnits item.text.toList).length ++ more) item.further) =
        .ok (Binary.number (two (textUnits item.text.toList).length), spread left rest more item.further) :=
    run_readNumber_spread _ item.further rfl
  rw [header, List.append_assoc, List.cons_append, List.append_assoc, readSharedText_eq, run_bind_of_ok (counted _),
    number_two legal.short, run_bind_of_ok (run_readOptions _ item.further),
    run_bind_of_ok (run_readOptional_spread (n := 2) item.further rfl (number_two legal.runs_few) runs_absent),
    run_bind_of_ok (run_readOptional_spread (n := 4) item.further rfl (number_four legal.guide_short) guide_absent),
    ← Fragment.wide, run_bind_of_ok (run_readCharacters first_fits ends), runs_size, missing]
  rfl

/-- No pair of surrogates is cut where none is stored. -/
theorem Legal.not_cutsPair (legal : item.Legal narrow) : ¬ CutsPair ((item.first :: item.further).map Fragment.units) := by
  rintro ⟨before, after, parts, ⟨unit, last, leading⟩, -⟩
  have member : unit ∈ textUnits item.text.toList := by
    rw [← legal.whole, parts, List.flatten_append]
    exact List.mem_append_left _ (List.mem_of_getLast? last)
  obtain ⟨c, char_member, is_unit⟩ := List.mem_flatMap.mp member
  rw [charUnits, if_pos (legal.basic c char_member), List.mem_singleton] at is_unit
  rw [is_unit, (toNat_not_half c).1] at leading
  cases leading

theorem Legal.text_of_fragments (legal : item.Legal narrow) :
    String.ofList (decodeUnits item.first.units ++ (item.further.map Fragment.units).flatMap decodeUnits) = item.text := by
  have parts := flatMap_decodeUnits_iff.mpr legal.not_cutsPair
  rw [legal.whole, decodeUnits_textUnits, List.map_cons, List.flatMap_cons] at parts
  rw [parts, String.ofList_toList]

theorem run_readSharedText_kept (legal : item.Legal narrow) (kept : item.Kept) (place : List UInt8 × Payload) :
    (readSharedText narrow).run (payloadAt (item.laid place)) = .ok (item.text, payloadAt place) := by
  rw [run_readSharedText_laid legal, remaining]
  by_cases goes_on : item.further = []
  · have here (at_place : List UInt8 × Payload) : spread at_place.1 at_place.2 [] [] = payloadAt at_place := rfl
    have text := legal.text_of_fragments
    rw [goes_on, here, run_bind_of_ok (run_skip_uncut kept.runs _), run_bind_of_ok (run_skip_uncut kept.guide _)]
    rw [goes_on] at text
    have none_missing : (readFurther narrow 0).run (payloadAt place) = .ok ([], payloadAt place) := by
      rw [readFurther, dif_pos rfl]
      rfl
    have no_units : (([] : List Fragment).map Fragment.units).flatten.length = 0 := rfl
    rw [no_units, run_bind_of_ok none_missing]
    exact congrArg (fun read => Except.ok (read, payloadAt place)) text
  · obtain ⟨no_runs, no_guide⟩ := kept.characters.resolve_left goes_on
    have further_fits : ∀ fragment ∈ item.further, fragment.Fits narrow :=
      fun fragment member => legal.fits fragment (List.mem_cons_of_mem _ member)
    have further_filled : ∀ fragment ∈ item.further, fragment.units ≠ [] :=
      fun fragment member => legal.filled goes_on fragment (List.mem_cons_of_mem _ member)
    have back : payloadAt (ahead item.runs (ahead item.guide place)) = payloadAt place := by
      rw [payloadAt_ahead_of_flatten no_runs, payloadAt_ahead_of_flatten no_guide]
    rw [no_runs, no_guide, List.length_nil, run_bind_of_ok (run_skip_zero _), run_bind_of_ok (run_skip_zero _),
      run_bind_of_ok (run_readFurther further_fits further_filled rfl _ _), ← payloadAt, back]
    exact congrArg (fun read => Except.ok (read, payloadAt place)) legal.text_of_fragments

theorem run_readSharedText_cut (legal : item.Legal narrow) (whole : item.further = [])
    (cut : ¬ (Uncut item.runs ∧ Uncut item.guide)) (place : List UInt8 × Payload) :
    ∃ needed, (readSharedText narrow).run (payloadAt (item.laid place)) = .error ⟨needed⟩ := by
  have here (at_place : List UInt8 × Payload) : spread at_place.1 at_place.2 [] [] = payloadAt at_place := rfl
  rw [run_readSharedText_laid legal, whole, here, remaining]
  by_cases runs : Uncut item.runs
  · have guide : ¬ Uncut item.guide := fun guide => cut ⟨runs, guide⟩
    rw [run_bind_of_ok (run_skip_uncut runs _), StateT.run_bind, run_skip_cut guide]
    exact ⟨_, rfl⟩
  · rw [StateT.run_bind, run_skip_cut runs]
    exact ⟨_, rfl⟩

/-! ### Carried bytes behind a further fragment -/

/-- The text with another first character in its second fragment. -/
def withLetter (item : SharedItem) (letter : Char) : SharedItem :=
  match item.further with
  | [] => item
  | fragment :: further =>
    { item with
      text := String.ofList (item.text.toList.set item.first.units.length letter)
      further := ⟨fragment.options, letter.toNat :: fragment.units.tail⟩ :: further }

theorem textUnits_basic {text : List Char} (basic : ∀ c ∈ text, c.toNat < 0x10000) : textUnits text = text.map Char.toNat := by
  induction text with
  | nil => rfl
  | cons c text ih =>
    obtain ⟨char_basic, text_basic⟩ := List.forall_mem_cons.mp basic
    rw [textUnits, List.flatMap_cons, charUnits, if_pos char_basic, ← textUnits, ih text_basic]
    rfl

variable {fragment : Fragment} {further : List Fragment} {letter : Char}

theorem withLetter_eq (goes_on : item.further = fragment :: further) (letter : Char) :
    item.withLetter letter =
      { item with
        text := String.ofList (item.text.toList.set item.first.units.length letter)
        further := ⟨fragment.options, letter.toNat :: fragment.units.tail⟩ :: further } := by
  rw [withLetter, goes_on]

theorem Legal.second (legal : item.Legal narrow) (goes_on : item.further = fragment :: further) :
    fragment.units ≠ [] ∧ fragment.Fits narrow := by
  have member : fragment ∈ item.first :: item.further := by
    rw [goes_on]
    exact List.mem_cons_of_mem _ List.mem_cons_self
  have some_further : item.further ≠ [] := by
    rw [goes_on]
    exact List.cons_ne_nil _ _
  exact ⟨legal.filled some_further fragment member, legal.fits fragment member⟩

theorem mem_fragments_withLetter (goes_on : item.further = fragment :: further) {other : Fragment}
    (member : other ∈ (item.withLetter letter).first :: (item.withLetter letter).further) :
    other = ⟨fragment.options, letter.toNat :: fragment.units.tail⟩ ∨ other ∈ item.first :: item.further := by
  rw [withLetter_eq goes_on] at member
  rw [goes_on]
  rcases List.mem_cons.mp member with rfl | later
  · exact Or.inr List.mem_cons_self
  · rcases List.mem_cons.mp later with new | behind
    · exact Or.inl new
    · exact Or.inr (List.mem_cons_of_mem _ (List.mem_cons_of_mem _ behind))

theorem fits_withLetter (fits : fragment.Fits narrow) (small : letter.toNat < 128) :
    Fragment.Fits narrow ⟨fragment.options, letter.toNat :: fragment.units.tail⟩ := by
  refine ⟨?_, fits.lower, ?_⟩
  · exact List.forall_mem_cons.mpr ⟨by omega, fun unit member => fits.units unit (List.mem_of_mem_tail member)⟩
  · intro narrow_units
    exact List.forall_mem_cons.mpr ⟨by omega, fun unit member => fits.small narrow_units unit (List.mem_of_mem_tail member)⟩

theorem basic_withLetter (legal : item.Legal narrow) (small : letter.toNat < 128) :
    ∀ c ∈ item.text.toList.set item.first.units.length letter, c.toNat < 0x10000 := by
  intro c member
  rcases List.mem_or_eq_of_mem_set member with before | rfl
  · exact legal.basic c before
  · omega

theorem units_withLetter (legal : item.Legal narrow) (small : letter.toNat < 128) :
    textUnits (item.text.toList.set item.first.units.length letter) =
      (textUnits item.text.toList).set item.first.units.length letter.toNat := by
  rw [textUnits_basic (basic_withLetter legal small), textUnits_basic legal.basic, List.map_set]

theorem legal_withLetter (legal : item.Legal narrow) (goes_on : item.further = fragment :: further) (small : letter.toNat < 128) :
    (item.withLetter letter).Legal narrow := by
  obtain ⟨second_filled, old_fits⟩ := legal.second goes_on
  have further_filled : item.further ≠ [] := by simp [goes_on]
  have fits : ∀ other ∈ (item.withLetter letter).first :: (item.withLetter letter).further, other.Fits narrow := by
    intro other member
    rcases mem_fragments_withLetter goes_on member with rfl | before
    · exact fits_withLetter old_fits small
    · exact legal.fits other before
  have filled : ∀ other ∈ (item.withLetter letter).first :: (item.withLetter letter).further, other.units ≠ [] := by
    intro other member
    rcases mem_fragments_withLetter goes_on member with rfl | before
    · exact List.cons_ne_nil _ _
    · exact legal.filled further_filled other before
  obtain ⟨unit, units_behind, second_units⟩ := List.exists_cons_of_ne_nil second_filled
  rw [withLetter_eq goes_on] at fits filled ⊢
  refine ⟨?_, ?_, ?_, fits, fun _ => filled, legal.runs_whole, legal.runs_few, legal.runs_marked, legal.guide_short,
    legal.guide_marked⟩
  · rw [String.toList_ofList]
    exact basic_withLetter legal small
  · have whole := legal.whole
    rw [String.toList_ofList, units_withLetter legal small, ← whole, goes_on]
    simp only [List.map_cons, List.flatten_cons, second_units, List.tail_cons]
    rw [List.set_append_right _ _ (Nat.le_refl _), Nat.sub_self, List.cons_append, List.cons_append, List.set_cons_zero]
  · rw [String.toList_ofList, units_withLetter legal small, List.length_set]
    exact legal.short

theorem shape_withLetter (legal : item.Legal narrow) (goes_on : item.further = fragment :: further) (letter : Char) :
    (item.withLetter letter).shape = item.shape := by
  have some_units := List.length_pos_of_ne_nil (legal.second goes_on).1
  have same_length : (letter.toNat :: fragment.units.tail).length = fragment.units.length := by
    rw [List.length_cons, List.length_tail]
    omega
  rw [withLetter_eq goes_on]
  simp only [shape, goes_on, List.map_cons, same_length]

theorem text_withLetter_ne (legal : item.Legal narrow) (goes_on : item.further = fragment :: further) {other : Char}
    (different : letter ≠ other) : (item.withLetter letter).text ≠ (item.withLetter other).text := by
  have some_units := List.length_pos_of_ne_nil (legal.second goes_on).1
  have size := legal.length_units
  rw [goes_on, List.map_cons, List.flatten_cons, List.length_append, textUnits_basic legal.basic, List.length_map] at size
  have inside : item.first.units.length < item.text.toList.length := by omega
  intro same
  rw [withLetter_eq goes_on, withLetter_eq goes_on] at same
  have same_chars := congrArg (fun chars => chars[item.first.units.length]?) (String.ofList_injective same)
  simp only [List.getElem?_set_self inside, Option.some.injEq] at same_chars
  exact different same_chars

theorem stored_letter (options : UInt8) (units : List Nat) : ∃ tail, ∀ letter : Char, letter.toNat < 128 →
    Fragment.stored ⟨options, letter.toNat :: units⟩ = options :: UInt8.ofNat letter.toNat :: tail := by
  have low (letter : Char) : byteAt 0 letter.toNat = UInt8.ofNat letter.toNat := by simp [byteAt]
  cases wide : isWide options.toNat with
  | true =>
    refine ⟨0 :: Fragment.characters ⟨options, units⟩, fun letter small => ?_⟩
    have high : byteAt 1 letter.toNat = 0 := by
      have none_left : letter.toNat / 256 ^ 1 = 0 := by omega
      rw [byteAt, none_left]
      rfl
    simp only [Fragment.stored, Fragment.characters, Fragment.wide, wide, ↓reduceIte, List.flatMap_cons, two, low, high,
      List.cons_append, List.nil_append]
  | false =>
    refine ⟨Fragment.characters ⟨options, units⟩, fun letter _ => ?_⟩
    simp only [Fragment.stored, Fragment.characters, Fragment.wide, wide, Bool.false_eq_true, ↓reduceIte,
      List.flatMap_cons, low, List.cons_append, List.nil_append]

/-- The letter is the second byte of its fragment. -/
theorem spread_letter (options : UInt8) (units : List Nat) (further : List Fragment) (place : List UInt8 × Payload) :
    ∃ tail rest, ∀ letter : Char, letter.toNat < 128 →
      spread place.1 place.2 (Fragment.stored ⟨options, letter.toNat :: units⟩) further =
        (options :: UInt8.ofNat letter.toNat :: tail) :: rest := by
  obtain ⟨tail, stored⟩ := stored_letter options units
  cases further with
  | nil =>
    refine ⟨tail ++ place.1, place.2, fun letter small => ?_⟩
    rw [stored letter small]
    rfl
  | cons fragment further =>
    refine ⟨tail, spread place.1 place.2 fragment.stored further, fun letter small => ?_⟩
    rw [stored letter small]
    rfl

end SharedItem

variable {options a b : UInt8} {tail : List UInt8} {rest : Payload}

theorem run_skip_two (at_least : 2 ≤ n) (a b : UInt8) :
    (skip n).run ((options :: a :: tail) :: rest) = (skip n).run ((options :: b :: tail) :: rest) := by
  obtain ⟨m, rfl⟩ := Nat.exists_eq_add_of_le' at_least
  have same : (takeBytes (m + 2) ((options :: a :: tail) :: rest)).1.length =
        (takeBytes (m + 2) ((options :: b :: tail) :: rest)).1.length ∧
      (takeBytes (m + 2) ((options :: a :: tail) :: rest)).2 = (takeBytes (m + 2) ((options :: b :: tail) :: rest)).2 := by
    simp only [takeBytes, List.drop_succ_cons]
    cases tail.drop m with
    | nil => exact ⟨rfl, rfl⟩
    | cons next left => exact ⟨by simp, rfl⟩
  rw [run_skip, run_skip, same.1, same.2]

theorem run_skip_one (byte : UInt8) : (skip 1).run ((options :: byte :: tail) :: rest) = .ok ((), (byte :: tail) :: rest) := rfl

/-- Of the option byte of a further fragment, only one bit is looked at. -/
theorem run_readFurther_options (same : isWide a.toNat = isWide b.toNat) (some_missing : n ≠ 0) :
    (readFurther narrow n).run ((a :: tail) :: rest) = (readFurther narrow n).run ((b :: tail) :: rest) := by
  have plain (byte : UInt8) : (readPlainFragment narrow n).run ((byte :: tail) :: rest) =
      (readCharacters narrow (isWide byte.toNat) n).run (behind tail rest) := by
    have options_read : (readNumber 1).run (spread tail rest (byte :: []) []) = .ok (byte.toNat, spread tail rest [] []) :=
      run_readOptions byte []
    change (readNumber 1).run ((byte :: tail) :: rest) = .ok (byte.toNat, behind tail rest) at options_read
    rw [readPlainFragment, run_bind_of_ok options_read]
  rw [readFurther, dif_neg some_missing, StateT.run_bind, StateT.run_bind, plain, plain, same]

namespace SharedItem

variable {item : SharedItem} {fragment : Fragment} {further : List Fragment}

/-- What is carried is passed over at the beginning of the second fragment, whatever its first letter is. -/
theorem run_readSharedText_letter (legal : item.Legal narrow) (goes_on : item.further = fragment :: further)
    (carries : ¬ (item.runs.flatten = [] ∧ item.guide.flatten = [])) (place : List UInt8 × Payload) :
    (readSharedText narrow).run (payloadAt ((item.withLetter 'X').laid place)) =
      (readSharedText narrow).run (payloadAt ((item.withLetter 'Z').laid place)) := by
  rw [run_readSharedText_laid (legal_withLetter legal goes_on (by decide)),
    run_readSharedText_laid (legal_withLetter legal goes_on (by decide)), withLetter_eq goes_on, withLetter_eq goes_on]
  obtain ⟨tail, rest, spreads⟩ :=
    spread_letter fragment.options fragment.units.tail further (ahead item.runs (ahead item.guide place))
  simp only [spread_nil_cons, spreads 'X' (by decide), spreads 'Z' (by decide), remaining, List.map_cons, List.flatten_cons,
    List.length_append, List.length_cons]
  have whole := legal.runs_whole
  by_cases runs : item.runs.flatten = []
  · have some_guide := List.length_pos_of_ne_nil fun guide => carries ⟨runs, guide⟩
    rw [runs, List.length_nil, run_bind_of_ok (run_skip_zero _), run_bind_of_ok (run_skip_zero _)]
    by_cases one : item.guide.flatten.length = 1
    · rw [one, run_bind_of_ok (run_skip_one _), run_bind_of_ok (run_skip_one _), StateT.run_bind, StateT.run_bind,
        run_readFurther_options (a := UInt8.ofNat 'X'.toNat) (b := UInt8.ofNat 'Z'.toNat) (by decide) (by omega)]
    · rw [StateT.run_bind, StateT.run_bind, run_skip_two (by omega)]
  · have some_runs := List.length_pos_of_ne_nil runs
    rw [StateT.run_bind, StateT.run_bind, run_skip_two (by omega)]

/-- A text that does not keep to the pieces has a twin of the same shape that is not read right. -/
theorem exists_misread (legal : item.Legal narrow) (not_kept : ¬ item.Kept) (place : List UInt8 × Payload) :
    ∃ other : SharedItem, other.Legal narrow ∧ other.shape = item.shape ∧
      ∀ after, (readSharedText narrow).run (payloadAt (other.laid place)) ≠ .ok (other.text, after) := by
  by_cases whole : item.further = []
  · have cut : ¬ (Uncut item.runs ∧ Uncut item.guide) := fun uncut => not_kept ⟨Or.inl whole, uncut.1, uncut.2⟩
    refine ⟨item, legal, rfl, fun after => ?_⟩
    obtain ⟨needed, refused⟩ := run_readSharedText_cut legal whole cut place
    rw [refused]
    exact nofun
  · obtain ⟨fragment, further, goes_on⟩ := List.exists_cons_of_ne_nil whole
    have carries : ¬ (item.runs.flatten = [] ∧ item.guide.flatten = []) := by
      rintro ⟨no_runs, no_guide⟩
      exact not_kept ⟨Or.inr ⟨no_runs, no_guide⟩, uncut_of_flatten_eq_nil no_runs, uncut_of_flatten_eq_nil no_guide⟩
    have same := run_readSharedText_letter legal goes_on carries place
    have different : (item.withLetter 'X').text ≠ (item.withLetter 'Z').text := text_withLetter_ne legal goes_on (by decide)
    by_cases right : ∃ after, (readSharedText narrow).run (payloadAt ((item.withLetter 'X').laid place)) =
        .ok ((item.withLetter 'X').text, after)
    · obtain ⟨after, read⟩ := right
      refine ⟨item.withLetter 'Z', legal_withLetter legal goes_on (by decide), shape_withLetter legal goes_on 'Z', ?_⟩
      intro other_after other_read
      rw [← same, read] at other_read
      exact different (Prod.mk.inj (Except.ok.inj other_read)).1
    · refine ⟨item.withLetter 'X', legal_withLetter legal goes_on (by decide), shape_withLetter legal goes_on 'X', ?_⟩
      exact fun after read => right ⟨after, read⟩

theorem kept_of_shape {other : SharedItem} (same : other.shape = item.shape) (kept : item.Kept) : other.Kept := by
  have same_fragments := congrArg Prod.fst same
  have same_runs : other.runs = item.runs := congrArg (fun shape => shape.2.1) same
  have same_guide : other.guide = item.guide := congrArg (fun shape => shape.2.2) same
  have same_length := congrArg List.length same_fragments
  simp only [shape, List.length_map, List.length_cons] at same_length
  refine ⟨?_, ?_, ?_⟩
  · rw [same_runs, same_guide]
    refine kept.characters.imp_left fun whole => ?_
    rw [whole, List.length_nil] at same_length
    exact List.length_eq_zero_iff.mp (by omega)
  · rw [same_runs]
    exact kept.runs
  · rw [same_guide]
    exact kept.guide

end SharedItem

/-! ## The table -/

variable {items : List SharedItem}

theorem run_readSharedTexts_kept (legal : ∀ item ∈ items, item.Legal narrow) (kept : ∀ item ∈ items, item.Kept)
    (place : List UInt8 × Payload) :
    (readSharedTexts narrow items.length).run (payloadAt (items.foldr SharedItem.laid place)) =
      .ok (items.map SharedItem.text, payloadAt place) := by
  induction items with
  | nil => rfl
  | cons item items ih =>
    obtain ⟨item_legal, rest_legal⟩ := List.forall_mem_cons.mp legal
    obtain ⟨item_kept, rest_kept⟩ := List.forall_mem_cons.mp kept
    rw [List.length_cons, readSharedTexts, List.foldr_cons,
      run_bind_of_ok (SharedItem.run_readSharedText_kept item_legal item_kept _), run_bind_of_ok (ih rest_legal rest_kept)]
    rfl

theorem run_readSharedTexts_succ {payload after : Payload} {texts : List String}
    (read : (readSharedTexts narrow (n + 1)).run payload = .ok (texts, after)) :
    ∃ text rest middle, texts = text :: rest ∧ (readSharedText narrow).run payload = .ok (text, middle) ∧
      (readSharedTexts narrow n).run middle = .ok (rest, after) := by
  rw [readSharedTexts, StateT.run_bind, Outcome.bind_ok_iff] at read
  obtain ⟨⟨text, middle⟩, first_read, rest_done⟩ := read
  rw [StateT.run_bind, Outcome.bind_ok_iff] at rest_done
  obtain ⟨⟨rest, last⟩, rest_read, done⟩ := rest_done
  cases done
  exact ⟨text, rest, middle, rfl, first_read, rest_read⟩

/-- The first text that does not keep to the pieces makes the table misread. -/
theorem exists_misread_table (legal : ∀ item ∈ items, item.Legal narrow) (not_kept : ¬ ∀ item ∈ items, item.Kept)
    (place : List UInt8 × Payload) :
    ∃ others : List SharedItem, (∀ other ∈ others, other.Legal narrow) ∧
      others.map SharedItem.shape = items.map SharedItem.shape ∧
      ∀ after, (readSharedTexts narrow items.length).run (payloadAt (others.foldr SharedItem.laid place)) ≠
        .ok (others.map SharedItem.text, after) := by
  induction items with
  | nil => exact absurd (List.forall_mem_nil _) not_kept
  | cons item items ih =>
    obtain ⟨item_legal, rest_legal⟩ := List.forall_mem_cons.mp legal
    by_cases item_kept : item.Kept
    · have rest_not_kept : ¬ ∀ item ∈ items, item.Kept :=
        fun rest_kept => not_kept (List.forall_mem_cons.mpr ⟨item_kept, rest_kept⟩)
      obtain ⟨others, others_legal, same_shapes, misread⟩ := ih rest_legal rest_not_kept
      refine ⟨item :: others, List.forall_mem_cons.mpr ⟨item_legal, others_legal⟩, ?_, ?_⟩
      · rw [List.map_cons, List.map_cons, same_shapes]
      · intro after read
        obtain ⟨text, rest, middle, texts, first_read, rest_read⟩ := run_readSharedTexts_succ read
        rw [List.foldr_cons, SharedItem.run_readSharedText_kept item_legal item_kept] at first_read
        cases first_read
        rw [← (List.cons.inj texts).2] at rest_read
        exact misread after rest_read
    · obtain ⟨other, other_legal, same_shape, misread⟩ :=
        SharedItem.exists_misread item_legal item_kept (items.foldr SharedItem.laid place)
      refine ⟨other :: items, List.forall_mem_cons.mpr ⟨other_legal, rest_legal⟩, ?_, ?_⟩
      · rw [List.map_cons, List.map_cons, same_shape]
      · intro after read
        obtain ⟨text, rest, middle, texts, first_read, -⟩ := run_readSharedTexts_succ read
        rw [← (List.cons.inj texts).1] at first_read
        exact misread middle first_read

theorem run_readSharedTable (few : items.length < 256 ^ 4) (uses : Nat) (place : List UInt8 × Payload) :
    (readSharedTable narrow).run (storedTable uses items place) =
      (readSharedTexts narrow items.length).run (payloadAt (items.foldr SharedItem.laid place)) := by
  rw [storedTable]
  generalize items.foldr SharedItem.laid place = texts
  have uses_passed : (skip 4).run (spread texts.1 texts.2 (four uses ++ four items.length) []) =
      .ok ((), spread texts.1 texts.2 (four items.length) []) := by
    have taken : takeBytes (four uses).length (spread texts.1 texts.2 (four uses ++ four items.length) []) =
        (four uses, spread texts.1 texts.2 (four items.length) []) := takeBytes_spread []
    have length : (four uses).length = 4 := rfl
    rw [length] at taken
    rw [run_skip, taken, if_pos length]
  have counted : (readNumber 4).run (spread texts.1 texts.2 (four items.length ++ []) []) =
      .ok (Binary.number (four items.length), spread texts.1 texts.2 [] []) := run_readNumber_spread _ [] rfl
  show (readSharedTable narrow).run (spread texts.1 texts.2 (four uses ++ four items.length) []) = _
  rw [readSharedTable, run_bind_of_ok uses_passed, ← List.append_nil (four items.length), run_bind_of_ok counted,
    number_four few]
  rfl

/-- The tables of a shape are all read right, each of its texts and nothing behind them, exactly if every text keeps to
the pieces. -/
theorem readSharedTable_eq_iff (legal : ∀ item ∈ items, item.Legal narrow) (few : items.length < 256 ^ 4) (uses : Nat)
    (place : List UInt8 × Payload) :
    (∀ others : List SharedItem, (∀ other ∈ others, other.Legal narrow) →
        others.map SharedItem.shape = items.map SharedItem.shape →
        (readSharedTable narrow).run (storedTable uses others place) =
          .ok (others.map SharedItem.text, payloadAt place)) ↔
      ∀ item ∈ items, item.Kept := by
  constructor
  · intro right
    by_contra not_kept
    obtain ⟨others, others_legal, same_shapes, misread⟩ := exists_misread_table legal not_kept place
    have same_length : others.length = items.length := by simpa using congrArg List.length same_shapes
    have read := right others others_legal same_shapes
    rw [run_readSharedTable (by rwa [same_length]), same_length] at read
    exact misread _ read
  · intro kept others others_legal same_shapes
    have same_length : others.length = items.length := by simpa using congrArg List.length same_shapes
    have others_kept : ∀ other ∈ others, other.Kept := by
      intro other member
      have shape_member : other.shape ∈ items.map SharedItem.shape := by
        rw [← same_shapes]
        exact List.mem_map_of_mem member
      obtain ⟨item, item_member, same_shape⟩ := List.mem_map.mp shape_member
      exact SharedItem.kept_of_shape same_shape.symm (kept item item_member)
    rw [run_readSharedTable (by rwa [same_length])]
    exact run_readSharedTexts_kept others_legal others_kept place

/-- A text whose two runs end a piece, one whose run begins a piece and is followed by a guide, and one in two fragments
that carries nothing. -/
def keptItems : List SharedItem :=
  [⟨"ab", ⟨8, [0x61, 0x62]⟩, [], [[0, 0, 5, 0, 1, 0, 6, 0], []], []⟩,
    ⟨"검", ⟨13, [0xac80]⟩, [], [[], [0, 0, 5, 0]], [[1, 2, 3]]⟩,
    ⟨"cd", ⟨0, [0x63]⟩, [⟨1, [0x64]⟩], [], []⟩]

theorem legal_keptItems : ∀ item ∈ keptItems, item.Legal (.utf16 .little) := by
  refine List.forall_mem_cons.mpr ⟨?_, List.forall_mem_cons.mpr ⟨?_, List.forall_mem_cons.mpr ⟨?_, List.forall_mem_nil _⟩⟩⟩
  · refine ⟨by simp, by decide, by decide, ?_, by simp, by decide, by decide, by decide, by decide, by decide⟩
    exact List.forall_mem_singleton.mpr ⟨by decide, fun _ => rfl, by decide⟩
  · refine ⟨by simp, by decide, by decide, ?_, by simp, by decide, by decide, by decide, by decide, by decide⟩
    exact List.forall_mem_singleton.mpr ⟨by decide, fun _ => rfl, by decide⟩
  · refine ⟨by simp, by decide, by decide, ?_, by simp, by decide, by decide, by decide, by decide, by decide⟩
    exact List.forall_mem_cons.mpr ⟨⟨by decide, fun _ => rfl, by decide⟩,
      List.forall_mem_singleton.mpr ⟨by decide, fun _ => rfl, by decide⟩⟩

theorem readSharedTable_kept :
    (∀ item ∈ keptItems, item.Legal (.utf16 .little)) ∧ keptItems.length < 256 ^ 4 ∧
      (readSharedTable (.utf16 .little)).run (storedTable 9 keptItems ([7], [])) = .ok (["ab", "검", "cd"], [[7]]) := by
  have kept : ∀ item ∈ keptItems, item.Kept := by
    refine List.forall_mem_cons.mpr ⟨?_, List.forall_mem_cons.mpr ⟨?_, List.forall_mem_cons.mpr ⟨?_, List.forall_mem_nil _⟩⟩⟩
    · exact ⟨Or.inl rfl, Or.inr (by decide), Or.inl rfl⟩
    · exact ⟨Or.inl rfl, Or.inr (by decide), Or.inr (by decide)⟩
    · exact ⟨Or.inr ⟨rfl, rfl⟩, Or.inl rfl, Or.inl rfl⟩
  refine ⟨legal_keptItems, by decide, ?_⟩
  exact (readSharedTable_eq_iff legal_keptItems (by decide) 9 ([7], [])).mpr kept keptItems legal_keptItems rfl

/-- A text with a run whose characters are cut. -/
def cutCharacters : SharedItem :=
  ⟨"abcd", ⟨8, [0x61, 0x62]⟩, [⟨0, [0x63, 0x64]⟩], [[1, 0, 5, 0]], []⟩

/-- A text whose run is cut. -/
def cutRun : SharedItem :=
  ⟨"ab", ⟨8, [0x61, 0x62]⟩, [], [[1, 0], [5, 0]], []⟩

/-- Behind the first fragment four bytes are passed over, with the characters of the second among them, so that the end
of the run is read as text; and a run that is cut is refused. -/
theorem readSharedTable_misreads :
    cutCharacters.Legal (.utf16 .little) ∧ cutRun.Legal (.utf16 .little) ∧
      (readSharedTable (.utf16 .little)).run (storedTable 1 [cutCharacters] ([], [])) = .ok (["ab\x05\x00"], []) ∧
      ["ab\x05\x00"] ≠ [cutCharacters].map SharedItem.text ∧
      (readSharedTable (.utf16 .little)).run (storedTable 1 [cutRun] ([], [])) = .error ⟨4⟩ := by
  refine ⟨?_, ?_, by decide +kernel, by decide, by decide +kernel⟩
  · refine ⟨by simp [cutCharacters], by decide, by decide, ?_, by simp [cutCharacters], by decide, by decide, by decide, by decide, by decide⟩
    exact List.forall_mem_cons.mpr ⟨⟨by decide, fun _ => rfl, by decide⟩,
      List.forall_mem_singleton.mpr ⟨by decide, fun _ => rfl, by decide⟩⟩
  · refine ⟨by simp [cutRun], by decide, by decide, ?_, by simp [cutRun], by decide, by decide, by decide, by decide, by decide⟩
    exact List.forall_mem_singleton.mpr ⟨by decide, fun _ => rfl, by decide⟩

end Tablesmith.Biff
