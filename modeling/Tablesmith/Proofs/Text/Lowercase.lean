import Mathlib
import Tablesmith.Proofs.Text.Trim
import Tablesmith.Text.Lowercase

/-!
# Small letters

A text in small letters is left as it is by a second pass (`toLowercase_toLowercase`), although the
small form of a sigma depends on what stands around it: the letters that are written have no small
form of their own. Nor is there white space among them that was not there before.

Of all characters only the ASCII letters and the sign of the kelvin have small letters that are ASCII.
So a word of ASCII letters but `k` is spelled by the same texts under the full rule and under the one
that knows ASCII alone (`toLowercase_eq_iff`).
-/

namespace Tablesmith.Text

variable {c d : Char} {before after chars : List Char} {text : String} {run other : CapitalRun} {code low high : Nat}

namespace CapitalRun

/-- The code point of the small letter of the run's first capital. -/
def firstSmall (run : CapitalRun) : Nat :=
  ((run.first : Int) + run.distance).toNat

/-- The code point of the small letter of the run's last capital. -/
def lastSmall (run : CapitalRun) : Nat :=
  ((run.last : Int) + run.distance).toNat

/-- The code point of the small letter of a capital of the run. -/
def small (run : CapitalRun) (code : Nat) : Nat :=
  ((code : Int) + run.distance).toNat

/-- No small letter of the run is a code point from `low` to `high`. -/
def isBeside (run : CapitalRun) (low high : Nat) : Bool :=
  run.lastSmall < low || high < run.firstSmall

/-- No small letter of the run is a capital of the other one: it is beside the other run, or it falls between the capitals
there, of which only every second code point is one. -/
def avoids (run other : CapitalRun) : Bool :=
  run.isBeside other.first other.last ||
    other.step == 2 && (run.step == 2 || run.first == run.last) && 0 < run.firstSmall &&
      (run.firstSmall + other.first) % 2 == 1

/-- The small letters of the run are characters, and none of them is a dotted capital, white space or a capital. -/
def isProper (run : CapitalRun) : Bool :=
  run.lastSmall < 0x110000 && run.isBeside 0xd800 0xdfff && run.isBeside 'İ'.toNat 'İ'.toNat &&
    blankRanges.all (fun range => run.isBeside range.1 range.2) && capitalRuns.all run.avoids

theorem contains_iff : run.contains code = true ↔ run.first ≤ code ∧ code ≤ run.last ∧ (code - run.first) % run.step = 0 := by
  simp only [contains, Bool.and_eq_true, decide_eq_true_eq, beq_iff_eq, and_assoc]

theorem small_between (within : run.contains code = true) : run.firstSmall ≤ run.small code ∧ run.small code ≤ run.lastSmall := by
  obtain ⟨low, high, _⟩ := contains_iff.mp within
  unfold firstSmall lastSmall small
  omega

theorem not_between_of_isBeside (beside : run.isBeside low high = true) (within : run.contains code = true) :
    run.small code < low ∨ high < run.small code := by
  have between := small_between within
  simp only [isBeside, Bool.or_eq_true, decide_eq_true_eq] at beside
  omega

theorem not_contains_of_avoids (avoids : run.avoids other = true) (within : run.contains code = true) :
    other.contains (run.small code) = false := by
  rw [Bool.eq_false_iff, Ne, contains_iff]
  rintro ⟨low, high, on_step⟩
  rw [CapitalRun.avoids, Bool.or_eq_true] at avoids
  rcases avoids with beside | between
  · have apart := not_between_of_isBeside beside within
    omega
  · simp only [Bool.and_eq_true, Bool.or_eq_true, beq_iff_eq, decide_eq_true_eq] at between
    obtain ⟨⟨⟨other_step, steady⟩, positive⟩, odd⟩ := between
    obtain ⟨from_first, to_last, run_step⟩ := contains_iff.mp within
    rw [other_step] at on_step
    have same_parity : (run.small code + run.firstSmall) % 2 = 0 := by
      unfold small firstSmall at *
      rcases steady with two | single
      · rw [two] at run_step
        omega
      · omega
    omega

end CapitalRun

/-- Run by run, each against all others. -/
theorem capitalRuns_proper : ∀ run ∈ capitalRuns, run.isProper = true :=
  List.all_eq_true.mp (by decide +kernel)

/-- The character is written where small letters are asked for. -/
structure IsSmall (c : Char) : Prop where
  no_sigma : c ≠ 'Σ'
  no_dotted : c ≠ 'İ'
  kept : smallLetter c = c

theorem smallLetter_eq (c : Char) : (∀ run ∈ capitalRuns, run.contains c.toNat = false) ∧ smallLetter c = c ∨
    ∃ run ∈ capitalRuns, run.contains c.toNat = true ∧ (smallLetter c).toNat = run.small c.toNat := by
  unfold smallLetter
  split
  · next run found =>
    have listed := List.mem_of_find?_eq_some found
    have within := List.find?_some found
    refine .inr ⟨run, listed, within, ?_⟩
    have proper := capitalRuns_proper run listed
    simp only [CapitalRun.isProper, Bool.and_eq_true, decide_eq_true_eq] at proper
    obtain ⟨⟨⟨⟨in_range, no_surrogate⟩, _⟩, _⟩, _⟩ := proper
    have between := CapitalRun.small_between within
    have apart := CapitalRun.not_between_of_isBeside no_surrogate within
    have valid : (run.small c.toNat).isValidChar := by
      unfold Nat.isValidChar
      omega
    exact congrArg Char.toNat (dif_pos valid)
  · next missing =>
    refine .inl ⟨fun run listed => ?_, rfl⟩
    simpa using List.find?_eq_none.mp missing run listed

theorem smallLetter_of_no_capital (no_capital : ∀ run ∈ capitalRuns, run.contains c.toNat = false) : smallLetter c = c := by
  unfold smallLetter
  rw [List.find?_eq_none.mpr (by simpa using no_capital)]

/-- A small letter has no small letter but itself. -/
theorem smallLetter_smallLetter (c : Char) : smallLetter (smallLetter c) = smallLetter c := by
  rcases smallLetter_eq c with ⟨_, same⟩ | ⟨run, listed, within, small⟩
  · rw [same, same]
  · refine smallLetter_of_no_capital fun other other_listed => ?_
    have proper := capitalRuns_proper run listed
    simp only [CapitalRun.isProper, Bool.and_eq_true, List.all_eq_true] at proper
    rw [small]
    exact CapitalRun.not_contains_of_avoids (proper.2 other other_listed) within

theorem isBlank_smallLetter (filled : isBlank c = false) : isBlank (smallLetter c) = false := by
  rcases smallLetter_eq c with ⟨_, same⟩ | ⟨run, listed, within, small⟩
  · rwa [same]
  · have proper := capitalRuns_proper run listed
    simp only [CapitalRun.isProper, Bool.and_eq_true, List.all_eq_true] at proper
    obtain ⟨⟨_, no_blank⟩, _⟩ := proper
    rw [isBlank, CharRanges.contains, List.any_eq_false]
    intro range range_listed
    have apart := CapitalRun.not_between_of_isBeside (no_blank range range_listed) within
    simp only [small, Bool.and_eq_true, decide_eq_true_eq]
    omega

theorem isSmall_smallLetter (no_dotted : c ≠ 'İ') : IsSmall (smallLetter c) where
  no_sigma := by
    intro sigma
    have kept := smallLetter_smallLetter c
    rw [sigma] at kept
    exact absurd kept (by decide +kernel)
  no_dotted := by
    rcases smallLetter_eq c with ⟨_, same⟩ | ⟨run, listed, within, small⟩
    · rwa [same]
    · have proper := capitalRuns_proper run listed
      simp only [CapitalRun.isProper, Bool.and_eq_true] at proper
      obtain ⟨⟨⟨_, no_capital⟩, _⟩, _⟩ := proper
      have apart := CapitalRun.not_between_of_isBeside no_capital within
      intro dotted
      rw [dotted] at small
      omega
  kept := smallLetter_smallLetter c

theorem isSmall_of_mem_lowerChar (written : d ∈ lowerChar before c after) : IsSmall d := by
  unfold lowerChar at written
  split_ifs at written with sigma final dotted
  · rw [List.mem_singleton.mp written]
    exact ⟨by decide, by decide, by decide +kernel⟩
  · rw [List.mem_singleton.mp written]
    exact ⟨by decide, by decide, by decide +kernel⟩
  · rcases List.mem_cons.mp written with rfl | written
    · exact ⟨by decide, by decide, by decide +kernel⟩
    · rw [List.mem_singleton.mp written]
      exact ⟨by decide, by decide, by decide +kernel⟩
  · rw [List.mem_singleton.mp written]
    exact isSmall_smallLetter (by simpa using dotted)

theorem isBlank_of_mem_lowerChar (filled : isBlank c = false) (written : d ∈ lowerChar before c after) : isBlank d = false := by
  unfold lowerChar at written
  split_ifs at written with sigma final dotted
  · rw [List.mem_singleton.mp written]
    decide
  · rw [List.mem_singleton.mp written]
    decide
  · rcases List.mem_cons.mp written with rfl | written
    · decide
    · rw [List.mem_singleton.mp written]
      decide
  · rw [List.mem_singleton.mp written]
    exact isBlank_smallLetter filled

theorem lowerChar_ne_nil : lowerChar before c after ≠ [] := by
  unfold lowerChar
  split_ifs <;> exact List.cons_ne_nil _ _

theorem lowerChar_of_isSmall (small : IsSmall c) : lowerChar before c after = [c] := by
  unfold lowerChar
  rw [if_neg (by simpa using small.no_sigma), if_neg (by simpa using small.no_dotted), small.kept]

theorem isSmall_of_mem_lowerFrom (written : d ∈ lowerFrom before chars) : IsSmall d := by
  induction chars generalizing before with
  | nil => cases written
  | cons c after ih =>
    rcases List.mem_append.mp written with here | later
    · exact isSmall_of_mem_lowerChar here
    · exact ih later

theorem lowerFrom_of_isSmall (small : ∀ c ∈ chars, IsSmall c) : lowerFrom before chars = chars := by
  induction chars generalizing before with
  | nil => rfl
  | cons c after ih =>
    obtain ⟨first, others⟩ := List.forall_mem_cons.mp small
    rw [lowerFrom, lowerChar_of_isSmall first, ih others, List.singleton_append]

theorem toList_toLowercase (text : String) : (toLowercase text).toList = lowerFrom [] text.toList :=
  String.toList_ofList

/-- A text in small letters is left as it is. -/
theorem toLowercase_toLowercase (text : String) : toLowercase (toLowercase text) = toLowercase text := by
  rw [← String.toList_inj, toList_toLowercase]
  refine lowerFrom_of_isSmall fun c written => ?_
  rw [toList_toLowercase] at written
  exact isSmall_of_mem_lowerFrom written

theorem smallLetter_of_ascii (ascii : c.toNat < 128) : smallLetter c = c.toLower := by
  have all : ∀ code < 128, smallLetter (Char.ofNat code) = (Char.ofNat code).toLower := by decide +kernel
  simpa only [Char.ofNat_toNat] using all c.toNat ascii

/-- The small letters of a run are no ASCII characters, unless its capitals are, or its small letter is that of the sign
of the kelvin. -/
theorem capitalRuns_ascii : ∀ run ∈ capitalRuns,
    (run.isBeside 0 127 || run.last < 128 || run.firstSmall == 'k'.toNat && run.lastSmall == 'k'.toNat) = true :=
  List.all_eq_true.mp (by decide +kernel)

/-- A character with an ASCII small letter other than `k` is ASCII itself. -/
theorem ascii_of_smallLetter (ascii : (smallLetter c).toNat < 128) (no_kelvin : smallLetter c ≠ 'k') : c.toNat < 128 := by
  rcases smallLetter_eq c with ⟨_, same⟩ | ⟨run, listed, within, small⟩
  · rwa [same] at ascii
  · have kinds := capitalRuns_ascii run listed
    simp only [Bool.or_eq_true, Bool.and_eq_true, decide_eq_true_eq, beq_iff_eq] at kinds
    rcases kinds with (beside | capital) | ⟨first, last⟩
    · have apart := CapitalRun.not_between_of_isBeside beside within
      omega
    · exact lt_of_le_of_lt (CapitalRun.contains_iff.mp within).2.1 capital
    · have between := CapitalRun.small_between within
      have kelvin : (smallLetter c).toNat = 'k'.toNat := by omega
      exact absurd (Char.toNat_inj.mp kelvin) no_kelvin

theorem ascii_of_toLower (ascii : c.toLower.toNat < 128) : c.toNat < 128 := by
  rw [toNat_toLower] at ascii
  split at ascii <;> omega

theorem lowerChar_of_ascii (ascii : c.toNat < 128) : lowerChar before c after = [c.toLower] := by
  have no_sigma : c ≠ 'Σ' := by
    rintro rfl
    exact absurd ascii (by decide)
  have no_dotted : c ≠ 'İ' := by
    rintro rfl
    exact absurd ascii (by decide)
  unfold lowerChar
  rw [if_neg (by simpa using no_sigma), if_neg (by simpa using no_dotted), smallLetter_of_ascii ascii]

/-- A character that is written with ASCII letters but `k` is ASCII itself. -/
theorem ascii_of_lowerChar (plain : ∀ d ∈ lowerChar before c after, d.toNat < 128 ∧ d ≠ 'k') : c.toNat < 128 := by
  unfold lowerChar at plain
  split_ifs at plain with sigma final dotted
  · exact absurd (plain 'ς' List.mem_cons_self).1 (by decide)
  · exact absurd (plain 'σ' List.mem_cons_self).1 (by decide)
  · exact absurd (plain '\u0307' (List.mem_cons_of_mem _ List.mem_cons_self)).1 (by decide)
  · obtain ⟨ascii, no_kelvin⟩ := plain (smallLetter c) List.mem_cons_self
    exact ascii_of_smallLetter ascii no_kelvin

theorem lowerFrom_eq_iff {word : List Char} (plain : ∀ d ∈ word, d.toNat < 128 ∧ d ≠ 'k') :
    lowerFrom before chars = word ↔ chars.map Char.toLower = word := by
  induction chars generalizing before word with
  | nil => exact Iff.rfl
  | cons c after ih =>
    rw [lowerFrom, List.map_cons]
    constructor
    · rintro rfl
      obtain ⟨here, later⟩ := List.forall_mem_append.mp plain
      rw [(ih later).mp rfl, lowerChar_of_ascii (ascii_of_lowerChar here), List.singleton_append]
    · rintro rfl
      obtain ⟨here, later⟩ := List.forall_mem_cons.mp plain
      rw [(ih later).mpr rfl, lowerChar_of_ascii (ascii_of_toLower here.1), List.singleton_append]

/-- To a word of ASCII letters but `k` it makes no difference which rule a text is put in small letters by. -/
theorem toLowercase_eq_iff {word : String} (plain : ∀ c ∈ word.toList, c.toLower.toNat < 128 ∧ c.toLower ≠ 'k') :
    toLowercase word = toLowercase text ↔ sameAscii word text = true := by
  have plain_small : ∀ d ∈ word.toList.map Char.toLower, d.toNat < 128 ∧ d ≠ 'k' := List.forall_mem_map.mpr plain
  rw [← String.toList_inj, toList_toLowercase, toList_toLowercase, sameAscii_iff, (lowerFrom_eq_iff plain_small).mpr rfl,
    eq_comm, lowerFrom_eq_iff plain_small, eq_comm]

/-- There is no white space at either end. -/
def IsTrimmed (chars : List Char) : Prop :=
  (∀ c ∈ chars.head?, isBlank c = false) ∧ ∀ c ∈ chars.getLast?, isBlank c = false

theorem isTrimmed_lowerFrom (trimmed : IsTrimmed chars) : IsTrimmed (lowerFrom before chars) := by
  obtain ⟨starts, ends⟩ := trimmed
  constructor
  · cases chars with
    | nil => exact starts
    | cons c after =>
      intro d first
      have written : (lowerChar before c after).head? = some d := by
        rwa [lowerFrom, Option.mem_def, List.head?_append_of_ne_nil _ lowerChar_ne_nil] at first
      exact isBlank_of_mem_lowerChar (starts c rfl) (List.mem_of_mem_head? written)
  · clear starts
    induction chars generalizing before with
    | nil => exact ends
    | cons c after ih =>
      intro d last
      cases after with
      | nil =>
        have written : d ∈ lowerChar before c [] := by
          rw [lowerFrom, lowerFrom, List.append_nil] at last
          exact List.mem_of_mem_getLast? last
        exact isBlank_of_mem_lowerChar (ends c rfl) written
      | cons next others =>
        have later : d ∈ (lowerFrom (c :: before) (next :: others)).getLast? := by
          have filled : lowerFrom (c :: before) (next :: others) ≠ [] := by
            rw [lowerFrom]
            exact List.append_ne_nil_of_left_ne_nil lowerChar_ne_nil _
          rwa [lowerFrom, List.getLast?_append_of_ne_nil _ filled] at last
        exact ih (by simpa using ends) d later

theorem isTrimmed_trim (text : String) : IsTrimmed (trim text).toList := by
  rw [trim, String.toList_ofList]
  constructor
  · intro c first
    have start : c ∈ (dropBlankStart text.toList).head? := by
      rw [← dropBlankEnd_append_eq (dropBlankStart text.toList)]
      obtain ⟨others, parts⟩ := List.head?_eq_some_iff.mp first
      rw [parts]
      rfl
    have kept := List.head?_dropWhile_not isBlank text.toList
    rw [dropBlankStart] at start
    rw [start] at kept
    simpa using kept
  · intro c last
    rw [dropBlankEnd, List.getLast?_reverse] at last
    have kept := List.head?_dropWhile_not isBlank (dropBlankStart text.toList).reverse
    rw [last] at kept
    simpa using kept

theorem trim_of_isTrimmed (trimmed : IsTrimmed text.toList) : trim text = text := by
  have starts : dropBlankStart text.toList = text.toList := by
    rw [dropBlankStart]
    generalize text.toList = chars at trimmed
    cases chars with
    | nil => rfl
    | cons c chars => rw [List.dropWhile_cons, trimmed.1 c rfl, if_neg Bool.false_ne_true]
  have ends : dropBlankEnd text.toList = text.toList := by
    have last := trimmed.2
    rw [← List.head?_reverse] at last
    rw [dropBlankEnd, List.reverse_eq_iff]
    generalize text.toList.reverse = chars at last
    cases chars with
    | nil => rfl
    | cons c chars => rw [List.dropWhile_cons, last c rfl, if_neg Bool.false_ne_true]
  rw [trim, starts, ends, String.ofList_toList]

end Tablesmith.Text
