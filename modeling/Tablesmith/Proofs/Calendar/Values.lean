import Mathlib
import Tablesmith.PropertyType
import Tablesmith.Proofs.Calendar.DayCount

/-!
# Dates and times as values

A text is a date and a time, or a time, exactly if it is how one is written. Whoever reads
more spellings and writes what was read again accepts the same texts
(`accepts_renderings`), and no two of them say the same.
-/

namespace Tablesmith.Calendar

namespace Clock

variable {clock other : Clock}

/-- The seconds since midnight. -/
def seconds (clock : Clock) : Nat :=
  3600 * clock.hour + 60 * clock.minute + clock.second

theorem seconds_ofSeconds (count : Nat) : (ofSeconds count).seconds = count := by
  show 3600 * (count / 3600) + 60 * (count / 60 % 60) + count % 60 = count
  omega

theorem isValid_ofSeconds {count : Nat} (within : count < 86400) : (ofSeconds count).isValid = true := by
  rw [isValid_iff]
  show count / 3600 < 24 ∧ count / 60 % 60 < 60 ∧ count % 60 < 60
  omega

theorem seconds_lt (valid : clock.isValid = true) : clock.seconds < 86400 := by
  have bounds := isValid_iff.mp valid
  unfold seconds
  omega

theorem seconds_inj (valid : clock.isValid = true) (other_valid : other.isValid = true) (same : clock.seconds = other.seconds) :
    clock = other := by
  have bounds := isValid_iff.mp valid
  have other_bounds := isValid_iff.mp other_valid
  unfold seconds at same
  have hours : clock.hour = other.hour := by omega
  have minutes : clock.minute = other.minute := by omega
  have seconds : clock.second = other.second := by omega
  cases clock
  cases other
  simp_all

theorem text_inj (valid : clock.isValid = true) (other_valid : other.isValid = true) (same : clock.text = other.text) :
    clock = other := by
  have read := read?_text valid
  rw [same, read?_text other_valid] at read
  exact (Option.some.inj read).symm

end Clock

namespace Moment

variable {moment other : Moment}

/-- The seconds since the beginning of 1899-12-30. -/
def instant (moment : Moment) : Int :=
  86400 * moment.date.dayNumber + moment.clock.seconds

theorem IsValid.exists (valid : moment.IsValid) : moment.date.Exists :=
  (Date.isValid_iff.mp valid.1).2

theorem instant_inj (valid : moment.IsValid) (other_valid : other.IsValid) (same : moment.instant = other.instant) :
    moment = other := by
  have within := Clock.seconds_lt valid.2
  have other_within := Clock.seconds_lt other_valid.2
  unfold instant at same
  have dates : moment.date = other.date := Date.dayNumber_inj valid.exists other_valid.exists (by omega)
  have clocks : moment.clock = other.clock := Clock.seconds_inj valid.2 other_valid.2 (by omega)
  cases moment
  cases other
  simp_all

theorem text_inj (valid : moment.IsValid) (other_valid : other.IsValid) (same : moment.text = other.text) : moment = other := by
  have read := read?_eq_some_iff.mpr ⟨valid, rfl⟩
  have other_read := read?_eq_some_iff.mpr ⟨other_valid, same⟩
  exact Option.some.inj (read.symm.trans other_read)

end Moment

end Tablesmith.Calendar

namespace Tablesmith.PropertyType

open Calendar

variable {text : String}

theorem accepts_dateTime_iff : dateTime.accepts text = true ↔ ∃ moment : Moment, moment.IsValid ∧ text = moment.text := by
  simp only [accepts, Option.isSome_iff_exists, Moment.read?_eq_some_iff]

theorem accepts_timeSpan_iff : timeSpan.accepts text = true ↔ ∃ clock : Clock, clock.isValid = true ∧ text = clock.text := by
  simp only [accepts, Option.isSome_iff_exists, Clock.read?_eq_some_iff]

/-- To read with more tolerance and to compare with what is written again makes no difference. -/
theorem read_back_iff {Value : Type} {valid : Value → Prop} {written : Value → String} {read : String → Option Value}
    (reads : ∀ value, valid value → read (written value) = some value) :
    (∃ value, read text = some value ∧ valid value ∧ written value = text) ↔ ∃ value, valid value ∧ text = written value := by
  constructor
  · rintro ⟨value, _, is_valid, same⟩
    exact ⟨value, is_valid, same.symm⟩
  · rintro ⟨value, is_valid, rfl⟩
    exact ⟨value, reads value is_valid, is_valid, rfl⟩

/-- Dates and times are accepted exactly as they are written, and no instant is written in two ways. It does not matter
which other spellings are read as long as what was read is written again and compared. -/
theorem accepts_renderings :
    (∀ text, (dateTime.accepts text = true ↔ ∃ moment : Moment, moment.IsValid ∧ text = moment.text) ∧
      (timeSpan.accepts text = true ↔ ∃ clock : Clock, clock.isValid = true ∧ text = clock.text)) ∧
    (∀ moment other : Moment, moment.IsValid → other.IsValid → (moment.text = other.text ↔ moment.instant = other.instant)) ∧
    (∀ clock other : Clock, clock.isValid = true → other.isValid = true → (clock.text = other.text ↔ clock.seconds = other.seconds)) ∧
    (∀ read : String → Option Moment, (∀ moment : Moment, moment.IsValid → read moment.text = some moment) → ∀ text,
      (dateTime.accepts text = true ↔ ∃ moment, read text = some moment ∧ moment.IsValid ∧ moment.text = text)) ∧
    ∀ read : String → Option Clock, (∀ clock : Clock, clock.isValid = true → read clock.text = some clock) → ∀ text,
      (timeSpan.accepts text = true ↔ ∃ clock, read text = some clock ∧ clock.isValid = true ∧ clock.text = text) := by
  refine ⟨fun text => ⟨accepts_dateTime_iff, accepts_timeSpan_iff⟩, fun moment other valid other_valid => ⟨fun same => ?_, fun same => ?_⟩,
    fun clock other valid other_valid => ⟨fun same => ?_, fun same => ?_⟩, fun read reads text => ?_, fun read reads text => ?_⟩
  · rw [Moment.text_inj valid other_valid same]
  · rw [Moment.instant_inj valid other_valid same]
  · rw [Clock.text_inj valid other_valid same]
  · rw [Clock.seconds_inj valid other_valid same]
  · exact accepts_dateTime_iff.trans (read_back_iff reads).symm
  · exact accepts_timeSpan_iff.trans (read_back_iff reads).symm

/-- Reads a time with too few digits and a leap second as well. -/
def readTolerantly (text : String) : Option Clock :=
  if text = "1:02:03" then some ⟨1, 2, 3⟩
  else if text = "23:59:60" then some ⟨23, 59, 60⟩
  else Clock.read? text

theorem readTolerantly_text {clock : Clock} (valid : clock.isValid = true) : readTolerantly clock.text = some clock := by
  have read := Clock.read?_text valid
  unfold readTolerantly
  split_ifs with short leap
  · rw [short] at read
    exact absurd read (by rw [show Clock.read? "1:02:03" = none by decide]; exact nofun)
  · rw [leap] at read
    exact absurd read (by rw [show Clock.read? "23:59:60" = none by decide]; exact nofun)
  · exact read

/-- A leap day is accepted; a leap second is not, though it would be written again as it was read. -/
theorem accepts_renderings_tolerantly :
    (∀ clock : Clock, clock.isValid = true → readTolerantly clock.text = some clock) ∧
      readTolerantly "23:59:60" = some ⟨23, 59, 60⟩ ∧ (Clock.mk 23 59 60).text = "23:59:60" ∧
      timeSpan.accepts "23:59:60" = false ∧ dateTime.accepts "2024-02-29 23:59:59" = true := by
  have reads : ∀ clock : Clock, clock.isValid = true → readTolerantly clock.text = some clock :=
    fun clock valid => readTolerantly_text valid
  have leap_read : readTolerantly "23:59:60" = some ⟨23, 59, 60⟩ := by decide
  obtain ⟨renderings, -, -, -, tolerant⟩ := accepts_renderings
  refine ⟨reads, leap_read, by decide, ?_, ?_⟩
  · rw [← Bool.not_eq_true, tolerant readTolerantly reads]
    rintro ⟨clock, read, valid, -⟩
    cases leap_read.symm.trans read
    cases valid
  · have leap_day : (Moment.mk ⟨2024, 2, 29⟩ ⟨23, 59, 59⟩).IsValid := ⟨by decide, by decide⟩
    exact (renderings _).1.mpr ⟨_, leap_day, by decide⟩

end Tablesmith.PropertyType
