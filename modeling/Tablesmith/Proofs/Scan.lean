import Mathlib
import Tablesmith.Proofs.Steps

/-!
# Scans

A scan visits places one after the other and stops at the first that offends, with what
is wrong there. A scan that is put together from others visits their places in turn, as
far as the ones before let it (`Reports.bind`, `Scans.bind`).
-/

namespace Tablesmith

variable {ι ε σ α β : Type} {offends : ι → ε → Prop} {place : ι} {places front back : List ι} {reason : ε}

/-- One of the places offends for the reason, and none before it does for any. -/
def FirstOffence (offends : ι → ε → Prop) (places : List ι) (reason : ε) : Prop :=
  ∃ before place after, places = before ++ place :: after ∧ (∀ earlier ∈ before, ∀ other, ¬ offends earlier other) ∧
    offends place reason

theorem not_firstOffence_nil : ¬ FirstOffence offends [] reason := by
  rintro ⟨before, place, after, split, -⟩
  simp at split

theorem firstOffence_cons_iff : FirstOffence offends (place :: places) reason ↔
    offends place reason ∨ (∀ other, ¬ offends place other) ∧ FirstOffence offends places reason := by
  constructor
  · rintro ⟨before, found, after, split, clear, wrong⟩
    cases before with
    | nil =>
      obtain ⟨rfl, -⟩ := List.cons.inj split
      exact .inl wrong
    | cons _ before =>
      obtain ⟨rfl, rfl⟩ := List.cons.inj split
      obtain ⟨first_clear, clear⟩ := List.forall_mem_cons.mp clear
      exact .inr ⟨first_clear, before, found, after, rfl, clear, wrong⟩
  · rintro (wrong | ⟨first_clear, before, found, after, rfl, clear, wrong⟩)
    · exact ⟨[], place, places, rfl, List.forall_mem_nil _, wrong⟩
    · exact ⟨place :: before, found, after, rfl, List.forall_mem_cons.mpr ⟨first_clear, clear⟩, wrong⟩

theorem firstOffence_singleton_iff : FirstOffence offends [place] reason ↔ offends place reason := by
  simp [firstOffence_cons_iff, not_firstOffence_nil]

theorem FirstOffence.not_clear (found : FirstOffence offends places reason) :
    ¬ ∀ place ∈ places, ∀ other, ¬ offends place other := by
  obtain ⟨before, place, after, rfl, -, wrong⟩ := found
  intro clear
  exact clear place (List.mem_append_right _ List.mem_cons_self) reason wrong

theorem firstOffence_append_iff : FirstOffence offends (front ++ back) reason ↔ FirstOffence offends front reason ∨
    (∀ place ∈ front, ∀ other, ¬ offends place other) ∧ FirstOffence offends back reason := by
  induction front with
  | nil => simp [not_firstOffence_nil]
  | cons place front ih =>
    rw [List.cons_append, firstOffence_cons_iff, firstOffence_cons_iff, ih, List.forall_mem_cons]
    tauto

theorem firstOffence_map_iff {κ : Type} {visit : κ → ι} {items : List κ} :
    FirstOffence offends (items.map visit) reason ↔ FirstOffence (fun item => offends (visit item)) items reason := by
  induction items with
  | nil => simp [not_firstOffence_nil]
  | cons item items ih => rw [List.map_cons, firstOffence_cons_iff, firstOffence_cons_iff, ih]

/-- Where a place offends one is the first. -/
theorem exists_firstOffence (offending : ∃ place ∈ places, ∃ reason, offends place reason) :
    ∃ reason, FirstOffence offends places reason := by
  induction places with
  | nil => simp at offending
  | cons place places ih =>
    by_cases first : ∃ reason, offends place reason
    · exact first.imp fun _ wrong => firstOffence_cons_iff.mpr (.inl wrong)
    · have later : ∃ other ∈ places, ∃ reason, offends other reason := by
        obtain ⟨other, member, wrong⟩ := offending
        rcases List.mem_cons.mp member with rfl | member
        · exact absurd wrong first
        · exact ⟨other, member, wrong⟩
      push Not at first
      exact (ih later).imp fun _ found => firstOffence_cons_iff.mpr (.inr ⟨first, found⟩)

/-- The outcome is an error exactly where a place offends, and then it is that of the first that does. -/
def Reports (offends : ι → ε → Prop) (outcome : Except ε α) (places : List ι) : Prop :=
  ∀ reason, outcome = .error reason ↔ FirstOffence offends places reason

theorem reports_ok (result : α) : Reports offends (.ok result) [] :=
  fun _ => ⟨nofun, fun found => absurd found not_firstOffence_nil⟩

theorem reports_place {outcome : Except ε α} (fails : ∀ reason, outcome = .error reason ↔ offends place reason) :
    Reports offends outcome [place] :=
  fun reason => (fails reason).trans firstOffence_singleton_iff.symm

theorem Reports.clear {outcome : Except ε α} (reports : Reports offends outcome places) {result : α}
    (done : outcome = .ok result) : ∀ place ∈ places, ∀ reason, ¬ offends place reason := by
  intro place member reason wrong
  obtain ⟨other, found⟩ := exists_firstOffence ⟨place, member, reason, wrong⟩
  rw [(reports other).mpr found] at done
  cases done

theorem Reports.bind {outcome : Except ε α} {next : α → Except ε β} (first : Reports offends outcome front)
    (second : ∀ result, outcome = .ok result → Reports offends (next result) back) :
    Reports offends (outcome >>= next) (front ++ back) := by
  intro reason
  rw [firstOffence_append_iff]
  cases done : outcome with
  | error found =>
    have not_clear := ((first found).mp done).not_clear
    rw [or_iff_left (not_clear ·.1), ← first reason, done]
    simp only [Outcome.error_bind, Except.error.injEq]
  | ok result =>
    have not_first : ¬ FirstOffence offends front reason := by
      intro found
      rw [(first reason).mpr found] at done
      cases done
    rw [or_iff_right not_first, and_iff_right (first.clear done), ← second result done reason]
    rfl

theorem Reports.stopped (reports : Reports offends (.error reason : Except ε α) front) (back : List ι) :
    Reports offends (.error reason : Except ε β) (front ++ back) := by
  have chained : Reports offends ((.error reason : Except ε α) >>= fun _ => (.error reason : Except ε β)) (front ++ back) :=
    reports.bind nofun
  exact chained

theorem Reports.following {outcome : Except ε β} {result : α} (second : Reports offends outcome back)
    (first : Reports offends (.ok result : Except ε α) front) : Reports offends outcome (front ++ back) := by
  have chained : Reports offends ((.ok result : Except ε α) >>= fun _ => outcome) (front ++ back) :=
    first.bind fun _ _ => second
  exact chained

theorem Reports.map {outcome : Except ε α} (reports : Reports offends outcome places) (change : α → β) :
    Reports offends (outcome.map change) places := by
  intro reason
  rw [← reports reason]
  cases outcome <;> simp [Except.map]

/-- The reasons may be told in other words. -/
theorem Reports.mapError {δ : Type} {outcome : Except ε α} (reports : Reports offends outcome places) (convert : ε → δ) :
    Reports (fun place told => ∃ reason, offends place reason ∧ told = convert reason) (outcome.mapError convert) places := by
  have first_iff (told : δ) : FirstOffence (fun place told => ∃ reason, offends place reason ∧ told = convert reason) places told ↔
      ∃ reason, FirstOffence offends places reason ∧ told = convert reason := by
    constructor
    · rintro ⟨before, place, after, split, clear, reason, wrong, rfl⟩
      exact ⟨reason, ⟨before, place, after, split, fun earlier passed other found => clear earlier passed _ ⟨other, found, rfl⟩,
        wrong⟩, rfl⟩
    · rintro ⟨reason, ⟨before, place, after, split, clear, wrong⟩, rfl⟩
      exact ⟨before, place, after, split, fun earlier passed _ ⟨other, found, _⟩ => clear earlier passed other found, reason,
        wrong, rfl⟩
  intro told
  simp only [first_iff, ← reports _]
  cases outcome <;> simp [Except.mapError, eq_comm]

theorem Reports.foldlM {step : β → α → Except ε β} {visits : α → List ι}
    (reports : ∀ state item, Reports offends (step state item) (visits item)) (items : List α) (state : β) :
    Reports offends (items.foldlM step state) (items.flatMap visits) := by
  induction items generalizing state with
  | nil => exact reports_ok state
  | cons item items ih =>
    rw [List.foldlM_cons, List.flatMap_cons]
    exact (reports state item).bind fun next _ => ih next

theorem Reports.mapM {step : α → Except ε β} {visits : α → List ι}
    (reports : ∀ item, Reports offends (step item) (visits item)) (items : List α) :
    Reports offends (items.mapM step) (items.flatMap visits) := by
  induction items with
  | nil => exact reports_ok []
  | cons item items ih =>
    rw [List.mapM_cons, List.flatMap_cons, ← List.append_nil (items.flatMap visits)]
    exact (reports item).bind fun _ _ => ih.bind fun _ _ => reports_ok _

theorem Reports.forM {step : α → Except ε Unit} {visits : α → List ι}
    (reports : ∀ item, Reports offends (step item) (visits item)) (items : List α) :
    Reports offends (items.forM step) (items.flatMap visits) := by
  rw [List.forM_eq_forM]
  induction items with
  | nil => exact reports_ok ()
  | cons item items ih =>
    rw [List.forM_cons, List.flatMap_cons]
    exact (reports item).bind fun _ _ => ih

/-- The run reports the first place that offends, and if there is none it ends in a state that `behind` holds of. -/
structure Scans (offends : ι → ε → Prop) (ran : Except ε α × σ) (places : List ι) (behind : σ → Prop) : Prop where
  reports : Reports offends ran.1 places
  arrives : ∀ result, ran.1 = .ok result → behind ran.2

theorem Scans.bind {step : ExceptT ε (StateM σ) α} {next : α → ExceptT ε (StateM σ) β} {state : σ}
    {middle behind : σ → Prop} (first : Scans offends (step.run.run state) front middle)
    (second : ∀ result left, middle left → Scans offends ((next result).run.run left) back behind) :
    Scans offends ((step >>= next).run.run state) (front ++ back) behind := by
  rw [Steps.run_bind]
  rcases ran : step.run.run state with ⟨fault | result, left⟩ <;> rw [ran] at first
  · exact ⟨first.reports.stopped back, nofun⟩
  · have rest := second result left (first.arrives result rfl)
    exact ⟨rest.reports.following first.reports, rest.arrives⟩

end Tablesmith
