import Mathlib

/-!
# Steps that may fail

A sequence of steps succeeds exactly where each of them does. Steps that also
keep a state succeed from the state that the one before leaves, and fail in the
state of the first that fails.
-/

namespace Tablesmith.Outcome

variable {ε α β : Type}

theorem ok_bind (result : α) (next : α → Except ε β) : Except.ok result >>= next = next result := rfl

theorem error_bind (reason : ε) (next : α → Except ε β) : Except.error reason >>= next = .error reason := rfl

theorem bind_ok_iff {outcome : Except ε α} {next : α → Except ε β} {result : β} :
    outcome >>= next = .ok result ↔ ∃ found, outcome = .ok found ∧ next found = .ok result := by
  cases outcome <;> simp [bind, Except.bind]

theorem map_ok_iff {value : α → β} {result : Except ε α} {mapped : β} :
    result.map value = .ok mapped ↔ ∃ found, result = .ok found ∧ value found = mapped := by
  cases result <;> simp [Except.map]

theorem mapError_ok_iff {δ : Type} {convert : ε → δ} {outcome : Except ε α} {result : α} :
    outcome.mapError convert = .ok result ↔ outcome = .ok result := by
  cases outcome <;> simp [Except.mapError]

/-- Steps that check an item and add it, one after the other, succeed where
    every item passes. -/
theorem foldlM_ok_iff {step : β → α → Except ε β} (passes : α → Prop) (add : β → α → β)
    (step_ok : ∀ state item next, step state item = .ok next ↔ passes item ∧ next = add state item)
    (items : List α) (state last : β) :
    items.foldlM step state = .ok last ↔ (∀ item ∈ items, passes item) ∧ last = items.foldl add state := by
  induction items generalizing state with
  | nil => simp [pure, Except.pure, eq_comm]
  | cons item items ih =>
    rw [List.foldlM_cons]
    cases stepped : step state item with
    | error fault =>
      have fails : ¬ passes item := by
        intro passed
        have := (step_ok state item (add state item)).mpr ⟨passed, rfl⟩
        simp [stepped] at this
      simp [bind, Except.bind, fails]
    | ok next =>
      obtain ⟨passed, rfl⟩ := (step_ok state item next).mp stepped
      simp [bind, Except.bind, ih, passed]

/-- What every step keeps holds behind them all. -/
theorem foldlM_keeps {step : β → α → Except ε β} (holds : β → Prop) {items : List α} {state last : β}
    (keeps : ∀ item ∈ items, ∀ state next, holds state → step state item = .ok next → holds next)
    (before : holds state) (done : items.foldlM step state = .ok last) : holds last := by
  induction items generalizing state with
  | nil =>
    cases done
    exact before
  | cons item items ih =>
    obtain ⟨first_keeps, rest_keep⟩ := List.forall_mem_cons.mp keeps
    obtain ⟨next, stepped, done⟩ := bind_ok_iff.mp done
    exact ih rest_keep (first_keeps _ _ before stepped) done

/-- Where no step changes anything, all of them do not. -/
theorem foldlM_stays {step : β → α → Except ε β} {items : List α} {state : β}
    (stays : ∀ item ∈ items, step state item = .ok state) : items.foldlM step state = .ok state := by
  induction items with
  | nil => rfl
  | cons item items ih =>
    obtain ⟨first, rest⟩ := List.forall_mem_cons.mp stays
    rw [List.foldlM_cons, first]
    exact ih rest

theorem mapM_ok_iff {step : α → Except ε β} {items : List α} {results : List β} :
    items.mapM step = .ok results ↔ List.Forall₂ (fun item result => step item = .ok result) items results := by
  induction items generalizing results with
  | nil =>
    rw [List.mapM_nil, List.forall₂_nil_left_iff]
    exact (Except.ok.injEq _ _).to_iff.trans eq_comm
  | cons item items ih =>
    rw [List.mapM_cons, List.forall₂_cons_left_iff, bind_ok_iff]
    constructor
    · rintro ⟨result, stepped, done⟩
      obtain ⟨rest, rest_done, given⟩ := bind_ok_iff.mp done
      cases given
      exact ⟨result, rest, stepped, ih.mp rest_done, rfl⟩
    · rintro ⟨result, rest, stepped, rest_done, rfl⟩
      exact ⟨result, stepped, bind_ok_iff.mpr ⟨rest, ih.mpr rest_done, rfl⟩⟩

/-- What is the same for items and their results is the same for lists of them. -/
theorem map_eq_of_forall₂ {γ : Type} {related : α → β → Prop} {left : α → γ} {right : β → γ} {items : List α}
    {results : List β} (same : ∀ item result, related item result → right result = left item)
    (all : List.Forall₂ related items results) : results.map right = items.map left := by
  induction all with
  | nil => rfl
  | cons first _ ih => rw [List.map_cons, List.map_cons, same _ _ first, ih]

theorem exists_mem_of_forall₂ {related : α → β → Prop} {items : List α} {results : List β} {result : β}
    (all : List.Forall₂ related items results) (member : result ∈ results) : ∃ item ∈ items, related item result := by
  induction all with
  | nil => simp at member
  | cons first _ ih =>
    obtain rfl | later := List.mem_cons.mp member
    · exact ⟨_, List.mem_cons_self, first⟩
    · obtain ⟨item, item_member, rest⟩ := ih later
      exact ⟨item, List.mem_cons_of_mem _ item_member, rest⟩

/-- Steps that convert an item and add what it becomes succeed where every item can be converted. -/
theorem foldlM_map_ok_iff {γ : Type} {convert : α → Except ε γ} {add : β → γ → β} {items : List α} {state last : β} :
    items.foldlM (fun state item => (convert item).map (add state)) state = .ok last ↔
      ∃ results, List.Forall₂ (fun item result => convert item = .ok result) items results ∧
        last = results.foldl add state := by
  induction items generalizing state with
  | nil => simp [pure, Except.pure, eq_comm]
  | cons item items ih =>
    rw [List.foldlM_cons, bind_ok_iff]
    constructor
    · rintro ⟨_, stepped, done⟩
      obtain ⟨result, converted, rfl⟩ := map_ok_iff.mp stepped
      obtain ⟨results, all_converted, rfl⟩ := ih.mp done
      exact ⟨result :: results, .cons converted all_converted, rfl⟩
    · rintro ⟨_, all_converted, rfl⟩
      cases all_converted with
      | cons converted rest_converted =>
        exact ⟨_, map_ok_iff.mpr ⟨_, converted, rfl⟩, ih.mpr ⟨_, rest_converted, rfl⟩⟩

/-- Where every step adds what its item gives to what is seen of the state, all of them add all of that. -/
theorem foldlM_gather {γ δ : Type} {step : β → α → Except ε β} {give : α → Except ε (List γ)} (view : β → δ) (add : δ → γ → δ)
    (each : ∀ state item, (step state item).map view = (give item).map fun given => given.foldl add (view state))
    (items : List α) (state : β) :
    (items.foldlM step state).map view =
      ((items.mapM give).map List.flatten).map fun given => given.foldl add (view state) := by
  induction items generalizing state with
  | nil => rfl
  | cons item items ih =>
    have first := each state item
    rw [List.foldlM_cons, List.mapM_cons]
    cases stepped : step state item with
    | error reason =>
      cases given : give item with
      | error =>
        obtain rfl : reason = _ := by simpa [stepped, given, Except.map] using first
        rfl
      | ok => simp [stepped, given, Except.map] at first
    | ok next =>
      cases given : give item with
      | error => simp [stepped, given, Except.map] at first
      | ok found =>
        have seen : view next = found.foldl add (view state) := by simpa [stepped, given, Except.map] using first
        rw [ok_bind, ok_bind, ih, seen]
        cases items.mapM give with
        | error => rfl
        | ok others => exact congrArg Except.ok List.foldl_append.symm

/-- What holds behind steps that each may bring it about was brought about by one of them or held before. -/
theorem foldl_iff {add : β → α → β} (holds : β → Prop) (adds : α → Prop)
    (step : ∀ state item, holds (add state item) ↔ adds item ∨ holds state) (items : List α) (state : β) :
    holds (items.foldl add state) ↔ (∃ item ∈ items, adds item) ∨ holds state := by
  induction items generalizing state with
  | nil => simp
  | cons item items ih => rw [List.foldl_cons, ih, step, List.exists_mem_cons_iff, or_left_comm, or_assoc]

theorem forM_ok_iff {check : α → Except ε Unit} {items : List α} :
    items.forM check = .ok () ↔ ∀ item ∈ items, check item = .ok () := by
  rw [List.forM_eq_forM]
  induction items with
  | nil => simp [pure, Except.pure]
  | cons item items ih =>
    rw [List.forM_cons, List.forall_mem_cons, ← ih]
    cases check item <;> simp [bind, Except.bind]

end Tablesmith.Outcome

namespace Tablesmith.Steps

variable {ε σ α β : Type}

theorem outcome_eq_iff {outcome other : Except ε α} {state last : σ} :
    @Eq (Id (Except ε α × σ)) (outcome, state) (other, last) ↔ outcome = other ∧ state = last :=
  Prod.mk_inj

theorem run_bind (step : ExceptT ε (StateM σ) α) (next : α → ExceptT ε (StateM σ) β) (state : σ) :
    (step >>= next).run.run state =
      match step.run.run state with
      | (.ok result, left) => (next result).run.run left
      | (.error reason, left) => (.error reason, left) := by
  rw [ExceptT.run_bind, StateT.run_bind]
  rcases StateT.run step.run state with ⟨_ | _, _⟩ <;> rfl

theorem run_bind_ok {step : ExceptT ε (StateM σ) α} {next : α → ExceptT ε (StateM σ) β} {state left : σ} {result : α}
    (stepped : step.run.run state = (.ok result, left)) :
    (step >>= next).run.run state = (next result).run.run left := by
  rw [run_bind, stepped]

theorem run_bind_error {step : ExceptT ε (StateM σ) α} {next : α → ExceptT ε (StateM σ) β} {state left : σ} {reason : ε}
    (stopped : step.run.run state = (.error reason, left)) :
    (step >>= next).run.run state = (.error reason, left) := by
  rw [run_bind, stopped]

theorem bind_ok_iff {step : ExceptT ε (StateM σ) α} {next : α → ExceptT ε (StateM σ) β} {state last : σ} {result : β} :
    (step >>= next).run.run state = (.ok result, last) ↔
      ∃ first middle, step.run.run state = (.ok first, middle) ∧
        (next first).run.run middle = (.ok result, last) := by
  rw [run_bind]
  rcases StateT.run step.run state with ⟨reason | first, middle⟩
  · constructor
    · intro failed; cases failed
    · rintro ⟨_, _, failed, _⟩; cases failed
  · constructor
    · exact fun done => ⟨first, middle, rfl, done⟩
    · rintro ⟨_, _, same, done⟩; cases same; exact done

theorem bind_error_iff {step : ExceptT ε (StateM σ) α} {next : α → ExceptT ε (StateM σ) β} {state last : σ} {reason : ε} :
    (step >>= next).run.run state = (.error reason, last) ↔ step.run.run state = (.error reason, last) ∨
      ∃ first middle, step.run.run state = (.ok first, middle) ∧
        (next first).run.run middle = (.error reason, last) := by
  rw [run_bind]
  rcases StateT.run step.run state with ⟨found | first, middle⟩
  · constructor
    · intro failed; cases failed; exact Or.inl rfl
    · rintro (failed | ⟨_, _, done, _⟩)
      · cases failed; rfl
      · cases done
  · constructor
    · exact fun failed => Or.inr ⟨first, middle, rfl, failed⟩
    · rintro (failed | ⟨_, _, same, failed⟩)
      · cases failed
      · cases same; exact failed

theorem run_pure (value : α) (state : σ) :
    (pure value : ExceptT ε (StateM σ) α).run.run state = (.ok value, state) := rfl

theorem run_throw (reason : ε) (state : σ) :
    (throw reason : ExceptT ε (StateM σ) α).run.run state = (.error reason, state) := rfl

theorem run_get (state : σ) : (get : ExceptT ε (StateM σ) σ).run.run state = (.ok state, state) := rfl

theorem pure_ok_iff {value result : α} {state last : σ} :
    (pure value : ExceptT ε (StateM σ) α).run.run state = (.ok result, last) ↔ result = value ∧ last = state := by
  constructor
  · intro done; cases done; exact ⟨rfl, rfl⟩
  · rintro ⟨rfl, rfl⟩; rfl

/-- A step that only may fail leaves the state as it is. -/
theorem run_lift (outcome : Except ε α) (state : σ) :
    (liftM outcome : ExceptT ε (StateM σ) α).run.run state = (outcome, state) := by
  cases outcome <;> rfl

theorem run_modify (change : σ → σ) (state : σ) :
    (modify change : ExceptT ε (StateM σ) PUnit).run.run state = (.ok ⟨⟩, change state) := rfl

theorem forM_nil_ok_iff {step : α → ExceptT ε (StateM σ) PUnit} {state last : σ} :
    (([] : List α).forM step).run.run state = (.ok ⟨⟩, last) ↔ last = state := by
  constructor
  · intro done; cases done; rfl
  · rintro rfl; rfl

theorem forM_concat (step : α → ExceptT ε (StateM σ) PUnit) (items : List α) (item : α) :
    (items ++ [item]).forM step = (items.forM step >>= fun _ => step item) := by
  rw [List.forM_eq_forM, List.forM_append, List.forM_cons, List.forM_nil, bind_pure_unit]

end Tablesmith.Steps
