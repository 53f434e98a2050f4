import Mathlib.Data.List.Forall2
import TypedOptions.Log

/-!
# Outcomes of computations that may fail

A computation in steps succeeds exactly if every step does, with the values
that the steps hand on.
-/

namespace TypedOptions

variable {ε α β : Type}

theorem bind_eq_ok_iff {first : Except ε α} {next : α → Except ε β} {result : β} :
    (first >>= next) = .ok result ↔ ∃ value, first = .ok value ∧ next value = .ok result := by
  cases first with
  | error cause => simp [bind, Except.bind]
  | ok value => simp [bind, Except.bind]

theorem bind_eq_error_iff {first : Except ε α} {next : α → Except ε β} {error : ε} :
    (first >>= next) = .error error ↔
      first = .error error ∨ ∃ value, first = .ok value ∧ next value = .error error := by
  cases first with
  | error cause => simp [bind, Except.bind]
  | ok value => simp [bind, Except.bind]

theorem map_eq_ok_iff {first : Except ε α} {change : α → β} {result : β} :
    change <$> first = .ok result ↔ ∃ value, first = .ok value ∧ result = change value := by
  cases first with
  | error cause => simp [Functor.map, Except.map]
  | ok value => simp [Functor.map, Except.map, eq_comm]

theorem map_eq_error_iff {first : Except ε α} {change : α → β} {error : ε} :
    change <$> first = .error error ↔ first = .error error := by
  cases first with
  | error cause => simp [Functor.map, Except.map]
  | ok value => simp [Functor.map, Except.map]

theorem mapError_eq_ok_iff {δ : Type} {outcome : Except ε α} {change : ε → δ} {value : α} :
    outcome.mapError change = .ok value ↔ outcome = .ok value := by
  cases outcome with
  | error cause =>
      constructor <;> intro h <;> cases h
  | ok content =>
      constructor <;> intro h <;> cases h <;> rfl

theorem exists_of_mem_mapM {step : α → Except ε β} {items : List α} {results : List β}
    (h : items.mapM step = .ok results) {result : β} (hresult : result ∈ results) :
    ∃ item ∈ items, step item = .ok result := by
  induction items generalizing results with
  | nil =>
      cases h
      cases hresult
  | cons item rest ih =>
      rw [List.mapM_cons] at h
      obtain ⟨first, hfirst, h⟩ := bind_eq_ok_iff.1 h
      obtain ⟨more, hmore, h⟩ := bind_eq_ok_iff.1 h
      cases h
      rcases List.mem_cons.1 hresult with rfl | hlater
      · exact ⟨item, List.mem_cons_self, hfirst⟩
      · obtain ⟨other, hother, hstep⟩ := ih hmore hlater
        exact ⟨other, List.mem_cons_of_mem _ hother, hstep⟩

theorem mapM_eq_ok_iff {step : α → Except ε β} {items : List α} {results : List β} :
    items.mapM step = .ok results ↔
      List.Forall₂ (fun item result => step item = .ok result) items results := by
  induction items generalizing results with
  | nil =>
      rw [List.forall₂_nil_left_iff]
      constructor
      · intro h
        cases h
        rfl
      · rintro rfl
        rfl
  | cons item rest ih =>
      rw [List.mapM_cons, bind_eq_ok_iff, List.forall₂_cons_left_iff]
      constructor
      · rintro ⟨first, hfirst, h⟩
        obtain ⟨more, hmore, h⟩ := bind_eq_ok_iff.1 h
        cases h
        exact ⟨first, more, hfirst, ih.1 hmore, rfl⟩
      · rintro ⟨first, more, hfirst, hmore, rfl⟩
        exact ⟨first, hfirst, bind_eq_ok_iff.2 ⟨more, ih.2 hmore, rfl⟩⟩

/-- Of the items that a step fails for, the first one counts. -/
theorem mapM_eq_error_iff {step : α → Except ε β} {items : List α} {error : ε} :
    items.mapM step = .error error ↔
      ∃ before item after, items = before ++ item :: after ∧
        (∀ earlier ∈ before, ∃ result, step earlier = .ok result) ∧ step item = .error error := by
  induction items with
  | nil =>
      constructor
      · intro h
        cases h
      · rintro ⟨before, item, after, hitems, -⟩
        simp at hitems
  | cons first rest ih =>
      rw [List.mapM_cons, bind_eq_error_iff]
      constructor
      · rintro (hfirst | ⟨result, hresult, h⟩)
        · exact ⟨[], first, rest, rfl, nofun, hfirst⟩
        · rcases bind_eq_error_iff.1 h with hrest | ⟨more, -, h⟩
          · obtain ⟨before, item, after, rfl, hbefore, hitem⟩ := ih.1 hrest
            exact ⟨first :: before, item, after, rfl,
              List.forall_mem_cons.2 ⟨⟨result, hresult⟩, hbefore⟩, hitem⟩
          · cases h
      · rintro ⟨before, item, after, hitems, hbefore, hitem⟩
        cases before with
        | nil =>
            obtain ⟨rfl, rfl⟩ := List.cons.inj hitems
            exact Or.inl hitem
        | cons earlier more =>
            obtain ⟨rfl, rfl⟩ := List.cons.inj hitems
            obtain ⟨⟨result, hresult⟩, hmore⟩ := List.forall_mem_cons.1 hbefore
            refine Or.inr ⟨result, hresult, bind_eq_error_iff.2 (Or.inl ?_)⟩
            exact ih.2 ⟨more, item, after, rfl, hmore, hitem⟩

theorem mapM_congr {first second : α → Except ε β} {items : List α}
    (hsame : ∀ item ∈ items, first item = second item) : items.mapM first = items.mapM second := by
  induction items with
  | nil => rfl
  | cons item rest ih =>
      obtain ⟨hitem, hrest⟩ := List.forall_mem_cons.1 hsame
      rw [List.mapM_cons, List.mapM_cons, hitem, ih hrest]

theorem mapM_map_eq_ok {step : α → Except ε β} {back : β → α} {results : List β}
    (hback : ∀ result ∈ results, step (back result) = .ok result) :
    (results.map back).mapM step = .ok results := by
  induction results with
  | nil => rfl
  | cons first rest ih =>
      obtain ⟨hfirst, hrest⟩ := List.forall_mem_cons.1 hback
      rw [List.map_cons, List.mapM_cons, hfirst, ih hrest]
      rfl

theorem toOption_bind (first : Except ε α) (next : α → Except ε β) :
    (first >>= next).toOption = first.toOption.bind fun value => (next value).toOption := by
  cases first <;> rfl

theorem toOption_eq_some_iff {outcome : Except ε α} {value : α} :
    outcome.toOption = some value ↔ outcome = .ok value := by
  cases outcome <;> simp [Except.toOption]

/-- The error of a computation that fails. -/
def error? : Except ε α → Option ε
  | .error cause => some cause
  | .ok _ => none

theorem error?_eq_some_iff {outcome : Except ε α} {cause : ε} :
    error? outcome = some cause ↔ outcome = .error cause := by
  cases outcome <;> simp [error?]

theorem eq_ok_getD {outcome : Except ε α} (hok : outcome.toOption.isSome = true) (default : α) :
    outcome = .ok (outcome.toOption.getD default) := by
  cases outcome with
  | error cause => cases hok
  | ok value => rfl

theorem outcome_map (change : α → β) (logged : Logged ε α) :
    (change <$> logged).outcome = logged.outcome.map change := by
  change (logged >>= fun value => pure (change value)).outcome = _
  rw [Logged.outcome_bind]
  cases logged.outcome <;> rfl

theorem outcome_bind_pure_eq_ok_iff {first : Logged ε α} {change : α → β} {result : β} :
    (first >>= fun value => pure (change value)).outcome = .ok result ↔
      ∃ value, first.outcome = .ok value ∧ result = change value := by
  rw [Logged.outcome_bind, bind_eq_ok_iff]
  simp [eq_comm]

theorem outcome_bind_pure_eq_error_iff {first : Logged ε α} {change : α → β} {error : ε} :
    (first >>= fun value => pure (change value)).outcome = .error error ↔
      first.outcome = .error error := by
  rw [Logged.outcome_bind]
  cases first.outcome with
  | error cause => simp [bind, Except.bind]
  | ok value => simp [bind, Except.bind]

end TypedOptions
