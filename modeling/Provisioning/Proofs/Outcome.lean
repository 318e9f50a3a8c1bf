import Mathlib.Data.List.Forall2

/-!
Taking apart computations that may fail: when a sequence of steps succeeds, and with which result.
-/

namespace Provisioning.Outcome

universe u v

variable {ε : Type u} {α β : Type v}

@[simp] theorem ok_bind (value : α) (next : α → Except ε β) :
    (Except.ok value >>= next) = next value := rfl

@[simp] theorem error_bind (cause : ε) (next : α → Except ε β) :
    (Except.error cause >>= next) = .error cause := rfl

theorem pure_eq_ok (value : α) : (pure value : Except ε α) = .ok value := rfl

theorem bind_eq_ok_iff {outcome : Except ε α} {next : α → Except ε β} {result : β} :
    (outcome >>= next) = .ok result ↔
      ∃ value, outcome = .ok value ∧ next value = .ok result := by
  cases outcome <;> simp

theorem map_bind {γ : Type v} (outcome : Except ε α) (next : α → Except ε β) (change : β → γ) :
    (outcome >>= next).map change = outcome >>= fun value => (next value).map change := by
  cases outcome <;> rfl

theorem map_eq_ok_iff {outcome : Except ε α} {change : α → β} {result : β} :
    outcome.map change = .ok result ↔ ∃ value, outcome = .ok value ∧ change value = result := by
  cases outcome <;> simp [Except.map]

theorem map_eq_error_iff {outcome : Except ε α} {change : α → β} {cause : ε} :
    outcome.map change = .error cause ↔ outcome = .error cause := by
  cases outcome <;> simp [Except.map]

theorem bind_eq_error_iff {outcome : Except ε α} {next : α → Except ε β} {cause : ε} :
    (outcome >>= next) = .error cause ↔
      outcome = .error cause ∨ ∃ value, outcome = .ok value ∧ next value = .error cause := by
  cases outcome <;> simp

theorem isOk_iff {outcome : Except ε α} : outcome.isOk = true ↔ ∃ value, outcome = .ok value := by
  cases outcome <;> simp [Except.isOk, Except.toBool]

theorem mapM_eq_ok_iff {step : α → Except ε β} {items : List α} {results : List β} :
    items.mapM step = .ok results ↔
      List.Forall₂ (fun item result => step item = .ok result) items results := by
  induction items generalizing results with
  | nil =>
      rw [List.mapM_nil, pure_eq_ok]
      cases results <;> simp
  | cons item items ih =>
      rw [List.mapM_cons, bind_eq_ok_iff]
      cases results with
      | nil => simp [bind_eq_ok_iff, pure_eq_ok]
      | cons result results => simp [bind_eq_ok_iff, pure_eq_ok, ih]

theorem mapM_eq_ok_iff_map [Inhabited β] {step : α → Except ε β} {items : List α}
    {results : List β} :
    items.mapM step = .ok results ↔
      ∃ result : α → β, (∀ item ∈ items, step item = .ok (result item)) ∧
        results = items.map result := by
  rw [mapM_eq_ok_iff]
  constructor
  · intro steps
    let result item := (step item).toOption.getD default
    have given : List.Forall₂ (fun item value => step item = .ok (result item) ∧
        result item = value) items results := by
      refine steps.imp ?_
      intro item value succeeded
      have same : result item = value := by simp [result, succeeded, Except.toOption]
      exact ⟨same ▸ succeeded, same⟩
    obtain ⟨each, listed⟩ := (List.forall₂_and_left _ _).1 given
    refine ⟨result, each, ?_⟩
    rw [← List.forall₂_map_left_iff, List.forall₂_eq_eq_eq] at listed
    exact listed.symm
  · rintro ⟨result, each, rfl⟩
    rw [List.forall₂_map_right_iff]
    exact List.forall₂_same.2 each

theorem exists_of_mapM_eq_error {step : α → Except ε β} {items : List α} {cause : ε}
    (failed : items.mapM step = .error cause) : ∃ item ∈ items, step item = .error cause := by
  induction items with
  | nil => cases failed
  | cons item items ih =>
      rw [List.mapM_cons, bind_eq_error_iff] at failed
      rcases failed with first | ⟨value, _, later⟩
      · exact ⟨item, List.mem_cons_self, first⟩
      · rcases bind_eq_error_iff.1 later with rest | ⟨_, _, done⟩
        · obtain ⟨other, member, given⟩ := ih rest
          exact ⟨other, List.mem_cons_of_mem item member, given⟩
        · cases done

end Provisioning.Outcome
