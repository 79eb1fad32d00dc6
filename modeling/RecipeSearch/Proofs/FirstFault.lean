/-!
# Computations that stop at the first fault

A computation in steps gives a value if each of its steps does (`eq_ok_of_bind`), and otherwise the fault of the first
step that has one. `Reports` says so of its outcome when the faults that there are have been listed by the places at
which they stand, whatever the computation is: it reports the first one (`Reports.eq_error_iff`). This is shown from the
first step on (`Reports.step`).
-/

namespace RecipeSearch

variable {ε α β : Type}

/-! ## Steps -/

theorem ok_bind (a : α) (f : α → Except ε β) : (Except.ok a >>= f) = f a := rfl

/-- What gives a value has given one at its first step. -/
theorem eq_ok_of_bind {x : Except ε α} {f : α → Except ε β} {b : β} (h : x >>= f = .ok b) :
    ∃ a, x = .ok a ∧ f a = .ok b := by
  cases x with
  | error e => cases h
  | ok a => exact ⟨a, rfl, h⟩

/-! ## The first fault -/

/-- The fault is the first one that stands at `k` or after it. -/
def IsFirstFault (faults : Nat → ε → Prop) (k : Nat) (e : ε) : Prop :=
  ∃ j, k ≤ j ∧ faults j e ∧ ∀ i, k ≤ i → i < j → ∀ e', ¬ faults i e'

/-- The outcome is the first fault that stands at `k` or after it, or a value if there is none. -/
def Reports (faults : Nat → ε → Prop) (k : Nat) : Except ε α → Prop
  | .ok _ => ∀ j, k ≤ j → ∀ e, ¬ faults j e
  | .error e => IsFirstFault faults k e

section Reports

variable {faults : Nat → ε → Prop} {k : Nat}

theorem Reports.now {e : ε} (h : faults k e) : Reports faults k (.error e : Except ε α) :=
  ⟨k, Nat.le_refl k, h, fun _ hle hlt => absurd hlt (Nat.not_lt.2 hle)⟩

/-- What is reported after a place without a fault is reported from this place on. -/
theorem Reports.later {x : Except ε α} (hnone : ∀ e, ¬ faults k e) (h : Reports faults (k + 1) x) :
    Reports faults k x := by
  have hcases {i : Nat} (hi : k ≤ i) : i = k ∨ k + 1 ≤ i := by omega
  cases x with
  | ok a =>
    intro j hj e he
    rcases hcases hj with rfl | hj
    · exact hnone e he
    · exact h j hj e he
  | error e =>
    obtain ⟨j, hj, he, hfirst⟩ := h
    refine ⟨j, by omega, he, fun i hi hij e' he' => ?_⟩
    rcases hcases hi with rfl | hi
    · exact hnone e' he'
    · exact hfirst i hi hij e' he'

/-- A step whose faults are those at `k`, and what reports the faults after it. -/
theorem Reports.step {x : Except ε α} {f : α → Except ε β} (herror : ∀ e, x = .error e → faults k e)
    (hok : ∀ a, x = .ok a → (∀ e, ¬ faults k e) ∧ Reports faults (k + 1) (f a)) : Reports faults k (x >>= f) := by
  cases x with
  | error e => exact .now (herror e rfl)
  | ok a => exact .later (hok a rfl).1 (hok a rfl).2

/-- What is made of a value is reported no differently. -/
theorem Reports.bind_ok {x : Except ε α} (h : Reports faults k x) (f : α → β) :
    Reports faults k (x >>= fun a => .ok (f a)) := by
  cases x with
  | error e => exact h
  | ok a => exact h

/-- There is an error if there are any faults. -/
theorem Reports.exists_error_iff {x : Except ε α} (h : Reports faults k x) :
    (∃ e, x = .error e) ↔ ∃ j, k ≤ j ∧ ∃ e, faults j e := by
  cases x with
  | ok a =>
    refine ⟨nofun, ?_⟩
    rintro ⟨j, hj, e, he⟩
    exact absurd he (h j hj e)
  | error e =>
    obtain ⟨j, hj, he, -⟩ := h
    exact ⟨fun _ => ⟨j, hj, e, he⟩, fun _ => ⟨e, rfl⟩⟩

/-- **The error is the first fault**, where no place has two. -/
theorem Reports.eq_error_iff {x : Except ε α} (h : Reports faults k x)
    (hunique : ∀ j e e', faults j e → faults j e' → e = e') {e : ε} : x = .error e ↔ IsFirstFault faults k e := by
  constructor
  · rintro rfl
    exact h
  · rintro ⟨j, hj, he, hfirst⟩
    cases x with
    | ok a => exact absurd he (h j hj e)
    | error e' =>
      obtain ⟨i, hi, he', hfirst'⟩ := h
      have hij : i = j := by
        rcases Nat.lt_trichotomy i j with hlt | heq | hgt
        · exact absurd he' (hfirst i hi hlt e')
        · exact heq
        · exact absurd he (hfirst' j hj hgt e)
      rw [hunique j e' e (hij ▸ he') he]

end Reports

end RecipeSearch
