import Mathlib.Order.Basic

/-! # What a run comes to

A run is the sequence of the states before every step. One condition leads to another if it is
always followed by it; a condition that a run keeps and comes to holds from some point on. The rule
for a wait is the one that needs an argument: a condition that is only left for `Q` leads to `Q`
if it cannot last for ever. -/

namespace WanManager.Concurrency

variable {σ : Type}

/-- Whenever `P` holds in the run, `Q` holds then or later. -/
def LeadsTo (r : Nat → σ) (P Q : σ → Prop) : Prop := ∀ k, P (r k) → ∃ j, k ≤ j ∧ Q (r j)

/-- A step from `P` is a step to `P`. -/
def Remains (r : Nat → σ) (P : σ → Prop) : Prop := ∀ k, P (r k) → P (r (k + 1))

variable {r : Nat → σ} {P P' Q Q' R : σ → Prop}

namespace LeadsTo

theorem next (h : ∀ k, P (r k) → Q (r (k + 1))) : LeadsTo r P Q :=
  fun k hk => ⟨k + 1, Nat.le_succ k, h k hk⟩

theorem andThen (hPQ : LeadsTo r P Q) (hQR : LeadsTo r Q R) : LeadsTo r P R := by
  intro k hk
  obtain ⟨i, hki, hi⟩ := hPQ k hk
  obtain ⟨j, hij, hj⟩ := hQR i hi
  exact ⟨j, Nat.le_trans hki hij, hj⟩

theorem either (hP : LeadsTo r P R) (hQ : LeadsTo r Q R) :
    LeadsTo r (fun s => P s ∨ Q s) R := by
  intro k hk
  rcases hk with hk | hk
  · exact hP k hk
  · exact hQ k hk

/-- A wait that a step ends in `Q`, if at all, and that does not last for ever. -/
theorem waiting (hstep : ∀ k, P (r k) → P (r (k + 1)) ∨ Q (r (k + 1)))
    (hends : ∀ k, (∀ j, k ≤ j → P (r j)) → ∃ j, k ≤ j ∧ Q (r (j + 1))) : LeadsTo r P Q := by
  intro k hk
  by_contra hnever
  rw [not_exists] at hnever
  have hstays : ∀ j, k ≤ j → P (r j) := by
    intro j hj
    induction hj with
    | refl => exact hk
    | @step j hkj ih =>
      rcases hstep j ih with hP | hQ
      · exact hP
      · exact absurd ⟨Nat.le_succ_of_le hkj, hQ⟩ (hnever (j + 1))
  obtain ⟨j, hkj, hQ⟩ := hends k hstays
  exact hnever (j + 1) ⟨Nat.le_succ_of_le hkj, hQ⟩

end LeadsTo

theorem Remains.from (h : Remains r P) {k j : Nat} (hkj : k ≤ j) (hk : P (r k)) : P (r j) := by
  induction hkj with
  | refl => exact hk
  | step _ ih => exact h _ ih

end WanManager.Concurrency
