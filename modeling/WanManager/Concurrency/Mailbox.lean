import Mathlib.Logic.Function.Basic
import WanManager.Concurrency.Labelled

/-! # Mailboxes with one slot

A message that was received is held until the slot is empty, put into it, and taken out of it by
the consumer. Nothing is lost on the way and nothing overtakes. A system whose steps look like
those of a mailbox is one. -/

namespace WanManager.Concurrency

/-- The message that is held for the slot, and the one in it. -/
structure Mailbox (μ : Type) where
  held : Option μ := none
  slot : Option μ := none

namespace Mailbox

variable {ι μ ε σ : Type}

/-- A step, with what it receives and what it takes. -/
inductive Step : Mailbox μ → Option μ → Option μ → Mailbox μ → Prop
  | rest (b) : Step b none none b
  | receive (m slot) : Step ⟨none, slot⟩ (some m) none ⟨some m, slot⟩
  | put (m) : Step ⟨some m, none⟩ none none ⟨none, some m⟩
  | take (held m) : Step ⟨held, some m⟩ none (some m) ⟨held, none⟩

/-- `o` is what is at one of the places, and nothing is at the others. -/
def Sole (f : ι → Option μ) : Option μ → Prop
  | none => ∀ i, f i = none
  | some m => ∃ i, f i = some m ∧ ∀ j, j ≠ i → f j = none

variable [DecidableEq ι] {f : ι → Option μ}

theorem Sole.insert {i : ι} (h : Sole f none) (m : μ) :
    Sole (Function.update f i (some m)) (some m) := by
  refine ⟨i, Function.update_self .., fun j hj => ?_⟩
  rw [Function.update_of_ne hj]
  exact h j

theorem Sole.remove {i : ι} {o : Option μ} {m : μ} (h : Sole f o) (hi : f i = some m) :
    o = some m ∧ Sole (Function.update f i none) none := by
  cases o with
  | none =>
    rw [h i] at hi
    contradiction
  | some m' =>
    obtain ⟨j, hj, hother⟩ := h
    obtain rfl : i = j := by
      by_contra hne
      rw [hother i hne] at hi
      contradiction
    refine ⟨hj.symm.trans hi, fun k => ?_⟩
    by_cases hk : k = i
    · rw [hk, Function.update_self]
    · rw [Function.update_of_ne hk]
      exact hother k hk

omit [DecidableEq ι] in
theorem Sole.eq_none {o : Option μ} (h : Sole f o) (hf : ∀ i, f i = none) : o = none := by
  cases o with
  | none => rfl
  | some m =>
    obtain ⟨i, hi, -⟩ := h
    rw [hf i] at hi
    contradiction

end Mailbox

end WanManager.Concurrency
