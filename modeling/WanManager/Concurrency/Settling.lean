import WanManager.Concurrency.Reactive
import Mathlib.Dynamics.FixedPoints.Basic

/-! # A thread that is left alone

Nothing happens to a thread any more but what it asks for, so its ticks repeat one function of the
store. The repetition settles if it reaches a store that a further tick leaves as it is; a load that
every tick lowers, unless it only puts things in order, makes it settle. -/

namespace WanManager.Concurrency

variable {ℓ σ α β : Type}

namespace Prog

/-- The program among others that reply to each of its sections at once. -/
def answered (reply : ℓ → σ → σ) : Prog ℓ σ α → Prog ℓ σ α
  | ret a => ret a
  | atomic l f k => atomic l (fun s => reply l (f s)) fun s => (k s).answered reply

@[simp] theorem answered_ret (reply : ℓ → σ → σ) (a : α) :
    (ret a : Prog ℓ σ α).answered reply = ret a := rfl

@[simp] theorem answered_bind (reply : ℓ → σ → σ) (p : Prog ℓ σ α) (q : α → Prog ℓ σ β) :
    (p >>= q).answered reply = p.answered reply >>= fun a => (q a).answered reply := by
  induction p with
  | ret a => rfl
  | atomic l f k ih =>
    simp only [atomic_bind, answered, Prog.atomic.injEq, true_and]
    funext s
    exact ih s

end Prog

/-- Repeated from `s`, `f` reaches a point that it leaves alone. -/
def Settles (f : σ → σ) (s : σ) : Prop := ∃ n, Function.IsFixedPt f (f^[n] s)

/-- All that `f` reaches from `s` meets `A`. -/
def Throughout (f : σ → σ) (A : σ → Prop) (s : σ) : Prop := ∀ n, A (f^[n] s)

section Settles

variable {f T : σ → σ} {A P Q : σ → Prop} {load : σ → Nat} {s : σ}

theorem Throughout.here (h : Throughout f A s) : A s := h 0

theorem Throughout.apply (h : Throughout f A s) : Throughout f A (f s) := fun n => h (n + 1)

theorem settles_of_fixed (h : f s = s) : Settles f s := ⟨0, h⟩

theorem Settles.of_apply (h : Settles f (f s)) : Settles f s := by
  obtain ⟨n, hn⟩ := h
  exact ⟨n + 1, hn⟩

theorem Settles.iterate (h : Settles f s) (n : Nat) : Settles f (f^[n] s) := by
  obtain ⟨m, hm⟩ := h
  refine ⟨m, ?_⟩
  rw [← Function.iterate_add_apply, Nat.add_comm, Function.iterate_add_apply]
  have hstays : f^[n] (f^[m] s) = f^[m] s := hm.iterate n
  rwa [hstays]

/-- Two conditions that take turns are never settled. -/
theorem not_settles_of_turns (hP : ∀ s, P s → Q (f s)) (hQ : ∀ s, Q s → P (f s))
    (hne : ∀ s, P s → ¬ Q s) (hs : P s) : ¬ Settles f s := by
  intro ⟨n, hn⟩
  have hturn : P (f^[n] s) ∨ Q (f^[n] s) := by
    clear hn
    induction n with
    | zero => exact .inl hs
    | succ n ih =>
      rw [Function.iterate_succ_apply']
      exact ih.symm.imp (hQ _) (hP _)
  obtain hp | hq := hturn
  · have hnext := hP _ hp
    rw [hn] at hnext
    exact hne _ hp hnext
  · have hnext := hQ _ hq
    rw [hn] at hnext
    exact hne _ hnext hq

/-- Where every repetition lowers the load, or is one of `T`, which changes nothing twice, `f`
settles. -/
theorem settles_of_load (hT : ∀ s, P s → T (T s) = T s)
    (hstep : ∀ s, P s → Settles f (f s) ∨
      P (f s) ∧ (load (f s) < load s ∨ f s = T s ∧ load (f s) ≤ load s)) (hs : P s) :
    Settles f s := by
  induction hn : load s using Nat.strong_induction_on generalizing s with
  | _ n ih =>
    subst hn
    apply Settles.of_apply
    obtain h | ⟨hnext, hless | ⟨hrest, hle⟩⟩ := hstep s hs
    · exact h
    · exact ih _ hless hnext rfl
    apply Settles.of_apply
    obtain h | ⟨hnext', hless | ⟨hrest', -⟩⟩ := hstep _ hnext
    · exact h
    · exact ih _ (Nat.lt_of_lt_of_le hless hle) hnext' rfl
    · rw [hrest', hrest, hT s hs, ← hrest]
      apply settles_of_fixed
      rw [hrest', hrest, hT s hs]

end Settles

end WanManager.Concurrency
