import WanManager.Concurrency.Pool

/-! # Programs that nobody interrupts

A `Reactive` thread runs its program to the end under a lock; its environment changes the
store between two runs. `Prog.Ensures` is the Hoare form for such a program. As in a
`Pool`, a `guard` restricts a run to the sections it admits, so the conditions of a
section may be stated about the store that section finds.
-/

namespace WanManager.Concurrency

variable {ℓ σ α β : Type}

namespace Prog

variable {guard : ℓ → σ → Prop}

theorem admits_bind {p : Prog ℓ σ α} {q : α → Prog ℓ σ β} {s : σ} :
    (p >>= q).Admits guard s ↔ p.Admits guard s ∧ (q (p.run s).1).Admits guard (p.run s).2 := by
  induction p generalizing s with
  | ret a => simp [Admits]
  | atomic l f k ih => simp [Admits, ih, and_assoc]

theorem Admits.mono {guard' : ℓ → σ → Prop} (h : ∀ l s, guard l s → guard' l s)
    {p : Prog ℓ σ α} {s : σ} (hp : p.Admits guard s) : p.Admits guard' s := by
  induction p generalizing s with
  | ret a => trivial
  | atomic l f k ih => exact ⟨h l s hp.1, ih s hp.2⟩

/-- Every admitted run of `p` from a store in `P` ends in `Q`. -/
def Ensures (guard : ℓ → σ → Prop) (P : σ → Prop) (p : Prog ℓ σ α) (Q : α → σ → Prop) : Prop :=
  ∀ s, P s → p.Admits guard s → Q (p.run s).1 (p.run s).2

namespace Ensures

variable {P P' : σ → Prop} {Q Q' : α → σ → Prop} {R : β → σ → Prop}

theorem ret {a : α} (h : ∀ s, P s → Q a s) : Ensures guard P (.ret a) Q := fun s hs _ => h s hs

theorem bind {p : Prog ℓ σ α} {q : α → Prog ℓ σ β} (hp : Ensures guard P p Q)
    (hq : ∀ a, Ensures guard (Q a) (q a) R) : Ensures guard P (p >>= q) R := by
  intro s hs hadm
  obtain ⟨hadmp, hadmq⟩ := admits_bind.mp hadm
  rw [run_bind]
  exact hq _ _ (hp s hs hadmp) hadmq

theorem critical {l : ℓ} {m : σ → α × σ} (h : ∀ s, P s → guard l s → Q (m s).1 (m s).2) :
    Ensures guard P (.critical l m) Q := fun s hs hadm => h s hs hadm.1

theorem modify {l : ℓ} {f : σ → σ} {Q : Unit → σ → Prop}
    (h : ∀ s, P s → guard l s → Q () (f s)) : Ensures guard P (.modify l f) Q := critical h

/-- What follows a section starts from the store the section left. -/
theorem critical_bind {l : ℓ} {m : σ → α × σ} {q : α → Prog ℓ σ β}
    (h : ∀ s, P s → guard l s → Ensures guard (· = (m s).2) (q (m s).1) R) :
    Ensures guard P (.critical l m >>= q) R := by
  intro s hs hadm
  obtain ⟨hguard, hadmq⟩ := hadm
  exact h s hs hguard _ rfl hadmq

end Ensures

end Prog

/-! ## Reactive threads -/

structure Reactive (ℓ σ : Type) where
  tick : Prog ℓ σ Unit
  env : σ → σ → Prop

namespace Reactive

variable {M : Reactive ℓ σ} {guard : ℓ → σ → Prop} {init : σ → Prop}

/-- The stores at the ends of ticks, in runs whose sections are all admitted by `guard`. -/
inductive Reach (M : Reactive ℓ σ) (guard : ℓ → σ → Prop) (init : σ → Prop) : σ → Prop
  | start {s} : init s → Reach M guard init s
  | tick {s u} : Reach M guard init s → M.env s u → M.tick.Admits guard u →
      Reach M guard init (M.tick.run u).2

/-- What holds at the start and is kept by an undisturbed tick after any change of the
environment holds at the end of every tick. -/
theorem Reach.invariant {I : σ → Prop} {s : σ} (hr : M.Reach guard init s)
    (hinit : ∀ s, init s → I s)
    (htick : ∀ s, I s → Prog.Ensures guard (M.env s) M.tick fun _ => I) : I s := by
  induction hr with
  | start h => exact hinit _ h
  | tick _ henv hadm ih => exact htick _ ih _ henv hadm

/-- The ticks of a run: the store a tick finds and the store it leaves. -/
inductive Ticks (M : Reactive ℓ σ) (guard : ℓ → σ → Prop) (init : σ → Prop) : σ → σ → Prop
  | tick {s u} : Reach M guard init s → M.env s u → M.tick.Admits guard u →
      Ticks M guard init u (M.tick.run u).2

/-- What an undisturbed tick ensures is true of every tick of a run. -/
theorem Ticks.ensures {u s : σ} {R : σ → σ → Prop} (h : M.Ticks guard init u s)
    (htick : ∀ u, Prog.Ensures guard (· = u) M.tick fun _ => R u) : R u s := by
  cases h with
  | tick _ _ hadm => exact htick u u rfl hadm

/-- A change the environment may make. -/
structure Change (M : Reactive ℓ σ) where
  edit : σ → σ
  allowed : ∀ s, M.env s (edit s)

def play (M : Reactive ℓ σ) : List M.Change → σ → σ
  | [], s => s
  | m :: ms, s => M.play ms (M.tick.run (m.edit s)).2

/-- The script only executes admitted sections. -/
def Plays (M : Reactive ℓ σ) (guard : ℓ → σ → Prop) : List M.Change → σ → Prop
  | [], _ => True
  | m :: ms, s => M.tick.Admits guard (m.edit s) ∧ M.Plays guard ms (M.tick.run (m.edit s)).2

instance decidablePlays (M : Reactive ℓ σ) (guard : ℓ → σ → Prop)
    [∀ l s, Decidable (guard l s)] : (ms : List M.Change) → (s : σ) → Decidable (M.Plays guard ms s)
  | [], _ => isTrue trivial
  | m :: ms, s =>
    have := decidablePlays M guard ms (M.tick.run (m.edit s)).2
    inferInstanceAs (Decidable (_ ∧ _))

theorem plays_true (m : List M.Change) (s : σ) : M.Plays (fun _ _ => True) m s := by
  induction m generalizing s with
  | nil => trivial
  | cons c m ih => exact ⟨Prog.admits_true _ _, ih _⟩

theorem Reach.play {s : σ} {m : List M.Change} (h : M.Reach guard init s)
    (hp : M.Plays guard m s) : M.Reach guard init (M.play m s) := by
  induction m generalizing s with
  | nil => exact h
  | cons c m ih => exact ih (h.tick (c.allowed s) hp.1) hp.2

end Reactive

end WanManager.Concurrency
