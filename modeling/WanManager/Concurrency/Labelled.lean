import Mathlib.Data.List.Basic

/-! # Runs of labelled steps

A step relation whose steps carry the event they stand for, for threads that nobody interrupts
between two events. A run is known by its events, the last one first, so a theorem can speak of what
has happened since a given moment; `restrict` keeps the steps a guard admits. -/

namespace WanManager.Concurrency

structure Labelled (ε σ : Type) where
  step : ε → σ → σ → Prop

namespace Labelled

variable {ε σ : Type} {S : Labelled ε σ}

/-- From `s`, the events of the list have led to `t`; the last one stands first. -/
inductive Run (S : Labelled ε σ) (s : σ) : List ε → σ → Prop
  | nil : Run S s [] s
  | cons {t u e es} : Run S s es t → S.step e t u → Run S s (e :: es) u

/-- What every event keeps, if it is one of those `K` allows, a run of such events keeps. -/
theorem Run.invariant {K : ε → Prop} {I : σ → Prop} {s t : σ} {es : List ε} (hr : S.Run s es t)
    (hK : ∀ e ∈ es, K e) (hs : I s) (hstep : ∀ e u v, K e → I u → S.step e u v → I v) : I t := by
  induction hr with
  | nil => exact hs
  | cons _ he ih =>
    have hrest := ih fun e h => hK e (List.mem_cons_of_mem _ h)
    exact hstep _ _ _ (hK _ List.mem_cons_self) hrest he

theorem Run.append {s t u : σ} {es fs : List ε} (hr : S.Run s es t) (hr' : S.Run t fs u) :
    S.Run s (fs ++ es) u := by
  induction hr' with
  | nil => exact hr
  | cons _ he ih => exact .cons ih he

/-- The steps that `guard` admits. -/
def restrict (S : Labelled ε σ) (guard : ε → σ → Prop) : Labelled ε σ where
  step e s t := guard e s ∧ S.step e s t

/-! ## Building runs -/

/-- One line of a script: an event, and what it makes of a state that is ready for it. -/
structure Move (S : Labelled ε σ) where
  event : ε
  edit : σ → σ
  ready : σ → Bool
  allowed : ∀ s, ready s = true → S.step event s (edit s)

/-- The same line for the steps a guard admits, which is checked for it. -/
def Move.guarded {guard : ε → σ → Prop} (m : S.Move) (check : σ → Bool)
    (h : ∀ s, check s = true → guard m.event s) : (S.restrict guard).Move where
  event := m.event
  edit := m.edit
  ready s := m.ready s && check s
  allowed s hs :=
    have hboth := Bool.and_eq_true_iff.mp hs
    ⟨h s hboth.2, m.allowed s hboth.1⟩

def play (S : Labelled ε σ) : List S.Move → σ → σ
  | [], s => s
  | m :: ms, s => S.play ms (m.edit s)

def plays (S : Labelled ε σ) : List S.Move → σ → Bool
  | [], _ => true
  | m :: ms, s => m.ready s && S.plays ms (m.edit s)

/-- The events of a script, the last one first. -/
def events (S : Labelled ε σ) (ms : List S.Move) : List ε := (ms.map (·.event)).reverse

theorem Run.play {s : σ} {ms : List S.Move} (h : S.plays ms s = true) :
    S.Run s (S.events ms) (S.play ms s) := by
  induction ms generalizing s with
  | nil => exact .nil
  | cons m ms ih =>
    simp only [plays, Bool.and_eq_true] at h
    obtain ⟨hready, hrest⟩ := h
    have hfirst : S.Run s [m.event] (m.edit s) := .cons .nil (m.allowed s hready)
    simpa [events, Labelled.play] using hfirst.append (ih hrest)

end Labelled

end WanManager.Concurrency
