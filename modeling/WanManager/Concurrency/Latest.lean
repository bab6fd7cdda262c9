import Mathlib.Data.List.Induction

/-! # The latest of what messages carry

A store of several values, each of which a message may carry or leave out. The store follows the
messages if it has, after each of them, of every value the one that was carried last. -/

namespace WanManager.Concurrency

variable {μ σ ι α : Type}

/-- What the last message with a value carried, or else what was held before. -/
def latest (f : μ → Option α) (held : Option α) (ms : List μ) : Option α :=
  (ms.reverse.findSome? f).or held

@[simp] theorem latest_concat (f : μ → Option α) (held : Option α) (ms : List μ) (m : μ) :
    latest f held (ms ++ [m]) = (f m).or (latest f held ms) := by
  unfold latest
  rw [List.reverse_append, List.reverse_singleton, List.singleton_append, List.findSome?_cons]
  cases f m <;> rfl

theorem latest_append (f : μ → Option α) (held : Option α) (ms ms' : List μ) :
    latest f held (ms ++ ms') = latest f (latest f held ms) ms' := by
  unfold latest
  rw [List.reverse_append, List.findSome?_append, Option.or_assoc]

/-- What all messages leave out stays what it was. -/
theorem latest_of_none {f : μ → Option α} {held : Option α} {ms : List μ} (h : ∀ m ∈ ms, f m = none) :
    latest f held ms = held := by
  have hnone : ms.reverse.findSome? f = none :=
    List.findSome?_eq_none_iff.mpr fun m hm => h m (List.mem_reverse.mp hm)
  rw [latest, hnone, Option.none_or]

section Follows

variable (step : σ → μ → σ) (view : σ → ι → Option α) (carried : μ → ι → Option α)

/-- A message renews what it carries and leaves the rest. -/
def Renews (s : σ) (m : μ) : Prop := ∀ i, view (step s m) i = (carried m i).or (view s i)

/-- After each of the messages the store has the latest of everything. -/
def Follows (s : σ) (ms : List μ) : Prop :=
  ∀ done, done <+: ms → ∀ i, view (done.foldl step s) i = latest (carried · i) (view s i) done

variable {step view carried}

theorem Follows.latest {s : σ} {ms : List μ} (h : Follows step view carried s ms) (i : ι) :
    view (ms.foldl step s) i = latest (carried · i) (view s i) ms := h ms (List.prefix_refl ms) i

/-- A store follows the messages exactly if each of them renews it. -/
theorem follows_iff {s : σ} {ms : List μ} : Follows step view carried s ms ↔
    ∀ done m, done ++ [m] <+: ms → Renews step view carried (done.foldl step s) m := by
  constructor
  · intro h done m hpre i
    have hafter := h (done ++ [m]) hpre i
    rw [List.foldl_append, latest_concat] at hafter
    rw [h done ((List.prefix_append done [m]).trans hpre) i]
    exact hafter
  · intro h done
    induction done using List.reverseRecOn with
    | nil => exact fun _ _ => rfl
    | append_singleton done m ih =>
      intro hpre i
      have hbefore := ih ((List.prefix_append done [m]).trans hpre) i
      rw [List.foldl_append, latest_concat, ← hbefore]
      exact h done m hpre i

end Follows

end WanManager.Concurrency
