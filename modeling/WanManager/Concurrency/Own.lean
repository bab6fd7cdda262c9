import WanManager.Concurrency.Pool

/-! # One thread and what is its own

A thread in an arbitrary environment may only rely on the part of the store that is its
own. Assertions about that part are stable whatever the others do, so a proof about the
thread is a walk through its sections.
-/

namespace WanManager.Concurrency

variable {ℓ σ ρ α β : Type}

/-- An assertion about the thread's own part of the store. -/
def Owned (own : σ → ρ) (A : ρ → Prop) (s : σ) : Prop := A (own s)

namespace Protocol

/-- The protocol of a thread that relies on its own part of the store only. -/
def own (own : σ → ρ) (inv : σ → Prop) (rest : ρ → Prop) (guard : ℓ → σ → Prop) :
    Protocol ℓ Unit σ where
  inv := inv
  rely _ s s' := own s' = own s
  rest _ := Owned own rest
  guard := guard
  refl _ _ := rfl
  trans h h' := h'.trans h

variable {own : σ → ρ} {inv : σ → Prop} {rest : ρ → Prop} {guard : ℓ → σ → Prop}
  {A : ρ → Prop}

theorem own_stable (A : ρ → Prop) :
    ((Protocol.own own inv rest guard).contract ()).Stable (Owned own A) := by
  intro s s' hA hr _
  have hown : own s' = own s := hr
  simpa [Owned, hown] using hA

theorem own_guar (s s' : σ) : (Protocol.own own inv rest guard).Guar () s s' :=
  fun _ hu => absurd rfl hu

/-- One section: the invariant and the assertion, from one store to the next. -/
theorem own_section {l : ℓ} {m : σ → α × σ} {B : α → ρ → Prop}
    (h : ∀ s, inv s → guard l s → A (own s) → inv (m s).2 ∧ B (m s).1 (own (m s).2)) :
    Triple ((Protocol.own own inv rest guard).contract ()) (Owned own A) (.critical l m)
      fun a => Owned own (B a) :=
  Triple.critical (own_stable A) (fun a => own_stable (B a)) fun s hi hg hA =>
    ⟨⟨(h s hi hg hA).1, own_guar _ _⟩, fun _ => (h s hi hg hA).2⟩

theorem own_ret {a : α} {B : α → ρ → Prop} (h : ∀ r, A r → B a r) :
    Triple ((Protocol.own own inv rest guard).contract ()) (Owned own A) (.ret a)
      fun a => Owned own (B a) :=
  Triple.ret (own_stable _) fun s _ hA => h (own s) hA

end Protocol

end WanManager.Concurrency
