import WanManager.Concurrency.Prog

/-! # Contracts of one thread

A `Contract` says what the others may do between two sections of a thread (`rely`) and what
each of its sections may do (`step`), from stores in `inv` that the `guard` of the run
admits. `Safe` is the proof obligation of a program under a contract and `Triple` its Hoare
form. `Contract.Refines` moves a triple from a part of the store to the whole of it.
-/

namespace WanManager.Concurrency

variable {ℓ ℓ' σ τ α β : Type}

structure Contract (ℓ σ : Type) where
  inv : σ → Prop := fun _ => True
  guard : ℓ → σ → Prop := fun _ _ => True
  rely : σ → σ → Prop
  step : ℓ → σ → σ → Prop
  refl : ∀ s, rely s s
  trans : ∀ {a b c}, rely a b → rely b c → rely a c
  /-- a section may leave the store alone -/
  idle : ∀ l s, inv s → step l s s

/-- An assertion that no other thread can invalidate. -/
def Contract.Stable (C : Contract ℓ σ) (A : σ → Prop) : Prop :=
  ∀ s s', A s → C.rely s s' → C.inv s' → A s'

/-- Every section of the program takes a step the contract allows, from whatever store the
rely allows it to find, and the program ends in `Q`. -/
def Safe (C : Contract ℓ σ) (Q : α → σ → Prop) : Prog ℓ σ α → σ → Prop
  | .ret a, s => ∀ s', C.rely s s' → C.inv s' → Q a s'
  | .atomic l f k, s => ∀ s', C.rely s s' → C.inv s' → C.guard l s' →
      C.step l s' (f s') ∧ (C.inv (f s') → Safe C Q (k s') (f s'))

namespace Safe

variable {C : Contract ℓ σ} {Q Q' : α → σ → Prop} {s s' : σ}

theorem rely {p : Prog ℓ σ α} (h : Safe C Q p s) (hr : C.rely s s') : Safe C Q p s' := by
  cases p with
  | ret a => exact fun u hu hi => h u (C.trans hr hu) hi
  | atomic l f k => exact fun u hu hi hg => h u (C.trans hr hu) hi hg

theorem mono {p : Prog ℓ σ α} (h : Safe C Q p s) (hQ : ∀ a s', C.inv s' → Q a s' → Q' a s') :
    Safe C Q' p s := by
  induction p generalizing s with
  | ret a => exact fun u hu hi => hQ a u hi (h u hu hi)
  | atomic l f k ih =>
    intro u hu hi hg
    obtain ⟨hstep, hk⟩ := h u hu hi hg
    exact ⟨hstep, fun hi' => ih u (hk hi')⟩

theorem bind {p : Prog ℓ σ α} {q : α → Prog ℓ σ β} {R : β → σ → Prop} (hs : C.inv s)
    (hp : Safe C Q p s) (hq : ∀ a s', C.inv s' → Q a s' → Safe C R (q a) s') :
    Safe C R (p >>= q) s := by
  induction p generalizing s with
  | ret a => exact hq a s hs (hp s (C.refl s) hs)
  | atomic l f k ih =>
    intro u hu hi hg
    obtain ⟨hstep, hk⟩ := hp u hu hi hg
    exact ⟨hstep, fun hi' => ih u hi' (hk hi')⟩

end Safe

/-- `p` is safe from every store that satisfies `P`, and ends in `Q`. -/
def Triple (C : Contract ℓ σ) (P : σ → Prop) (p : Prog ℓ σ α) (Q : α → σ → Prop) : Prop :=
  ∀ s, C.inv s → P s → Safe C Q p s

namespace Triple

variable {C : Contract ℓ σ} {P P' : σ → Prop} {Q Q' : α → σ → Prop} {R : β → σ → Prop}

theorem ret {a : α} (hQ : C.Stable (Q a)) (h : ∀ s, C.inv s → P s → Q a s) :
    Triple C P (.ret a) Q :=
  fun s hi hp s' hr hi' => hQ s s' (h s hi hp) hr hi'

theorem bind {p : Prog ℓ σ α} {q : α → Prog ℓ σ β} (hp : Triple C P p Q)
    (hq : ∀ a, Triple C (Q a) (q a) R) : Triple C P (p >>= q) R :=
  fun s hi h => Safe.bind hi (hp s hi h) fun a s' => hq a s'

theorem mono {p : Prog ℓ σ α} (h : Triple C P p Q) (hP : ∀ s, C.inv s → P' s → P s)
    (hQ : ∀ a s, C.inv s → Q a s → Q' a s) : Triple C P' p Q' :=
  fun s hi hp => (h s hi (hP s hi hp)).mono hQ

theorem pre {p : Prog ℓ σ α} (h : Triple C P p Q) (hP : ∀ s, C.inv s → P' s → P s) :
    Triple C P' p Q :=
  h.mono hP fun _ _ _ hq => hq

/-- A section: its obligations are those of one step from a store in `P`. -/
theorem critical {l : ℓ} {m : σ → α × σ} (hP : C.Stable P) (hQ : ∀ a, C.Stable (Q a))
    (h : ∀ s, C.inv s → C.guard l s → P s →
      C.step l s (m s).2 ∧ (C.inv (m s).2 → Q (m s).1 (m s).2)) :
    Triple C P (.critical l m) Q := by
  intro s _ hp s' hr hi hg
  obtain ⟨hstep, hq⟩ := h s' hi hg (hP s s' hp hr hi)
  exact ⟨hstep, fun hi' u hu hiu => hQ _ _ u (hq hi') hu hiu⟩

theorem modify {l : ℓ} {f : σ → σ} {Q : Unit → σ → Prop} (hP : C.Stable P) (hQ : C.Stable (Q ()))
    (h : ∀ s, C.inv s → C.guard l s → P s → C.step l s (f s) ∧ (C.inv (f s) → Q () (f s))) :
    Triple C P (.modify l f) Q :=
  critical hP (fun _ => hQ) h

theorem read {l : ℓ} {g : σ → α} (hP : C.Stable P) (hQ : ∀ a, C.Stable (Q a))
    (h : ∀ s, C.inv s → C.guard l s → P s → Q (g s) s) : Triple C P (.read l g) Q :=
  critical hP hQ fun s hi hg hp => ⟨C.idle l s hi, fun _ => h s hi hg hp⟩

theorem ite {c : Prop} [Decidable c] {p q : Prog ℓ σ α} (hp : c → Triple C P p Q)
    (hq : ¬ c → Triple C P q Q) : Triple C P (if c then p else q) Q := by
  split
  · exact hp ‹_›
  · exact hq ‹_›

/-- Locked, the program `p` is one step; unlocked, `q` starts from stores in `P'`. -/
theorem lockedIf {l : ℓ} {find : σ → Option β} {p : β → Prog ℓ σ α} {q : Prog ℓ σ α}
    (hP : C.Stable P) (hQ : ∀ a, C.Stable (Q a))
    (hlock : ∀ s b, C.inv s → C.guard l s → P s → find s = some b →
      C.step l s ((p b).run s).2 ∧ (C.inv ((p b).run s).2 → Q ((p b).run s).1 ((p b).run s).2))
    (hfree : ∀ s, C.inv s → C.guard l s → P s → find s = none → P' s) (hopen : Triple C P' q Q) :
    Triple C P (.lockedIf l find p q) Q := by
  intro s _ hp s' hr hi hg
  have hp' := hP s s' hp hr hi
  cases hb : find s' with
  | none =>
    simp only [hb]
    exact ⟨C.idle l s' hi, fun _ => hopen s' hi (hfree s' hi hg hp' hb)⟩
  | some b =>
    obtain ⟨hstep, hq⟩ := hlock s' b hi hg hp' hb
    simp only [hb]
    exact ⟨hstep, fun hi' u hu hiu => hQ _ _ u (hq hi') hu hiu⟩

theorem forUntil {is : List β} {body : β → Prog ℓ σ Bool} (hP : C.Stable P)
    (step : ∀ i ∈ is, Triple C P (body i) fun _ => P) :
    Triple C P (.forUntil is body) fun _ => P := by
  induction is with
  | nil => exact ret hP fun _ _ h => h
  | cons i is ih =>
    refine bind (step i (by simp)) fun b => ?_
    cases b with
    | true => exact ret hP fun _ _ h => h
    | false => exact ih fun j hj => step j (by simp [hj])

theorem forEach {is : List β} {body : β → Prog ℓ σ Unit} (hP : C.Stable P)
    (step : ∀ i ∈ is, Triple C P (body i) fun _ => P) :
    Triple C P (.forEach is body) fun _ => P := by
  induction is with
  | nil => exact ret hP fun _ _ h => h
  | cons i is ih => exact bind (step i (by simp)) fun _ => ih fun j hj => step j (by simp [hj])

/-- Under a contract that allows every step nothing is left to prove of a program. -/
theorem free (hstep : ∀ l s s', C.step l s s') (p : Prog ℓ σ α) : Triple C P p fun _ _ => True := by
  intro s _ _
  suffices ∀ (p : Prog ℓ σ α) s, Safe C (fun _ _ => True) p s from this p s
  intro p
  induction p with
  | ret a => exact fun _ _ _ _ => trivial
  | atomic l f k ih => exact fun _ s' _ _ _ => ⟨hstep l s' (f s'), fun _ => ih s' (f s')⟩

/-- A thread that is left alone ends in its postcondition, and what relates the stores around
each of its sections relates those around the whole program. -/
theorem run {p : Prog ℓ σ α} {s : σ} {R : σ → σ → Prop} (h : Triple C P p Q) (hs : P s)
    (hinv : ∀ s, C.inv s) (hguard : ∀ l s, C.guard l s) (hrefl : ∀ s, R s s)
    (htrans : ∀ {a b c}, R a b → R b c → R a c) (hstep : ∀ l s s', C.step l s s' → R s s') :
    Q (p.run s).1 (p.run s).2 ∧ R s (p.run s).2 := by
  have hsafe := h s (hinv s) hs
  clear h hs
  induction p generalizing s with
  | ret a => exact ⟨hsafe s (C.refl s) (hinv s), hrefl s⟩
  | atomic l f k ih =>
    obtain ⟨hfirst, hrest⟩ := hsafe s (C.refl s) (hinv s) (hguard l s)
    obtain ⟨hpost, hrel⟩ := ih s (hrest (hinv _))
    exact ⟨hpost, htrans (hstep l s _ hfirst) hrel⟩

end Triple

/-! ## Two contracts of one thread -/

/-- What `C` lets the others do, and where it applies, satisfies both `D` and `E`; steps that
both allow are allowed by `C`. -/
structure Contract.Meets (C D E : Contract ℓ σ) : Prop where
  inv : ∀ s, C.inv s → D.inv s ∧ E.inv s
  guard : ∀ l s, C.inv s → C.guard l s → D.guard l s ∧ E.guard l s
  rely : ∀ s s', C.rely s s' → D.rely s s' ∧ E.rely s s'
  step : ∀ l s s', C.inv s → C.guard l s → D.step l s s' → E.step l s s' → C.step l s s'

theorem Triple.both {C D E : Contract ℓ σ} {P P' : σ → Prop} {p : Prog ℓ σ α}
    {Q Q' : α → σ → Prop} (hm : C.Meets D E) (h : Triple D P p Q) (h' : Triple E P' p Q') :
    Triple C (fun s => P s ∧ P' s) p fun a s => Q a s ∧ Q' a s := by
  suffices ∀ (p : Prog ℓ σ α) s, Safe D Q p s → Safe E Q' p s →
      Safe C (fun a s => Q a s ∧ Q' a s) p s from
    fun s hi hp => this p s (h s (hm.inv s hi).1 hp.1) (h' s (hm.inv s hi).2 hp.2)
  intro p
  induction p with
  | ret a =>
    intro s hd he s' hr hi
    obtain ⟨hrd, hre⟩ := hm.rely s s' hr
    obtain ⟨hid, hie⟩ := hm.inv s' hi
    exact ⟨hd s' hrd hid, he s' hre hie⟩
  | atomic l f k ih =>
    intro s hd he s' hr hi hg
    obtain ⟨hrd, hre⟩ := hm.rely s s' hr
    obtain ⟨hid, hie⟩ := hm.inv s' hi
    obtain ⟨hgd, hge⟩ := hm.guard l s' hi hg
    obtain ⟨hsd, hkd⟩ := hd s' hrd hid hgd
    obtain ⟨hse, hke⟩ := he s' hre hie hge
    refine ⟨hm.step l s' (f s') hi hg hsd hse, fun hi' => ?_⟩
    obtain ⟨hid', hie'⟩ := hm.inv (f s') hi'
    exact ih s' (f s') (hkd hid') (hke hie')

/-- A contract that asks for less, where the others may do no more. -/
theorem Triple.under {C D : Contract ℓ σ} {P : σ → Prop} {p : Prog ℓ σ α} {Q : α → σ → Prop}
    (hm : C.Meets D D) (h : Triple D P p Q) : Triple C P p Q :=
  (h.both hm h).mono (fun _ _ hp => ⟨hp, hp⟩) fun _ _ _ hq => hq.1

/-- A fact `J` that the others respect, and that every step `D` allows keeps, may be assumed
all along. -/
theorem Triple.keep {C D : Contract ℓ σ} {J P : σ → Prop} {p : Prog ℓ σ α} {Q : α → σ → Prop}
    (hinv : ∀ s, C.inv s → D.inv s) (hguard : ∀ l s, C.guard l s → D.guard l s)
    (hrely : ∀ s s', J s → C.rely s s' → J s' ∧ D.rely s s')
    (hstep : ∀ l s s', C.inv s → J s → D.step l s s' → J s' ∧ C.step l s s') (h : Triple D P p Q) :
    Triple C (fun s => J s ∧ P s) p fun a s => J s ∧ Q a s := by
  suffices ∀ (p : Prog ℓ σ α) s, J s → Safe D Q p s → Safe C (fun a s => J s ∧ Q a s) p s from
    fun s hi hp => this p s hp.1 (h s (hinv s hi) hp.2)
  intro p
  induction p with
  | ret a =>
    intro s hJ hs s' hr hi
    obtain ⟨hJ', hr'⟩ := hrely s s' hJ hr
    exact ⟨hJ', hs s' hr' (hinv s' hi)⟩
  | atomic l f k ih =>
    intro s hJ hs s' hr hi hg
    obtain ⟨hJ', hr'⟩ := hrely s s' hJ hr
    obtain ⟨hd, hk⟩ := hs s' hr' (hinv s' hi) (hguard l s' hg)
    obtain ⟨hJf, hc⟩ := hstep l s' (f s') hi hJ' hd
    exact ⟨hc, fun hi' => ih s' (f s') hJf (hk (hinv _ hi'))⟩

/-! ## From a part of the store to the whole of it -/

/-- Under `C` the part `v` of the store obeys `D`, whose sections are labelled by `g` there. -/
structure Contract.Refines (C : Contract ℓ' σ) (v : View σ τ) (g : ℓ → ℓ') (D : Contract ℓ τ) :
    Prop where
  inv : ∀ s, C.inv s → D.inv (v.get s)
  guard : ∀ l s, C.guard (g l) s → D.guard l (v.get s)
  rely : ∀ s s', C.rely s s' → D.rely (v.get s) (v.get s')
  step : ∀ l s x, C.inv s → C.guard (g l) s → D.step l (v.get s) x → C.step (g l) s (v.put x s)

theorem Triple.lift {C : Contract ℓ' σ} {v : View σ τ} {g : ℓ → ℓ'} {D : Contract ℓ τ}
    {P : τ → Prop} {p : Prog ℓ τ α} {Q : α → τ → Prop} (hv : C.Refines v g D)
    (h : Triple D P p Q) :
    Triple C (fun s => P (v.get s)) ((v.lift p).relabel g) fun a s => Q a (v.get s) := by
  suffices ∀ (p : Prog ℓ τ α) s, Safe D Q p (v.get s) →
      Safe C (fun a s => Q a (v.get s)) ((v.lift p).relabel g) s from
    fun s hi hp => this p s (h _ (hv.inv s hi) hp)
  intro p
  induction p with
  | ret a => exact fun s hs s' hr hi => hs _ (hv.rely s s' hr) (hv.inv s' hi)
  | atomic l f k ih =>
    intro s hs s' hr hi hg
    obtain ⟨hstep, hk⟩ := hs _ (hv.rely s s' hr) (hv.inv s' hi) (hv.guard l s' hg)
    refine ⟨hv.step l s' _ hi hg hstep, fun hi' => ih _ _ ?_⟩
    have hd := hv.inv _ hi'
    rw [View.get_amend] at hd ⊢
    exact hk hd

end WanManager.Concurrency
