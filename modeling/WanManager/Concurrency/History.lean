import WanManager.Concurrency.Own

/-! # History variables

`Prog.record` adds a value to the store that every section updates from its label and from
the store before and after it. No section reads the value, so the recorded runs of a pool
are its runs: `Reach.record` and `Reach.erase`.
-/

namespace WanManager.Concurrency

variable {ℓ σ γ α β τ : Type}

namespace Prog

def record (note : ℓ → σ → σ → γ → γ) : Prog ℓ σ α → Prog ℓ (σ × γ) α
  | ret a => ret a
  | atomic l f k =>
    atomic l (fun x => (f x.1, note l x.1 (f x.1) x.2)) fun x => (k x.1).record note

variable {note : ℓ → σ → σ → γ → γ}

@[simp] theorem record_ret (a : α) : (ret a : Prog ℓ σ α).record note = ret a := rfl

theorem record_critical (l : ℓ) (m : σ → α × σ) :
    (critical l m).record note =
      critical l fun x => ((m x.1).1, (m x.1).2, note l x.1 (m x.1).2 x.2) := rfl

@[simp] theorem record_bind (p : Prog ℓ σ α) (q : α → Prog ℓ σ β) :
    (p >>= q).record note = p.record note >>= fun a => (q a).record note := by
  induction p with
  | ret a => rfl
  | atomic l f k ih =>
    show atomic l _ _ = atomic l _ _
    congr 1
    funext x
    exact ih x.1

@[simp] theorem record_ite (c : Prop) [Decidable c] (p q : Prog ℓ σ α) :
    (if c then p else q).record note = if c then p.record note else q.record note := by
  split <;> rfl

@[simp] theorem record_forEach (is : List β) (body : β → Prog ℓ σ Unit) :
    (forEach is body).record note = forEach is fun i => (body i).record note := by
  induction is with
  | nil => rfl
  | cons i is ih => simp [forEach, ih]

@[simp] theorem record_forUntil (is : List β) (body : β → Prog ℓ σ Bool) :
    (forUntil is body).record note = forUntil is fun i => (body i).record note := by
  induction is with
  | nil => rfl
  | cons i is ih =>
    simp only [forUntil, record_bind]
    congr 1
    funext b
    cases b <;> simp [ih]

end Prog

/-! ## Contracts -/

/-- Every step `D` allows keeps `C`, with the history the step leaves. -/
structure Contract.Records (C : Contract ℓ (σ × γ)) (D : Contract ℓ σ) (note : ℓ → σ → σ → γ → γ) :
    Prop where
  inv : ∀ x, C.inv x → D.inv x.1
  guard : ∀ l x, C.guard l x → D.guard l x.1
  rely : ∀ x y, C.rely x y → D.rely x.1 y.1
  step : ∀ l x s, C.inv x → C.guard l x → D.step l x.1 s → C.step l x (s, note l x.1 s x.2)

/-- What a program does under `D`, it does under `C` with its history. -/
theorem Triple.record {C : Contract ℓ (σ × γ)} {D : Contract ℓ σ} {note : ℓ → σ → σ → γ → γ}
    {P : σ → Prop} {p : Prog ℓ σ α} {Q : α → σ → Prop} (hv : C.Records D note) (h : Triple D P p Q) :
    Triple C (fun x => P x.1) (p.record note) fun a x => Q a x.1 := by
  suffices ∀ (p : Prog ℓ σ α) x, Safe D Q p x.1 → Safe C (fun a x => Q a x.1) (p.record note) x from
    fun x hi hp => this p x (h x.1 (hv.inv x hi) hp)
  intro p
  induction p with
  | ret a => exact fun x hs y hr hi => hs y.1 (hv.rely x y hr) (hv.inv y hi)
  | atomic l f k ih =>
    intro x hs y hr hi hg
    obtain ⟨hstep, hk⟩ := hs y.1 (hv.rely x y hr) (hv.inv y hi) (hv.guard l y hg)
    refine ⟨hv.step l y _ hi hg hstep, fun hi' => ih y.1 _ ?_⟩
    exact hk (hv.inv _ hi')

/-! ## Programs with their history -/

/-- What a program does to the store and to the history its sections leave. -/
def Noted (C : Contract ℓ (σ × γ)) (note : ℓ → σ → σ → γ → γ) (P : σ × γ → Prop) (p : Prog ℓ σ α)
    (Q : α → σ × γ → Prop) : Prop := Triple C P (p.record note) Q

namespace Noted

variable {C : Contract ℓ (σ × γ)} {note : ℓ → σ → σ → γ → γ} {P P' : σ × γ → Prop}
  {Q Q' : α → σ × γ → Prop} {R : β → σ × γ → Prop}

theorem ret {a : α} (hQ : C.Stable (Q a)) (h : ∀ s, C.inv s → P s → Q a s) :
    Noted C note P (.ret a) Q := Triple.ret hQ h

theorem bind {p : Prog ℓ σ α} {q : α → Prog ℓ σ β} (hp : Noted C note P p Q)
    (hq : ∀ a, Noted C note (Q a) (q a) R) : Noted C note P (p >>= q) R := by
  unfold Noted
  rw [Prog.record_bind]
  exact Triple.bind hp hq

theorem mono {p : Prog ℓ σ α} (h : Noted C note P p Q) (hP : ∀ s, C.inv s → P' s → P s)
    (hQ : ∀ a s, C.inv s → Q a s → Q' a s) : Noted C note P' p Q' := Triple.mono h hP hQ

theorem pre {p : Prog ℓ σ α} (h : Noted C note P p Q) (hP : ∀ s, C.inv s → P' s → P s) :
    Noted C note P' p Q := Triple.pre h hP

theorem ite {c : Prop} [Decidable c] {p q : Prog ℓ σ α} (hp : c → Noted C note P p Q)
    (hq : ¬ c → Noted C note P q Q) : Noted C note P (if c then p else q) Q := by
  unfold Noted
  rw [Prog.record_ite]
  exact Triple.ite hp hq

theorem critical {l : ℓ} {m : σ → α × σ} (hP : C.Stable P) (hQ : ∀ a, C.Stable (Q a))
    (h : ∀ s, C.inv s → C.guard l s → P s → C.step l s ((m s.1).2, note l s.1 (m s.1).2 s.2) ∧
      (C.inv ((m s.1).2, note l s.1 (m s.1).2 s.2) →
        Q (m s.1).1 ((m s.1).2, note l s.1 (m s.1).2 s.2))) : Noted C note P (.critical l m) Q := by
  unfold Noted
  rw [Prog.record_critical]
  exact Triple.critical hP hQ h

theorem forEach {is : List β} {body : β → Prog ℓ σ Unit} (hP : C.Stable P)
    (step : ∀ i ∈ is, Noted C note P (body i) fun _ => P) :
    Noted C note P (.forEach is body) fun _ => P := by
  unfold Noted
  rw [Prog.record_forEach]
  exact Triple.forEach hP step

/-- Locked, the program `p` is one section; unlocked, the section leaves the store alone. -/
theorem lockedIf {l : ℓ} {find : σ → Option β} {p : β → Prog ℓ σ α} {q : Prog ℓ σ α}
    (hP : C.Stable P) (hQ : ∀ a, C.Stable (Q a))
    (hlock : ∀ s b, C.inv s → C.guard l s → P s → find s.1 = some b →
      C.step l s (((p b).run s.1).2, note l s.1 ((p b).run s.1).2 s.2) ∧
        (C.inv (((p b).run s.1).2, note l s.1 ((p b).run s.1).2 s.2) →
          Q ((p b).run s.1).1 (((p b).run s.1).2, note l s.1 ((p b).run s.1).2 s.2)))
    (hfree : ∀ s, C.inv s → C.guard l s → P s → find s.1 = none →
      C.step l s (s.1, note l s.1 s.1 s.2) ∧
        (C.inv (s.1, note l s.1 s.1 s.2) → P' (s.1, note l s.1 s.1 s.2)))
    (hopen : Noted C note P' q Q) : Noted C note P (.lockedIf l find p q) Q := by
  intro s _ hp s' hr hi hg
  have hp' := hP s s' hp hr hi
  cases hb : find s'.1 with
  | none =>
    obtain ⟨hstep, hnone⟩ := hfree s' hi hg hp' hb
    simp only [hb]
    exact ⟨hstep, fun hi' => hopen _ hi' (hnone hi')⟩
  | some b =>
    obtain ⟨hstep, hq⟩ := hlock s' b hi hg hp' hb
    simp only [hb]
    exact ⟨hstep, fun hi' u hu hiu => hQ _ _ u (hq hi') hu hiu⟩

end Noted

/-! ## Runs -/

namespace Pool

def record (P : Pool ℓ τ σ) (note : ℓ → σ → σ → γ → γ) : Pool ℓ τ (σ × γ) where
  body t := (P.body t).record note
  ready t x := P.ready t x.1
  env x y := P.env x.1 y.1 ∧ y.2 = x.2

/-- The same line of a script, with the history left as it is. -/
def Move.record {P : Pool ℓ τ σ} (note : ℓ → σ → σ → γ → γ) (m : P.Move) :
    (P.record note).Move where
  edit x := (m.edit x.1, x.2)
  allowed x := ⟨m.allowed x.1, rfl⟩
  thread := m.thread

/-- A configuration with a history added to its store. -/
def withHistory (note : ℓ → σ → σ → γ → γ) (h : γ) (c : Config ℓ τ σ) : Config ℓ τ (σ × γ) :=
  ⟨(c.store, h), fun t => (c.pc t).record note⟩

variable [DecidableEq τ] {P : Pool ℓ τ σ} {note : ℓ → σ → σ → γ → γ} {guard : ℓ → σ → Prop}
  {init : σ → Prop} {h₀ : γ}

theorem withHistory_update (s : σ) (pc : τ → Prog ℓ σ Unit) (t : τ) (p : Prog ℓ σ Unit) (h : γ) :
    withHistory note h ⟨s, Function.update pc t p⟩ =
      ⟨(s, h), Function.update (fun u => (pc u).record note) t (p.record note)⟩ := by
  simp only [withHistory, Config.mk.injEq, true_and]
  funext u
  by_cases hu : u = t
  · subst hu; simp
  · simp [hu]

/-- Every run has a history. -/
theorem Reach.record {c : Config ℓ τ σ} (hr : P.Reach guard init c) :
    ∃ h, (P.record note).Reach (fun l x => guard l x.1) (fun x => init x.1 ∧ x.2 = h₀)
      (withHistory note h c) := by
  induction hr with
  | start hs => exact ⟨h₀, .start ⟨hs, rfl⟩⟩
  | @step c d _ hstep ih =>
    obtain ⟨h, ih⟩ := ih
    cases hstep with
    | @wake t hpc hready =>
      refine ⟨h, .step ih ?_⟩
      rw [withHistory_update]
      exact .wake (P := P.record note) (t := t) (by simp [withHistory, hpc]) hready
    | @exec t l f k hpc hg =>
      refine ⟨note l c.store (f c.store) h, .step ih ?_⟩
      have hpc' : (withHistory note h c).pc t = (Prog.atomic l f k).record note := by
        simp [withHistory, hpc]
      rw [withHistory_update]
      exact .exec (P := P.record note) hpc' hg
    | @env s he => exact ⟨h, .step ih (.env (P := P.record note) ⟨he, rfl⟩)⟩

/-- A run with a history is a run. -/
theorem Reach.erase {d : Config ℓ τ (σ × γ)}
    (hr : (P.record note).Reach (fun l x => guard l x.1) (fun x => init x.1 ∧ x.2 = h₀) d) :
    ∃ c h, P.Reach guard init c ∧ d = withHistory note h c := by
  induction hr with
  | @start x hs => exact ⟨idle x.1, x.2, .start hs.1, rfl⟩
  | @step d e _ hstep ih =>
    obtain ⟨c, h, hc, rfl⟩ := ih
    cases hstep with
    | @wake t hpc hready =>
      have hret : c.pc t = .ret () := by
        cases hp : c.pc t with
        | ret a => rfl
        | atomic l f k => simp [withHistory, hp, Prog.record] at hpc
      exact ⟨_, h, .step hc (.wake hret hready), (withHistory_update ..).symm⟩
    | @exec t l f k hpc hg =>
      cases hp : c.pc t with
      | ret a => simp [withHistory, hp] at hpc
      | atomic l' f' k' =>
        simp only [withHistory, hp, Prog.record, Prog.atomic.injEq] at hpc
        obtain ⟨rfl, rfl, rfl⟩ := hpc
        exact ⟨_, _, .step hc (.exec hp hg), (withHistory_update ..).symm⟩
    | @env x he =>
      obtain ⟨s, h'⟩ := x
      obtain ⟨henv, hh⟩ := he
      have hsame : h' = h := hh
      exact ⟨⟨s, c.pc⟩, h, .step hc (.env henv), by simp [withHistory, hsame]⟩

/-- The stores of the runs with a history are those of the runs. -/
theorem record_runs {s : σ} :
    (∃ c, P.Reach guard init c ∧ c.store = s) ↔
      ∃ d, (P.record note).Reach (fun l x => guard l x.1) (fun x => init x.1 ∧ x.2 = h₀) d ∧
        d.store.1 = s := by
  constructor
  · rintro ⟨c, hc, rfl⟩
    have hrecord : ∃ h, (P.record note).Reach (fun l x => guard l x.1) (fun x => init x.1 ∧ x.2 = h₀)
        (withHistory note h c) := hc.record
    obtain ⟨h, hd⟩ := hrecord
    exact ⟨_, hd, rfl⟩
  · rintro ⟨d, hd, rfl⟩
    obtain ⟨c, h, hc, rfl⟩ := hd.erase
    exact ⟨c, hc, rfl⟩

end Pool

end WanManager.Concurrency
