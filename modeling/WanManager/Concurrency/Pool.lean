import WanManager.Concurrency.Contract

/-! # Threads sharing a store, and rely-guarantee invariants

A `Pool` is a family of threads that wake up, run one program section by section and
sleep again, in an environment that may change the store between any two sections. A
`Protocol` gives the global invariant and, for each thread, what it relies on: a
preorder that every section of every other thread, and the environment, must respect; this
is a contract for each thread, and `Pool.Sound.reach` is the run theorem. The `guard` of a
run restricts it to sections executed from stores the guard admits.
-/

namespace WanManager.Concurrency

variable {ℓ τ σ α : Type}

structure Protocol (ℓ τ σ : Type) where
  inv : σ → Prop
  rely : τ → σ → σ → Prop
  /-- what holds whenever the thread sleeps -/
  rest : τ → σ → Prop := fun _ _ => True
  guard : ℓ → σ → Prop := fun _ _ => True
  refl : ∀ t s, rely t s s
  trans : ∀ {t a b c}, rely t a b → rely t b c → rely t a c

namespace Protocol

/-- What a section of thread `t` owes to the others. -/
def Guar (C : Protocol ℓ τ σ) (t : τ) (s s' : σ) : Prop := ∀ u, u ≠ t → C.rely u s s'

/-- The contract of thread `t`: every section keeps the invariant and the guarantee. -/
def contract (C : Protocol ℓ τ σ) (t : τ) : Contract ℓ σ where
  inv := C.inv
  guard := C.guard
  rely := C.rely t
  step _ s s' := C.inv s' ∧ C.Guar t s s'
  refl := C.refl t
  trans := C.trans
  idle _ s hi := ⟨hi, fun u _ => C.refl u s⟩

/-- The contract of thread `t` if its sections moreover respect `S`. -/
def narrow (C : Protocol ℓ τ σ) (t : τ) (S : σ → σ → Prop) (hS : ∀ s, S s s) : Contract ℓ σ where
  inv := C.inv
  guard := C.guard
  rely := C.rely t
  step _ s s' := (C.inv s' ∧ C.Guar t s s') ∧ S s s'
  refl := C.refl t
  trans := C.trans
  idle _ s hi := ⟨⟨hi, fun u _ => C.refl u s⟩, hS s⟩

theorem narrow_meets (C : Protocol ℓ τ σ) (t : τ) {S : σ → σ → Prop} (hS : ∀ s, S s s) :
    (C.contract t).Meets (C.narrow t S hS) (C.narrow t S hS) where
  inv _ h := ⟨h, h⟩
  guard _ _ _ h := ⟨h, h⟩
  rely _ _ h := ⟨h, h⟩
  step _ _ _ _ _ h _ := h.1

end Protocol

/-! ## Pools -/

structure Pool (ℓ τ σ : Type) where
  body : τ → Prog ℓ σ Unit
  ready : τ → σ → Prop
  env : σ → σ → Prop

/-- The store and what is left of each thread's program; a sleeping thread is at `ret`. -/
structure Config (ℓ τ σ : Type) where
  store : σ
  pc : τ → Prog ℓ σ Unit

namespace Pool

variable [DecidableEq τ]

inductive Step (P : Pool ℓ τ σ) (guard : ℓ → σ → Prop) : Config ℓ τ σ → Config ℓ τ σ → Prop
  | wake {c t} : c.pc t = .ret () → P.ready t c.store →
      Step P guard c ⟨c.store, Function.update c.pc t (P.body t)⟩
  | exec {c t l f k} : c.pc t = .atomic l f k → guard l c.store →
      Step P guard c ⟨f c.store, Function.update c.pc t (k c.store)⟩
  | env {c s} : P.env c.store s → Step P guard c ⟨s, c.pc⟩

def idle (s : σ) : Config ℓ τ σ := ⟨s, fun _ => .ret ()⟩

/-- The configurations of the runs whose sections are all admitted by `guard`. -/
inductive Reach (P : Pool ℓ τ σ) (guard : ℓ → σ → Prop) (init : σ → Prop) :
    Config ℓ τ σ → Prop
  | start {s} : init s → Reach P guard init (idle s)
  | step {c d} : Reach P guard init c → P.Step guard c d → Reach P guard init d

/-- The obligations of a protocol on a pool: the initial stores, each thread, and the
environment. -/
structure Sound (P : Pool ℓ τ σ) (C : Protocol ℓ τ σ) (init : σ → Prop) : Prop where
  start : ∀ s, init s → C.inv s ∧ ∀ t, C.rest t s
  stable : ∀ t, (C.contract t).Stable (C.rest t)
  body : ∀ t, Triple (C.contract t) (fun s => C.rest t s ∧ P.ready t s) (P.body t) fun _ => C.rest t
  env : ∀ s s', C.inv s → P.env s s' → C.inv s' ∧ ∀ t, C.rely t s s'

variable {P : Pool ℓ τ σ} {C : Protocol ℓ τ σ} {init : σ → Prop}

theorem Sound.step {c d : Config ℓ τ σ} (h : P.Sound C init) (hi : C.inv c.store)
    (hs : ∀ t, Safe (C.contract t) (fun _ => C.rest t) (c.pc t) c.store) (hstep : P.Step C.guard c d) :
    C.inv d.store ∧ ∀ t, Safe (C.contract t) (fun _ => C.rest t) (d.pc t) d.store := by
  cases hstep with
  | @wake t hpc hready =>
    have hrest := hs t
    rw [hpc] at hrest
    refine ⟨hi, fun u => ?_⟩
    by_cases hu : u = t
    · subst hu
      simpa using h.body u c.store hi ⟨hrest _ (C.refl u _) hi, hready⟩
    · simpa [hu] using hs u
  | @exec t l f k hpc hg =>
    have hsafe := hs t
    rw [hpc] at hsafe
    obtain ⟨⟨hi', hguar⟩, hk⟩ := hsafe c.store (C.refl t _) hi hg
    refine ⟨hi', fun u => ?_⟩
    by_cases hu : u = t
    · subst hu; simpa using hk hi'
    · simpa [hu] using (hs u).rely (hguar u hu)
  | env henv =>
    obtain ⟨hi', hr⟩ := h.env _ _ hi henv
    exact ⟨hi', fun t => (hs t).rely (hr t)⟩

theorem Sound.safe {c : Config ℓ τ σ} (h : P.Sound C init) (hr : P.Reach C.guard init c) :
    C.inv c.store ∧ ∀ t, Safe (C.contract t) (fun _ => C.rest t) (c.pc t) c.store := by
  induction hr with
  | start hs =>
    obtain ⟨hi, hrest⟩ := h.start _ hs
    exact ⟨hi, fun t s' hr hi' => h.stable t _ s' (hrest t) hr hi'⟩
  | step _ hstep ih => exact h.step ih.1 ih.2 hstep

/-- The invariant holds in every store a run reaches, however its threads interleave. -/
theorem Sound.reach {c : Config ℓ τ σ} (h : P.Sound C init) (hr : P.Reach C.guard init c) :
    C.inv c.store := (h.safe hr).1

/-- Where a thread is in a run, its next section respects what all its sections respect. -/
theorem Sound.respects {c : Config ℓ τ σ} {t : τ} {S : σ → σ → Prop} {hS : ∀ s, S s s} {l : ℓ}
    {f : σ → σ} {k : σ → Prog ℓ σ Unit} (h : P.Sound C init)
    (hbody : Triple (C.narrow t S hS) (fun s => C.rest t s ∧ P.ready t s) (P.body t) fun _ => C.rest t)
    (hr : P.Reach C.guard init c) (hpc : c.pc t = .atomic l f k) (hg : C.guard l c.store) :
    S c.store (f c.store) := by
  suffices Safe (C.narrow t S hS) (fun _ => C.rest t) (c.pc t) c.store by
    rw [hpc] at this
    exact (this c.store (C.refl t _) (h.safe hr).1 hg).1.2
  clear hpc hg
  induction hr with
  | start hs =>
    obtain ⟨-, hrest⟩ := h.start _ hs
    exact fun s' hr hi' => h.stable t _ s' (hrest t) hr hi'
  | @step c d hc hstep ih =>
    obtain ⟨hi, hs⟩ := h.safe hc
    cases hstep with
    | @wake u hpc hready =>
      by_cases hut : t = u
      · subst hut
        have hrest := hs t
        rw [hpc] at hrest
        simpa using hbody c.store hi ⟨hrest _ (C.refl t _) hi, hready⟩
      · simpa [hut] using ih
    | @exec u l f k hpc hg =>
      by_cases hut : t = u
      · subst hut
        rw [hpc] at ih
        obtain ⟨⟨⟨hi', -⟩, -⟩, hk⟩ := ih c.store (C.refl t _) hi hg
        simpa using hk hi'
      · have hsafe := hs u
        rw [hpc] at hsafe
        obtain ⟨⟨-, hguar⟩, -⟩ := hsafe c.store (C.refl u _) hi hg
        simpa [hut] using ih.rely (hguar t hut)
    | env henv => exact ih.rely ((h.env _ _ hi henv).2 t)

/-- A thread that sleeps is at rest. -/
theorem Sound.rest {c : Config ℓ τ σ} {t : τ} (h : P.Sound C init) (hr : P.Reach C.guard init c)
    (ht : c.pc t = .ret ()) : C.rest t c.store := by
  obtain ⟨hi, hs⟩ := h.safe hr
  have hsafe := hs t
  rw [ht] at hsafe
  exact hsafe c.store (C.refl t _) hi

/-- Runs of a pool are runs of every pool with the same threads that allows more. -/
theorem Reach.mono {P' : Pool ℓ τ σ} {guard guard' : ℓ → σ → Prop} {init' : σ → Prop}
    {c : Config ℓ τ σ} (hbody : P'.body = P.body) (hready : ∀ t s, P.ready t s → P'.ready t s)
    (henv : ∀ s s', P.env s s' → P'.env s s') (hguard : ∀ l s, guard l s → guard' l s)
    (hinit : ∀ s, init s → init' s) (hr : P.Reach guard init c) : P'.Reach guard' init' c := by
  induction hr with
  | start hs => exact .start (hinit _ hs)
  | step _ hstep ih =>
    refine .step ih ?_
    cases hstep with
    | wake hpc h => exact hbody ▸ .wake hpc (hready _ _ h)
    | exec hpc h => exact .exec hpc (hguard _ _ h)
    | env h => exact .env (henv _ _ h)

/-- The pool in which what others do moreover respects `R`. -/
def limit (P : Pool ℓ τ σ) (R : σ → σ → Prop) : Pool ℓ τ σ :=
  { P with env := fun s s' => P.env s s' ∧ R s s' }

/-- What others do is not limited where they respect `R` anyway. -/
theorem Reach.limit {R : σ → σ → Prop} {guard : ℓ → σ → Prop} {c : Config ℓ τ σ}
    (hR : ∀ s s', P.env s s' → R s s') (hr : P.Reach guard init c) : (P.limit R).Reach guard init c :=
  hr.mono (P := P) rfl (fun _ _ h => h) (fun s s' h => ⟨h, hR s s' h⟩) (fun _ _ h => h) fun _ h => h

theorem Reach.of_limit {R : σ → σ → Prop} {guard : ℓ → σ → Prop} {c : Config ℓ τ σ}
    (hr : (P.limit R).Reach guard init c) : P.Reach guard init c :=
  hr.mono (P := P.limit R) rfl (fun _ _ h => h) (fun _ _ h => h.1) (fun _ _ h => h) fun _ h => h

end Pool

/-! ## Building runs -/

/-- The uninterrupted run of a program only executes sections `guard` admits. -/
def Prog.Admits (guard : ℓ → σ → Prop) : Prog ℓ σ α → σ → Prop
  | .ret _, _ => True
  | .atomic l f k, s => guard l s ∧ (k s).Admits guard (f s)

instance Prog.decidableAdmits (guard : ℓ → σ → Prop) [∀ l s, Decidable (guard l s)] :
    (p : Prog ℓ σ α) → (s : σ) → Decidable (p.Admits guard s)
  | .ret _, _ => isTrue trivial
  | .atomic l f k, s =>
    have := Prog.decidableAdmits guard (k s) (f s)
    inferInstanceAs (Decidable (guard l s ∧ (k s).Admits guard (f s)))

theorem Prog.admits_true (p : Prog ℓ σ α) (s : σ) : p.Admits (fun _ _ => True) s := by
  induction p generalizing s with
  | ret a => trivial
  | atomic l f k ih => exact ⟨trivial, ih s (f s)⟩

namespace Pool

variable [DecidableEq τ] {P : Pool ℓ τ σ} {init : σ → Prop} {guard : ℓ → σ → Prop}

omit [DecidableEq τ] in
@[simp] theorem idle_store (s : σ) : (idle (ℓ := ℓ) (τ := τ) s).store = s := rfl

theorem Reach.finish {c : Config ℓ τ σ} {t : τ} {p : Prog ℓ σ Unit} {s : σ}
    (h : P.Reach guard init ⟨s, Function.update c.pc t p⟩) (hp : p.Admits guard s) :
    P.Reach guard init ⟨(p.run s).2, Function.update c.pc t (.ret ())⟩ := by
  induction p generalizing s with
  | ret a => exact h
  | atomic l f k ih =>
    refine ih s ?_ hp.2
    simpa using Reach.step h (.exec (t := t) (l := l) (f := f) (k := k) (by simp) hp.1)

/-- A thread that is left alone runs its whole program. -/
theorem Reach.tick {s : σ} (t : τ) (h : P.Reach guard init (idle s)) (hready : P.ready t s)
    (hp : (P.body t).Admits guard s) :
    P.Reach guard init (idle ((P.body t).run s).2) := by
  have hwake := Reach.step h (.wake (t := t) rfl hready)
  simpa [idle] using Reach.finish hwake hp

theorem Reach.disturb {s s' : σ} (h : P.Reach guard init (idle s)) (henv : P.env s s') :
    P.Reach guard init (idle s') := .step h (.env henv)

/-- One line of a script: a change made by the environment, then a tick of one thread. -/
structure Move (P : Pool ℓ τ σ) where
  edit : σ → σ
  allowed : ∀ s, P.env s (edit s)
  thread : τ

/-- The same line of a script; what others may not do they leave. -/
def Move.limit {P : Pool ℓ τ σ} {R : σ → σ → Prop} [DecidableRel R]
    (hrefl : ∀ s, P.env s s ∧ R s s) (m : P.Move) : (P.limit R).Move where
  edit s := if R s (m.edit s) then m.edit s else s
  allowed s := by
    split
    · exact ⟨m.allowed s, ‹_›⟩
    · exact hrefl s
  thread := m.thread

def play (P : Pool ℓ τ σ) : List P.Move → σ → σ
  | [], s => s
  | m :: ms, s => P.play ms ((P.body m.thread).run (m.edit s)).2

/-- The script only wakes threads that are ready and only executes admitted sections. -/
def Plays (P : Pool ℓ τ σ) (guard : ℓ → σ → Prop) : List P.Move → σ → Prop
  | [], _ => True
  | m :: ms, s => P.ready m.thread (m.edit s) ∧ (P.body m.thread).Admits guard (m.edit s) ∧
      P.Plays guard ms ((P.body m.thread).run (m.edit s)).2

instance decidablePlays (P : Pool ℓ τ σ) (guard : ℓ → σ → Prop)
    [∀ l s, Decidable (guard l s)] [∀ t s, Decidable (P.ready t s)] :
    (ms : List P.Move) → (s : σ) → Decidable (P.Plays guard ms s)
  | [], _ => isTrue trivial
  | m :: ms, s =>
    have := decidablePlays P guard ms ((P.body m.thread).run (m.edit s)).2
    inferInstanceAs (Decidable (_ ∧ _ ∧ _))

theorem Reach.play {s : σ} {m : List P.Move} (h : P.Reach guard init (idle s))
    (hp : P.Plays guard m s) : P.Reach guard init (idle (P.play m s)) := by
  induction m generalizing s with
  | nil => exact h
  | cons m ms ih =>
    obtain ⟨hready, hadm, hrest⟩ := hp
    exact ih ((h.disturb (m.allowed s)).tick m.thread hready hadm) hrest

end Pool

end WanManager.Concurrency
