import Mathlib.Init

/-! # Programs under a recursive mutex

One thread works on data guarded by a recursive mutex: it may take the lock several times,
and taking it may fail. A computation is `none` where the program is lost, as when it
dereferences a null pointer. `Ends` is the weakest condition under which a computation that
returns does so in `Q`; one that is `Balanced` returns and gives back every lock it takes. -/

namespace WanManager.Concurrency

/-- Data with the number of times the thread holds its lock, and the depths at which
`pthread_mutex_lock` succeeds. -/
structure Locked (σ : Type) where
  depth : Nat := 0
  lockable : Nat → Bool := fun _ => true
  data : σ

abbrev LockM (σ α : Type) := StateT (Locked σ) Option α

namespace LockM

variable {σ α β : Type}

/-- `pthread_mutex_lock`; the answer is whether the lock was taken. -/
def lock : LockM σ Bool := fun s =>
  if s.lockable s.depth then some (true, { s with depth := s.depth + 1 }) else some (false, s)

/-- `pthread_mutex_unlock`, which fails without effect if the lock is not held. -/
def unlock : LockM σ Unit := fun s => some ((), { s with depth := s.depth - 1 })

def observe (g : σ → α) : LockM σ α := fun s => some (g s.data, s)

def update (f : σ → σ) : LockM σ Unit := fun s => some ((), { s with data := f s.data })

def fault : LockM σ α := fun _ => none

/-- If the computation returns, it returns in `Q`. -/
def Ends (p : LockM σ α) (s : Locked σ) (Q : α → Locked σ → Prop) : Prop :=
  ∀ a s', p.run s = some (a, s') → Q a s'

variable {s : Locked σ} {Q Q' : α → Locked σ → Prop}

@[simp] theorem ends_pure (a : α) : Ends (pure a) s Q ↔ Q a s := by
  simp only [Ends, StateT.run_pure]
  constructor
  · intro h
    exact h a s rfl
  · intro h b s' hr
    obtain ⟨rfl, rfl⟩ : a = b ∧ s = s' := by simpa using hr
    exact h

@[simp] theorem ends_bind {R : β → Locked σ → Prop} (p : LockM σ α) (q : α → LockM σ β) :
    Ends (p >>= q) s R ↔ Ends p s fun a s' => Ends (q a) s' R := by
  simp only [Ends, StateT.run_bind]
  cases hp : p.run s with
  | none => simp
  | some r =>
    obtain ⟨a, s'⟩ := r
    constructor
    · intro h b s'' hr
      obtain ⟨rfl, rfl⟩ : a = b ∧ s' = s'' := by simpa using hr
      exact h
    · intro h
      exact h a s' rfl

@[simp] theorem ends_map {R : β → Locked σ → Prop} (f : α → β) (p : LockM σ α) :
    Ends (f <$> p) s R ↔ Ends p s fun a s' => R (f a) s' := by
  rw [map_eq_pure_bind, ends_bind]
  simp only [ends_pure]

@[simp] theorem ends_fault : Ends fault s Q := by
  intro a s' hr
  cases hr

@[simp] theorem ends_observe (g : σ → α) : Ends (observe g) s Q ↔ Q (g s.data) s := ends_pure (g s.data)

@[simp] theorem ends_update {Q : Unit → Locked σ → Prop} (f : σ → σ) :
    Ends (update f) s Q ↔ Q () { s with data := f s.data } :=
  ⟨fun h => h () _ rfl, fun h _ _ hr => by cases hr; exact h⟩

@[simp] theorem ends_unlock {Q : Unit → Locked σ → Prop} :
    Ends unlock s Q ↔ Q () { s with depth := s.depth - 1 } :=
  ⟨fun h => h () _ rfl, fun h _ _ hr => by cases hr; exact h⟩

theorem ends_lock {Q : Bool → Locked σ → Prop} : Ends lock s Q ↔
    if s.lockable s.depth then Q true { s with depth := s.depth + 1 } else Q false s := by
  by_cases hl : s.lockable s.depth
  · have hrun : (lock : LockM σ Bool).run s = some (true, { s with depth := s.depth + 1 }) := if_pos hl
    simp [Ends, hrun, hl]
  · have hrun : (lock : LockM σ Bool).run s = some (false, s) := if_neg hl
    simp [Ends, hrun, hl]

/-! ## Balanced programs -/

/-- The mutex is left as it was found. -/
def Same (s s' : Locked σ) : Prop := s'.depth = s.depth ∧ s'.lockable = s.lockable

/-- The computation returns. -/
def Returns (p : LockM σ α) (s : Locked σ) : Prop := ∃ a s', p.run s = some (a, s')

/-- A computation returns if its first part does, and the rest wherever that ends. -/
theorem Returns.bind {p : LockM σ α} {q : α → LockM σ β} (hp : Returns p s)
    (hq : Ends p s fun a s' => Returns (q a) s') : Returns (p >>= q) s := by
  obtain ⟨a, s', hrun⟩ := hp
  obtain ⟨b, s'', hrun'⟩ := hq a s' hrun
  exact ⟨b, s'', by simp [hrun, hrun']⟩

theorem Returns.ite {c : Prop} [Decidable c] {p q : LockM σ α} (hp : Returns p s) (hq : Returns q s) :
    Returns (if c then p else q) s := by
  split
  · exact hp
  · exact hq

theorem returns_pure (a : α) (s : Locked σ) : Returns (pure a) s := ⟨a, s, rfl⟩

theorem returns_update (f : σ → σ) (s : Locked σ) : Returns (update f) s := ⟨(), _, rfl⟩

theorem returns_unlock (s : Locked σ) : Returns unlock s := ⟨(), _, rfl⟩

theorem returns_observe (g : σ → α) (s : Locked σ) : Returns (observe g) s := ⟨g s.data, s, rfl⟩

/-- What begins with taking the lock returns if it does so with the lock and without it. -/
theorem returns_locking {p q : LockM σ α} (hp : Returns p { s with depth := s.depth + 1 })
    (hq : Returns q s) :
    Returns (do if ← lock then p else q) s := by
  by_cases hl : s.lockable s.depth
  · have hlock : (lock : LockM σ Bool).run s = some (true, { s with depth := s.depth + 1 }) := if_pos hl
    obtain ⟨a, s', hrun⟩ := hp
    exact ⟨a, s', by simp [hlock, hrun]⟩
  · have hlock : (lock : LockM σ Bool).run s = some (false, s) := if_neg hl
    obtain ⟨a, s', hrun⟩ := hq
    exact ⟨a, s', by simp [hlock, hrun]⟩

/-- The computation returns, and every lock that it takes is given back. -/
def Balanced (p : LockM σ α) : Prop := ∀ s, ∃ a s', p.run s = some (a, s') ∧ Same s s'

namespace Balanced

theorem pure (a : α) : Balanced (pure a : LockM σ α) := fun s => ⟨a, s, rfl, rfl, rfl⟩

theorem observe (g : σ → α) : Balanced (LockM.observe g) := fun s => ⟨g s.data, s, rfl, rfl, rfl⟩

theorem update (f : σ → σ) : Balanced (LockM.update f) := fun _ => ⟨(), _, rfl, rfl, rfl⟩

theorem bind {p : LockM σ α} {q : α → LockM σ β} (hp : Balanced p) (hq : ∀ a, Balanced (q a)) :
    Balanced (p >>= q) := by
  intro s
  obtain ⟨a, s', hrun, hsame⟩ := hp s
  obtain ⟨b, s'', hrun', hsame'⟩ := hq a s'
  refine ⟨b, s'', ?_, hsame'.1.trans hsame.1, hsame'.2.trans hsame.2⟩
  simp [hrun, hrun']

theorem ite {c : Prop} [Decidable c] {p q : LockM σ α} (hp : Balanced p) (hq : Balanced q) :
    Balanced (if c then p else q) := by
  split
  · exact hp
  · exact hq

/-- A loop that stops at the first failure. -/
theorem allM {body : β → LockM σ Bool} (h : ∀ b, Balanced (body b)) (l : List β) :
    Balanced (l.allM body) := by
  induction l with
  | nil => exact pure true
  | cons b l ih =>
    refine bind (h b) fun ok => ?_
    cases ok with
    | true => exact ih
    | false => exact pure false

theorem forM {body : β → LockM σ PUnit} (h : ∀ b, Balanced (body b)) (l : List β) :
    Balanced (l.forM body) := by
  induction l with
  | nil => exact pure ()
  | cons b l ih => exact bind (h b) fun _ => ih

/-- What is done between taking the lock and giving it back. -/
theorem locked {p q : LockM σ α} (hp : Balanced p) (hq : Balanced q) :
    Balanced (do if ← lock then let a ← p; unlock; return a else q) := by
  intro s
  by_cases hl : s.lockable s.depth
  · have hlock : (lock : LockM σ Bool).run s = some (true, { s with depth := s.depth + 1 }) := if_pos hl
    obtain ⟨a, s', hrun, hdepth, hlockable⟩ := hp { s with depth := s.depth + 1 }
    refine ⟨a, { s' with depth := s'.depth - 1 }, ?_, ?_, hlockable⟩
    · have hunlock : (unlock : LockM σ Unit).run s' = some ((), { s' with depth := s'.depth - 1 }) := rfl
      simp [hlock, hrun, hunlock]
    · simp [hdepth]
  · have hlock : (lock : LockM σ Bool).run s = some (false, s) := if_neg hl
    obtain ⟨a, s', hrun, hsame⟩ := hq s
    exact ⟨a, s', by simp [hlock, hrun], hsame⟩

theorem ends {p : LockM σ α} (h : Balanced p) (hQ : ∀ a s', Same s s' → Q a s') : Ends p s Q := by
  obtain ⟨a, s', hrun, hsame⟩ := h s
  intro b t hr
  obtain ⟨rfl, rfl⟩ : a = b ∧ s' = t := by simpa [hrun] using hr
  exact hQ a s' hsame

/-- A balanced computation neither causes nor mends a lock that was kept. -/
theorem ends_depth {p : LockM σ α} (h : Balanced p) (n : Nat) :
    (Ends p s fun _ s' => s'.depth = n) ↔ s.depth = n := by
  obtain ⟨a, s', hrun, hsame⟩ := h s
  constructor
  · intro he
    rw [← he a s' hrun, hsame.1]
  · intro hn b t hr
    obtain ⟨rfl, rfl⟩ : a = b ∧ s' = t := by simpa [hrun] using hr
    rw [hsame.1, hn]

theorem returns {p : LockM σ α} (h : Balanced p) (s : Locked σ) : Returns p s := by
  obtain ⟨a, s', hrun, -⟩ := h s
  exact ⟨a, s', hrun⟩

end Balanced
end LockM
end WanManager.Concurrency
