import Mathlib.Logic.Function.Basic

/-! # Programs made of critical sections

A thread that shares a store with others is a tree of atomic sections: each section
updates the store in one step, and what follows may depend on the store the section
found. A section carries a label, so that runs can be described by the sections they
execute. `Prog.run` executes a program with no interference; `Prog.locked` is the region
of a recursive mutex, whose inner sections nobody else can observe.
-/

namespace WanManager.Concurrency

inductive Prog (ℓ σ α : Type) where
  | ret (a : α)
  | atomic (l : ℓ) (f : σ → σ) (k : σ → Prog ℓ σ α)

namespace Prog

variable {ℓ σ τ α β : Type}

def bind : Prog ℓ σ α → (α → Prog ℓ σ β) → Prog ℓ σ β
  | ret a, q => q a
  | atomic l f k, q => atomic l f fun s => (k s).bind q

instance : Monad (Prog ℓ σ) where
  pure := ret
  bind := bind

@[simp] theorem pure_eq_ret (a : α) : (pure a : Prog ℓ σ α) = ret a := rfl

@[simp] theorem ret_bind (a : α) (q : α → Prog ℓ σ β) : (ret a >>= q) = q a := rfl

@[simp] theorem atomic_bind (l : ℓ) (f : σ → σ) (k : σ → Prog ℓ σ α) (q : α → Prog ℓ σ β) :
    (atomic l f k >>= q) = atomic l f fun s => k s >>= q := rfl

/-- One section that returns a value computed from the store it found. -/
def critical (l : ℓ) (m : σ → α × σ) : Prog ℓ σ α :=
  atomic l (fun s => (m s).2) fun s => ret (m s).1

def read (l : ℓ) (g : σ → α) : Prog ℓ σ α := critical l fun s => (g s, s)

def modify (l : ℓ) (f : σ → σ) : Prog ℓ σ Unit := critical l fun s => ((), f s)

/-- The uninterrupted execution of a program. -/
def run : Prog ℓ σ α → σ → α × σ
  | ret a, s => (a, s)
  | atomic _ f k, s => (k s).run (f s)

@[simp] theorem run_ret (a : α) (s : σ) : (ret a : Prog ℓ σ α).run s = (a, s) := rfl

@[simp] theorem run_atomic (l : ℓ) (f : σ → σ) (k : σ → Prog ℓ σ α) (s : σ) :
    (atomic l f k).run s = (k s).run (f s) := rfl

@[simp] theorem run_critical (l : ℓ) (m : σ → α × σ) (s : σ) : (critical l m).run s = m s := rfl

@[simp] theorem run_read (l : ℓ) (g : σ → α) (s : σ) : (read l g).run s = (g s, s) := rfl

@[simp] theorem run_modify (l : ℓ) (f : σ → σ) (s : σ) : (modify l f).run s = ((), f s) := rfl

@[simp] theorem run_bind (p : Prog ℓ σ α) (q : α → Prog ℓ σ β) (s : σ) :
    (p >>= q).run s = (q (p.run s).1).run (p.run s).2 := by
  induction p generalizing s with
  | ret a => rfl
  | atomic l f k ih => exact ih s (f s)

theorem run_ite (c : Prop) [Decidable c] (p q : Prog ℓ σ α) (s : σ) :
    (if c then p else q).run s = if c then p.run s else q.run s := by
  split <;> rfl

/-- A program executed inside the lock of its caller: one section for the other threads. -/
def locked (l : ℓ) (p : Prog ℓ σ α) : Prog ℓ σ α := critical l p.run

@[simp] theorem run_locked (l : ℓ) (p : Prog ℓ σ α) (s : σ) : (locked l p).run s = p.run s := rfl

/-- A lock that is only taken if the data to be locked exists: the program `p` on it is
then one section, and without it `q` runs unlocked. -/
def lockedIf (l : ℓ) (find : σ → Option β) (p : β → Prog ℓ σ α) (q : Prog ℓ σ α) :
    Prog ℓ σ α :=
  atomic l (fun s => match find s with
      | some b => ((p b).run s).2
      | none => s)
    fun s => match find s with
      | some b => ret ((p b).run s).1
      | none => q

theorem run_lockedIf_some {l : ℓ} {find : σ → Option β} {p : β → Prog ℓ σ α}
    {q : Prog ℓ σ α} {s : σ} {b : β} (h : find s = some b) :
    (lockedIf l find p q).run s = (p b).run s := by
  simp [lockedIf, h]

theorem run_lockedIf_none {l : ℓ} {find : σ → Option β} {p : β → Prog ℓ σ α}
    {q : Prog ℓ σ α} {s : σ} (h : find s = none) :
    (lockedIf l find p q).run s = q.run s := by
  simp [lockedIf, h]

/-- `for i in is`, where the body returns `true` to break out of the loop. -/
def forUntil : List β → (β → Prog ℓ σ Bool) → Prog ℓ σ Unit
  | [], _ => ret ()
  | i :: is, body => do
    if ← body i then return ()
    forUntil is body

def forEach : List β → (β → Prog ℓ σ Unit) → Prog ℓ σ Unit
  | [], _ => ret ()
  | i :: is, body => do
    body i
    forEach is body

/-- The program under other names for its sections. -/
def relabel {ℓ' : Type} (g : ℓ → ℓ') : Prog ℓ σ α → Prog ℓ' σ α
  | ret a => ret a
  | atomic l f k => atomic (g l) f fun s => (k s).relabel g

end Prog

/-- A part of a larger store that a program may work on. -/
structure View (σ τ : Type) where
  get : σ → τ
  put : τ → σ → σ
  get_put : ∀ t s, get (put t s) = t
  put_get : ∀ s, put (get s) s = s
  put_put : ∀ t t' s, put t (put t' s) = put t s

namespace View

variable {ℓ σ τ α β : Type}

def amend (v : View σ τ) (f : τ → τ) (s : σ) : σ := v.put (f (v.get s)) s

@[simp] theorem get_amend (v : View σ τ) (f : τ → τ) (s : σ) :
    v.get (v.amend f s) = f (v.get s) := v.get_put _ _

/-- A program over a part of the store, run on the whole store. -/
def lift (v : View σ τ) : Prog ℓ τ α → Prog ℓ σ α
  | .ret a => .ret a
  | .atomic l f k => .atomic l (v.amend f) fun s => v.lift (k (v.get s))

@[simp] theorem lift_bind (v : View σ τ) (p : Prog ℓ τ α) (q : α → Prog ℓ τ β) :
    v.lift (p >>= q) = v.lift p >>= fun a => v.lift (q a) := by
  induction p with
  | ret a => rfl
  | atomic l f k ih =>
    show Prog.atomic l (v.amend f) _ = Prog.atomic l (v.amend f) _
    congr 1
    funext s
    exact ih (v.get s)

end View

end WanManager.Concurrency
