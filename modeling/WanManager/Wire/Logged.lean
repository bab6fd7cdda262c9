import Mathlib.Algebra.Group.Nat.Defs
import Mathlib.Data.List.Basic

/-! # Computations that log what they access

A computation over memory whose every access is logged. It stops where nothing is known of what
follows, and it is clean when it does not stop and each access is a legal one. -/

namespace WanManager.Wire

/-- The accesses of a computation, and its result unless it stops. -/
structure Logged (A α : Type) where
  log : List A
  value : Option α

namespace Logged

variable {A α β : Type}

instance : Monad (Logged A) where
  pure a := ⟨[], some a⟩
  bind x f :=
    match x.value with
    | none => ⟨x.log, none⟩
    | some a => ⟨x.log ++ (f a).log, (f a).value⟩

/-- One access, with what it yields. -/
def access (a : A) (v : Option α) : Logged A α := ⟨[a], v⟩

/-- A result that needs no access that is logged. -/
def known (v : Option α) : Logged A α := ⟨[], v⟩

@[simp] theorem value_known (v : Option α) : (known v : Logged A α).value = v := rfl

@[simp] theorem value_pure (a : α) : (pure a : Logged A α).value = some a := rfl

@[simp] theorem value_access (a : A) (v : Option α) : (access a v).value = v := rfl

@[simp] theorem value_bind (x : Logged A α) (f : α → Logged A β) :
    (x >>= f).value = x.value.bind fun a => (f a).value := by
  obtain ⟨log, _ | a⟩ := x <;> rfl

/-- A computation that goes through goes through its first part. -/
theorem of_value_bind {x : Logged A α} {f : α → Logged A β} {b : β} (h : (x >>= f).value = some b) :
    ∃ a, x.value = some a ∧ (f a).value = some b := by
  rwa [value_bind, Option.bind_eq_some_iff] at h

theorem value_ite (c : Prop) [Decidable c] (x y : Logged A α) :
    (if c then x else y).value = if c then x.value else y.value := by
  split <;> rfl

/-- The computation goes through and every access is legal. -/
def Clean (legal : A → Prop) (x : Logged A α) : Prop :=
  x.value.isSome ∧ ∀ a ∈ x.log, legal a

instance (legal : A → Prop) [DecidablePred legal] (x : Logged A α) : Decidable (x.Clean legal) :=
  inferInstanceAs (Decidable (_ ∧ _))

variable {legal : A → Prop}

@[simp] theorem clean_pure (a : α) : (pure a : Logged A α).Clean legal := by
  exact ⟨rfl, by simp [pure]⟩

theorem clean_access {a : A} {v : Option α} :
    (access a v).Clean legal ↔ v.isSome ∧ legal a := by
  simp [Clean, access]

theorem clean_bind {x : Logged A α} {f : α → Logged A β} :
    (x >>= f).Clean legal ↔ x.Clean legal ∧ ∀ a ∈ x.value, (f a).Clean legal := by
  obtain ⟨log, _ | a⟩ := x
  · simp [Clean, bind]
  · simp only [Clean, bind, List.mem_append, Option.isSome_some, true_and, Option.mem_some_iff]
    constructor
    · intro h
      exact ⟨fun b hb => h.2 b (.inl hb), fun b hb => hb ▸ ⟨h.1, fun c hc => h.2 c (.inr hc)⟩⟩
    · intro h
      exact ⟨(h.2 a rfl).1, fun b hb => hb.elim (h.1 b) ((h.2 a rfl).2 b)⟩

theorem Clean.exists {x : Logged A α} (h : x.Clean legal) : ∃ a, x.value = some a :=
  Option.isSome_iff_exists.mp h.1

/-- A clean computation is clean behind its first part. -/
theorem Clean.rest {x : Logged A α} {f : α → Logged A β} (h : (x >>= f).Clean legal) :
    ∃ a, x.value = some a ∧ (f a).Clean legal := by
  obtain ⟨hx, hf⟩ := clean_bind.mp h
  obtain ⟨a, ha⟩ := hx.exists
  exact ⟨a, ha, hf a ha⟩

/-- With the first part clean and its result known, the rest decides. -/
theorem clean_bind_of {x : Logged A α} {f : α → Logged A β} {a : α} (hx : x.Clean legal)
    (ha : x.value = some a) : (x >>= f).Clean legal ↔ (f a).Clean legal := by
  rw [clean_bind]
  constructor
  · intro h
    exact h.2 a ha
  · intro h
    refine ⟨hx, fun b hb => ?_⟩
    rw [Option.mem_def, ha, Option.some.injEq] at hb
    exact hb ▸ h

/-- An access that yields something is put in front of the rest. -/
theorem access_bind (a : A) (v : α) (f : α → Logged A β) :
    access a (some v) >>= f = ⟨a :: (f v).log, (f v).value⟩ := rfl

theorem clean_cons {a : A} {log : List A} {v : Option α} :
    (⟨a :: log, v⟩ : Logged A α).Clean legal ↔
      legal a ∧ (⟨log, v⟩ : Logged A α).Clean legal := by
  simp only [Clean, List.forall_mem_cons]
  exact and_left_comm

/-- The rest is clean or not whatever the first part yields. -/
theorem clean_bind_iff {x : Logged A α} {f : α → Logged A β} {P : Prop}
    (h : ∀ a, x.value = some a → ((f a).Clean legal ↔ P)) :
    (x >>= f).Clean legal ↔ x.Clean legal ∧ P := by
  rw [clean_bind]
  refine and_congr_right fun hc => ?_
  obtain ⟨a, ha⟩ := hc.exists
  simp [ha, h a ha]

end Logged

end WanManager.Wire
