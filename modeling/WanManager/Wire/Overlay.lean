import Mathlib.Data.List.Induction

/-! # Writing over the start of a string

Strings that are written over one another from the start on: each takes the place of as much as
it is long, and what is behind it stays. -/

namespace WanManager.Wire

variable {α : Type}

/-- `p` over the start of `h`. -/
def overlay (p h : List α) : List α := p ++ h.drop p.length

/-- One after another over the start of `h`. -/
def overlays (ps : List (List α)) (h : List α) : List α := ps.foldl (fun h p => overlay p h) h

@[simp] theorem overlays_nil (h : List α) : overlays [] h = h := rfl

@[simp] theorem overlays_cons (p : List α) (ps : List (List α)) (h : List α) :
    overlays (p :: ps) h = overlays ps (overlay p h) := rfl

theorem overlays_append (ps qs : List (List α)) (h : List α) :
    overlays (ps ++ qs) h = overlays qs (overlays ps h) := List.foldl_append

theorem getElem?_overlay (p h : List α) (i : Nat) :
    (overlay p h)[i]? = if i < p.length then p[i]? else h[i]? := by
  unfold overlay
  split
  · next hlt => rw [List.getElem?_append_left hlt]
  · next hge =>
    rw [List.getElem?_append_right (Nat.le_of_not_lt hge), List.getElem?_drop]
    congr 1
    omega

/-- The last of some strings that has a position. -/
def reaching (ps : List (List α)) (i : Nat) : Option (List α) :=
  ps.reverse.find? fun p => i < p.length

theorem reaching_append (ps : List (List α)) (p : List α) (i : Nat) :
    reaching (ps ++ [p]) i = if i < p.length then some p else reaching ps i := by
  unfold reaching
  rw [List.reverse_append, List.reverse_singleton, List.singleton_append, List.find?_cons]
  by_cases h : i < p.length <;> simp [h]

theorem reaching_eq_none {ps : List (List α)} {i : Nat} :
    reaching ps i = none ↔ ∀ p ∈ ps, p.length ≤ i := by
  simp [reaching]

theorem of_reaching {ps : List (List α)} {p : List α} {i : Nat} (h : reaching ps i = some p) :
    p ∈ ps ∧ i < p.length :=
  ⟨List.mem_reverse.mp (List.mem_of_find?_eq_some h), by simpa using List.find?_some h⟩

/-- What stands at a position was written by the last string that has it. -/
theorem getElem?_overlays (ps : List (List α)) (h : List α) (i : Nat) :
    (overlays ps h)[i]? = ((reaching ps i).getD h)[i]? := by
  induction ps using List.reverseRecOn with
  | nil => rfl
  | append_singleton ps p ih =>
    rw [overlays_append, overlays_cons, overlays_nil, getElem?_overlay, reaching_append]
    split
    · rfl
    · exact ih

/-- What was there before is forgotten up to what none of the strings reaches. -/
theorem overlays_eq_iff {ps : List (List α)} {h h' : List α} :
    overlays ps h = overlays ps h' ↔ ∀ i, (∀ p ∈ ps, p.length ≤ i) → h[i]? = h'[i]? := by
  constructor
  · intro heq i hi
    have hget := congrArg (·[i]?) heq
    simpa only [getElem?_overlays, reaching_eq_none.mpr hi, Option.getD_none] using hget
  · intro hall
    apply List.ext_getElem?
    intro i
    rw [getElem?_overlays, getElem?_overlays]
    cases hr : reaching ps i with
    | none => exact hall i (reaching_eq_none.mp hr)
    | some p => rfl

end WanManager.Wire
