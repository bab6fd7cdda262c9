import Mathlib.Data.List.Infix

/-! # A search that does not go back

A pattern is compared with a text from its start. When they come to differ, the search goes on
behind the entry that differs, and what has been compared is not looked at again. It finds the
pattern exactly when the text begins with failed comparisons and then the pattern. -/

namespace WanManager.Text

variable {α : Type*}

/-- A comparison that fails: all but the last entry is in the pattern. -/
def Partial (pattern w : List α) : Prop :=
  ¬ w <+: pattern ∧ w.dropLast <+: pattern ∧ w.dropLast ≠ pattern

/-- The text begins with failed comparisons and then the pattern. -/
def Met (pattern text : List α) : Prop :=
  ∃ ws : List (List α), (∀ w ∈ ws, Partial pattern w) ∧ ws.flatten ++ pattern <+: text

theorem Met.isInfix {pattern text : List α} (h : Met pattern text) : pattern <:+: text := by
  obtain ⟨ws, -, hstart⟩ := h
  exact (List.suffix_append ws.flatten pattern).isInfix.trans hstart.isInfix

theorem Partial.ne_nil {pattern w : List α} (h : Partial pattern w) : w ≠ [] := by
  rintro rfl
  exact h.1 List.nil_prefix

theorem Partial.cons {a : α} {pattern w : List α} (h : Partial pattern w) :
    Partial (a :: pattern) (a :: w) := by
  obtain ⟨hnot, hstart, hne⟩ := h
  have hdrop : (a :: w).dropLast = a :: w.dropLast := List.dropLast_cons_of_ne_nil (by
    rintro rfl
    exact hnot List.nil_prefix)
  refine ⟨fun hcons => hnot (List.cons_prefix_cons.mp hcons).2, ?_, ?_⟩
  · rw [hdrop, List.cons_prefix_cons]
    exact ⟨rfl, hstart⟩
  · rw [hdrop]
    exact fun heq => hne (List.cons.inj heq).2

/-- A start that is not the whole is one of what is before the last entry. -/
theorem prefix_dropLast {v w : List α} (h : v <+: w) (hne : v ≠ w) : v <+: w.dropLast := by
  have hlt : v.length < w.length := by
    have hle := h.length_le
    have hlength : v.length ≠ w.length := fun heq => hne (h.eq_of_length heq)
    omega
  apply List.prefix_of_prefix_length_le h (List.dropLast_prefix w)
  rw [List.length_dropLast]
  omega

/-- Only one start of a text is a failed comparison. -/
theorem Partial.eq_of_prefix {pattern w w' text : List α} (h : Partial pattern w)
    (h' : Partial pattern w') (hw : w <+: text) (hw' : w' <+: text) : w = w' := by
  have hshorter : ∀ {v v' : List α},
      Partial pattern v → Partial pattern v' → v <+: v' → v = v' := by
    intro v v' hv hv' hstart
    by_contra hne
    exact hv.1 ((prefix_dropLast hstart hne).trans hv'.2.1)
  obtain hle | hle := List.prefix_or_prefix_of_prefix hw hw'
  · exact hshorter h h' hle
  · exact (hshorter h' h hle).symm

/-- A text that is itself a start of the pattern has neither failed comparisons nor the pattern. -/
theorem not_met_of_start {pattern text : List α} (h : text <+: pattern) (hne : text ≠ pattern) :
    ¬ Met pattern text := by
  rintro ⟨ws, hws, hstart⟩
  cases ws with
  | nil =>
    rw [List.flatten_nil, List.nil_append] at hstart
    exact hne (h.eq_of_length (Nat.le_antisymm h.length_le hstart.length_le))
  | cons w ws =>
    have hw : w <+: text := by
      rw [List.flatten_cons, List.append_assoc] at hstart
      exact (List.prefix_append w _).trans hstart
    exact (hws w (List.mem_cons_self ..)).1 (hw.trans h)

theorem met_append {pattern w rest : List α} (hw : Partial pattern w) :
    Met pattern (w ++ rest) ↔ Met pattern rest := by
  constructor
  · rintro ⟨ws, hws, hstart⟩
    cases ws with
    | nil =>
      rw [List.flatten_nil, List.nil_append] at hstart
      obtain hle | hle := List.prefix_or_prefix_of_prefix hstart (List.prefix_append w rest)
      · have hne : pattern ≠ w := fun heq => hw.1 (heq ▸ List.prefix_refl _)
        have hdrop := prefix_dropLast hle hne
        exact absurd (hw.2.1.eq_of_length (Nat.le_antisymm hw.2.1.length_le hdrop.length_le)) hw.2.2
      · exact absurd hle hw.1
    | cons v ws =>
      rw [List.flatten_cons, List.append_assoc] at hstart
      have hv := hws v (List.mem_cons_self ..)
      obtain rfl := hv.eq_of_prefix hw ((List.prefix_append v _).trans hstart)
        (List.prefix_append w rest)
      exact ⟨ws, fun x hx => hws x (List.mem_cons_of_mem _ hx),
        (List.prefix_append_right_inj v).mp hstart⟩
  · rintro ⟨ws, hws, hstart⟩
    refine ⟨w :: ws, List.forall_mem_cons.mpr ⟨hw, hws⟩, ?_⟩
    rw [List.flatten_cons, List.append_assoc]
    exact (List.prefix_append_right_inj w).mpr hstart

/-! ## One comparison -/

variable [DecidableEq α]

/-- How a comparison ends. -/
inductive Compared (α : Type*) where
  | found
  | ended
  | failed (rest : List α)

/-- The pattern is compared with the start of a text; a failure leaves what is behind the entry that
differs. -/
def matchStart : List α → List α → Compared α
  | [], _ => .found
  | _ :: _, [] => .ended
  | a :: pattern, b :: text => if b = a then matchStart pattern text else .failed text

theorem of_matchStart_found {pattern text : List α} (h : matchStart pattern text = .found) :
    pattern <+: text := by
  fun_induction matchStart pattern text with
  | case1 => exact List.nil_prefix
  | case2 => cases h
  | case3 pattern b text ih => exact List.cons_prefix_cons.mpr ⟨rfl, ih h⟩
  | case4 => cases h

theorem of_matchStart_ended {pattern text : List α} (h : matchStart pattern text = .ended) :
    text <+: pattern ∧ text ≠ pattern := by
  fun_induction matchStart pattern text with
  | case1 => cases h
  | case2 a pattern => exact ⟨List.nil_prefix, (List.cons_ne_nil a pattern).symm⟩
  | case3 pattern b text ih =>
    obtain ⟨hstart, hne⟩ := ih h
    exact ⟨List.cons_prefix_cons.mpr ⟨rfl, hstart⟩, fun heq => hne (List.cons.inj heq).2⟩
  | case4 => cases h

theorem of_matchStart_failed {pattern text rest : List α}
    (h : matchStart pattern text = .failed rest) : ∃ w, text = w ++ rest ∧ Partial pattern w := by
  fun_induction matchStart pattern text with
  | case1 => cases h
  | case2 => cases h
  | case3 pattern b text ih =>
    obtain ⟨w, rfl, hw⟩ := ih h
    exact ⟨b :: w, rfl, hw.cons⟩
  | case4 a pattern b text hne =>
    cases h
    refine ⟨[b], rfl, ?_, List.nil_prefix, (List.cons_ne_nil a pattern).symm⟩
    exact fun hstart => hne (List.cons_prefix_cons.mp hstart).1

/-! ## The search -/

theorem length_failed {pattern text rest : List α} (h : matchStart pattern text = .failed rest) :
    rest.length < text.length := by
  obtain ⟨w, rfl, hw⟩ := of_matchStart_failed h
  have hpos := List.length_pos_of_ne_nil hw.ne_nil
  rw [List.length_append]
  omega

def forwardSearch (pattern text : List α) : Bool :=
  match _ : matchStart pattern text with
  | .found => true
  | .ended => false
  | .failed rest => forwardSearch pattern rest
termination_by text.length
decreasing_by exact length_failed ‹_›

theorem forwardSearch_eq (pattern text : List α) :
    forwardSearch pattern text =
      match matchStart pattern text with
      | .found => true
      | .ended => false
      | .failed rest => forwardSearch pattern rest := by
  rw [forwardSearch]
  split <;> rename_i h <;> rw [h]

theorem forwardSearch_iff {pattern text : List α} :
    forwardSearch pattern text = true ↔ Met pattern text := by
  fun_induction forwardSearch pattern text with
  | case1 text h =>
    exact iff_of_true rfl ⟨[], by simp, by simpa using of_matchStart_found h⟩
  | case2 text h =>
    obtain ⟨hstart, hne⟩ := of_matchStart_ended h
    exact iff_of_false Bool.false_ne_true (not_met_of_start hstart hne)
  | case3 text rest h ih =>
    obtain ⟨w, rfl, hw⟩ := of_matchStart_failed h
    rw [ih, met_append hw]

end WanManager.Text
