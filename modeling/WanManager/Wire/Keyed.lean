import Mathlib.Data.List.Forall2

/-! # Reading keyed entries

A reader goes over a list of entries with a state and may stop with an error. What it has read is
found from the entries it took in turn; and whether it stops, and how, from a check of the entries
alone. -/

namespace WanManager.Wire

variable {ε σ α β : Type}

/-- What holds of the state and of what was taken so far, at the end as at the start. -/
theorem foldl_collect {step : σ → α → σ} {g : α → List β} {R : List β → σ → Prop} {l : List α}
    {s : σ} (hstart : R [] s)
    (hstep : ∀ a ∈ l, ∀ {s bs}, R bs s → R (bs ++ g a) (step s a)) :
    R (l.flatMap g) (l.foldl step s) := by
  suffices h : ∀ bs s, R bs s → R (bs ++ l.flatMap g) (l.foldl step s) from h [] s hstart
  clear hstart s
  induction l with
  | nil => simp
  | cons a l ih =>
    intro bs s hs
    rw [List.foldl_cons, List.flatMap_cons, ← List.append_assoc]
    exact ih (fun b hb => hstep b (List.mem_cons_of_mem _ hb)) _ _ (hstep a List.mem_cons_self hs)

theorem foldlM_collect {step : σ → α → Except ε σ} {g : α → List β} {R : List β → σ → Prop}
    {l : List α} {s s' : σ} (hstart : R [] s)
    (hstep : ∀ a ∈ l, ∀ {s s' bs}, R bs s → step s a = .ok s' → R (bs ++ g a) s')
    (h : l.foldlM step s = .ok s') : R (l.flatMap g) s' := by
  suffices hall : ∀ bs s, R bs s → l.foldlM step s = .ok s' → R (bs ++ l.flatMap g) s' from
    hall [] s hstart h
  clear hstart h s
  induction l with
  | nil =>
    intro bs s hs h
    obtain rfl : s = s' := Except.ok.inj h
    simpa using hs
  | cons a l ih =>
    intro bs s hs h
    rw [List.foldlM_cons] at h
    cases ha : step s a with
    | error e =>
      rw [ha] at h
      simp [bind, Except.bind] at h
    | ok t =>
      rw [ha] at h
      rw [List.flatMap_cons, ← List.append_assoc]
      exact ih (fun b hb => hstep b (List.mem_cons_of_mem _ hb)) _ _
        (hstep a List.mem_cons_self hs ha) h

/-- A reader that none of the entries moves. -/
theorem foldlM_eq_self {step : σ → α → Except ε σ} {l : List α} {s : σ}
    (h : ∀ a ∈ l, step s a = .ok s) : l.foldlM step s = .ok s := by
  induction l with
  | nil => rfl
  | cons a l ih =>
    rw [List.foldlM_cons, h a List.mem_cons_self]
    exact ih fun b hb => h b (List.mem_cons_of_mem _ hb)

/-- A reader whose errors do not come from its state stops where a check of the entries does. -/
theorem foldlM_eq_error {step : σ → α → Except ε σ} {check : α → Except ε Unit} {l : List α}
    (h : ∀ a ∈ l, ∀ s e, step s a = .error e ↔ check a = .error e) (s : σ) (e : ε) :
    l.foldlM step s = .error e ↔ forM l check = .error e := by
  induction l generalizing s with
  | nil => simp [pure, Except.pure]
  | cons a l ih =>
    have ha := h a List.mem_cons_self s
    rw [List.foldlM_cons, List.forM_cons]
    cases hs : step s a with
    | error e' =>
      rw [(ha e').mp hs]
      simp [bind, Except.bind]
    | ok t =>
      have hcheck : check a = .ok () := by
        cases hc : check a with
        | ok => rfl
        | error e' => exact absurd ((ha e').mpr hc) (by simp [hs])
      rw [hcheck]
      exact ih (fun b hb => h b (List.mem_cons_of_mem _ hb)) t

/-- The same for a list of parts that are read one by one and numbered. -/
theorem mapM_zipIdx_eq_error {f : α × Nat → Except ε β} {check : α → Except ε Unit} {l : List α}
    (h : ∀ a ∈ l, ∀ i e, f (a, i) = .error e ↔ check a = .error e) (k : Nat) (e : ε) :
    (l.zipIdx k).mapM f = .error e ↔ forM l check = .error e := by
  induction l generalizing k with
  | nil => simp [pure, Except.pure]
  | cons a l ih =>
    have ha := h a List.mem_cons_self k
    have hl := ih (fun b hb => h b (List.mem_cons_of_mem _ hb)) (k + 1)
    rw [List.zipIdx_cons, List.mapM_cons, List.forM_cons]
    cases hf : f (a, k) with
    | error e' =>
      rw [(ha e').mp hf]
      simp [bind, Except.bind]
    | ok b =>
      have hcheck : check a = .ok () := by
        cases hc : check a with
        | ok => rfl
        | error e' => exact absurd ((ha e').mpr hc) (by simp [hf])
      rw [hcheck]
      refine Iff.trans ?_ hl
      cases (l.zipIdx (k + 1)).mapM f with
      | error e' => exact Iff.rfl
      | ok bs => simp [bind, Except.bind, pure, Except.pure]

theorem forall₂_of_mapM_zipIdx {f : α × Nat → Except ε β} {l : List α} {k : Nat} {bs : List β}
    (h : (l.zipIdx k).mapM f = .ok bs) : List.Forall₂ (fun a b => ∃ i, f (a, i) = .ok b) l bs := by
  induction l generalizing k bs with
  | nil =>
    obtain rfl : [] = bs := Except.ok.inj h
    exact .nil
  | cons a l ih =>
    rw [List.zipIdx_cons, List.mapM_cons] at h
    cases hf : f (a, k) with
    | error e =>
      rw [hf] at h
      simp [bind, Except.bind] at h
    | ok b =>
      rw [hf] at h
      cases hl : (l.zipIdx (k + 1)).mapM f with
      | error e =>
        rw [hl] at h
        simp [bind, Except.bind] at h
      | ok bs' =>
        rw [hl] at h
        obtain rfl : b :: bs' = bs := Except.ok.inj h
        exact .cons ⟨k, hf⟩ (ih hl)

/-- Two relations between lists of parts, where the second comes down to the first lists. -/
theorem forall₂_iff {R S : α → β → Prop} {C : α → Prop} {l : List α} {bs : List β}
    (h : List.Forall₂ R l bs) (hiff : ∀ a ∈ l, ∀ b, R a b → (S a b ↔ C a)) :
    List.Forall₂ S l bs ↔ ∀ a ∈ l, C a := by
  induction h with
  | nil => simp
  | cons hab _ ih =>
    rw [List.forall₂_cons, List.forall_mem_cons, hiff _ List.mem_cons_self _ hab,
      ih fun a ha => hiff a (List.mem_cons_of_mem _ ha)]

/-- The same for parts that may be missing. -/
theorem rel_iff {R S : α → β → Prop} {C : α → Prop} {o : Option α} {p : Option β}
    (h : Option.Rel R o p) (hiff : ∀ a ∈ o, ∀ b, R a b → (S a b ↔ C a)) :
    Option.Rel S o p ↔ ∀ a ∈ o, C a := by
  cases h with
  | none => simp
  | @some a b hab =>
    have hab := hiff a rfl b hab
    constructor
    · rintro ⟨hs⟩ a' ⟨⟩
      exact hab.mp hs
    · intro hc
      exact .some (hab.mpr (hc a rfl))

end WanManager.Wire
