import Mathlib.Data.List.Basic
import Mathlib.Data.List.Nodup

/-! # Tables that are updated by key

A table is a list of rows, each with a key, a value and a frame that no update touches. An update
gives the first row with a key a new value, or appends a row when there is none. -/

namespace WanManager.Wire

variable {κ ν μ φ ρ : Type} [DecidableEq κ]

/-- The keys that are not there yet, each once, in the order they come in. -/
def newKeys (old keys : List κ) : List κ := (keys.filter (· ∉ old)).eraseDups

theorem newKeys_of_mem {old : List κ} {a : κ} (h : a ∈ old) (keys : List κ) :
    newKeys old (a :: keys) = newKeys old keys := by
  simp [newKeys, h]

theorem newKeys_of_notMem {old : List κ} {a : κ} (h : a ∉ old) (keys : List κ) :
    newKeys old (a :: keys) = a :: newKeys (old ++ [a]) keys := by
  have hsame : (fun b => (!b == a) && decide (b ∉ old)) = fun b => decide (b ∉ old ++ [a]) := by
    funext b
    by_cases hb : b = a <;> simp [hb]
  rw [newKeys, List.filter_cons_of_pos (by simpa using h), List.eraseDups_cons, newKeys,
    List.filter_filter, hsame]

theorem mem_newKeys {old keys : List κ} {a : κ} : a ∈ newKeys old keys ↔ a ∈ keys ∧ a ∉ old := by
  simp [newKeys, List.mem_eraseDups]

theorem nodup_newKeys (old keys : List κ) : (newKeys old keys).Nodup := by
  induction keys generalizing old with
  | nil => simp [newKeys]
  | cons a keys ih =>
    by_cases h : a ∈ old
    · rw [newKeys_of_mem h]
      exact ih old
    · rw [newKeys_of_notMem h, List.nodup_cons]
      exact ⟨fun ha => (mem_newKeys.mp ha).2 (by simp), ih _⟩

variable (key : ρ → κ) (val : ρ → ν) (frame : ρ → φ)

/-- The value of the first row with a key. -/
def valueAt (rows : List ρ) (a : κ) : Option ν := (rows.find? (key · = a)).map val

/-- One update. -/
structure Upsert (a : κ) (v : ν) (rows rows' : List ρ) : Prop where
  keys : rows'.map key = rows.map key ++ newKeys (rows.map key) [a]
  kept : ∀ (i : Nat) (row : ρ), rows[i]? = some row → ∃ row' : ρ, rows'[i]? = some row' ∧
    frame row' = frame row ∧ (key row ≠ a → row' = row)
  found : valueAt key val rows' a = some v
  others : ∀ b, b ≠ a → valueAt key val rows' b = valueAt key val rows b

/-- Updates in a row: new keys are appended in order, a row keeps its frame, and it keeps all it has
when its key is not named; a key has the value last given for it. -/
structure Upserted (updates : List (κ × ν)) (rows rows' : List ρ) : Prop where
  keys : rows'.map key = rows.map key ++ newKeys (rows.map key) (updates.map Prod.fst)
  kept : ∀ (i : Nat) (row : ρ), rows[i]? = some row → ∃ row' : ρ, rows'[i]? = some row' ∧
    frame row' = frame row ∧ (key row ∉ updates.map Prod.fst → row' = row)
  values : ∀ a, valueAt key val rows' a =
    ((updates.filter (·.1 = a)).getLast?.map Prod.snd).or (valueAt key val rows a)

variable {key val frame} {a : κ} {v : ν} {rows rows' rows'' : List ρ} {updates : List (κ × ν)}

theorem exists_split {p : ρ → Bool} {k : Nat} (h : rows.findIdx? p = some k) :
    ∃ before row after, rows = before ++ row :: after ∧ before.length = k ∧
      (∀ r ∈ before, ¬ p r) ∧ p row := by
  obtain ⟨hk, hp, hbefore⟩ := List.findIdx?_eq_some_iff_getElem.mp h
  refine ⟨rows.take k, rows[k], rows.drop (k + 1), ?_, ?_, ?_, hp⟩
  · rw [List.getElem_cons_drop, List.take_append_drop]
  · rw [List.length_take]
    omega
  · intro r hr
    obtain ⟨i, hi, rfl⟩ := List.mem_take_iff_getElem.mp hr
    exact hbefore i (by omega)

theorem Upsert.modify {k : Nat} {f : ρ → ρ}
    (hk : rows.findIdx? (fun r => decide (key r = a)) = some k)
    (hkey : ∀ r, key (f r) = key r) (hframe : ∀ r, frame (f r) = frame r)
    (hval : ∀ r, val (f r) = v) : Upsert key val frame a v rows (rows.modify k f) := by
  obtain ⟨before, row, after, rfl, rfl, hbefore, hrow⟩ := exists_split hk
  have hmod : (before ++ row :: after).modify before.length f = before ++ f row :: after := by
    simp [List.modify_eq_take_drop]
  have hrow : key row = a := by simpa using hrow
  have hfind : before.find? (fun r => decide (key r = a)) = none := by
    simpa using hbefore
  rw [hmod]
  constructor
  · have hmem : a ∈ (before ++ row :: after).map key := List.mem_map.mpr ⟨row, by simp, hrow⟩
    rw [newKeys_of_mem hmem]
    simp [newKeys, hkey]
  · intro i r hr
    obtain hlt | rfl | hgt := Nat.lt_trichotomy i before.length
    · rw [List.getElem?_append_left hlt] at hr ⊢
      exact ⟨r, hr, rfl, fun _ => rfl⟩
    · obtain rfl : row = r := by simpa using hr
      exact ⟨f row, by simp, hframe row, fun hne => absurd hrow hne⟩
    · obtain ⟨n, rfl⟩ := Nat.exists_eq_add_of_lt hgt
      have hshift : ∀ r, (before ++ r :: after)[before.length + n + 1]? = after[n]? := by
        intro r
        rw [Nat.add_assoc, List.getElem?_append_right (Nat.le_add_right _ _)]
        simp
      rw [hshift] at hr
      exact ⟨r, (hshift _).trans hr, rfl, fun _ => rfl⟩
  · simp [valueAt, List.find?_append, hfind, hkey, hrow, hval]
  · intro b hb
    have hne : key row ≠ b := fun he => hb (he.symm.trans hrow)
    simp [valueAt, List.find?_append, hkey, hne]

theorem Upsert.append {row : ρ} (hnew : a ∉ rows.map key) (hkey : key row = a)
    (hval : val row = v) : Upsert key val frame a v rows (rows ++ [row]) := by
  constructor
  · rw [newKeys_of_notMem hnew]
    simp [newKeys, hkey]
  · intro i r hr
    have hi := List.getElem?_eq_some_iff.mp hr
    exact ⟨r, by rw [List.getElem?_append_left hi.1, hr], rfl, fun _ => rfl⟩
  · have hnone : rows.find? (fun r => decide (key r = a)) = none := by
      simpa [List.find?_eq_none] using hnew
    simp [valueAt, List.find?_append, hnone, hkey, hval]
  · intro b hb
    have hne : key row ≠ b := fun he => hb (he.symm.trans hkey)
    simp [valueAt, List.find?_append, hne]

theorem Upserted.refl (rows : List ρ) : Upserted key val frame [] rows rows :=
  ⟨by simp [newKeys], fun _ row h => ⟨row, h, rfl, fun _ => rfl⟩, fun _ => rfl⟩

theorem Upserted.cons (h : Upsert key val frame a v rows rows')
    (hs : Upserted key val frame updates rows' rows'') :
    Upserted key val frame ((a, v) :: updates) rows rows'' := by
  constructor
  · rw [hs.keys, h.keys, List.map_cons]
    by_cases hmem : a ∈ rows.map key
    · rw [newKeys_of_mem hmem, newKeys_of_mem hmem]
      simp [newKeys]
    · rw [newKeys_of_notMem hmem, newKeys_of_notMem hmem]
      simp [newKeys]
  · intro i row hrow
    obtain ⟨mid, hmid, hframe, hsame⟩ := h.kept i row hrow
    obtain ⟨last, hlast, hframe', hsame'⟩ := hs.kept i mid hmid
    refine ⟨last, hlast, hframe'.trans hframe, fun hnot => ?_⟩
    rw [List.map_cons, List.mem_cons, not_or] at hnot
    obtain rfl := hsame hnot.1
    exact hsame' hnot.2
  · intro b
    rw [hs.values]
    by_cases hb : a = b
    · subst hb
      rw [List.filter_cons_of_pos (by simp), h.found]
      cases hlast : (updates.filter (·.1 = a)).getLast? with
      | none =>
        rw [List.getLast?_eq_none_iff] at hlast
        simp [hlast]
      | some w => simp [List.getLast?_cons, hlast]
    · rw [List.filter_cons_of_neg (by simpa using hb), h.others b (Ne.symm hb)]

theorem Upserted.nodup (h : Upserted key val frame updates rows rows')
    (hrows : (rows.map key).Nodup) : (rows'.map key).Nodup := by
  rw [h.keys, List.nodup_append]
  refine ⟨hrows, nodup_newKeys _ _, fun a ha b hb hab => ?_⟩
  exact (mem_newKeys.mp hb).2 (hab ▸ ha)

/-- A part of the value. -/
theorem Upserted.comp (h : Upserted key val frame updates rows rows') (g : ν → μ) :
    Upserted key (g ∘ val) frame (updates.map fun u => (u.1, g u.2)) rows rows' := by
  have hfst : (updates.map fun u => (u.1, g u.2)).map Prod.fst = updates.map Prod.fst := by
    simp
  have hvalue : ∀ (rows : List ρ) a,
      valueAt key (g ∘ val) rows a = (valueAt key val rows a).map g := by
    intro rows a
    rw [valueAt, valueAt, Option.map_map]
  refine ⟨hfst ▸ h.keys, hfst ▸ h.kept, fun a => ?_⟩
  rw [hvalue, hvalue, h.values, List.filter_map, List.getLast?_map]
  cases hlast : (updates.filter (·.1 = a)).getLast? with
  | none => simp [Function.comp_def, hlast]
  | some w => simp [Function.comp_def, hlast]

theorem valueAt_of_getElem? (hnodup : (rows.map key).Nodup) {i : Nat} {row : ρ}
    (h : rows[i]? = some row) : valueAt key val rows (key row) = some (val row) := by
  have hmem : row ∈ rows := List.mem_of_getElem? h
  obtain ⟨r, hr⟩ : ∃ r, rows.find? (fun r => decide (key r = key row)) = some r := by
    rw [← Option.isSome_iff_exists, List.find?_isSome]
    exact ⟨row, hmem, by simp⟩
  have hkey : key r = key row := by simpa using List.find?_some hr
  have heq : r = row := List.inj_on_of_nodup_map hnodup (List.mem_of_find?_eq_some hr) hmem hkey
  rw [valueAt, hr, heq, Option.map_some]

/-- The same updates a second time change nothing. -/
theorem Upserted.again (h : Upserted key val frame updates rows rows')
    (hagain : Upserted key val frame updates rows' rows'') (hnodup : (rows.map key).Nodup)
    (hinj : ∀ r r', key r = key r' → val r = val r' → frame r = frame r' → r = r') :
    rows'' = rows' := by
  have hnodup' := h.nodup hnodup
  have hkeys : rows''.map key = rows'.map key := by
    rw [hagain.keys]
    have hnil : newKeys (rows'.map key) (updates.map Prod.fst) = [] := by
      apply List.eq_nil_iff_forall_not_mem.mpr
      intro a ha
      obtain ⟨hmem, hnot⟩ := mem_newKeys.mp ha
      rw [h.keys, List.mem_append, not_or] at hnot
      exact hnot.2 (mem_newKeys.mpr ⟨hmem, hnot.1⟩)
    rw [hnil, List.append_nil]
  have hlength : rows''.length = rows'.length := by simpa using congrArg List.length hkeys
  apply List.ext_getElem?
  intro i
  cases hrow : rows'[i]? with
  | none =>
    rw [List.getElem?_eq_none_iff] at hrow ⊢
    omega
  | some row =>
    obtain ⟨row'', hrow'', hframe, -⟩ := hagain.kept i row hrow
    have hkey : key row'' = key row := by
      have hget := congrArg (·[i]?) hkeys
      simpa [hrow, hrow''] using hget
    have hval : val row'' = val row := by
      have hlast := hagain.values (key row)
      have hbefore := h.values (key row)
      rw [valueAt_of_getElem? hnodup' hrow] at hlast hbefore
      rw [← hkey, valueAt_of_getElem? (hkeys ▸ hnodup') hrow'', hkey] at hlast
      cases hu : (updates.filter (·.1 = key row)).getLast? with
      | none => simpa [hu] using hlast
      | some u =>
        have hl : val row'' = u.2 := by simpa [hu] using hlast
        have hb : val row = u.2 := by simpa [hu] using hbefore
        rw [hl, hb]
    rw [hrow'', hinj row'' row hkey hval hframe]

end WanManager.Wire
