import Mathlib.Data.List.TakeWhile
import WanManager.WebConfig
import WanManager.Wire.Upsert

/-! # The markings of a blob in the table of an interface

`WanMgr_Process_Webconfig_Request` looks for the alias of each marking in the table, updates the
row that has it, and else adds one. The alias goes through 16 bytes on the stack, which `strncpy`
fills up to the last. -/

namespace WanManager

namespace WebConfig

/-! ## What a blob asks of the table -/

/-- The alias that a marking of the blob is for. -/
def WebMarking.target (m : WebMarking) : String :=
  if m.alias_ = "network_control" then "DATA" else m.alias_

/-- The markings that a request has for the interface with index `k`. -/
def Blob.markingsFor (b : Blob) (d : Device) (k : Nat) : List (WebMarking × Nat × Nat) :=
  markingsOf (appliedTo d b.ifTable 0 k)

/-- The aliases of the table. -/
def Iface.aliases (f : Iface) : List String := f.markingList.map (·.marking.alias_)

/-- What of a row no marking changes. -/
def MarkingLink.frame (l : MarkingLink) : Nat × Marking :=
  (l.instanceNumber, { l.marking with ethernetPriorityMark := 0 })

/-- Rows have got their numbers from `ulNextInstanceNumber`, which only grows. -/
def Iface.Numbered (f : Iface) : Prop :=
  ∀ l ∈ f.markingList, l.instanceNumber < f.ulNextInstanceNumber

/-- The operations on rows succeed for a marking: a row is added when none has its alias, and the
row takes the priority. -/
def RowTakes (host : Host) (f : Iface) (m : WebMarking × Nat × Nat) : Prop :=
  (rowOf host f m.1 = none → Adds host f m) ∧
    m.1.ethernetPriorityMark ≤ 7 ∧ 0 ≤ m.1.ethernetPriorityMark

/-- They succeed for one marking after the other. -/
def RowsTake (host : Host) : List (WebMarking × Nat × Nat) → Iface → Prop
  | [], _ => True
  | m :: ms, f => RowTakes host f m ∧ RowsTake host ms (processMarking host m.2.1 m.2.2 m.1 f)

instance (host : Host) (f : Iface) : DecidablePred (Adds host f) :=
  fun _ => inferInstanceAs (Decidable (_ ∧ _ ∧ _))

instance (host : Host) (f : Iface) : DecidablePred (RowTakes host f) :=
  fun _ => inferInstanceAs (Decidable (_ ∧ _))

instance decidableRowsTake (host : Host) :
    (ms : List (WebMarking × Nat × Nat)) → (f : Iface) → Decidable (RowsTake host ms f)
  | [], _ => isTrue trivial
  | m :: ms, f =>
    have := decidableRowsTake host ms (processMarking host m.2.1 m.2.2 m.1 f)
    inferInstanceAs (Decidable (_ ∧ _))

instance (f : Iface) : Decidable f.Numbered :=
  inferInstanceAs (Decidable (∀ l ∈ f.markingList, l.instanceNumber < f.ulNextInstanceNumber))

/-- The markings are merged into the table by alias. -/
structure Merged (ms : List (WebMarking × Nat × Nat)) (f f' : Iface) : Prop where
  nodup : f'.aliases.Nodup
  upserted : Wire.Upserted (·.marking.alias_) (·.marking.ethernetPriorityMark) MarkingLink.frame
    (ms.map fun m => (m.1.target, m.1.ethernetPriorityMark)) f.markingList f'.markingList

/-! ## One marking -/

/-- Rows with the same frame differ in the priority and in being new. -/
theorem eq_of_frame {l l' : MarkingLink}
    (hval : (l.marking.ethernetPriorityMark, l.bNew) = (l'.marking.ethernetPriorityMark, l'.bNew))
    (hframe : l.frame = l'.frame) : l = l' := by
  obtain ⟨number, new, _, _, _, _, mark⟩ := l
  obtain ⟨number', new', _, _, _, _, mark'⟩ := l'
  simp only [MarkingLink.frame, Prod.mk.injEq, Marking.mk.injEq] at hval hframe
  obtain ⟨rfl, rfl⟩ := hval
  obtain ⟨rfl, rfl, rfl, rfl, rfl, -⟩ := hframe
  rfl

theorem named_eq {a : String} (h : a.length < 16) :
    named a = fun l => decide (l.marking.alias_ = a) := by
  funext l
  by_cases ha : l.marking.alias_ = a
  · simp [named, ha, h]
  · simp [named, ha, Ne.symm ha]

theorem aliasOf_eq_target {host : Host} {m : WebMarking} (hm : m.alias_.length ≤ 15)
    (h : m.alias_.length = 15 → m.alias_ = "network_control" ∨ host.stack = "") :
    aliasOf host m = m.target := by
  unfold aliasOf WebMarking.target
  by_cases hc : m.alias_ = "network_control"
  · rw [if_pos hc]
    exact if_pos (by decide)
  · rw [if_neg hc]
    by_cases hlen : m.alias_.length < 15
    · simp [hlen]
    · obtain hc' | hstack := h (by omega)
      · exact absurd hc' hc
      · simp [hstack]

theorem length_target {m : WebMarking} (hm : m.alias_.length ≤ 15) : m.target.length < 16 := by
  unfold WebMarking.target
  split
  · decide
  · omega

/-- Behind an alias of 15 characters comes what lies on the stack. -/
theorem length_aliasOf {host : Host} {m : WebMarking} (hm : m.alias_.length = 15)
    (hcontrol : m.alias_ ≠ "network_control") (hstack : host.stack ≠ "") :
    16 ≤ (aliasOf host m).length := by
  have hpos : 0 < host.stack.length := by
    rw [Nat.pos_iff_ne_zero, Ne, String.length_eq_zero_iff]
    exact hstack
  simp only [aliasOf, if_neg hcontrol, hm, Nat.lt_irrefl, if_false, String.length_append]
  omega

@[simp] theorem dmlAddMarking_alias (p : Bool) (psm : Option String) (m : Marking) :
    (dmlAddMarking p psm m).1.alias_ = m.alias_ := by
  unfold dmlAddMarking
  split
  · rfl
  · split
    · rfl
    · split <;> rfl

@[simp] theorem dmlAddMarking_mark (p : Bool) (psm : Option String) (m : Marking) :
    (dmlAddMarking p psm m).1.ethernetPriorityMark = m.ethernetPriorityMark := by
  unfold dmlAddMarking
  split
  · rfl
  · split
    · rfl
    · split <;> rfl

theorem setEthernetPriorityMark_mark {v : Int} (h : v ≤ 7 ∧ 0 ≤ v) (m : Marking) :
    (m.setEthernetPriorityMark v).ethernetPriorityMark = v := by
  rw [Marking.setEthernetPriorityMark, if_pos h]

/-- The new row comes last. -/
theorem markingList_addIfaceMarking {f : Iface} (h : f.Numbered) :
    (addIfaceMarking f).markingList = f.markingList ++
      [{ instanceNumber := f.ulNextInstanceNumber, bNew := true
         marking := { instanceNumber := f.ulNextInstanceNumber } }] := by
  have hall : ∀ l ∈ f.markingList, decide (l.instanceNumber ≤ f.ulNextInstanceNumber) = true :=
    fun l hl => decide_eq_true (Nat.le_of_lt (h l hl))
  simp only [addIfaceMarking]
  rw [List.takeWhile_eq_self_iff.mpr hall, List.dropWhile_eq_nil_iff.mpr hall]

/-- The row that is added for a marking. -/
def rowAdded (host : Host) (f : Iface) (m : WebMarking × Nat × Nat) : MarkingLink :=
  { instanceNumber := f.ulNextInstanceNumber, bNew := false
    marking :=
      let new : Marking := { instanceNumber := f.ulNextInstanceNumber }
      (dmlAddMarking (host.setPsm m.2.1 m.2.2) f.psmList
        ((new.setAlias (aliasOf host m.1)).setEthernetPriorityMark m.1.ethernetPriorityMark)).1 }

theorem alias_rowAdded (host : Host) (f : Iface) (m : WebMarking × Nat × Nat) :
    (rowAdded host f m).marking.alias_ = aliasOf host m.1 := by
  simp [rowAdded, Marking.setAlias]

theorem markingList_adds {host : Host} {f : Iface} {m : WebMarking × Nat × Nat} (hf : f.Numbered)
    (h : Adds host f m) :
    (processMarking host m.2.1 m.2.2 m.1 f).markingList = f.markingList ++ [rowAdded host f m] := by
  rw [processMarking_adds h, commitNew, markingList_addIfaceMarking hf]
  simp [addIfaceMarking, rowAdded]

theorem next_adds {host : Host} {f : Iface} {m : WebMarking × Nat × Nat} (h : Adds host f m) :
    (processMarking host m.2.1 m.2.2 m.1 f).ulNextInstanceNumber = f.ulNextInstanceNumber + 1 := by
  rw [processMarking_adds h, commitNew]
  split <;> rfl

theorem numbered_processMarking {host : Host} {f : Iface} {m : WebMarking × Nat × Nat}
    (hf : f.Numbered) (h : RowTakes host f m) :
    (processMarking host m.2.1 m.2.2 m.1 f).Numbered := by
  cases hrow : rowOf host f m.1 with
  | none =>
    have hadds := h.1 hrow
    intro l hl
    rw [markingList_adds hf hadds] at hl
    rw [next_adds hadds]
    obtain hl | hl := List.mem_append.mp hl
    · exact Nat.lt_succ_of_lt (hf l hl)
    · obtain rfl := List.mem_singleton.mp hl
      exact Nat.lt_succ_self _
  | some k =>
    intro l hl
    rw [processMarking_row hrow] at hl ⊢
    obtain ⟨i, hi⟩ := List.mem_iff_getElem?.mp hl
    rw [List.getElem?_modify] at hi
    obtain ⟨r, hr, rfl⟩ := Option.map_eq_some_iff.mp hi
    have hnum := hf r (List.mem_of_getElem? hr)
    split <;> exact hnum

/-- One marking is one update of the table, when its alias fits the buffer. -/
theorem upsert_processMarking {host : Host} {f : Iface} {m : WebMarking × Nat × Nat}
    (hf : f.Numbered) (h : RowTakes host f m) (hshort : (aliasOf host m.1).length < 16) :
    Wire.Upsert (·.marking.alias_) (fun l => (l.marking.ethernetPriorityMark, l.bNew))
      MarkingLink.frame (aliasOf host m.1) (m.1.ethernetPriorityMark, false) f.markingList
      (processMarking host m.2.1 m.2.2 m.1 f).markingList := by
  obtain ⟨hadd, hmark⟩ := h
  cases hrow : rowOf host f m.1 with
  | none =>
    rw [markingList_adds hf (hadd hrow)]
    apply Wire.Upsert.append
    · rw [rowOf, named_eq hshort, List.findIdx?_eq_none_iff] at hrow
      simpa using hrow
    · exact alias_rowAdded host f m
    · simp [rowAdded, setEthernetPriorityMark_mark hmark]
  | some k =>
    rw [processMarking_row hrow]
    rw [rowOf, named_eq hshort] at hrow
    apply Wire.Upsert.modify hrow
    · intro l
      exact setEthernetPriorityMark_alias _ _
    · intro l
      simp only [MarkingLink.frame, Marking.setEthernetPriorityMark]
      split <;> rfl
    · intro l
      simp [setEthernetPriorityMark_mark hmark]

/-! ## All markings -/

theorem upserted_processMarkings {host : Host} {ms : List (WebMarking × Nat × Nat)} {f : Iface}
    (hf : f.Numbered) (h : RowsTake host ms f)
    (hshort : ∀ m ∈ ms, (aliasOf host m.1).length < 16) :
    Wire.Upserted (·.marking.alias_) (fun l => (l.marking.ethernetPriorityMark, l.bNew))
      MarkingLink.frame (ms.map fun m => (aliasOf host m.1, (m.1.ethernetPriorityMark, false)))
      f.markingList (processMarkings host ms f).markingList := by
  induction ms generalizing f with
  | nil => exact Wire.Upserted.refl f.markingList
  | cons m ms ih =>
    have hstep := upsert_processMarking hf h.1 (hshort m (by simp))
    have hrest := ih (numbered_processMarking hf h.1) h.2 fun m' hm' => hshort m' (by simp [hm'])
    exact Wire.Upserted.cons hstep hrest

theorem numbered_processMarkings {host : Host} {ms : List (WebMarking × Nat × Nat)} {f : Iface}
    (hf : f.Numbered) (h : RowsTake host ms f) : (processMarkings host ms f).Numbered := by
  induction ms generalizing f with
  | nil => exact hf
  | cons m ms ih => exact ih (numbered_processMarking hf h.1) h.2

/-- Markings that all have a row change nothing but rows. -/
theorem processMarkings_rows {host : Host} {ms : List (WebMarking × Nat × Nat)} {f : Iface}
    (h : ∀ m ∈ ms, rowOf host f m.1 ≠ none) :
    ∃ rows, processMarkings host ms f = { f with markingList := rows } := by
  induction ms generalizing f with
  | nil => exact ⟨f.markingList, rfl⟩
  | cons m ms ih =>
    obtain ⟨k, hk⟩ := Option.ne_none_iff_exists'.mp (h m (by simp))
    have hsame : SameRows f (processMarking host m.2.1 m.2.2 m.1 f) :=
      sameRows_processMarking fun hadds => h m (by simp) hadds.1
    obtain ⟨rows, hrows⟩ := ih (f := processMarking host m.2.1 m.2.2 m.1 f) fun m' hm' => by
      rw [hsame.rowOf]
      exact h m' (by simp [hm'])
    refine ⟨rows, ?_⟩
    calc processMarkings host (m :: ms) f
        = processMarkings host ms (processMarking host m.2.1 m.2.2 m.1 f) := rfl
      _ = { f with markingList := rows } := by rw [hrows, processMarking_row hk]

/-- A blob whose markings have been merged leaves the table as it is. -/
theorem processMarkings_again {host again : Host} {ms : List (WebMarking × Nat × Nat)} {f : Iface}
    (hf : f.Numbered) (hnodup : f.aliases.Nodup) (h : RowsTake host ms f)
    (hagain : RowsTake again ms (processMarkings host ms f))
    (hshort : ∀ m ∈ ms, (aliasOf host m.1).length < 16)
    (hsame : ∀ m ∈ ms, aliasOf again m.1 = aliasOf host m.1) :
    processMarkings again ms (processMarkings host ms f) = processMarkings host ms f := by
  have hfirst := upserted_processMarkings hf h hshort
  have hsecond := upserted_processMarkings (numbered_processMarkings hf h) hagain fun m hm =>
    hsame m hm ▸ hshort m hm
  rw [List.map_congr_left (fun m hm => by rw [hsame m hm])] at hsecond
  have hlist := hfirst.again hsecond hnodup fun _ _ _ => eq_of_frame
  have hrows : ∀ m ∈ ms, rowOf again (processMarkings host ms f) m.1 ≠ none := by
    intro m hm hnone
    rw [rowOf, hsame m hm, named_eq (hshort m hm), List.findIdx?_eq_none_iff] at hnone
    have hmem : aliasOf host m.1 ∈
        (processMarkings host ms f).markingList.map (·.marking.alias_) := by
      rw [hfirst.keys, List.mem_append, or_iff_not_imp_left]
      intro hnot
      exact Wire.mem_newKeys.mpr ⟨List.mem_map.mpr ⟨_, List.mem_map_of_mem hm, rfl⟩, hnot⟩
    obtain ⟨l, hl, halias⟩ := List.mem_map.mp hmem
    simpa [halias] using hnone l hl
  obtain ⟨rows, hrows⟩ := processMarkings_rows hrows
  rw [hrows] at hlist ⊢
  rw [show rows = (processMarkings host ms f).markingList from hlist]

/-! ## Aliases that do not fit -/

/-- The rows that no marking finds: their aliases are too long to be read. -/
def Iface.unfound (f : Iface) : Nat := f.aliases.countP fun a => 16 ≤ a.length

theorem rowOf_of_long {host : Host} {m : WebMarking} (h : 16 ≤ (aliasOf host m).length)
    (f : Iface) : rowOf host f m = none := by
  rw [rowOf, List.findIdx?_eq_none_iff]
  intro l _
  rw [named, Bool.and_eq_false_iff]
  by_cases ha : aliasOf host m = l.marking.alias_
  · rw [← ha]
    exact .inl (by simpa using h)
  · exact .inr (by simpa using ha)

theorem unfound_processMarking {host : Host} {f : Iface} {m : WebMarking × Nat × Nat}
    (hf : f.Numbered) (h : RowTakes host f m) :
    (processMarking host m.2.1 m.2.2 m.1 f).unfound =
      f.unfound + if 16 ≤ (aliasOf host m.1).length then 1 else 0 := by
  cases hrow : rowOf host f m.1 with
  | none =>
    have haliases : (processMarking host m.2.1 m.2.2 m.1 f).aliases =
        f.aliases ++ [aliasOf host m.1] := by
      rw [Iface.aliases, markingList_adds hf (h.1 hrow), List.map_append, List.map_singleton,
        alias_rowAdded]
      rfl
    rw [Iface.unfound, haliases, List.countP_append, List.countP_singleton, Iface.unfound]
    simp
  | some k =>
    have hshort : ¬ 16 ≤ (aliasOf host m.1).length := fun hlong => by
      rw [rowOf_of_long hlong] at hrow
      cases hrow
    have haliases : (processMarking host m.2.1 m.2.2 m.1 f).aliases = f.aliases :=
      (sameRows_processMarking fun hadds => by rw [hadds.1] at hrow; cases hrow).aliases
    rw [Iface.unfound, haliases, if_neg hshort]
    rfl

/-- Each marking with an alias that does not fit adds a row that is not found. -/
theorem unfound_processMarkings {host : Host} {ms : List (WebMarking × Nat × Nat)} {f : Iface}
    (hf : f.Numbered) (h : RowsTake host ms f) :
    (processMarkings host ms f).unfound =
      f.unfound + ms.countP fun m => 16 ≤ (aliasOf host m.1).length := by
  induction ms generalizing f with
  | nil => rfl
  | cons m ms ih =>
    calc (processMarkings host (m :: ms) f).unfound
        = (processMarkings host ms (processMarking host m.2.1 m.2.2 m.1 f)).unfound := rfl
      _ = f.unfound + (m :: ms).countP fun m => 16 ≤ (aliasOf host m.1).length := by
        rw [ih (numbered_processMarking hf h.1) h.2, unfound_processMarking hf h.1,
          List.countP_cons]
        simp only [decide_eq_true_eq]
        omega

/-- So no alias is too long when the number of such rows stays. -/
theorem fits_of_unfound {host : Host} {ms : List (WebMarking × Nat × Nat)} {f : Iface}
    (hf : f.Numbered) (h : RowsTake host ms f)
    (hsame : (processMarkings host ms f).unfound = f.unfound) :
    ∀ m ∈ ms, m.1.alias_.length = 15 → m.1.alias_ = "network_control" ∨ host.stack = "" := by
  rw [unfound_processMarkings hf h, Nat.add_eq_left, List.countP_eq_zero] at hsame
  intro m hm hlen
  by_contra hbad
  rw [not_or] at hbad
  exact hsame m hm (by simpa using length_aliasOf hlen hbad.1 hbad.2)

/-- Merged markings have no row that is not found. -/
theorem Merged.unfound {ms : List (WebMarking × Nat × Nat)} {f f' : Iface} (h : Merged ms f f')
    (halias : ∀ m ∈ ms, m.1.alias_.length ≤ 15) : f'.unfound = f.unfound := by
  have hnew : ∀ a ∈ Wire.newKeys f.aliases (ms.map fun m => m.1.target), a.length < 16 := by
    intro a ha
    obtain ⟨m, hm, rfl⟩ := List.mem_map.mp (Wire.mem_newKeys.mp ha).1
    exact length_target (halias m hm)
  have hkeys : f'.aliases = f.aliases ++ Wire.newKeys f.aliases (ms.map fun m => m.1.target) := by
    rw [Iface.aliases, h.upserted.keys, List.map_map]
    rfl
  have hnone : (Wire.newKeys f.aliases (ms.map fun m => m.1.target)).countP
      (fun a => 16 ≤ a.length) = 0 := by
    rw [List.countP_eq_zero]
    intro a ha
    simpa using hnew a ha
  rw [Iface.unfound, hkeys, List.countP_append, hnone]
  rfl

/-! ## A request, and the same request again -/

theorem find_processTable (host : Host) (es : List WebIface) (i : Nat) (d : Device) (e : WebIface) :
    (processTable host i es d).2.find e = d.find e := by
  induction es generalizing i d with
  | nil => rfl
  | cons e' es ih =>
    cases hfind : d.find e' with
    | none => simp [processTable, hfind]
    | some n =>
      simp only [processTable, hfind]
      rw [ih, find_modify]

theorem markingsFor_request (host : Host) (b : Blob) (d : Device) (k : Nat) :
    appliedTo (processWebconfigRequest host b d).2 b.ifTable 0 k = appliedTo d b.ifTable 0 k :=
  find_congr (fun e => find_processTable host b.ifTable 0 _ e) b.ifTable 0 k

theorem ifaces_request (host : Host) (b : Blob) (d : Device) (k : Nat) :
    (processWebconfigRequest host b d).2.ifaces[k]? =
      d.ifaces[k]?.map (processEntries host (appliedTo d b.ifTable 0 k)) :=
  ifaces_processTable host b.ifTable 0 _ k

theorem rowsTake_setReset {host : Host} {ms : List (WebMarking × Nat × Nat)} {f : Iface} :
    RowsTake host ms f.setReset ↔ RowsTake host ms f := by
  induction ms generalizing f with
  | nil => exact Iff.rfl
  | cons m ms ih =>
    rw [RowsTake, processMarking_setReset, ih]
    exact Iff.rfl

/-- What the entries of an interface do to its table is what their markings do. -/
theorem markingList_processEntries (host : Host) (es : List (WebIface × Nat)) (f : Iface) :
    (processEntries host es f).markingList =
      (processMarkings host (markingsOf es) f).markingList := by
  cases es with
  | nil => rfl
  | cons e es =>
    rw [processEntries_cons]
    rfl

/-- The refresh flags apart, so is all they do to an interface. -/
theorem processEntries_eq (host : Host) (es : List (WebIface × Nat)) (f : Iface) :
    processEntries host es f = processMarkings host (markingsOf es) f ∨
      processEntries host es f = (processMarkings host (markingsOf es) f).setReset := by
  cases es with
  | nil => exact .inl rfl
  | cons e es => exact .inr (processEntries_cons host e es f)

theorem unfound_processEntries (host : Host) (es : List (WebIface × Nat)) (f : Iface) :
    (processEntries host es f).unfound = (processMarkings host (markingsOf es) f).unfound := by
  rw [Iface.unfound, Iface.aliases, markingList_processEntries]
  rfl

theorem numbered_processEntries {host : Host} {es : List (WebIface × Nat)} {f : Iface}
    (hf : f.Numbered) (h : RowsTake host (markingsOf es) f) :
    (processEntries host es f).Numbered := by
  obtain heq | heq := processEntries_eq host es f
  · rw [heq]
    exact numbered_processMarkings hf h
  · rw [heq]
    exact numbered_processMarkings hf h

theorem processEntries_again {host again : Host} {es : List (WebIface × Nat)} {f : Iface}
    (h : processMarkings again (markingsOf es) (processMarkings host (markingsOf es) f) =
      processMarkings host (markingsOf es) f) :
    processEntries again es (processEntries host es f) = processEntries host es f := by
  cases es with
  | nil => rfl
  | cons e es =>
    rw [processEntries_cons, processEntries_cons, processMarkings_setReset, h, setReset_setReset]

theorem merged_processEntries_iff {host again : Host} {es : List (WebIface × Nat)} {f : Iface}
    (hf : f.Numbered) (halias : ∀ m ∈ markingsOf es, m.1.alias_.length ≤ 15)
    (hrows : RowsTake host (markingsOf es) f)
    (hrows' : RowsTake again (markingsOf es) (processEntries host es f)) :
    (Merged (markingsOf es) f (processEntries host es f) ∧
        processEntries again es (processEntries host es f) = processEntries host es f) ↔
      f.aliases.Nodup ∧ ∀ m ∈ markingsOf es, m.1.alias_.length = 15 →
        m.1.alias_ = "network_control" ∨ (host.stack = "" ∧ again.stack = "") := by
  constructor
  · rintro ⟨hmerged, hagain⟩
    have hnodup : f.aliases.Nodup := by
      have hkeys := hmerged.nodup
      rw [Iface.aliases, hmerged.upserted.keys] at hkeys
      exact (List.nodup_append.mp hkeys).1
    have hfirst := fits_of_unfound hf hrows
      ((unfound_processEntries host es f).symm.trans (hmerged.unfound halias))
    have hsecond := fits_of_unfound (numbered_processEntries hf hrows) hrows'
      ((unfound_processEntries again es _).symm.trans (congrArg Iface.unfound hagain))
    refine ⟨hnodup, fun m hm hlen => ?_⟩
    obtain hcontrol | hstack := hfirst m hm hlen
    · exact .inl hcontrol
    · exact (hsecond m hm hlen).imp_right fun hstack' => ⟨hstack, hstack'⟩
  · rintro ⟨hnodup, hfits⟩
    have htarget : ∀ m ∈ markingsOf es, aliasOf host m.1 = m.1.target := fun m hm =>
      aliasOf_eq_target (halias m hm) fun hlen => (hfits m hm hlen).imp_right And.left
    have htarget' : ∀ m ∈ markingsOf es, aliasOf again m.1 = m.1.target := fun m hm =>
      aliasOf_eq_target (halias m hm) fun hlen => (hfits m hm hlen).imp_right And.right
    have hshort : ∀ m ∈ markingsOf es, (aliasOf host m.1).length < 16 := fun m hm => by
      rw [htarget m hm]
      exact length_target (halias m hm)
    have hupserted := (upserted_processMarkings hf hrows hshort).comp Prod.fst
    rw [List.map_map, ← markingList_processEntries] at hupserted
    refine ⟨⟨?_, ?_⟩, ?_⟩
    · exact hupserted.nodup hnodup
    · have hpairs : (markingsOf es).map (fun m => (m.1.target, m.1.ethernetPriorityMark)) =
          (markingsOf es).map (fun m => (aliasOf host m.1, m.1.ethernetPriorityMark)) :=
        List.map_congr_left fun m hm => by rw [htarget m hm]
      rw [hpairs]
      exact hupserted
    · have hrows'' : RowsTake again (markingsOf es) (processMarkings host (markingsOf es) f) := by
        obtain heq | heq := processEntries_eq host es f
        · rwa [heq] at hrows'
        · rwa [heq, rowsTake_setReset] at hrows'
      exact processEntries_again (processMarkings_again hf hnodup hrows hrows'' hshort fun m hm =>
        (htarget' m hm).trans (htarget m hm).symm)

/-- A request merges its markings into the table of an interface by alias, and changes nothing
when it comes again, exactly when the table had each alias once and no alias fills the 16 bytes
with something behind it. -/
theorem markings_merged_iff {host again : Host} {b : Blob} {d : Device} {k : Nat} {f f' : Iface}
    (hf : d.ifaces[k]? = some f) (hf' : (processWebconfigRequest host b d).2.ifaces[k]? = some f')
    (hnumbered : f.Numbered) (halias : ∀ m ∈ b.markingsFor d k, m.1.alias_.length ≤ 15)
    (hrows : RowsTake host (b.markingsFor d k) f) (hrows' : RowsTake again (b.markingsFor d k) f') :
    (Merged (b.markingsFor d k) f f' ∧
        (processWebconfigRequest again b (processWebconfigRequest host b d).2).2.ifaces[k]? =
          some f') ↔
      f.aliases.Nodup ∧ ∀ m ∈ b.markingsFor d k, m.1.alias_.length = 15 →
        m.1.alias_ = "network_control" ∨ (host.stack = "" ∧ again.stack = "") := by
  rw [ifaces_request, markingsFor_request, hf']
  rw [ifaces_request, hf, Option.map_some, Option.some.injEq] at hf'
  subst hf'
  rw [Option.map_some, Option.some.injEq]
  exact merged_processEntries_iff hnumbered halias hrows hrows'

namespace Example

/-- Every call succeeds, and a byte is left behind `alias`. -/
def leftByte : Host := ⟨fun _ _ => true, fun _ _ => true, "x"⟩

/-- A blob for the row of `oneMarking` and for two that it does not have, one of them twice. -/
def threeAliases : Blob :=
  { ifTable := [
      { name := "erouter0"
        markingTable := [
          ⟨"VOICE", 5⟩, ⟨"network_control", 2⟩, ⟨"VIDEO", 3⟩, ⟨"network_control", 4⟩] }] }

/-- A blob with an alias of 15 characters. -/
def longAlias : Blob :=
  { ifTable := [{ name := "erouter0", markingTable := [⟨"premium_traffic", 3⟩] }] }

/-- What a request leaves of the first interface. -/
def ifaceAfter (b : Blob) : Iface :=
  ((processWebconfigRequest leftByte b oneMarking).2.ifaces[0]?).getD { name := "" }

end Example

open Example in
theorem markings_merged_three :
    Merged (threeAliases.markingsFor oneMarking 0) oneMarking.ifaces[0] (ifaceAfter threeAliases) ∧
      (processWebconfigRequest leftByte threeAliases
        (processWebconfigRequest leftByte threeAliases oneMarking).2).2.ifaces[0]? =
          some (ifaceAfter threeAliases) :=
  (markings_merged_iff (by decide) (by decide +kernel) (by decide) (by decide +kernel)
    (by decide +kernel) (by decide +kernel)).mpr (by decide +kernel)

open Example in
/-- The row of a long alias is not found when the blob comes again. -/
theorem long_alias_again :
    ¬ (oneMarking.ifaces[0].Numbered → oneMarking.ifaces[0].aliases.Nodup →
      (∀ m ∈ longAlias.markingsFor oneMarking 0, m.1.alias_.length ≤ 15) →
      RowsTake leftByte (longAlias.markingsFor oneMarking 0) oneMarking.ifaces[0] →
      RowsTake leftByte (longAlias.markingsFor oneMarking 0) (ifaceAfter longAlias) →
      Merged (longAlias.markingsFor oneMarking 0) oneMarking.ifaces[0] (ifaceAfter longAlias) ∧
        (processWebconfigRequest leftByte longAlias
          (processWebconfigRequest leftByte longAlias oneMarking).2).2.ifaces[0]? =
            some (ifaceAfter longAlias)) := by
  intro h
  have hboth := h (by decide) (by decide) (by decide +kernel) (by decide +kernel)
    (by decide +kernel)
  have hagain := hboth.2
  revert hagain
  decide +kernel

end WebConfig

end WanManager
