import WanManager.MarkingRecords

/-! # The markings of an interface at start-up

`WanMgr_WanIfaceMarkingInit` walks the persisted list of an interface, adds a row for each alias
that has its four records, and takes the others out of the list. For that it has one more copy of
the list, which the first removal takes apart. -/

namespace WanManager

namespace MarkingRecords

open Text
open WebConfig (Marking)

/-! ## The walk -/

/-- The answers from outside at start-up. -/
structure InitHost extends Host where
  /-- what `CcspBaseIf_AddTblRow` answers to the calls for an interface, by its number and theirs:
  the number of the new row -/
  addTblRow : Nat → Nat → Option Nat

/-- A row that is added, for an entry of the list, and what `Marking_UpdateInitValue` writes to the
row at an index. -/
structure Row where
  entry : List Char
  index : Nat
  marking : Marking
  deriving DecidableEq, Repr

/-- `acOldMarkingList`, PSM, and the rows so far. -/
structure InitState where
  psm : Psm
  oldMarkingList : CStr 64
  rows : List Row := []
  calls : Nat := 0

/-- A record with something in it. The names fit the 128 characters of `acPSMQuery`. -/
def recordValue (number : Nat) (psm : Psm) (entry : List Char) (f : Field) : Option (CStr 64) :=
  (psm (markingRecord number entry f)).filter (·.chars ≠ [])

/-- The four records of an entry, read one after the other. -/
def readRecords (number : Nat) (psm : Psm) (entry : List Char) : Option Marking := do
  let name ← recordValue number psm entry .alias_
  let port ← recordValue number psm entry .skbPort
  let mark ← recordValue number psm entry .skbMark
  let priority ← recordValue number psm entry .ethPriorityMask
  some { instanceNumber := 0, alias_ := String.ofList name.chars
         skbPort := (atoi port.chars).toNat, skbMark := (atoi mark.chars).toNat
         ethernetPriorityMark := (atoi priority.chars).toInt32.toInt }

variable (host : InitHost)

/-- `WanMgr_RemoveMarkingEntryFromPSMList`: it takes `acOldMarkingList` apart in place. -/
def removeMarkingEntryFromPSMList (number : Nat) (entry : List Char) (st : InitState) :
    Option InitState := do
  let new ← listWithout entry (words '-' st.oldMarkingList.chars)
  some { st with
    psm := (dmlWanSetPSMRecordValue host.toHost (markingList number) new st.psm).2
    oldMarkingList := .snprintf (strtokLeft '-' st.oldMarkingList.chars) }

/-- A row is added for an entry, and its records get the numbers of the row. -/
def addRow (number : Nat) (entry : List Char) (m : Marking) (st : InitState) : InitState :=
  match host.addTblRow number st.calls with
  | none => { st with calls := st.calls + 1 }
  | some index =>
    let instanceNumber := index + 1
    let skbPort := instanceNumber % 2 ^ 32
    let skbMark := instanceNumber * 1048576 % 2 ^ 32
    let set (f : Field) (n : Nat) (psm : Psm) : Psm :=
      (dmlWanSetPSMRecordValue host.toHost (markingRecord number entry f)
        (.snprintf (decimal n)) psm).2
    let psm := if instanceNumber ≠ m.skbPort then set .skbPort skbPort st.psm else st.psm
    { st with
      psm := set .skbMark skbMark psm
      rows := st.rows ++ [{
        entry, index
        marking := { m with
          instanceNumber, skbMark
          skbPort := if instanceNumber ≠ m.skbPort then skbPort else m.skbPort } }]
      calls := st.calls + 1 }

/-- One token of the list. -/
def initToken (number : Nat) (st : InitState) (token : List Char) : Option InitState :=
  let entry := (CStr.snprintf token : CStr 32).chars
  match readRecords number st.psm entry with
  | some m => some (addRow host number entry m st)
  | none => removeMarkingEntryFromPSMList host number entry st

/-- `WanMgr_WanIfaceMarkingInit` for the interface with a number. -/
def ifaceMarkingInit (number : Nat) (psm : Psm) : Option InitState :=
  match psm (markingList number) with
  | none => some { psm, oldMarkingList := .snprintf [] }
  | some list =>
    if list.chars = [] then some { psm, oldMarkingList := .snprintf [] }
    else do
      let tmp ← CStr.formatted list.chars
      let old : CStr 64 := .snprintf tmp
      (words '-' old.chars).foldlM (initToken host number) { psm, oldMarkingList := old }

/-- `WanMgr_WanIfaceMarkingInit`: the rows that are added, for one interface after the other. -/
def wanIfaceMarkingInit (total : Nat) (psm : Psm) : Option (Psm × List (List Row)) :=
  if host.interfaceVLANMarkingSupport = false then some (psm, [])
  else
    (List.range total).foldlM (fun (s : Psm × List (List Row)) i => do
      let st ← ifaceMarkingInit host (i + 1) s.1
      some (st.psm, s.2 ++ [st.rows])) (psm, [])

/-! ## What it is for -/

/-- The entries of the list of an interface. -/
def entries (number : Nat) (psm : Psm) : List (List Char) :=
  ((psm (markingList number)).map fun list => words '-' list.chars).getD []

/-- An entry has its four records. -/
def complete (number : Nat) (psm : Psm) (entry : List Char) : Bool :=
  Field.all.all fun f => (recordValue number psm entry f).isSome

/-- The entries that are not complete go, and the others have rows. -/
structure Cleaned (number : Nat) (psm psm' : Psm) (rows : List Row) : Prop where
  entries : entries number psm' = (entries number psm).filter (complete number psm)
  rows : rows.map Row.entry = (MarkingRecords.entries number psm).filter (complete number psm)

theorem cleaned_iff_and {number : Nat} {psm psm' : Psm} {rows : List Row} :
    Cleaned number psm psm' rows ↔
      entries number psm' = (entries number psm).filter (complete number psm) ∧
        rows.map Row.entry = (entries number psm).filter (complete number psm) :=
  ⟨fun h => ⟨h.entries, h.rows⟩, fun h => ⟨h.1, h.2⟩⟩

/-- No removal goes wrong: there is one at most, or the complete entries are what the last one
leaves of the first entry. -/
def Removable (number : Nat) (psm : Psm) : Prop :=
  let broken := (entries number psm).filter fun a => !complete number psm a
  broken.length ≤ 1 ∨
    (entries number psm).filter (complete number psm) =
      ((entries number psm).take 1).filter fun a => some a ≠ broken.getLast?

/-- Every row that is asked for is added. -/
def RowsAdded (number : Nat) (psm : Psm) : Prop :=
  ∀ i < ((entries number psm).filter (complete number psm)).length, (host.addTblRow number i).isSome

/-! ## Records -/

theorem complete_iff {number : Nat} {psm : Psm} {a : List Char} :
    complete number psm a = true ↔ ∀ f, (recordValue number psm a f).isSome = true := by
  rw [complete, List.all_eq_true]
  exact ⟨fun h f => h f (mem_all f), fun h f _ => h f⟩

theorem complete_congr {number : Nat} {psm psm' : Psm} {a : List Char}
    (h : ∀ f, (recordValue number psm' a f).isSome = (recordValue number psm a f).isSome) :
    complete number psm' a = complete number psm a := by
  rw [Bool.eq_iff_iff, complete_iff, complete_iff]
  simp only [h]

theorem isSome_readRecords (number : Nat) (psm : Psm) (a : List Char) :
    (readRecords number psm a).isSome = complete number psm a := by
  simp only [readRecords, complete, Field.all, List.all_cons, List.all_nil]
  cases recordValue number psm a .alias_ <;> cases recordValue number psm a .skbPort <;>
    cases recordValue number psm a .skbMark <;>
      cases recordValue number psm a .ethPriorityMask <;> rfl

theorem complete_write_list (number : Nat) (psm : Psm) (list : CStr 64) (a : List Char) :
    complete number (psm.write (markingList number) (some list)) a = complete number psm a := by
  apply complete_congr
  intro f
  rw [recordValue, Psm.write_other psm _ (markingList_ne number a f).symm]
  rfl

@[simp] theorem entries_write_list (number : Nat) (psm : Psm) (list : CStr 64) :
    entries number (psm.write (markingList number) (some list)) = words '-' list.chars := by
  simp [entries]

/-- The same entries, and the same of them complete. -/
structure SameEntries (number : Nat) (psm psm' : Psm) : Prop where
  complete : ∀ a, complete number psm' a = MarkingRecords.complete number psm a
  entries : entries number psm' = MarkingRecords.entries number psm

theorem SameEntries.trans {number : Nat} {psm psm' psm'' : Psm} (h : SameEntries number psm psm')
    (h' : SameEntries number psm' psm'') : SameEntries number psm psm'' :=
  ⟨fun a => (h'.complete a).trans (h.complete a), h'.entries.trans h.entries⟩

/-- That is so when a record of a complete entry is written with something. -/
theorem sameEntries_write {number : Nat} {psm : Psm} {a : List Char} {v : CStr 64}
    (ha : complete number psm a = true) (hv : v.chars ≠ []) (f : Field) :
    SameEntries number psm (psm.write (markingRecord number a f) (some v)) := by
  constructor
  · intro b
    apply complete_congr
    intro g
    by_cases hname : markingRecord number b g = markingRecord number a f
    · have hold := complete_iff.mp ha f
      rw [recordValue, recordValue, hname, Psm.write_same]
      rw [recordValue] at hold
      rw [hold]
      simp [hv]
    · rw [recordValue, Psm.write_other psm _ hname]
      rfl
  · rw [entries, Psm.write_other psm _ (markingList_ne number a f)]
    rfl

/-! ## One token -/

/-- The entries of calls that are answered with a row. -/
def answered (number : Nat) (as : List (List Char)) : List (List Char) :=
  (as.zipIdx.filter fun p => (host.addTblRow number p.2).isSome).map Prod.fst

/-- What removals of entries leave of a list: after the first there is only its first entry. -/
def remaining (ws broken : List (List Char)) : List (List Char) :=
  match broken.getLast? with
  | none => ws
  | some b => (if broken.length ≤ 1 then ws else ws.take 1).filter (· ≠ b)

/-- The state when some of the tokens are done. -/
structure Progress (number : Nat) (psm : Psm) (done : List (List Char)) (st : InitState) :
    Prop where
  complete : ∀ a, complete number st.psm a = MarkingRecords.complete number psm a
  calls : st.calls = (done.filter (MarkingRecords.complete number psm)).length
  rows : st.rows.map Row.entry =
    answered host number (done.filter (MarkingRecords.complete number psm))
  old : words '-' st.oldMarkingList.chars =
    if done.all (MarkingRecords.complete number psm) then entries number psm
    else (entries number psm).take 1
  list : entries number st.psm =
    remaining (entries number psm) (done.filter fun a => !MarkingRecords.complete number psm a)

section

variable {host} {number : Nat} {psm : Psm} {done : List (List Char)} {st : InitState}
  {w : List Char}

theorem answered_snoc (as : List (List Char)) (a : List Char) :
    answered host number (as ++ [a]) =
      answered host number as ++ if (host.addTblRow number as.length).isSome then [a] else [] := by
  rw [answered, List.zipIdx_append, List.filter_append, List.map_append]
  cases h : (host.addTblRow number as.length).isSome <;> simp [answered, h]

theorem listWithout_words (list : CStr 64) (a : List Char) :
    listWithout a (words '-' list.chars) =
        some (.snprintf (CStr.joined '-' ((words '-' list.chars).filter (· ≠ a)))) ∧
      (CStr.joined '-' ((words '-' list.chars).filter (· ≠ a))).length < 64 := by
  have hall : (CStr.joined '-' (words '-' list.chars)).length < 64 :=
    Nat.lt_of_le_of_lt (length_joined_words '-' list.chars) list.fits
  have hfits : (CStr.joined '-' ((words '-' list.chars).filter (· ≠ a))).length < 64 :=
    Nat.lt_of_le_of_lt
      (CStr.length_joined_sublist List.filter_sublist fun _ hw => (mem_words hw).1) hall
  refine ⟨?_, hfits⟩
  rw [listWithout_eq, CStr.ofList?_eq_some, CStr.chars_snprintf hfits]
  intro w hw
  have hle := @CStr.length_joined_sublist '-' _ _ (List.singleton_sublist.mpr hw)
    fun _ hw => (mem_words hw).1
  rw [CStr.joined_cons (mem_words hw).1, List.flatMap_nil, List.append_nil] at hle
  exact ⟨(mem_words hw).1, Nat.lt_of_le_of_lt hle hall⟩

theorem printed_ne_nil (n : Nat) : (CStr.snprintf (decimal n) : CStr 64).chars ≠ [] := by
  obtain ⟨c, cs, hcs⟩ := List.exists_cons_of_ne_nil (Nat.toDigits_ne_nil (b := 10) (n := n))
  simp [CStr.snprintf, decimal, hcs]

theorem progress_addRow (hset : ∀ name value, host.accepts name value = true)
    (h : Progress host number psm done st) (hw : complete number psm w = true) (m : Marking) :
    Progress host number psm (done ++ [w]) (addRow host number w m st) := by
  have hst : complete number st.psm w = true := (h.complete w).trans hw
  have hkept : (done ++ [w]).filter (complete number psm) =
      done.filter (complete number psm) ++ [w] := by simp [hw]
  have hbroken : (done ++ [w]).filter (fun a => !complete number psm a) =
      done.filter fun a => !complete number psm a := by simp [hw]
  have hold : (done ++ [w]).all (complete number psm) = done.all (complete number psm) := by
    simp [hw]
  rw [addRow]
  split
  · rename_i hcall
    refine ⟨h.complete, ?_, ?_, hold ▸ h.old, hbroken ▸ h.list⟩
    · simp [hkept, h.calls]
    · rw [hkept, answered_snoc, ← h.calls, hcall]
      simpa using h.rows
  · rename_i index hcall
    simp only [dmlWanSetPSMRecordValue, hset, if_true]
    have hport : SameEntries number st.psm
        (if index + 1 ≠ m.skbPort then st.psm.write (markingRecord number w .skbPort)
          (some (.snprintf (decimal ((index + 1) % 2 ^ 32)))) else st.psm) := by
      split
      · exact sameEntries_write hst (printed_ne_nil _) .skbPort
      · exact ⟨fun _ => rfl, rfl⟩
    have hmark := hport.trans (sameEntries_write ((hport.complete w).trans hst)
      (printed_ne_nil ((index + 1) * 1048576 % 2 ^ 32)) .skbMark)
    refine ⟨fun a => (hmark.complete a).trans (h.complete a), ?_, ?_, hold ▸ h.old,
      hmark.entries.trans (hbroken ▸ h.list)⟩
    · simp [hkept, h.calls]
    · rw [hkept, answered_snoc, ← h.calls, hcall, List.map_append, h.rows]
      rfl

theorem progress_remove (hset : ∀ name value, host.accepts name value = true)
    (h : Progress host number psm done st) (hw : complete number psm w = false) :
    ∃ st', removeMarkingEntryFromPSMList host number w st = some st' ∧
      Progress host number psm (done ++ [w]) st' := by
  obtain ⟨hwithout, hfits⟩ := listWithout_words st.oldMarkingList w
  refine ⟨_, by rw [removeMarkingEntryFromPSMList, hwithout]; rfl, ?_⟩
  simp only [dmlWanSetPSMRecordValue, hset, if_true]
  have hleft : (strtokLeft '-' st.oldMarkingList.chars).length < 64 :=
    Nat.lt_of_le_of_lt (length_strtokLeft _ _) st.oldMarkingList.fits
  have hwords : words '-' (CStr.joined '-' ((words '-' st.oldMarkingList.chars).filter (· ≠ w))) =
      (words '-' st.oldMarkingList.chars).filter (· ≠ w) :=
    words_joined fun _ hv => mem_words (List.mem_of_mem_filter hv)
  refine ⟨fun a => (complete_write_list number st.psm _ a).trans (h.complete a), ?_, ?_, ?_, ?_⟩
  · simp [hw, h.calls]
  · simp [hw, h.rows]
  · rw [CStr.chars_snprintf hleft, words_strtokLeft, h.old]
    have htake : ∀ c : Prop, [Decidable c] → (if c then entries number psm
        else (entries number psm).take 1).take 1 = (entries number psm).take 1 := by
      intro c _
      split
      · rfl
      · rw [List.take_take, Nat.min_self]
    rw [htake]
    simp [hw]
  · rw [entries_write_list, CStr.chars_snprintf hfits, hwords, h.old]
    simp [remaining, hw]

theorem progress_token (hset : ∀ name value, host.accepts name value = true)
    (h : Progress host number psm done st) (hw : w.length < 32) :
    ∃ st', initToken host number st w = some st' ∧ Progress host number psm (done ++ [w]) st' := by
  have hread := isSome_readRecords number st.psm w
  rw [h.complete] at hread
  rw [initToken, CStr.chars_snprintf hw]
  cases hm : readRecords number st.psm w with
  | none =>
    rw [hm] at hread
    exact progress_remove hset h hread.symm
  | some m =>
    rw [hm] at hread
    exact ⟨_, rfl, progress_addRow hset h hread.symm m⟩

theorem progress_tokens (hset : ∀ name value, host.accepts name value = true)
    {ws : List (List Char)} (hws : ∀ w ∈ ws, w.length < 32)
    (h : Progress host number psm done st) :
    ∃ st', ws.foldlM (initToken host number) st = some st' ∧
      Progress host number psm (done ++ ws) st' := by
  induction ws generalizing done st with
  | nil => exact ⟨st, rfl, by simpa using h⟩
  | cons w ws ih =>
    obtain ⟨mid, hmid, hprogress⟩ := progress_token hset h (hws w (by simp))
    obtain ⟨st', hst', hdone⟩ := ih (fun w' hw' => hws w' (by simp [hw'])) hprogress
    refine ⟨st', ?_, by simpa using hdone⟩
    rw [List.foldlM_cons, hmid]
    exact hst'

/-- What is left of a list with broken entries. -/
theorem remaining_eq_iff (ws : List (List Char)) (p : List Char → Bool) :
    remaining ws (ws.filter fun a => !p a) = ws.filter p ↔
      (ws.filter fun a => !p a).length ≤ 1 ∨
        ws.filter p = (ws.take 1).filter fun a => some a ≠ (ws.filter fun a => !p a).getLast? := by
  cases hlast : (ws.filter fun a => !p a).getLast? with
  | none =>
    rw [List.getLast?_eq_none_iff] at hlast
    have hall : ws.filter p = ws := by
      rw [List.filter_eq_self]
      intro a ha
      simpa using List.filter_eq_nil_iff.mp hlast a ha
    simp [remaining, hlast, hall]
  | some b =>
    rw [remaining, hlast]
    by_cases hlen : (ws.filter fun a => !p a).length ≤ 1
    · refine iff_of_true ?_ (.inl hlen)
      have hsingle : (ws.filter fun a => !p a) = [b] := by
        obtain ⟨before, hbefore⟩ := List.getLast?_eq_some_iff.mp hlast
        rw [hbefore, List.length_append, List.length_singleton] at hlen
        rw [hbefore, List.length_eq_zero_iff.mp (by omega : before.length = 0), List.nil_append]
      simp only [if_pos hlen]
      apply List.filter_congr
      intro a ha
      have hmem : a ∈ (ws.filter fun a => !p a) ↔ a = b := by rw [hsingle, List.mem_singleton]
      rw [List.mem_filter] at hmem
      by_cases hp : p a = true
      · have hne : a ≠ b := fun he => by simpa [hp] using (hmem.mpr he).2
        simp [hp, hne]
      · have heq : a = b := hmem.mp ⟨ha, by simpa using hp⟩
        simp [← heq, Bool.eq_false_iff.mpr hp]
    · simp only [hlen, if_false, false_or, ne_eq, Option.some_inj]
      exact eq_comm

/-- Every call that is made is answered with a row. -/
theorem answered_eq_iff (host : InitHost) (number : Nat) (as : List (List Char)) :
    answered host number as = as ↔ ∀ i < as.length, (host.addTblRow number i).isSome := by
  constructor
  · intro h i hi
    have hlength := congrArg List.length h
    rw [answered, List.length_map, ← List.length_zipIdx (l := as) (i := 0),
      List.length_filter_eq_length_iff] at hlength
    exact hlength (as[i], i) (List.mk_mem_zipIdx_iff_getElem?.mpr (by simp [hi]))
  · intro h
    have hall : as.zipIdx.filter (fun p => (host.addTblRow number p.2).isSome) = as.zipIdx := by
      rw [List.filter_eq_self]
      intro p hp
      exact h p.2 (by simpa using (List.mem_zipIdx hp).2.1)
    rw [answered, hall, List.zipIdx_map_fst]

/-! ## An interface -/

theorem ifaceMarkingInit_progress (number : Nat) (psm : Psm)
    (hset : ∀ name value, host.accepts name value = true)
    (hpercent : ∀ list ∈ psm (markingList number), '%' ∉ list.chars)
    (hfits : ∀ w ∈ entries number psm, w.length < 32) :
    ∃ st, ifaceMarkingInit host number psm = some st ∧
      Progress host number psm (entries number psm) st := by
  have hempty : CStr.chars (.snprintf [] : CStr 64) = [] := by simp [CStr.snprintf]
  cases hlist : psm (markingList number) with
  | none =>
    have hentries : entries number psm = [] := by simp [entries, hlist]
    refine ⟨{ psm, oldMarkingList := .snprintf [] }, by simp [ifaceMarkingInit, hlist], ?_⟩
    rw [hentries]
    exact ⟨fun _ => rfl, rfl, rfl, by simp [hempty, hentries, words], by simp [hentries, remaining]⟩
  | some list =>
    have hentries : entries number psm = words '-' list.chars := by simp [entries, hlist]
    by_cases hnil : list.chars = []
    · refine ⟨{ psm, oldMarkingList := .snprintf [] }, by simp [ifaceMarkingInit, hlist, hnil], ?_⟩
      have hentries : entries number psm = [] := by rw [hentries, hnil]; rfl
      rw [hentries]
      exact ⟨fun _ => rfl, rfl, rfl, by simp [hempty, hentries, words],
        by simp [hentries, remaining]⟩
    · have hstart : Progress host number psm [] { psm, oldMarkingList := list } :=
        ⟨fun _ => rfl, rfl, rfl, by simp [hentries], by simp [remaining]⟩
      obtain ⟨st, hst, hdone⟩ := progress_tokens hset hfits hstart
      refine ⟨st, ?_, hdone⟩
      rw [hentries] at hst
      have hformatted := CStr.formatted_of_notMem (hpercent list hlist)
      simpa [ifaceMarkingInit, hlist, hnil, hformatted] using hst

/-- What start-up leaves of one interface. -/
theorem cleaned_iff (h : Progress host number psm (entries number psm) st) :
    Cleaned number psm st.psm st.rows ↔ Removable number psm ∧ RowsAdded host number psm := by
  have hentries := h.list
  have hrows := h.rows
  have hremovable := remaining_eq_iff (entries number psm) (complete number psm)
  have hadded := answered_eq_iff host number
    ((entries number psm).filter (complete number psm))
  rw [← hentries] at hremovable
  rw [← hrows] at hadded
  rw [cleaned_iff_and, hremovable, hadded]
  rfl

/-! ## One interface after the other -/

/-- The records of an interface are the same. -/
def SameRecords (number : Nat) (psm psm' : Psm) : Prop :=
  ∀ s, psm' (tableName number ++ s) = psm (tableName number ++ s)

theorem entries_congr {psm' : Psm} (h : SameRecords number psm psm') :
    entries number psm' = entries number psm := by
  rw [entries, markingList, h]
  rfl

theorem complete_congr_records {psm' : Psm} (h : SameRecords number psm psm') :
    complete number psm' = complete number psm := by
  funext a
  apply complete_congr
  intro f
  rw [recordValue, markingRecord, h]
  rfl

theorem tableName_append (n : Nat) (s : List Char) :
    tableName n ++ s =
      "dmsb.wanmanager.if.".toList ++ (decimal n ++ '.' :: ("Marking.".toList ++ s)) := by
  have hdot : ".Marking.".toList = '.' :: "Marking.".toList := by decide
  unfold tableName
  simp only [hdot, List.append_assoc, List.cons_append]

theorem tableName_inj {m n : Nat} {s t : List Char} (h : tableName m ++ s = tableName n ++ t) :
    m = n := by
  rw [tableName_append, tableName_append] at h
  exact decimal_dot_inj (List.append_cancel_left h)

/-- A write for one interface leaves the records of another one. -/
theorem SameRecords.write {n : Nat} {psm' : Psm} (h : SameRecords n psm psm') (hne : n ≠ number)
    (s : List Char) (v : Option (CStr 64)) :
    SameRecords n psm (psm'.write (tableName number ++ s) v) := by
  intro t
  rw [Psm.write_other psm' _ fun heq => hne (tableName_inj heq)]
  exact h t

theorem sameRecords_set {n : Nat} {psm' : Psm} (h : SameRecords n psm psm') (hne : n ≠ number)
    (s : List Char) (v : CStr 64) :
    SameRecords n psm (dmlWanSetPSMRecordValue host.toHost (tableName number ++ s) v psm').2 := by
  rw [dmlWanSetPSMRecordValue]
  split
  · exact h.write hne s v
  · exact h

theorem sameRecords_token {n : Nat} {st' : InitState} (h : SameRecords n psm st.psm)
    (hne : n ≠ number) (htoken : initToken host number st w = some st') :
    SameRecords n psm st'.psm := by
  rw [initToken] at htoken
  split at htoken
  · obtain rfl := Option.some.inj htoken
    unfold addRow
    split
    · exact h
    · refine sameRecords_set ?_ hne _ _
      split
      · exact sameRecords_set h hne _ _
      · exact h
  · rw [removeMarkingEntryFromPSMList, Option.bind_eq_bind, Option.bind_eq_some_iff] at htoken
    obtain ⟨new, -, hst⟩ := htoken
    obtain rfl := Option.some.inj hst
    exact sameRecords_set h hne _ _

theorem sameRecords_init {n : Nat} (hne : n ≠ number)
    (hinit : ifaceMarkingInit host number psm = some st) : SameRecords n psm st.psm := by
  have htokens : ∀ (ws : List (List Char)) {st st' : InitState}, SameRecords n psm st.psm →
      ws.foldlM (initToken host number) st = some st' → SameRecords n psm st'.psm := by
    intro ws
    induction ws with
    | nil =>
      intro st st' h hst
      obtain rfl := Option.some.inj hst
      exact h
    | cons w ws ih =>
      intro st st' h hst
      rw [List.foldlM_cons, Option.bind_eq_bind, Option.bind_eq_some_iff] at hst
      obtain ⟨mid, hmid, hrest⟩ := hst
      exact ih (sameRecords_token h hne hmid) hrest
  rw [ifaceMarkingInit] at hinit
  split at hinit
  · obtain rfl := Option.some.inj hinit
    exact fun _ => rfl
  · split at hinit
    · obtain rfl := Option.some.inj hinit
      exact fun _ => rfl
    · rw [Option.bind_eq_bind, Option.bind_eq_some_iff] at hinit
      obtain ⟨tmp, -, hst⟩ := hinit
      exact htokens _ (fun _ => rfl) hst

/-- The walk over the interfaces before the one with index `k`: those behind are as they were, and
what is left of each is what it leaves of it. -/
theorem wanIfaceMarkingInit_prefix (hset : ∀ name value, host.accepts name value = true) {psm : Psm}
    (k : Nat) (hpercent : ∀ i < k, ∀ list ∈ psm (markingList (i + 1)), '%' ∉ list.chars)
    (hfits : ∀ i < k, ∀ w ∈ entries (i + 1) psm, w.length < 32) :
    ∃ psm' tables, (List.range k).foldlM (fun (s : Psm × List (List Row)) i => do
        let st ← ifaceMarkingInit host (i + 1) s.1
        some (st.psm, s.2 ++ [st.rows])) (psm, []) = some (psm', tables) ∧
      tables.length = k ∧ (∀ n, k < n → SameRecords n psm psm') ∧
      ∀ i rows, tables[i]? = some rows →
        (Cleaned (i + 1) psm psm' rows ↔
          Removable (i + 1) psm ∧ RowsAdded host (i + 1) psm) := by
  induction k with
  | zero => exact ⟨psm, [], rfl, rfl, fun _ _ _ => rfl, by simp⟩
  | succ k ih =>
    obtain ⟨mid, tables, hmid, hlength, hsame, hclean⟩ := ih
      (fun i hi => hpercent i (Nat.lt_succ_of_lt hi)) fun i hi => hfits i (Nat.lt_succ_of_lt hi)
    have hrecords := hsame (k + 1) (Nat.lt_succ_self k)
    have hentries : entries (k + 1) mid = entries (k + 1) psm := entries_congr hrecords
    have hcomplete : complete (k + 1) mid = complete (k + 1) psm := complete_congr_records hrecords
    obtain ⟨st, hst, hprogress⟩ := ifaceMarkingInit_progress (k + 1) mid hset
      (by rw [markingList, hrecords]; exact hpercent k (Nat.lt_succ_self k))
      (by rw [hentries]; exact hfits k (Nat.lt_succ_self k))
    refine ⟨st.psm, tables ++ [st.rows], ?_, by simp [hlength], ?_, ?_⟩
    · rw [List.range_succ, List.foldlM_append, hmid]
      simp [hst]
    · intro n hn s
      rw [sameRecords_init (Nat.ne_of_gt hn) hst s]
      exact hsame n (by omega) s
    · intro i rows hrows
      obtain hi | hi := Nat.lt_or_ge i tables.length
      · rw [List.getElem?_append_left hi] at hrows
        have hleft : entries (i + 1) st.psm = entries (i + 1) mid :=
          entries_congr (sameRecords_init (by omega) hst)
        rw [← hclean i rows hrows, cleaned_iff_and, cleaned_iff_and, hleft]
      · rw [List.getElem?_append_right hi, List.getElem?_singleton] at hrows
        split at hrows
        · obtain rfl : i = k := by omega
          obtain rfl := Option.some.inj hrows
          have hiff := cleaned_iff hprogress
          rw [Removable, RowsAdded, hentries, hcomplete] at hiff
          rw [Removable, RowsAdded, ← hiff]
          rw [cleaned_iff_and, cleaned_iff_and, hentries, hcomplete]
        · cases hrows

/-- When start-up has processed an interface, the entries without their records are gone from its
list and the others have rows, exactly when one entry at most was without, or the complete ones are
what the last removal leaves of the first, and all rows could be added. -/
theorem markings_cleaned_iff (hset : ∀ name value, host.accepts name value = true) {total : Nat}
    {psm : Psm} (hpercent : ∀ i < total, ∀ list ∈ psm (markingList (i + 1)), '%' ∉ list.chars)
    (hfits : ∀ i < total, ∀ w ∈ entries (i + 1) psm, w.length < 32) :
    ∃ psm' tables, wanIfaceMarkingInit host total psm = some (psm', tables) ∧
      (host.interfaceVLANMarkingSupport = true → tables.length = total) ∧
      ∀ i rows, tables[i]? = some rows →
        (Cleaned (i + 1) psm psm' rows ↔
          Removable (i + 1) psm ∧ RowsAdded host (i + 1) psm) := by
  rw [wanIfaceMarkingInit]
  split
  · rename_i hsup
    exact ⟨psm, [], rfl, by simp [hsup], by simp⟩
  · obtain ⟨psm', tables, hrun, hlength, -, hclean⟩ :=
      wanIfaceMarkingInit_prefix hset total hpercent hfits
    exact ⟨psm', tables, hrun, fun _ => hlength, hclean⟩

end

namespace Example

/-- Every call succeeds. -/
def starting : InitHost := { accepting with addTblRow := fun _ i => some i }

/-- An interface with a list of entries, some of which have their records. -/
def listed (list : String) (whole : List String) : Psm := fun n =>
  if n = markingList 1 then some (.snprintf list.toList)
  else if n ∈ whole.flatMap fun a => Field.all.map (markingRecord 1 a.toList) then
    some (.snprintf ['1'])
  else none

end Example

open Example in
theorem markings_cleaned_one :
    ∃ psm' tables, wanIfaceMarkingInit starting 1 (listed "VOICE-DATA-VIDEO" ["VOICE", "VIDEO"]) =
        some (psm', tables) ∧
      (starting.interfaceVLANMarkingSupport = true → tables.length = 1) ∧
      ∀ i rows, tables[i]? = some rows →
        (Cleaned (i + 1) (listed "VOICE-DATA-VIDEO" ["VOICE", "VIDEO"]) psm' rows ↔
          Removable (i + 1) (listed "VOICE-DATA-VIDEO" ["VOICE", "VIDEO"]) ∧
            RowsAdded starting (i + 1) (listed "VOICE-DATA-VIDEO" ["VOICE", "VIDEO"])) :=
  markings_cleaned_iff (fun _ _ => rfl)
    (by
      intro i hi list hlist
      obtain rfl : i = 0 := by omega
      obtain rfl : _ = list := Option.some.inj hlist
      decide +kernel)
    (by
      intro i hi
      obtain rfl : i = 0 := by omega
      decide +kernel)

open Example in
/-- Of three entries the first two have no records: the first is back, and the third is lost. -/
theorem whole_entry_lost :
    ¬ ∃ psm' rows, wanIfaceMarkingInit starting 1 (listed "VOICE-DATA-VIDEO" ["VIDEO"]) =
        some (psm', [rows]) ∧ Cleaned 1 (listed "VOICE-DATA-VIDEO" ["VIDEO"]) psm' rows := by
  rintro ⟨psm', rows, hrun, hclean⟩
  have hentries : (wanIfaceMarkingInit starting 1 (listed "VOICE-DATA-VIDEO" ["VIDEO"])).map
      (fun r => entries 1 r.1) = some ["VOICE".toList] := by
    decide +kernel
  rw [hrun, Option.map_some, Option.some_inj, hclean.entries] at hentries
  revert hentries
  decide +kernel

end MarkingRecords

end WanManager
