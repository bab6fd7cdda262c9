import Mathlib.Algebra.Group.Nat.Defs
import Mathlib.Data.List.Basic

/-! # Webconfig blobs

What `WanMgr_Process_Webconfig_Request` does to the data model with a decoded blob, and what
is left of it when the request fails and the framework has called the registered rollback.
The allocations are taken to succeed. -/

namespace WanManager

namespace WebConfig

/-! ## Blobs -/

/-- `WebConfig_Wan_Marking_Table_t`; the alias has 15 characters at most. -/
structure WebMarking where
  alias_ : String
  ethernetPriorityMark : Int
  deriving DecidableEq, Repr

/-- `WebConfig_Wan_Interface_Table_t` -/
structure WebIface where
  name : String
  markingTable : List WebMarking := []
  deriving DecidableEq, Repr

/-- `WanMgr_WebConfig_t`; `failOver` is the `AllowRemoteIface` of the failover data. -/
structure Blob where
  ifTable : List WebIface := []
  failOver : Option Bool := none
  deriving DecidableEq, Repr

/-- The `ErrorCode` of a request. -/
inductive BlobResult where
  | execSuccess | execFailure
  deriving DecidableEq, Repr

/-! ## The data model -/

/-- `DML_MARKING`; the number of its interface is not read. -/
structure Marking where
  instanceNumber : Nat
  alias_ : String := ""
  skbPort : Nat := 0
  skbMark : Nat := 0
  ethernetPriorityMark : Int := -1
  deriving DecidableEq, Repr

/-- `CONTEXT_MARKING_LINK_OBJECT` -/
structure MarkingLink where
  instanceNumber : Nat
  bNew : Bool
  marking : Marking
  deriving DecidableEq, Repr

/-- The part of `DML_WAN_IFACE` that a request reads or writes: `resets` are the `Reset` flags
of the virtual interfaces, `psmList` the record `PSM_MARKING_LIST` of the interface, if it
can be read. -/
structure Iface where
  name : String
  markingList : List MarkingLink := []
  ulNextInstanceNumber : Nat := 1
  resets : List Bool := []
  psmList : Option String := none
  deriving DecidableEq, Repr

/-- The data base of the WAN manager. -/
structure Device where
  allowRemoteInterfaces : Bool
  ifaces : List Iface
  deriving DecidableEq, Repr

/-- The answers from outside, by the numbers of the entry of the blob and of its marking. -/
structure Host where
  /-- `CcspCcMbi_AddTblRow` reaches the data model -/
  addTblRow : Nat → Nat → Bool
  /-- PSM takes the new list of markings -/
  setPsm : Nat → Nat → Bool
  /-- what lies behind the 15th character of `alias` on the stack, up to a NUL -/
  stack : String

/-! ## Markings -/

/-- The row that a marking of the blob is for: `strncpy` writes 15 of the 16 bytes. -/
def aliasOf (host : Host) (m : WebMarking) : String :=
  let source := if m.alias_ = "network_control" then "DATA" else m.alias_
  if source.length < 15 then source else source ++ host.stack

/-- The alias of a row can be read into `dmlAlias`, and is the one that is looked for. -/
def named (a : String) (l : MarkingLink) : Bool :=
  l.marking.alias_.length < 16 && a == l.marking.alias_

/-- `Marking_SetParamIntValue` of `EthernetPriorityMark` -/
def Marking.setEthernetPriorityMark (v : Int) (m : Marking) : Marking :=
  if v ≤ 7 ∧ 0 ≤ v then { m with ethernetPriorityMark := v } else m

/-- `Marking_SetParamStringValue` of `Alias`: it is set once. -/
def Marking.setAlias (a : String) (m : Marking) : Marking :=
  if 0 < m.alias_.length then m else { m with alias_ := a }

/-- `WAN_IF_MARKING_MAX_LIMIT` -/
def markingMaxLimit : Nat := 15

/-- `WanManager_AddIfaceMarking`, with `SListPushMarkingEntryByInsNum` in front of the first
row that has a larger number. -/
def addIfaceMarking (f : Iface) : Iface :=
  let link : MarkingLink :=
    { instanceNumber := f.ulNextInstanceNumber, bNew := true
      marking := { instanceNumber := f.ulNextInstanceNumber } }
  let before := f.markingList.takeWhile (·.instanceNumber ≤ f.ulNextInstanceNumber)
  let after := f.markingList.dropWhile (·.instanceNumber ≤ f.ulNextInstanceNumber)
  { f with
    markingList := before ++ link :: after
    ulNextInstanceNumber := f.ulNextInstanceNumber + 1 }

/-- The list of markings of a record, as `strtok` finds them. -/
def psmTokens (list : String) : List (List Char) :=
  (list.toList.splitOn '-').filter (· ≠ [])

/-- `DmlAddMarking`: the row gets its numbers when PSM has no record of it and takes one. It
reports success in every case. The list is one of less than 64 characters. -/
def dmlAddMarking (setPsm : Bool) (psm : Option String) (m : Marking) : Marking × Option String :=
  match psm with
  | none => (m, none)
  | some list =>
    if m.alias_.toList ∈ psmTokens list then (m, some list)
    else if setPsm then
      let new := if 0 < list.length then list ++ "-" ++ m.alias_ else m.alias_
      let number := m.instanceNumber + 1
      -- `SKBMark` is a `UINT`
      ({ m with instanceNumber := number, skbPort := number, skbMark := number * 1048576 % 2 ^ 32 },
        some new)
    else (m, some list)

/-- The row at index `count` is named, marked and committed as a new one. -/
def commitNew (setPsm : Bool) (a : String) (v : Int) (count : Nat) (f : Iface) : Iface :=
  match f.markingList[count]? with
  | none => f
  | some l =>
    let r := dmlAddMarking setPsm f.psmList ((l.marking.setAlias a).setEthernetPriorityMark v)
    { f with
      markingList := f.markingList.set count { l with bNew := false, marking := r.1 }
      psmList := r.2 }

/-- The index of the row that a marking is for. -/
def rowOf (host : Host) (f : Iface) (m : WebMarking) : Option Nat :=
  f.markingList.findIdx? (named (aliasOf host m))

/-- One marking of the blob. -/
def processMarking (host : Host) (i j : Nat) (m : WebMarking) (f : Iface) : Iface :=
  match rowOf host f m with
  | some k =>
    -- the commit writes the row to PSM only
    { f with markingList := f.markingList.modify k fun l =>
        { l with bNew := false
                 marking := l.marking.setEthernetPriorityMark m.ethernetPriorityMark } }
  | none =>
    if host.addTblRow i j ∧ f.ulNextInstanceNumber ≤ markingMaxLimit then
      commitNew (host.setPsm i j) (aliasOf host m) m.ethernetPriorityMark f.markingList.length
        (addIfaceMarking f)
    else f

/-! ## Requests -/

/-- `WanIf_SetParamBoolValue` of `Reset` -/
def Iface.setReset (f : Iface) : Iface := { f with resets := f.resets.map fun _ => true }

/-- The markings of an entry, and the refresh flag of its interface. -/
def processIface (host : Host) (i : Nat) (e : WebIface) (f : Iface) : Iface :=
  (e.markingTable.zipIdx.foldl (fun f m => processMarking host i m.2 m.1 f) f).setReset

/-- The interface of an entry in the data model. -/
def Device.find (d : Device) (e : WebIface) : Option Nat := d.ifaces.findIdx? (e.name == ·.name)

/-- The loop over the entries from the `i`th on. -/
def processTable (host : Host) : Nat → List WebIface → Device → BlobResult × Device
  | _, [], d => (.execSuccess, d)
  | i, e :: es, d =>
    match d.find e with
    | none => (.execFailure, d)
    | some k => processTable host (i + 1) es { d with ifaces := d.ifaces.modify k (processIface host i e) }

/-- `WanMgr_Process_Webconfig_Request` -/
def processWebconfigRequest (host : Host) (b : Blob) (d : Device) : BlobResult × Device :=
  processTable host 0 b.ifTable
    { d with allowRemoteInterfaces := b.failOver.getD d.allowRemoteInterfaces }

/-- `WanMgr_WanData_Rollback_Handler` -/
def rollbackHandler (d : Device) : Device := d

/-- The request as the framework carries it out: the handler is called when it fails. -/
def executeBlob (host : Host) (b : Blob) (d : Device) : BlobResult × Device :=
  match processWebconfigRequest host b d with
  | (.execSuccess, d') => (.execSuccess, d')
  | (.execFailure, d') => (.execFailure, rollbackHandler d')

/-! ## What a request is about -/

/-- The markings of an interface and its refresh flags. -/
def Iface.settings (f : Iface) : List Marking × List Bool :=
  (f.markingList.map (·.marking), f.resets)

/-- The settings that a blob can change. -/
def Device.settings (d : Device) : Bool × List (List Marking × List Bool) :=
  (d.allowRemoteInterfaces, d.ifaces.map Iface.settings)

/-- The entries of a blob before the first whose interface is not found, by their numbers. -/
def applied (d : Device) (es : List WebIface) (i : Nat) : List (WebIface × Nat) :=
  (es.takeWhile fun e => (d.find e).isSome).zipIdx i

/-- Those for the interface with index `k`. -/
def appliedTo (d : Device) (es : List WebIface) (i k : Nat) : List (WebIface × Nat) :=
  (applied d es i).filter fun e => d.find e.1 = some k

/-- The markings of entries, with the numbers of the entry and of the marking. -/
def markingsOf (es : List (WebIface × Nat)) : List (WebMarking × Nat × Nat) :=
  es.flatMap fun e => e.1.markingTable.zipIdx.map fun m => (m.1, e.2, m.2)

/-- A marking adds a row. -/
def Adds (host : Host) (f : Iface) (m : WebMarking × Nat × Nat) : Prop :=
  rowOf host f m.1 = none ∧ host.addTblRow m.2.1 m.2.2 = true ∧
    f.ulNextInstanceNumber ≤ markingMaxLimit

/-- A marking sets the priority of the row with index `k`. -/
def Sets (host : Host) (f : Iface) (k : Nat) (m : WebMarking × Nat × Nat) : Prop :=
  rowOf host f m.1 = some k ∧ m.1.ethernetPriorityMark ≤ 7 ∧ 0 ≤ m.1.ethernetPriorityMark

instance (host : Host) (f : Iface) (k : Nat) : DecidablePred (Sets host f k) :=
  fun _ => inferInstanceAs (Decidable (_ ∧ _ ∧ _))

/-- Entries that ask an interface for what it has: they have no interface to refresh that is
not being refreshed, add no row, and what they last ask of a row is its priority. -/
structure Agrees (host : Host) (f : Iface) (es : List (WebIface × Nat)) : Prop where
  refreshed : es ≠ [] → ∀ r ∈ f.resets, r = true
  rows : ∀ m ∈ markingsOf es, ¬ Adds host f m
  marks : ∀ k l, f.markingList[k]? = some l →
    ∀ m ∈ ((markingsOf es).filter (Sets host f k)).getLast?,
      m.1.ethernetPriorityMark = l.marking.ethernetPriorityMark

/-- What is applied of a blob asks for what is there. -/
def Redundant (host : Host) (b : Blob) (d : Device) : Prop :=
  (∀ v ∈ b.failOver, v = d.allowRemoteInterfaces) ∧
  ∀ k f, d.ifaces[k]? = some f → Agrees host f (appliedTo d b.ifTable 0 k)

/-! ## One interface -/

@[simp] theorem commitNew_name (p : Bool) (a : String) (v : Int) (n : Nat) (f : Iface) :
    (commitNew p a v n f).name = f.name := by
  unfold commitNew; split <;> rfl

@[simp] theorem commitNew_resets (p : Bool) (a : String) (v : Int) (n : Nat) (f : Iface) :
    (commitNew p a v n f).resets = f.resets := by
  unfold commitNew; split <;> rfl

@[simp] theorem length_commitNew (p : Bool) (a : String) (v : Int) (n : Nat) (f : Iface) :
    (commitNew p a v n f).markingList.length = f.markingList.length := by
  unfold commitNew; split <;> simp

theorem length_addIfaceMarking (f : Iface) :
    (addIfaceMarking f).markingList.length = f.markingList.length + 1 := by
  have h := congrArg List.length
    (List.takeWhile_append_dropWhile (p := (·.instanceNumber ≤ f.ulNextInstanceNumber))
      (l := f.markingList))
  simp only [List.length_append] at h
  simp only [addIfaceMarking, List.length_append, List.length_cons]
  omega

theorem processMarking_row {host : Host} {f : Iface} {m : WebMarking} {i j k : Nat}
    (h : rowOf host f m = some k) :
    processMarking host i j m f = { f with markingList := f.markingList.modify k fun l =>
      { l with bNew := false
               marking := l.marking.setEthernetPriorityMark m.ethernetPriorityMark } } := by
  simp [processMarking, h]

theorem processMarking_adds {host : Host} {f : Iface} {m : WebMarking} {i j : Nat}
    (h : Adds host f (m, i, j)) :
    processMarking host i j m f =
      commitNew (host.setPsm i j) (aliasOf host m) m.ethernetPriorityMark f.markingList.length
        (addIfaceMarking f) := by
  simp [processMarking, h.1, h.2.1, h.2.2]

theorem processMarking_none {host : Host} {f : Iface} {m : WebMarking} {i j : Nat}
    (hrow : rowOf host f m = none) (h : ¬ Adds host f (m, i, j)) :
    processMarking host i j m f = f := by
  have hno : ¬ (host.addTblRow i j = true ∧ f.ulNextInstanceNumber ≤ markingMaxLimit) :=
    fun hc => h ⟨hrow, hc⟩
  simp [processMarking, hrow, hno]

/-- A marking leaves the name and the refresh flags. -/
theorem processMarking_fixed (host : Host) (i j : Nat) (m : WebMarking) (f : Iface) :
    (processMarking host i j m f).name = f.name ∧
      (processMarking host i j m f).resets = f.resets := by
  unfold processMarking
  split
  · exact ⟨rfl, rfl⟩
  · split
    · exact ⟨by simp [addIfaceMarking], by simp [addIfaceMarking]⟩
    · exact ⟨rfl, rfl⟩

theorem commitNew_setReset (p : Bool) (a : String) (v : Int) (n : Nat) (f : Iface) :
    commitNew p a v n f.setReset = (commitNew p a v n f).setReset := by
  have hlist : f.setReset.markingList = f.markingList := rfl
  simp only [commitNew, hlist]
  cases f.markingList[n]? <;> rfl

/-- It does not look at the refresh flags. -/
theorem processMarking_setReset (host : Host) (i j : Nat) (m : WebMarking) (f : Iface) :
    processMarking host i j m f.setReset = (processMarking host i j m f).setReset := by
  unfold processMarking
  have hrow : rowOf host f.setReset m = rowOf host f m := rfl
  have hnext : f.setReset.ulNextInstanceNumber = f.ulNextInstanceNumber := rfl
  have hadd : addIfaceMarking f.setReset = (addIfaceMarking f).setReset := rfl
  have hlist : f.setReset.markingList = f.markingList := rfl
  rw [hrow, hnext, hadd, hlist, commitNew_setReset]
  split
  · rfl
  · split <;> rfl

/-- The markings in a row, without the refresh flags. -/
def processMarkings (host : Host) (ms : List (WebMarking × Nat × Nat)) (f : Iface) : Iface :=
  ms.foldl (fun f m => processMarking host m.2.1 m.2.2 m.1 f) f

theorem processMarkings_setReset (host : Host) (ms : List (WebMarking × Nat × Nat)) (f : Iface) :
    processMarkings host ms f.setReset = (processMarkings host ms f).setReset := by
  induction ms generalizing f with
  | nil => rfl
  | cons m ms ih =>
    simp only [processMarkings, List.foldl_cons] at ih ⊢
    rw [processMarking_setReset, ih]

theorem processMarkings_fixed (host : Host) (ms : List (WebMarking × Nat × Nat)) (f : Iface) :
    (processMarkings host ms f).name = f.name ∧ (processMarkings host ms f).resets = f.resets := by
  induction ms generalizing f with
  | nil => exact ⟨rfl, rfl⟩
  | cons m ms ih =>
    obtain ⟨hname, hresets⟩ := processMarking_fixed host m.2.1 m.2.2 m.1 f
    obtain ⟨ihname, ihresets⟩ := ih (processMarking host m.2.1 m.2.2 m.1 f)
    exact ⟨ihname.trans hname, ihresets.trans hresets⟩

theorem setReset_setReset (f : Iface) : f.setReset.setReset = f.setReset := by
  simp [Iface.setReset]

/-- The entries of an interface one after another. -/
def processEntries (host : Host) (es : List (WebIface × Nat)) (f : Iface) : Iface :=
  es.foldl (fun f e => processIface host e.2 e.1 f) f

/-- All their markings come first, and then the refresh flags. -/
theorem processEntries_cons (host : Host) (e : WebIface × Nat) (es : List (WebIface × Nat))
    (f : Iface) :
    processEntries host (e :: es) f = (processMarkings host (markingsOf (e :: es)) f).setReset := by
  have hone (e : WebIface × Nat) (f : Iface) :
      processIface host e.2 e.1 f = (processMarkings host (markingsOf [e]) f).setReset := by
    simp [processIface, processMarkings, markingsOf, List.foldl_map]
  induction es generalizing e f with
  | nil => exact hone e f
  | cons e' es ih =>
    have happ : markingsOf (e :: e' :: es) = markingsOf [e] ++ markingsOf (e' :: es) := by
      simp [markingsOf]
    calc processEntries host (e :: e' :: es) f
        = processEntries host (e' :: es) (processIface host e.2 e.1 f) := rfl
      _ = (processMarkings host (markingsOf (e' :: es))
            (processMarkings host (markingsOf [e]) f).setReset).setReset := by rw [ih, hone]
      _ = (processMarkings host (markingsOf (e :: e' :: es)) f).setReset := by
        rw [processMarkings_setReset, setReset_setReset, happ]
        simp [processMarkings]

/-! ## Rows that are added -/

/-- Two states of an interface with the same rows, up to their priorities. -/
structure SameRows (f g : Iface) : Prop where
  aliases : g.markingList.map (·.marking.alias_) = f.markingList.map (·.marking.alias_)
  next : g.ulNextInstanceNumber = f.ulNextInstanceNumber

theorem rowOf_eq (host : Host) (f : Iface) (m : WebMarking) :
    rowOf host f m = (f.markingList.map (·.marking.alias_)).findIdx? fun a =>
      a.length < 16 && aliasOf host m == a := by
  rw [List.findIdx?_map]
  rfl

theorem SameRows.rowOf {f g : Iface} (h : SameRows f g) (host : Host) (m : WebMarking) :
    rowOf host g m = rowOf host f m := by
  rw [rowOf_eq, rowOf_eq, h.aliases]

theorem SameRows.adds {f g : Iface} (h : SameRows f g) (host : Host)
    (m : WebMarking × Nat × Nat) : Adds host g m ↔ Adds host f m := by
  simp only [Adds, h.rowOf, h.next]

theorem SameRows.sets {f g : Iface} (h : SameRows f g) (host : Host) (k : Nat)
    (m : WebMarking × Nat × Nat) : Sets host g k m ↔ Sets host f k m := by
  simp only [Sets, h.rowOf]

@[simp] theorem setEthernetPriorityMark_alias (v : Int) (m : Marking) :
    (m.setEthernetPriorityMark v).alias_ = m.alias_ := by
  unfold Marking.setEthernetPriorityMark; split <;> rfl

/-- A marking that adds no row leaves the rows. -/
theorem sameRows_processMarking {host : Host} {f : Iface} {m : WebMarking × Nat × Nat}
    (h : ¬ Adds host f m) : SameRows f (processMarking host m.2.1 m.2.2 m.1 f) := by
  cases hrow : rowOf host f m.1 with
  | none =>
    rw [processMarking_none hrow h]
    exact ⟨rfl, rfl⟩
  | some k =>
    rw [processMarking_row hrow]
    refine ⟨?_, rfl⟩
    apply List.ext_getElem?
    intro n
    simp only [List.getElem?_map, List.getElem?_modify]
    cases f.markingList[n]? with
    | none => rfl
    | some l => by_cases hn : k = n <;> simp [hn]

theorem length_processMarking_adds {host : Host} {f : Iface} {m : WebMarking × Nat × Nat}
    (h : Adds host f m) :
    (processMarking host m.2.1 m.2.2 m.1 f).markingList.length = f.markingList.length + 1 := by
  rw [processMarking_adds h, length_commitNew, length_addIfaceMarking]

theorem length_le_processMarkings (host : Host) (ms : List (WebMarking × Nat × Nat)) (f : Iface) :
    f.markingList.length ≤ (processMarkings host ms f).markingList.length := by
  induction ms generalizing f with
  | nil => exact Nat.le_refl _
  | cons m ms ih =>
    have hstep : f.markingList.length ≤
        (processMarking host m.2.1 m.2.2 m.1 f).markingList.length := by
      by_cases h : Adds host f m
      · rw [length_processMarking_adds h]; omega
      · have hlen := congrArg List.length (sameRows_processMarking h).aliases
        simp only [List.length_map] at hlen
        omega
    exact Nat.le_trans hstep (ih _)

/-- Markings leave the number of rows only when none of them adds one to the first rows. -/
theorem adds_of_length {host : Host} {ms : List (WebMarking × Nat × Nat)} {f : Iface}
    (h : (processMarkings host ms f).markingList.length = f.markingList.length) :
    ∀ m ∈ ms, ¬ Adds host f m := by
  induction ms generalizing f with
  | nil => simp
  | cons m ms ih =>
    have hle := length_le_processMarkings host ms (processMarking host m.2.1 m.2.2 m.1 f)
    have h : (processMarkings host ms (processMarking host m.2.1 m.2.2 m.1 f)).markingList.length =
        f.markingList.length := h
    have hm : ¬ Adds host f m := by
      intro hm
      have := length_processMarking_adds hm
      omega
    have hsame := sameRows_processMarking hm
    have hlen := congrArg List.length hsame.aliases
    simp only [List.length_map] at hlen
    intro m' hm'
    obtain rfl | hm' := List.mem_cons.mp hm'
    · exact hm
    · exact fun hadds => ih (h.trans hlen.symm) m' hm' ((hsame.adds host m').mpr hadds)

/-! ## Priorities that are set -/

/-- The priority that a list of markings leaves in the row with index `k`. -/
def lastMark (host : Host) (f : Iface) (k : Nat) (ms : List (WebMarking × Nat × Nat)) (v : Int) :
    Int :=
  ((ms.filter (Sets host f k)).getLast?.map (·.1.ethernetPriorityMark)).getD v

theorem lastMark_cons (host : Host) (f : Iface) (k : Nat) (m : WebMarking × Nat × Nat)
    (ms : List (WebMarking × Nat × Nat)) (v : Int) :
    lastMark host f k (m :: ms) v =
      lastMark host f k ms (if Sets host f k m then m.1.ethernetPriorityMark else v) := by
  unfold lastMark
  by_cases h : Sets host f k m
  · rw [List.filter_cons_of_pos (by simpa using h), List.getLast?_cons, if_pos h]
    cases (ms.filter fun m => decide (Sets host f k m)).getLast? <;> rfl
  · rw [List.filter_cons_of_neg (by simpa using h), if_neg h]

/-- What one marking that adds no row makes of the row with index `k`. -/
theorem markingList_processMarking {host : Host} {f : Iface} {m : WebMarking × Nat × Nat}
    (h : ¬ Adds host f m) (k : Nat) :
    ((processMarking host m.2.1 m.2.2 m.1 f).markingList.map (·.marking))[k]? =
      (f.markingList.map (·.marking))[k]?.map fun l =>
        { l with ethernetPriorityMark :=
            if Sets host f k m then m.1.ethernetPriorityMark else l.ethernetPriorityMark } := by
  cases hrow : rowOf host f m.1 with
  | none =>
    rw [processMarking_none hrow h]
    simp only [Sets, hrow, List.getElem?_map]
    cases f.markingList[k]? <;> simp
  | some n =>
    rw [processMarking_row hrow]
    simp only [List.getElem?_map, List.getElem?_modify]
    cases f.markingList[k]? with
    | none => rfl
    | some l =>
      by_cases hk : n = k
      · by_cases hv : m.1.ethernetPriorityMark ≤ 7 ∧ 0 ≤ m.1.ethernetPriorityMark <;>
          simp [Sets, hrow, hk, hv, Marking.setEthernetPriorityMark]
      · simp [Sets, hrow, hk]

/-- What markings that add no row make of it. -/
theorem markingList_processMarkings {host : Host} {ms : List (WebMarking × Nat × Nat)} {f : Iface}
    (h : ∀ m ∈ ms, ¬ Adds host f m) (k : Nat) :
    ((processMarkings host ms f).markingList.map (·.marking))[k]? =
      (f.markingList.map (·.marking))[k]?.map fun l =>
        { l with ethernetPriorityMark := lastMark host f k ms l.ethernetPriorityMark } := by
  induction ms generalizing f with
  | nil => cases hk : (f.markingList.map (·.marking))[k]? <;> simp [processMarkings, lastMark, hk]
  | cons m ms ih =>
    have hm := h m (by simp)
    have hsame := sameRows_processMarking hm
    have hrest : ∀ m' ∈ ms, ¬ Adds host (processMarking host m.2.1 m.2.2 m.1 f) m' :=
      fun m' hm' => mt (hsame.adds host m').mp (h m' (by simp [hm']))
    have hlast (v : Int) : lastMark host (processMarking host m.2.1 m.2.2 m.1 f) k ms v =
        lastMark host f k ms v := by
      simp only [lastMark, hsame.sets]
    calc ((processMarkings host (m :: ms) f).markingList.map (·.marking))[k]?
        = ((processMarkings host ms
            (processMarking host m.2.1 m.2.2 m.1 f)).markingList.map (·.marking))[k]? := rfl
      _ = _ := by
        rw [ih hrest, markingList_processMarking hm, Option.map_map]
        simp only [hlast, lastMark_cons]
        rfl

/-! ## What a blob leaves as it was -/

/-- Entries leave the settings of an interface exactly when they ask for what it has. -/
theorem settings_processEntries_iff {host : Host} {f : Iface} {es : List (WebIface × Nat)} :
    (processEntries host es f).settings = f.settings ↔ Agrees host f es := by
  cases es with
  | nil => exact ⟨fun _ => ⟨by simp, by simp [markingsOf], by simp [markingsOf]⟩, fun _ => rfl⟩
  | cons e es =>
    have hresets : (processMarkings host (markingsOf (e :: es)) f).setReset.resets =
        f.resets.map fun _ => true := by
      rw [← (processMarkings_fixed host (markingsOf (e :: es)) f).2]
      rfl
    rw [processEntries_cons]
    simp only [Iface.settings, Prod.mk.injEq, hresets]
    constructor
    · rintro ⟨hmarks, hflags⟩
      have hlen := congrArg List.length hmarks
      simp only [List.length_map] at hlen
      have hrows : ∀ m ∈ markingsOf (e :: es), ¬ Adds host f m := adds_of_length hlen
      refine ⟨fun _ r hr => ?_, hrows, fun k l hl m hm => ?_⟩
      · rw [← hflags] at hr
        obtain ⟨-, -, rfl⟩ := List.mem_map.mp hr
        rfl
      · have hk := markingList_processMarkings hrows k
        have hsame := congrArg (·[k]?) hmarks
        simp only [List.getElem?_map, hl, Option.map_some] at hk hsame
        rw [show (processMarkings host (markingsOf (e :: es)) f).setReset.markingList =
          (processMarkings host (markingsOf (e :: es)) f).markingList from rfl, hk] at hsame
        have hv := congrArg (Option.map (·.ethernetPriorityMark)) hsame
        simp only [Option.map_some, Option.some.injEq, lastMark] at hv
        rw [Option.mem_def.mp hm] at hv
        exact hv
    · intro h
      refine ⟨?_, ?_⟩
      · apply List.ext_getElem?
        intro k
        have hk := markingList_processMarkings h.rows k
        refine hk.trans ?_
        rw [List.getElem?_map]
        cases hl : f.markingList[k]? with
        | none => rfl
        | some l =>
          have hmark : lastMark host f k (markingsOf (e :: es)) l.marking.ethernetPriorityMark =
              l.marking.ethernetPriorityMark := by
            unfold lastMark
            cases hm : ((markingsOf (e :: es)).filter (Sets host f k)).getLast? with
            | none => rfl
            | some m => exact h.marks k l hl m hm
          simp only [Option.map_some, hmark]
      · have hall : ∀ r ∈ f.resets, true = r := fun r hr => (h.refreshed (by simp) r hr).symm
        exact List.map_congr_left hall |>.trans (List.map_id' _)

/-! ## The whole table -/

theorem find_eq (d : Device) (e : WebIface) :
    d.find e = (d.ifaces.map (·.name)).findIdx? (e.name == ·) := by
  rw [List.findIdx?_map]
  rfl

theorem name_processIface (host : Host) (i : Nat) (e : WebIface) (f : Iface) :
    (processIface host i e f).name = f.name := by
  have h := processEntries_cons host (e, i) [] f
  simp only [processEntries, List.foldl_cons, List.foldl_nil] at h
  rw [h]
  exact (processMarkings_fixed host _ f).1

/-- An entry that is applied changes no name. -/
theorem find_modify (host : Host) (i k : Nat) (e e' : WebIface) (d : Device) :
    ({ d with ifaces := d.ifaces.modify k (processIface host i e) } : Device).find e' =
      d.find e' := by
  rw [find_eq, find_eq]
  congr 1
  apply List.ext_getElem?
  intro n
  simp only [List.getElem?_map, List.getElem?_modify]
  cases d.ifaces[n]? with
  | none => rfl
  | some f => by_cases hn : k = n <;> simp [hn, name_processIface]

theorem find_congr {d d' : Device} (h : ∀ e, d'.find e = d.find e) (es : List WebIface) (i k : Nat) :
    appliedTo d' es i k = appliedTo d es i k := by
  simp only [appliedTo, applied, h]

/-- What the loop over the table makes of the interface with index `k`. -/
theorem ifaces_processTable (host : Host) (es : List WebIface) (i : Nat) (d : Device) (k : Nat) :
    (processTable host i es d).2.ifaces[k]? =
      d.ifaces[k]?.map (processEntries host (appliedTo d es i k)) := by
  induction es generalizing i d with
  | nil => cases h : d.ifaces[k]? <;> simp [processTable, appliedTo, applied, processEntries, h]
  | cons e es ih =>
    cases hfind : d.find e with
    | none =>
      cases h : d.ifaces[k]? <;>
        simp [processTable, hfind, appliedTo, applied, processEntries, h]
    | some n =>
      have hrest := find_congr (fun e' => find_modify host i n e e' d) es (i + 1) k
      have hcons : appliedTo d (e :: es) i k =
          if n = k then (e, i) :: appliedTo d es (i + 1) k else appliedTo d es (i + 1) k := by
        simp only [appliedTo, applied, List.takeWhile_cons, hfind, Option.isSome_some, if_true,
          List.zipIdx_cons, List.filter_cons, Option.some.injEq, decide_eq_true_eq]
      simp only [processTable, hfind]
      rw [ih, hrest, hcons, List.getElem?_modify]
      cases h : d.ifaces[k]? with
      | none => rfl
      | some f => by_cases hk : n = k <;> simp [hk, processEntries]

theorem allow_processTable (host : Host) (es : List WebIface) (i : Nat) (d : Device) :
    (processTable host i es d).2.allowRemoteInterfaces = d.allowRemoteInterfaces := by
  induction es generalizing i d with
  | nil => rfl
  | cons e es ih =>
    unfold processTable
    split
    · rfl
    · exact ih _ _

/-- The request fails when an entry is for an interface that the data model does not have. -/
theorem processTable_failure_iff (host : Host) (es : List WebIface) (i : Nat) (d : Device) :
    (processTable host i es d).1 = .execFailure ↔ ∃ e ∈ es, d.find e = none := by
  induction es generalizing i d with
  | nil => simp [processTable]
  | cons e es ih =>
    cases hfind : d.find e with
    | none => simp [processTable, hfind]
    | some n => simp [processTable, hfind, ih, find_modify]

/-- A failed request, once rolled back, has left the settings alone exactly when every
interface of the blob is there, so that it does not fail, or what was applied before the
unknown one asked for what was there. -/
theorem failed_request_undone_iff (host : Host) (b : Blob) (d : Device) :
    ((executeBlob host b d).1 = .execFailure → (executeBlob host b d).2.settings = d.settings) ↔
      (∀ e ∈ b.ifTable, d.find e ≠ none) ∨ Redundant host b d := by
  have hexec : executeBlob host b d = processWebconfigRequest host b d := by
    unfold executeBlob
    split <;> simp_all [rollbackHandler]
  have hset : (processWebconfigRequest host b d).2.settings = d.settings ↔ Redundant host b d := by
    have hd (k : Nat) : appliedTo
        { d with allowRemoteInterfaces := b.failOver.getD d.allowRemoteInterfaces } b.ifTable 0 k =
          appliedTo d b.ifTable 0 k := rfl
    have hifaces : (processWebconfigRequest host b d).2.ifaces.map Iface.settings =
        d.ifaces.map Iface.settings ↔
          ∀ k f, d.ifaces[k]? = some f → Agrees host f (appliedTo d b.ifTable 0 k) := by
      rw [List.ext_getElem?_iff]
      refine forall_congr' fun k => ?_
      simp only [processWebconfigRequest, List.getElem?_map, ifaces_processTable, hd]
      cases d.ifaces[k]? with
      | none => simp
      | some f => simp [settings_processEntries_iff]
    have hallow : (processWebconfigRequest host b d).2.allowRemoteInterfaces =
        d.allowRemoteInterfaces ↔ ∀ v ∈ b.failOver, v = d.allowRemoteInterfaces := by
      simp only [processWebconfigRequest, allow_processTable]
      cases b.failOver <;> simp
    simp only [Device.settings, Prod.mk.injEq, hifaces, hallow, Redundant]
  have hfail : (processWebconfigRequest host b d).1 = .execFailure ↔
      ∃ e ∈ b.ifTable, d.find e = none := processTable_failure_iff host b.ifTable 0 _
  rw [hexec, hset, hfail]
  constructor
  · intro h
    by_cases hall : ∀ e ∈ b.ifTable, d.find e ≠ none
    · exact .inl hall
    · push Not at hall
      exact .inr (h hall)
  · rintro (hall | h) ⟨e, he, hnone⟩
    · exact absurd hnone (hall e he)
    · exact h

/-- A blob for an interface that is there and one that is not. -/
def halfKnown : Blob :=
  { ifTable := [
      { name := "erouter0", markingTable := [{ alias_ := "VOICE", ethernetPriorityMark := 5 }] },
      { name := "wanoe" }] }

/-- The device it is sent to, with one marking and nothing to refresh. -/
def oneMarking : Device :=
  { allowRemoteInterfaces := false
    ifaces := [
      { name := "erouter0", ulNextInstanceNumber := 2, resets := [false]
        markingList := [{ instanceNumber := 1, bNew := false
                          marking := { instanceNumber := 1, alias_ := "VOICE"
                                       ethernetPriorityMark := 1 } }] }] }

theorem half_known_blob_stays :
    ¬ ((executeBlob ⟨fun _ _ => true, fun _ _ => true, ""⟩ halfKnown oneMarking).1 = .execFailure →
      (executeBlob ⟨fun _ _ => true, fun _ _ => true, ""⟩ halfKnown oneMarking).2.settings =
        oneMarking.settings) := by
  decide +kernel

end WebConfig

end WanManager
