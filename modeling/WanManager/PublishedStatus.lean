import WanManager.ResolvConf
import WanManager.Text.CString
import Mathlib.Data.List.Sort

/-! # The published status

`Update_Interface_Status` walks the interfaces, sorts an entry for each by priority, appends the
entries to strings in local buffers, and stores and publishes what changed;
`Update_Current_ActiveDNS` lists the name servers of `/etc/resolv.conf`. The build has
`RBUS_BUILD_FLAG_ENABLE`. -/

namespace WanManager.PublishedStatus
open Text
open ResolvConf (NetworkingMode)

/-! ## The table and what is stored -/

/-- The part of `DML_VIRTUAL_IFACE` that is published. -/
structure VirtIf where
  name : CStr 64
  status : IfaceStatus := .disabled
  remoteStatus : IfaceStatus := .disabled
  deriving DecidableEq

/-- The part of `DML_WAN_IFACE` that is published. -/
structure Iface where
  displayName : CStr 64
  baseInterfaceStatus : PhyStatus := .down
  selection : IfaceSelection := {}
  ifaceType : IfaceType := .local_
  virtIfList : List VirtIf := []
  deriving DecidableEq

/-- The published strings of `DML_WANMGR_CONFIG`. -/
structure Stored where
  interfaceAvailableStatus : CStr 64
  interfaceActiveStatus : CStr 64
  currentActiveInterface : CStr 64
  currentStatus : CStr 16
  currentStandbyInterface : CStr 64
  currentActiveDns : CStr 256
  deriving DecidableEq

inductive Param where
  | interfaceAvailableStatus | interfaceActiveStatus | currentActiveInterface | currentStatus
  | currentStandbyInterface | currentActiveDns
  deriving DecidableEq

def Stored.value (s : Stored) : Param → List Char
  | .interfaceAvailableStatus => s.interfaceAvailableStatus.chars
  | .interfaceActiveStatus => s.interfaceActiveStatus.chars
  | .currentActiveInterface => s.currentActiveInterface.chars
  | .currentStatus => s.currentStatus.chars
  | .currentStandbyInterface => s.currentStandbyInterface.chars
  | .currentActiveDns => s.currentActiveDns.chars

/-- What `WanMgr_Rbus_String_EventPublish_OnValueChange` publishes. -/
structure Event where
  name : Param
  oldValue : List Char
  newValue : List Char
  deriving DecidableEq

/-! ## The entries -/

/-- `struct IFACE_INFO` -/
structure IfaceInfo where
  priority : Int
  availableStatus : CStr 64
  activeStatus : CStr 64
  currentActive : CStr 64
  currentStandby : CStr 64

/-- `MESH_IFNAME` -/
def meshIfname : List Char := "br-home".toList

/-- The entry an interface has in a list of flags, before it is cut to its buffer. -/
def flagged (i : Iface) (flag : Bool) : List Char :=
  i.displayName.chars ++ [',', if flag then '1' else '0']

/-- The interface is ACTIVE, and up at both ends. -/
def activeUp (i : Iface) (v : VirtIf) : Bool :=
  i.selection.status = .active &&
    ((i.ifaceType = .remote && v.status = .up && v.remoteStatus = .up) ||
      (i.ifaceType = .local_ && v.status = .up))

/-- The name under which a virtual interface of an ACTIVE interface is published. -/
def activeName (mode : NetworkingMode) (v : VirtIf) : List Char :=
  if mode = .gateway then v.name.chars else meshIfname

/-- The entry of a virtual interface. -/
def newIface (mode : NetworkingMode) (i : Iface) (v : VirtIf) : IfaceInfo where
  priority := i.selection.priority
  availableStatus := .snprintf (flagged i (i.baseInterfaceStatus = .up))
  activeStatus := .snprintf (flagged i (activeUp i v))
  currentActive := .snprintf (if i.selection.status = .active then activeName mode v else [])
  currentStandby := .snprintf (if i.selection.status = .selected then v.name.chars else [])

/-- `SortedInsert`: in front of the first entry of its priority or a later one. -/
def sortedInsert (newNode : IfaceInfo) : List IfaceInfo → List IfaceInfo
  | [] => [newNode]
  | head :: rest =>
    if head.priority ≥ newNode.priority then newNode :: head :: rest
    else head :: sortedInsert newNode rest

def up : CStr 16 := ⟨"Up".toList, by decide⟩
def down : CStr 16 := ⟨"Down".toList, by decide⟩

/-- What the walk over the table collects. -/
structure Scan where
  head : List IfaceInfo := []
  currentWanStatus : CStr 16 := down

def scanVirtIf (mode : NetworkingMode) (i : Iface) (s : Scan) (v : VirtIf) : Scan where
  head := sortedInsert (newIface mode i v) s.head
  currentWanStatus :=
    if i.selection.status = .active then if v.status = .up then up else down
    else s.currentWanStatus

/-- The loop over the interfaces, and over all virtual interfaces of an enabled one. -/
def scan (mode : NetworkingMode) (ifaces : List Iface) : Scan :=
  ifaces.foldl (fun s i =>
    if i.selection.enable then i.virtIfList.foldl (scanVirtIf mode i) s else s) {}

/-! ## The strings -/

/-- The local buffers the sorted entries are appended to. -/
structure Buffers where
  currentActiveInterface : CStr 64 := ⟨[], by decide⟩
  currentStandbyInterface : CStr 64 := ⟨[], by decide⟩
  interfaceAvailableStatus : CStr 64 := ⟨[], by decide⟩
  interfaceActiveStatus : CStr 64 := ⟨[], by decide⟩

/-- One round of the loop over the sorted entries; `none` writes past a buffer. -/
def append (b : Buffers) (pHead : IfaceInfo) : Option Buffers := do
  let active ← b.currentActiveInterface.addEntry ',' pHead.currentActive.chars
  let standby ← b.currentStandbyInterface.addEntry ',' pHead.currentStandby.chars
  let availableStatus ← b.interfaceAvailableStatus.addEntry '|' pHead.availableStatus.chars
  let activeStatus ← b.interfaceActiveStatus.addEntry '|' pHead.activeStatus.chars
  return ⟨active, standby, availableStatus, activeStatus⟩

/-- A word without the newline it may end in. -/
def stripNewline (token : List Char) : List Char :=
  if token.getLast? = some '\n' then token.dropLast else token

def nameserver : List Char := "nameserver".toList

/-- One round of the loop over the lines of the file; `none` follows a null pointer or writes past
the buffer. -/
def takeLine (dns : CStr 256) (buf : List Char) : Option (CStr 256) := do
  let (token, rest) ← strtok ' ' (cString buf)
  if token = nameserver then
    let (token, _) ← strtok ' ' rest
    dns.addItem ',' (stripNewline token)
  else some dns

/-- `Update_Current_ActiveDNS` -/
def updateCurrentActiveDns (resolvConf : List Char) : Option (CStr 256) :=
  (fgetsPieces 64 [] resolvConf).foldlM takeLine ⟨[], by decide⟩

/-- The event for a string, if it changes. -/
def changeOf {n : Nat} (name : Param) (old new : CStr n) : List Event :=
  if old ≠ new then [⟨name, old.chars, new.chars⟩] else []

/-- What is published when the first strings are replaced by the second. -/
def changes (old new : Stored) : List Event :=
  changeOf .currentStatus old.currentStatus new.currentStatus ++
  changeOf .currentActiveInterface old.currentActiveInterface new.currentActiveInterface ++
  changeOf .currentStandbyInterface old.currentStandbyInterface new.currentStandbyInterface ++
  changeOf .interfaceAvailableStatus old.interfaceAvailableStatus new.interfaceAvailableStatus ++
  changeOf .interfaceActiveStatus old.interfaceActiveStatus new.interfaceActiveStatus ++
  changeOf .currentActiveDns old.currentActiveDns new.currentActiveDns

/-- `Update_Interface_Status`; the file is `none` when it cannot be opened. The result is `none`
when a buffer overflows or a null pointer is followed. -/
def updateInterfaceStatus (devMode : NetworkingMode) (ifaces : List Iface)
    (resolvConf : Option (List Char)) (stored : Stored) : Option (Stored × List Event) := do
  let s := scan devMode ifaces
  let b ← s.head.foldlM append {}
  let dns ← match resolvConf with
    | some text => updateCurrentActiveDns text
    | none => some stored.currentActiveDns
  let new : Stored :=
    { interfaceAvailableStatus := b.interfaceAvailableStatus
      interfaceActiveStatus := b.interfaceActiveStatus
      -- "No update" when no interface is ACTIVE
      currentActiveInterface :=
        if b.currentActiveInterface.chars ≠ [] then b.currentActiveInterface
        else stored.currentActiveInterface
      currentStatus := s.currentWanStatus
      currentStandbyInterface := b.currentStandbyInterface
      currentActiveDns := dns }
  return (new, changes stored new)

/-! ## The sorted entries -/

/-- The virtual interfaces of the enabled interfaces, in the order of the table. -/
def enabledVirtIfs (ifaces : List Iface) : List (Iface × VirtIf) :=
  (ifaces.filter (·.selection.enable)).flatMap fun i => i.virtIfList.map (i, ·)

theorem mem_enabledVirtIfs {ifaces : List Iface} {p : Iface × VirtIf} :
    p ∈ enabledVirtIfs ifaces ↔
      p.1 ∈ ifaces ∧ p.1.selection.enable = true ∧ p.2 ∈ p.1.virtIfList := by
  obtain ⟨i, v⟩ := p
  simp only [enabledVirtIfs, List.mem_flatMap, List.mem_filter, List.mem_map, Prod.mk.injEq]
  constructor
  · rintro ⟨j, ⟨hj, he⟩, w, hw, rfl, rfl⟩
    exact ⟨hj, he, hw⟩
  · rintro ⟨hi, he, hv⟩
    exact ⟨i, ⟨hi, he⟩, v, hv, rfl, rfl⟩

theorem enabledVirtIfs_cons (i : Iface) (ifaces : List Iface) :
    enabledVirtIfs (i :: ifaces) =
      (if i.selection.enable then i.virtIfList.map (i, ·) else []) ++ enabledVirtIfs ifaces := by
  cases he : i.selection.enable <;> simp [enabledVirtIfs, he]

/-- The two loops are one over the virtual interfaces of the enabled interfaces. -/
theorem scan_eq (mode : NetworkingMode) (ifaces : List Iface) :
    scan mode ifaces =
      (enabledVirtIfs ifaces).foldl (fun s p => scanVirtIf mode p.1 s p.2) {} := by
  rw [scan]
  generalize ({} : Scan) = s
  induction ifaces generalizing s with
  | nil => rfl
  | cons i ifaces ih =>
    rw [List.foldl_cons, ih, enabledVirtIfs_cons, List.foldl_append]
    cases i.selection.enable <;> simp [List.foldl_map]

def earlier (p q : Iface × VirtIf) : Prop := p.1.selection.priority ≤ q.1.selection.priority

instance : DecidableRel earlier := fun _ _ => inferInstanceAs (Decidable (_ ≤ _))

instance : Std.Total earlier := ⟨fun _ _ => Int.le_total _ _⟩

instance : IsTrans _ earlier := ⟨fun _ _ _ => Int.le_trans⟩

/-- The virtual interfaces in the order of their entries: by priority, and of one priority the
last of the table first. -/
def listed (ifaces : List Iface) : List (Iface × VirtIf) :=
  (enabledVirtIfs ifaces).reverse.insertionSort earlier

theorem listed_perm (ifaces : List Iface) : (listed ifaces).Perm (enabledVirtIfs ifaces) :=
  (List.perm_insertionSort earlier _).trans (List.reverse_perm _)

theorem listed_pairwise (ifaces : List Iface) : (listed ifaces).Pairwise earlier :=
  List.pairwise_insertionSort earlier _

theorem sortedInsert_map (mode : NetworkingMode) (p : Iface × VirtIf)
    (ps : List (Iface × VirtIf)) :
    sortedInsert (newIface mode p.1 p.2) (ps.map fun p => newIface mode p.1 p.2) =
      (ps.orderedInsert earlier p).map fun p => newIface mode p.1 p.2 := by
  induction ps with
  | nil => rfl
  | cons q ps ih =>
    rw [List.map_cons, sortedInsert, List.orderedInsert_cons, ih]
    by_cases h : earlier p q
    · have hle : (newIface mode q.1 q.2).priority ≥ (newIface mode p.1 p.2).priority := h
      rw [if_pos h, if_pos hle, List.map_cons, List.map_cons]
    · have hlt : ¬ (newIface mode q.1 q.2).priority ≥ (newIface mode p.1 p.2).priority := h
      rw [if_neg h, if_neg hlt, List.map_cons]

theorem head_scanVirtIf (mode : NetworkingMode) (i : Iface) (s : Scan) (v : VirtIf) :
    (scanVirtIf mode i s v).head = sortedInsert (newIface mode i v) s.head := rfl

theorem head_scan (mode : NetworkingMode) (ifaces : List Iface) :
    (scan mode ifaces).head = (listed ifaces).map fun p => newIface mode p.1 p.2 := by
  rw [scan_eq, listed]
  induction enabledVirtIfs ifaces using List.reverseRecOn with
  | nil => rfl
  | append_singleton ps p ih =>
    rw [List.foldl_append, List.reverse_append, List.foldl_cons, List.foldl_nil, head_scanVirtIf,
      ih, sortedInsert_map]
    rfl

/-! ## What the strings hold -/

theorem append_eq_some {b c : Buffers} {info : IfaceInfo} :
    append b info = some c ↔
      b.currentActiveInterface.addEntry ',' info.currentActive.chars =
        some c.currentActiveInterface ∧
      b.currentStandbyInterface.addEntry ',' info.currentStandby.chars =
        some c.currentStandbyInterface ∧
      b.interfaceAvailableStatus.addEntry '|' info.availableStatus.chars =
        some c.interfaceAvailableStatus ∧
      b.interfaceActiveStatus.addEntry '|' info.activeStatus.chars =
        some c.interfaceActiveStatus := by
  obtain ⟨active, standby, availableStatus, activeStatus⟩ := c
  simp only [append, Option.bind_eq_bind, Option.bind_eq_some_iff, Option.pure_def,
    Option.some_inj, Buffers.mk.injEq]
  constructor
  · rintro ⟨_, h₁, _, h₂, _, h₃, _, h₄, rfl, rfl, rfl, rfl⟩
    exact ⟨h₁, h₂, h₃, h₄⟩
  · rintro ⟨h₁, h₂, h₃, h₄⟩
    exact ⟨_, h₁, _, h₂, _, h₃, _, h₄, rfl, rfl, rfl, rfl⟩

/-- The four strings grow on their own. -/
theorem foldlM_append_eq_some {infos : List IfaceInfo} {b c : Buffers} :
    infos.foldlM append b = some c ↔
      (infos.map (·.currentActive.chars)).foldlM (CStr.addEntry ',') b.currentActiveInterface =
        some c.currentActiveInterface ∧
      (infos.map (·.currentStandby.chars)).foldlM (CStr.addEntry ',') b.currentStandbyInterface =
        some c.currentStandbyInterface ∧
      (infos.map (·.availableStatus.chars)).foldlM (CStr.addEntry '|')
        b.interfaceAvailableStatus = some c.interfaceAvailableStatus ∧
      (infos.map (·.activeStatus.chars)).foldlM (CStr.addEntry '|') b.interfaceActiveStatus =
        some c.interfaceActiveStatus := by
  induction infos generalizing b with
  | nil =>
    obtain ⟨_, _, _, _⟩ := b
    obtain ⟨_, _, _, _⟩ := c
    simp
  | cons info infos ih =>
    simp only [List.map_cons, List.foldlM_cons, Option.bind_eq_bind, Option.bind_eq_some_iff, ih,
      append_eq_some]
    constructor
    · rintro ⟨d, ⟨h₁, h₂, h₃, h₄⟩, k₁, k₂, k₃, k₄⟩
      exact ⟨⟨_, h₁, k₁⟩, ⟨_, h₂, k₂⟩, ⟨_, h₃, k₃⟩, ⟨_, h₄, k₄⟩⟩
    · rintro ⟨⟨_, h₁, k₁⟩, ⟨_, h₂, k₂⟩, ⟨_, h₃, k₃⟩, ⟨_, h₄, k₄⟩⟩
      exact ⟨⟨_, _, _, _⟩, ⟨h₁, h₂, h₃, h₄⟩, k₁, k₂, k₃, k₄⟩

/-- What the loop over the sorted entries leaves in the buffers, if it ends. -/
theorem foldlM_append_scan {mode : NetworkingMode} {ifaces : List Iface} {b : Buffers} :
    (scan mode ifaces).head.foldlM append {} = some b ↔
      b.currentActiveInterface.chars = CStr.entries ',' ((listed ifaces).map fun p =>
        (newIface mode p.1 p.2).currentActive.chars) ∧
      b.currentStandbyInterface.chars = CStr.entries ',' ((listed ifaces).map fun p =>
        (newIface mode p.1 p.2).currentStandby.chars) ∧
      b.interfaceAvailableStatus.chars = CStr.entries '|' ((listed ifaces).map fun p =>
        (newIface mode p.1 p.2).availableStatus.chars) ∧
      b.interfaceActiveStatus.chars = CStr.entries '|' ((listed ifaces).map fun p =>
        (newIface mode p.1 p.2).activeStatus.chars) := by
  rw [foldlM_append_eq_some, head_scan]
  simp only [List.map_map, Function.comp_def]
  iterate 4 rw [CStr.foldlM_addEntry _ _ rfl, CStr.ofList?_eq_some]

/-! ## Room for the entries -/

theorem length_flagged (i : Iface) (flag : Bool) :
    (CStr.snprintf (flagged i flag) : CStr 64).chars.length =
      min 63 (i.displayName.chars.length + 2) := by
  simp [CStr.snprintf, flagged]

/-- The lengths of the entries of the two lists of flags. -/
def flagLengths (ifaces : List Iface) : List Nat :=
  (enabledVirtIfs ifaces).map fun p => min 63 (p.1.displayName.chars.length + 2)

/-- The lengths of the names in `CurrentActiveInterface`. -/
def activeLengths (mode : NetworkingMode) (ifaces : List Iface) : List Nat :=
  (enabledVirtIfs ifaces).map fun p =>
    if p.1.selection.status = .active then (activeName mode p.2).length else 0

/-- The lengths of the names in `CurrentStandbyInterface`. -/
def standbyLengths (ifaces : List Iface) : List Nat :=
  (enabledVirtIfs ifaces).map fun p =>
    if p.1.selection.status = .selected then p.2.name.chars.length else 0

/-- The table has room for its entries in the buffers. -/
structure ListsFit (mode : NetworkingMode) (ifaces : List Iface) : Prop where
  flags : CStr.entriesLength (flagLengths ifaces) < 64
  active : CStr.entriesLength (activeLengths mode ifaces) < 64
  standby : CStr.entriesLength (standbyLengths ifaces) < 64

theorem chars_currentActive (mode : NetworkingMode) (i : Iface) (v : VirtIf) :
    (newIface mode i v).currentActive.chars =
      if i.selection.status = .active then activeName mode v else [] := by
  have hmesh : meshIfname.length ≤ 63 := by decide
  have hname := v.name.fits
  have hle : (activeName mode v).length ≤ 63 := by
    rw [activeName]
    split
    · omega
    · exact hmesh
  by_cases h : i.selection.status = .active
  · simp [newIface, h, CStr.snprintf, hle]
  · simp [newIface, h, CStr.snprintf]

theorem chars_currentStandby (mode : NetworkingMode) (i : Iface) (v : VirtIf) :
    (newIface mode i v).currentStandby.chars =
      if i.selection.status = .selected then v.name.chars else [] := by
  by_cases h : i.selection.status = .selected
  · simp [newIface, h]
  · simp [newIface, h, CStr.snprintf]

theorem length_currentActive (mode : NetworkingMode) (i : Iface) (v : VirtIf) :
    (newIface mode i v).currentActive.chars.length =
      if i.selection.status = .active then (activeName mode v).length else 0 := by
  rw [chars_currentActive]
  split <;> rfl

theorem length_currentStandby (mode : NetworkingMode) (i : Iface) (v : VirtIf) :
    (newIface mode i v).currentStandby.chars.length =
      if i.selection.status = .selected then v.name.chars.length else 0 := by
  rw [chars_currentStandby]
  split <;> rfl

/-- A list of entries, one for each virtual interface, takes the same room in any order. -/
theorem length_listed (sep : Char) (ifaces : List Iface) {f : Iface × VirtIf → List Char}
    {g : Iface × VirtIf → Nat} (h : ∀ p, (f p).length = g p) :
    (CStr.entries sep ((listed ifaces).map f)).length =
      CStr.entriesLength ((enabledVirtIfs ifaces).map g) := by
  rw [CStr.length_entries, List.map_map]
  apply CStr.entriesLength_perm
  have hg : List.length ∘ f = g := funext h
  rw [hg]
  exact (listed_perm ifaces).map g

theorem isSome_append_scan {mode : NetworkingMode} {ifaces : List Iface} :
    ((scan mode ifaces).head.foldlM append {}).isSome = true ↔ ListsFit mode ifaces := by
  have hactive := length_listed ',' ifaces fun p =>
    length_currentActive mode p.1 p.2
  have hstandby := length_listed ',' ifaces fun p =>
    length_currentStandby mode p.1 p.2
  have hflags := length_listed '|' ifaces fun p =>
    length_flagged p.1 (p.1.baseInterfaceStatus = .up)
  have hups := length_listed '|' ifaces fun p =>
    length_flagged p.1 (activeUp p.1 p.2)
  rw [Option.isSome_iff_exists]
  constructor
  · rintro ⟨b, hb⟩
    obtain ⟨h₁, h₂, h₃, -⟩ := foldlM_append_scan.mp hb
    have k₁ := b.currentActiveInterface.fits
    have k₂ := b.currentStandbyInterface.fits
    have k₃ := b.interfaceAvailableStatus.fits
    rw [h₁, hactive] at k₁
    rw [h₂, hstandby] at k₂
    rw [h₃] at k₃
    exact ⟨hflags ▸ k₃, k₁, k₂⟩
  · intro h
    exact ⟨⟨⟨_, hactive ▸ h.active⟩, ⟨_, hstandby ▸ h.standby⟩, ⟨_, hflags ▸ h.flags⟩,
      ⟨_, hups ▸ h.flags⟩⟩, foldlM_append_scan.mpr ⟨rfl, rfl, rfl, rfl⟩⟩

/-! ## Room for the name servers -/

/-- The words of a line the way `strtok` finds them. -/
def lineWords (buf : List Char) : List (List Char) := words ' ' (cString buf)

/-- A line has a word, and one after `nameserver`. -/
structure HasTokens (buf : List Char) : Prop where
  first : lineWords buf ≠ []
  second : ∀ rest, lineWords buf = nameserver :: rest → rest ≠ []

/-- The name server of a line. -/
def serverOf (buf : List Char) : Option (List Char) :=
  match lineWords buf with
  | token :: server :: _ => if token = nameserver then some (stripNewline server) else none
  | _ => none

theorem takeLine_of_none {buf : List Char} (h : HasTokens buf) (hs : serverOf buf = none)
    (dns : CStr 256) : takeLine dns buf = some dns := by
  obtain ⟨hnil, -⟩ | ⟨token, rest, hwords, htok⟩ := strtok_eq ' ' (cString buf)
  · exact absurd hnil h.first
  · have hne : token ≠ nameserver := by
      rintro rfl
      have hrest := h.second _ hwords
      obtain ⟨server, more, hmore⟩ := List.exists_cons_of_ne_nil hrest
      rw [serverOf, lineWords, hwords, hmore] at hs
      simp at hs
    simp [takeLine, htok, hne]

theorem takeLine_of_some {buf server : List Char} (hs : serverOf buf = some server)
    (dns : CStr 256) : takeLine dns buf = dns.addItem ',' server := by
  obtain ⟨hnil, -⟩ | ⟨token, rest, hwords, htok⟩ := strtok_eq ' ' (cString buf)
  · simp [serverOf, lineWords, hnil] at hs
  · rw [serverOf, lineWords, hwords] at hs
    obtain ⟨hnil, -⟩ | ⟨second, rest', hwords', htok'⟩ := strtok_eq ' ' rest
    · simp [hnil] at hs
    · rw [hwords'] at hs
      by_cases htoken : token = nameserver
      · have hserver : stripNewline second = server := by simpa [htoken] using hs
        simp [takeLine, htok, htoken, htok', hserver]
      · simp [htoken] at hs

theorem takeLine_eq_none {buf : List Char} (h : ¬ HasTokens buf) (dns : CStr 256) :
    takeLine dns buf = none := by
  obtain ⟨-, htok⟩ | ⟨token, rest, hwords, htok⟩ := strtok_eq ' ' (cString buf)
  · simp [takeLine, htok]
  · obtain ⟨hnil, htok'⟩ | ⟨second, rest', hwords', -⟩ := strtok_eq ' ' rest
    · have htoken : token = nameserver := by
        by_contra hne
        refine h ⟨by simp [lineWords, hwords], fun more hmore => ?_⟩
        rw [lineWords, hwords] at hmore
        exact absurd (List.cons.inj hmore).1 hne
      simp [takeLine, htok, htoken, htok']
    · refine absurd ⟨by simp [lineWords, hwords], fun more hmore => ?_⟩ h
      rw [lineWords, hwords, hwords'] at hmore
      rw [← (List.cons.inj hmore).2]
      simp

/-- Line after line, the name servers are appended. -/
theorem foldlM_takeLine (bufs : List (List Char)) (dns : CStr 256) :
    ((∀ buf ∈ bufs, HasTokens buf) →
      bufs.foldlM takeLine dns = (bufs.filterMap serverOf).foldlM (CStr.addItem ',') dns) ∧
    ((∃ buf ∈ bufs, ¬ HasTokens buf) → bufs.foldlM takeLine dns = none) := by
  induction bufs generalizing dns with
  | nil => simp
  | cons buf bufs ih =>
    rw [List.foldlM_cons]
    constructor
    · intro h
      have hbufs : ∀ b ∈ bufs, HasTokens b := fun b hb => h b (List.mem_cons_of_mem _ hb)
      cases hs : serverOf buf with
      | none =>
        rw [takeLine_of_none (h buf List.mem_cons_self) hs, List.filterMap_cons_none hs]
        exact (ih dns).1 hbufs
      | some server =>
        rw [takeLine_of_some hs, List.filterMap_cons_some hs, List.foldlM_cons]
        congr 1
        funext next
        exact (ih next).1 hbufs
    · rintro ⟨b, hb, hbad⟩
      obtain rfl | hb := List.mem_cons.mp hb
      · rw [takeLine_eq_none hbad]
        rfl
      · cases hline : takeLine dns buf with
        | none => rfl
        | some next => exact (ih next).2 ⟨b, hb, hbad⟩

/-- The name servers of the file. -/
def servers (resolvConf : List Char) : List (List Char) :=
  (fgetsPieces 64 [] resolvConf).filterMap serverOf

/-- The room the name servers take; those in front of the first that is not empty take none. -/
def serversLength (resolvConf : List Char) : Nat :=
  ((servers resolvConf).map List.length).sum +
    (((servers resolvConf).dropWhile (· = [])).length - 1)

/-- The lines of the file have the words the code looks at, and its servers have room. -/
structure FileFits (resolvConf : List Char) : Prop where
  tokens : ∀ buf ∈ fgetsPieces 64 [] resolvConf, HasTokens buf
  room : serversLength resolvConf < 256

theorem isSome_updateCurrentActiveDns (resolvConf : List Char) :
    (updateCurrentActiveDns resolvConf).isSome = true ↔ FileFits resolvConf := by
  have hfold := foldlM_takeLine (fgetsPieces 64 [] resolvConf) ⟨[], by decide⟩
  by_cases htok : ∀ buf ∈ fgetsPieces 64 [] resolvConf, HasTokens buf
  · rw [updateCurrentActiveDns, hfold.1 htok, CStr.foldlM_addItem _ _ rfl, CStr.isSome_ofList?,
      decide_eq_true_eq, CStr.length_joined]
    exact ⟨fun h => ⟨htok, h⟩, FileFits.room⟩
  · have hbad : ∃ buf ∈ fgetsPieces 64 [] resolvConf, ¬ HasTokens buf := by simpa using htok
    rw [updateCurrentActiveDns, hfold.2 hbad]
    constructor
    · simp
    · exact fun h => absurd h.tokens htok

/-- The update composes every string within its buffer and follows no null pointer if and only if
the table has room for its entries, and the file has the words the code looks at and room for its
servers. -/
theorem status_fits (mode : NetworkingMode) (ifaces : List Iface)
    (resolvConf : Option (List Char)) (stored : Stored) :
    (updateInterfaceStatus mode ifaces resolvConf stored).isSome = true ↔
      ListsFit mode ifaces ∧ ∀ text ∈ resolvConf, FileFits text := by
  rw [← isSome_append_scan, updateInterfaceStatus]
  cases (scan mode ifaces).head.foldlM append {} with
  | none => simp
  | some b =>
    cases resolvConf with
    | none => simp
    | some text =>
      have hdns := isSome_updateCurrentActiveDns text
      cases htext : updateCurrentActiveDns text with
      | none => simpa [htext] using hdns
      | some dns => simpa [htext] using hdns

namespace Example

/-- An interface with a display name of the given length. -/
def interface (length : Nat) (letter : Char) (priority : Int) (status : SelectionStatus) :
    Iface where
  displayName := .snprintf (List.replicate length letter)
  selection := { priority, status }
  virtIfList := [{ name := .snprintf "erouter0".toList, status := .up }]

/-- Nothing is up; the name of the last active interface is still there. -/
def nothingUp : Stored where
  interfaceAvailableStatus := .snprintf []
  interfaceActiveStatus := .snprintf []
  currentActiveInterface := .snprintf "erouter0".toList
  currentStatus := down
  currentStandbyInterface := .snprintf []
  currentActiveDns := .snprintf []

end Example

open Example in
/-- Two interfaces with display names of 31 characters take 67 characters, and a last line with
nothing after `nameserver` has no second word. -/
theorem status_overflows :
    (¬ ∀ (mode : NetworkingMode) (ifaces : List Iface) (resolvConf : Option (List Char))
      (stored : Stored), ifaces.length ≤ 32 →
        (updateInterfaceStatus mode ifaces resolvConf stored).isSome = true) ∧
    ¬ ∀ resolvConf : List Char, (updateCurrentActiveDns resolvConf).isSome = true := by
  constructor
  · intro h
    have hbad : (updateInterfaceStatus .gateway
        [interface 31 'a' 0 .active, interface 31 'b' 1 .selected] none nothingUp).isSome = false := by
      decide +kernel
    rw [h _ _ _ _ (by decide)] at hbad
    exact Bool.noConfusion hbad
  · intro h
    have hbad : (updateCurrentActiveDns "nameserver".toList).isSome = false := by decide +kernel
    rw [h] at hbad
    exact Bool.noConfusion hbad

/-! ## What is stored and published -/

/-- What an update that ends has stored and published. -/
theorem updateInterfaceStatus_eq_some {mode : NetworkingMode} {ifaces : List Iface}
    {resolvConf : Option (List Char)} {stored new : Stored} {events : List Event}
    (h : updateInterfaceStatus mode ifaces resolvConf stored = some (new, events)) :
    events = changes stored new ∧ new.currentStatus = (scan mode ifaces).currentWanStatus ∧
      ∃ b, (scan mode ifaces).head.foldlM append {} = some b ∧
        new.interfaceAvailableStatus = b.interfaceAvailableStatus ∧
        new.interfaceActiveStatus = b.interfaceActiveStatus ∧
        new.currentStandbyInterface = b.currentStandbyInterface ∧
        new.currentActiveInterface = if b.currentActiveInterface.chars ≠ [] then
          b.currentActiveInterface else stored.currentActiveInterface := by
  simp only [updateInterfaceStatus, Option.bind_eq_bind, Option.bind_eq_some_iff,
    Option.pure_def] at h
  obtain ⟨b, hb, h⟩ := h
  cases resolvConf with
  | none =>
    simp only [Option.bind_some, Option.some_inj, Prod.mk.injEq] at h
    obtain ⟨rfl, rfl⟩ := h
    exact ⟨rfl, rfl, b, hb, rfl, rfl, rfl, rfl⟩
  | some text =>
    simp only [Option.bind_eq_some_iff, Option.some_inj, Prod.mk.injEq] at h
    obtain ⟨dns, -, rfl, rfl⟩ := h
    exact ⟨rfl, rfl, b, hb, rfl, rfl, rfl, rfl⟩

theorem mem_changeOf {n : Nat} {name : Param} {old new : CStr n} {e : Event} :
    e ∈ changeOf name old new ↔ old.chars ≠ new.chars ∧ e = ⟨name, old.chars, new.chars⟩ := by
  by_cases h : old = new
  · simp [changeOf, h]
  · have hne : old.chars ≠ new.chars := fun he => h (CStr.ext he)
    simp [changeOf, h, hne]

/-- A change of a string, and nothing else, is published, with the old value and the new. -/
theorem mem_changes {old new : Stored} {e : Event} :
    e ∈ changes old new ↔
      old.value e.name ≠ new.value e.name ∧ e.oldValue = old.value e.name ∧
        e.newValue = new.value e.name := by
  obtain ⟨name, oldValue, newValue⟩ := e
  simp only [changes, List.mem_append, mem_changeOf, Event.mk.injEq]
  cases name <;> simp [Stored.value]

/-- `CurrentWanStatus` after some of the virtual interfaces: of the last ACTIVE one. -/
theorem currentWanStatus_foldl (mode : NetworkingMode) (ps : List (Iface × VirtIf)) :
    (ps.foldl (fun s p => scanVirtIf mode p.1 s p.2) {}).currentWanStatus =
      match (ps.filter (·.1.selection.status = .active)).getLast? with
      | some p => if p.2.status = .up then up else down
      | none => down := by
  induction ps using List.reverseRecOn with
  | nil => rfl
  | append_singleton ps p ih =>
    rw [List.foldl_append, List.foldl_cons, List.foldl_nil, scanVirtIf, List.filter_append]
    by_cases h : p.1.selection.status = .active
    · simp [h]
    · simpa [h] using ih

theorem nodup_changes (old new : Stored) : ((changes old new).map Event.name).Nodup := by
  have hsub : ∀ {n : Nat} (name : Param) (old new : CStr n),
      ((changeOf name old new).map Event.name).Sublist [name] := by
    intro n name old new
    rw [changeOf]
    split <;> simp
  simp only [changes, List.map_append]
  have hnames : [Param.currentStatus, .currentActiveInterface, .currentStandbyInterface,
      .interfaceAvailableStatus, .interfaceActiveStatus, .currentActiveDns].Nodup := by decide
  refine List.Sublist.nodup ?_ hnames
  exact (((((hsub _ _ _).append (hsub _ _ _)).append (hsub _ _ _)).append (hsub _ _ _)).append
    (hsub _ _ _)).append (hsub _ _ _)

theorem filter_enabledVirtIfs (st : SelectionStatus) (ifaces : List Iface) :
    (enabledVirtIfs ifaces).filter (·.1.selection.status = st) =
      (ifaces.filter fun i => i.selection.enable && decide (i.selection.status = st)).flatMap
        fun i => i.virtIfList.map (i, ·) := by
  induction ifaces with
  | nil => rfl
  | cons i ifaces ih =>
    rw [enabledVirtIfs_cons, List.filter_append, ih]
    cases he : i.selection.enable
    · simp [he]
    · by_cases hst : i.selection.status = st <;> simp [he, hst, List.filter_map, Function.comp_def]

/-- The names under which the listed interfaces of a status are published, but for empty ones. -/
def names (st : SelectionStatus) (name : VirtIf → List Char) (listed : List (Iface × VirtIf)) :
    List (List Char) :=
  ((listed.filter (·.1.selection.status = st)).map fun p => name p.2).filter (· ≠ [])

theorem entries_names (st : SelectionStatus) (name : VirtIf → List Char)
    (listed : List (Iface × VirtIf)) :
    CStr.entries ',' (listed.map fun p => if p.1.selection.status = st then name p.2 else []) =
      [','].intercalate (names st name listed) := by
  rw [CStr.entries, names]
  congr 1
  induction listed with
  | nil => rfl
  | cons p listed ih =>
    by_cases hst : p.1.selection.status = st
    · rw [List.filter_cons_of_pos (by simpa using hst), List.map_cons, List.map_cons, if_pos hst]
      simp only [List.filter_cons, ih]
    · rw [List.filter_cons_of_neg (by simpa using hst), List.map_cons, if_neg hst]
      exact ih

theorem intercalate_names_eq_nil {st : SelectionStatus} {name : VirtIf → List Char}
    {listed : List (Iface × VirtIf)} :
    [','].intercalate (names st name listed) = [] ↔ names st name listed = [] := by
  constructor
  · intro h
    cases hnames : names st name listed with
    | nil => rfl
    | cons item rest =>
      have hitem : item ≠ [] := by
        have hmem : item ∈ names st name listed := by rw [hnames]; exact List.mem_cons_self
        simpa using (List.mem_filter.mp hmem).2
      rw [hnames, CStr.intercalate_eq_flatMap, List.append_eq_nil_iff] at h
      exact absurd h.1 hitem
  · rintro h
    rw [h]
    rfl

/-- Every enabled interface has one virtual interface. -/
def OneEach (ifaces : List Iface) : Prop :=
  ∀ i ∈ ifaces, i.selection.enable = true → i.virtIfList.length = 1

instance (ifaces : List Iface) : Decidable (OneEach ifaces) :=
  inferInstanceAs (Decidable (∀ i ∈ ifaces, i.selection.enable = true → _))

/-- The strings an update stores list the enabled interfaces by priority. -/
structure Publishes (mode : NetworkingMode) (ifaces : List Iface) (stored new : Stored)
    (listed : List (Iface × VirtIf)) : Prop where
  sorted : listed.Pairwise fun p q => p.1.selection.priority ≤ q.1.selection.priority
  enabled : ∀ p ∈ listed, p.1 ∈ ifaces ∧ p.1.selection.enable = true ∧ p.2 ∈ p.1.virtIfList
  complete : ∀ i ∈ ifaces, i.selection.enable = true → ∀ v ∈ i.virtIfList.head?, (i, v) ∈ listed
  once : OneEach ifaces → (listed.map Prod.fst).Perm (ifaces.filter (·.selection.enable))
  availableStatus : new.interfaceAvailableStatus.chars = ['|'].intercalate
    (listed.map fun p => (flagged p.1 (p.1.baseInterfaceStatus = .up)).take 63)
  activeStatus : new.interfaceActiveStatus.chars = ['|'].intercalate
    (listed.map fun p => (flagged p.1 (activeUp p.1 p.2)).take 63)
  active : new.currentActiveInterface.chars =
    if names .active (activeName mode) listed = [] then stored.currentActiveInterface.chars
    else [','].intercalate (names .active (activeName mode) listed)
  standby : new.currentStandbyInterface.chars =
    [','].intercalate (names .selected (·.name.chars) listed)

theorem entries_flagged (flag : Iface × VirtIf → Bool) (listed : List (Iface × VirtIf)) :
    CStr.entries '|' (listed.map fun p =>
        (CStr.snprintf (flagged p.1 (flag p)) : CStr 64).chars) =
      ['|'].intercalate (listed.map fun p => (flagged p.1 (flag p)).take 63) := by
  rw [CStr.entries]
  congr 1
  apply List.filter_eq_self.mpr
  intro item hitem
  obtain ⟨p, -, rfl⟩ := List.mem_map.mp hitem
  simp [CStr.snprintf, flagged]

theorem publishes {mode : NetworkingMode} {ifaces : List Iface}
    {resolvConf : Option (List Char)} {stored new : Stored} {events : List Event}
    (h : updateInterfaceStatus mode ifaces resolvConf stored = some (new, events)) :
    Publishes mode ifaces stored new (listed ifaces) := by
  obtain ⟨-, -, b, hb, havailable, hactive, hstandby, hcurrent⟩ := updateInterfaceStatus_eq_some h
  obtain ⟨h₁, h₂, h₃, h₄⟩ := foldlM_append_scan.mp hb
  simp only [chars_currentActive, chars_currentStandby] at h₁ h₂
  rw [entries_names .active (activeName mode)] at h₁
  rw [entries_names .selected (·.name.chars)] at h₂
  have hmem : ∀ {p}, p ∈ listed ifaces ↔
      p.1 ∈ ifaces ∧ p.1.selection.enable = true ∧ p.2 ∈ p.1.virtIfList := fun {p} =>
    (listed_perm ifaces).mem_iff.trans mem_enabledVirtIfs
  constructor
  case sorted => exact listed_pairwise ifaces
  case enabled => exact fun p hp => hmem.mp hp
  case complete => exact fun i hi he v hv => hmem.mpr ⟨hi, he, List.mem_of_mem_head? hv⟩
  case once =>
    intro hone
    apply ((listed_perm ifaces).map Prod.fst).trans
    rw [enabledVirtIfs, List.map_flatMap]
    apply List.Perm.of_eq
    rw [List.flatMap_congr (g := fun i => [i]), List.flatMap_singleton']
    intro i hi
    obtain ⟨hi, he⟩ := List.mem_filter.mp hi
    obtain ⟨v, hv⟩ := List.length_eq_one_iff.mp (hone i hi he)
    simp [hv]
  case availableStatus =>
    rw [havailable, h₃]
    exact entries_flagged (fun p => p.1.baseInterfaceStatus = .up) _
  case activeStatus =>
    rw [hactive, h₄]
    exact entries_flagged (fun p => activeUp p.1 p.2) _
  case active =>
    rw [hcurrent, h₁]
    by_cases hnames : names .active (activeName mode) (listed ifaces) = []
    · rw [if_pos hnames, if_neg]
      exact not_not.mpr (intercalate_names_eq_nil.mpr hnames)
    · rw [if_neg hnames, if_pos, h₁]
      exact mt intercalate_names_eq_nil.mp hnames
  case standby => rw [hstandby, h₂]

/-- Whenever its strings fit, the update stores them as lists of the enabled interfaces by
priority, an entry for each if each has one virtual interface; `CurrentActiveInterface` keeps its
value when there is no name for it, and `CurrentStatus` goes by the last ACTIVE interface. What it
publishes is what changed. -/
theorem status_published {mode : NetworkingMode} {ifaces : List Iface}
    {resolvConf : Option (List Char)} {stored new : Stored} {events : List Event}
    (h : updateInterfaceStatus mode ifaces resolvConf stored = some (new, events)) :
    (∃ listed, Publishes mode ifaces stored new listed) ∧
    (∀ i v, (ifaces.filter fun i =>
        i.selection.enable && decide (i.selection.status = .active)).getLast? = some i →
      i.virtIfList = [v] → (new.currentStatus = up ↔ v.status = .up)) ∧
    ((∀ i ∈ ifaces, i.selection.enable = true → i.selection.status ≠ .active) →
      new.currentStatus = down) ∧
    (events.map Event.name).Nodup ∧
    ∀ e, e ∈ events ↔ stored.value e.name ≠ new.value e.name ∧
      e.oldValue = stored.value e.name ∧ e.newValue = new.value e.name := by
  obtain ⟨hevents, hstatus, -⟩ := updateInterfaceStatus_eq_some h
  rw [scan_eq, currentWanStatus_foldl, filter_enabledVirtIfs] at hstatus
  refine ⟨⟨_, publishes h⟩, ?_, ?_, hevents ▸ nodup_changes stored new, fun e => ?_⟩
  · intro i v hlast hone
    obtain ⟨front, hfront⟩ := List.getLast?_eq_some_iff.mp hlast
    have hv : new.currentStatus = if v.status = .up then up else down := by
      simpa [hfront, hone] using hstatus
    rw [hv]
    by_cases hup : v.status = .up
    · simp [hup]
    · rw [if_neg hup]
      exact ⟨fun he => absurd he (by decide), fun he => absurd he hup⟩
  · intro hnone
    have hnil : (ifaces.filter fun i =>
        i.selection.enable && decide (i.selection.status = .active)) = [] := by
      apply List.filter_eq_nil_iff.mpr
      intro i hi
      simpa using hnone i hi
    simpa [hnil] using hstatus
  · rw [hevents]
    exact mem_changes

open Example in
/-- A selected interface in front of an active one of a later priority. -/
theorem status_published_two : ∃ new events,
    updateInterfaceStatus .gateway [interface 4 'a' 1 .active, interface 3 'b' 0 .selected] none
      nothingUp = some (new, events) ∧
    (new.currentStatus = up ↔
      (interface 4 'a' 1 .active).virtIfList.head?.map (·.status) = some .up) ∧
    ∃ listed, Publishes .gateway [interface 4 'a' 1 .active, interface 3 'b' 0 .selected] nothingUp new
      listed := by
  obtain ⟨⟨new, events⟩, h⟩ := Option.isSome_iff_exists.mp (show
    (updateInterfaceStatus .gateway [interface 4 'a' 1 .active, interface 3 'b' 0 .selected] none
      nothingUp).isSome = true by decide +kernel)
  obtain ⟨hlists, hstatus, -⟩ := status_published h
  refine ⟨new, events, h, ?_, hlists⟩
  simpa [interface] using hstatus (interface 4 'a' 1 .active) _ rfl rfl

open Example in
/-- Without an ACTIVE interface the name of the last one stays. -/
theorem active_name_kept :
    ¬ ∀ (mode : NetworkingMode) (ifaces : List Iface) (resolvConf : Option (List Char))
      (stored new : Stored) (events : List Event),
        updateInterfaceStatus mode ifaces resolvConf stored = some (new, events) →
        (∀ i ∈ ifaces, i.selection.status ≠ .active) → new.currentActiveInterface.chars = [] := by
  intro h
  obtain ⟨⟨new, events⟩, hrun⟩ := Option.isSome_iff_exists.mp (show
    (updateInterfaceStatus .gateway [] none nothingUp).isSome = true by decide +kernel)
  have hempty := h _ _ _ _ _ _ hrun (by simp)
  have hkept : (updateInterfaceStatus .gateway [] none nothingUp).map
      (·.1.currentActiveInterface.chars) = some "erouter0".toList := by decide +kernel
  rw [hrun, Option.map_some, hempty] at hkept
  exact absurd hkept (by decide)

end WanManager.PublishedStatus
