import WanManager.Types
import WanManager.Concurrency.Mutex

/-! # The data layer

`wanmgr_data.c`, built without the inter-device manager: the accessors that return a part of
`gWanMgrDataBase` under its lock, and the operations that set up the data base. A pointer
is a position in the table it points into, and reading through a null pointer is a fault.
What PSM and the allocator answer are inputs. -/

namespace WanManager
open Concurrency

namespace DataLayer

/-! ## The data base -/

/-- The fields of `DML_VIRTUAL_IFACE` the data layer looks at; of the entries of its two
lists these are `Index` and `VirtMarkingInstanceNumber`. -/
structure VirtIf where
  virIfIdx : Nat := 0
  baseIfIdx : Nat := 0
  enable : Bool := false
  name : String := ""
  aliasName : String := ""
  interfaceSmRunning : Bool := false
  ipv6Source : IpSource := .dhcp
  interfaceList : List Nat := []
  virtMarking : List Nat := []
  deriving DecidableEq, Repr, Inhabited

/-- `WanMgr_Iface_Data_t` -/
structure Iface where
  uiIfaceIdx : Nat := 0
  name : String := ""
  displayName : String := ""
  aliasName : String := ""
  remoteCpeMac : String := ""
  baseInterfaceStatus : PhyStatus := .down
  ifaceType : IfaceType := .local_
  selection : IfaceSelection := {}
  virtIfChanged : Bool := false
  noOfVirtIfs : Nat := 0
  virtIfList : List VirtIf := []
  deriving DecidableEq, Repr, Inhabited

/-- What is stored in PSM, and which of the next allocations succeed. -/
structure Outside where
  wanConf : WanConfig → Bool × WanConfig := fun c => (true, c)
  totalNoOfGroups : Option Nat := some 2
  groupConf : Nat → IfaceGroup → IfaceGroup := fun _ g => g
  totalNoOfWanInterfaces : Option Nat := some 1
  wanInterface : Nat → Iface → Iface := fun _ d => d
  virtualInterface : Nat → Nat → VirtIf → VirtIf := fun _ _ v => v
  noOfInterfaceEntries : Nat → Nat → Nat := fun _ _ => 0
  noOfMarkingEntries : Nat → Nat → Nat := fun _ _ => 0
  remoteVirtualInterface : Nat → VirtIf → VirtIf := fun _ v => v
  baseInterfaceStatus : Nat → PhyStatus → PhyStatus := fun _ st => st
  allocate : Nat → Bool := fun _ => true

/-- `WANMGR_DATA_ST`; the tables are `none` until they are allocated. -/
structure Database where
  config : WanConfig := {}
  pIface : Option (List Iface) := none
  totalNumbWanInterfaces : Nat := 0
  group : Option (List IfaceGroup) := none
  totalNumbWanIfaceGroup : Nat := 2
  remotePriority : Int := 100
  allocations : Nat := 0
  outside : Outside := {}

abbrev DataM := LockM Database

open LockM

/-! ## Accessors -/

/-- What happens to a pointer that is looked for under the lock: `returned` is a `return`
in the middle of the search, and a search that comes to nothing gives the lock back. -/
inductive Search (α : Type) where
  | fault
  | returned (r : Option α)
  | missing
  deriving DecidableEq, Repr

/-- The accessors: all take the lock and differ in what they look for. -/
def lockAndSearch {α : Type} (find : Database → Search α) : DataM (Option α) := do
  if ← lock then
    match ← observe find with
    | .fault => fault
    | .returned r => return r
    | .missing => do
      unlock
      return none
  else return none

/-- `WanMgr_GetConfigData_locked` -/
def getConfigDataLocked : DataM (Option Unit) := lockAndSearch fun _ => .returned (some ())

/-- The entry of the interface table with a given index, and what is to be done with it. -/
def atIface {α : Type} (i : Nat) (k : Iface → Search α) (db : Database) : Search α :=
  if i < db.totalNumbWanInterfaces then
    match db.pIface with
    | none => .missing
    | some t =>
      match t[i]? with
      | none => .fault
      | some d => k d
  else .missing

/-- `WanMgr_GetIfaceData_locked`; it does not look at the interface. -/
def getIfaceDataLocked (i : Nat) : DataM (Option Nat) :=
  lockAndSearch fun db =>
    if i < db.totalNumbWanInterfaces ∧ db.pIface.isSome then .returned (some i) else .missing

/-- `WanMgr_getVirtualIfaceById` -/
def getVirtualIfaceById (d : Iface) (inst : Nat) : Option Nat :=
  d.virtIfList.findIdx? fun v => v.virIfIdx == inst

/-- `WanMgr_getVirtVlanIfById` and `WanMgr_getVirtMakingById` -/
def entryById (l : List Nat) (inst : Nat) : Option Nat := l.findIdx? (· == inst)

/-- `WanMgr_getVirtualIface_locked` -/
def getVirtualIfaceLocked (baseIfidx virtIfIdx : Nat) : DataM (Option Nat) :=
  lockAndSearch (atIface baseIfidx fun d => .returned (getVirtualIfaceById d virtIfIdx))

/-- A list of the virtual interface with a given index. Without the interface it is looked
for through a null pointer. -/
def entryOf (list : VirtIf → List Nat) (virtIfIdx inst : Nat) (d : Iface) : Search Nat :=
  match d.virtIfList.find? fun v => v.virIfIdx == virtIfIdx with
  | none => .fault
  | some v => .returned (entryById (list v) inst)

/-- `WanMgr_getVlanIface_locked` -/
def getVlanIfaceLocked (baseIfidx virtIfIdx vlanid : Nat) : DataM (Option Nat) :=
  lockAndSearch (atIface baseIfidx (entryOf (·.interfaceList) virtIfIdx vlanid))

/-- `WanMgr_getVirtualMarking_locked` -/
def getVirtualMarkingLocked (baseIfidx virtIfIdx markingid : Nat) : DataM (Option Nat) :=
  lockAndSearch (atIface baseIfidx (entryOf (·.virtMarking) virtIfIdx markingid))

/-- A loop over entries of the interface table; `i` is the index of the first. -/
def searchFrom {α : Type} (test : Iface → Search α) (i : Nat) : List Iface → Search (Nat × α)
  | [] => .missing
  | d :: ds =>
    match test d with
    | .fault => .fault
    | .returned none => .returned none
    | .returned (some a) => .returned (some (i, a))
    | .missing => searchFrom test (i + 1) ds

/-- A loop over the interface table. -/
def searchIfaces {α : Type} (test : Iface → Search α) (db : Database) : Search (Nat × α) :=
  match db.pIface with
  | none => .missing
  | some t =>
    match searchFrom test 0 (t.take db.totalNumbWanInterfaces) with
    | .missing => if db.totalNumbWanInterfaces ≤ t.length then .missing else .fault
    | r => r

/-- The name of an interface is that of its first virtual interface. -/
def testName (name : Option String) (d : Iface) : Search Unit :=
  match name, d.virtIfList with
  | some n, v :: _ => if n = v.name then .returned (some ()) else .missing
  | none, _ | _, [] => .fault

/-- `WanMgr_GetIfaceDataByName_locked` -/
def getIfaceDataByNameLocked (name : Option String) : DataM (Option (Nat × Unit)) :=
  lockAndSearch (searchIfaces (testName name))

/-- The first virtual interface of an interface that passes a test. -/
def testVirtIf (test : VirtIf → Bool) (d : Iface) : Search Nat :=
  match d.virtIfList.findIdx? test with
  | some k => .returned (some k)
  | none => .missing

/-- A name that is null or empty is not looked for. -/
def searchNamed {α : Type} (find : String → Database → Search α) :
    Option String → DataM (Option α)
  | none | some "" => return none
  | some n => lockAndSearch (find n)

/-- `WanMgr_GetVirtualIfaceByName_locked` -/
def getVirtualIfaceByNameLocked : Option String → DataM (Option (Nat × Nat)) :=
  searchNamed fun n => searchIfaces (testVirtIf fun v => n == v.name)

/-- `WanMgr_GetVIfByName_VISM_running_locked` -/
def getVIfByNameVismRunningLocked : Option String → DataM (Option (Nat × Nat)) :=
  searchNamed fun n => searchIfaces (testVirtIf fun v => n == v.name && v.interfaceSmRunning)

/-- `WanMgr_GetIfaceGroup_locked` -/
def getIfaceGroupLocked (i : Nat) : DataM (Option Nat) :=
  lockAndSearch fun db =>
    if i < db.totalNumbWanIfaceGroup ∧ db.group.isSome then .returned (some i) else .missing

/-- `WanMgr_GetVirtIfDataByAlias_locked` -/
def getVirtIfDataByAliasLocked (aliasName : Option String) : DataM (Option (Nat × Nat)) :=
  match aliasName with
  | none => return none
  | some a => lockAndSearch (searchIfaces (testVirtIf fun v => a == v.aliasName))

/-- The active interface is returned through its first virtual interface. -/
def testActive (d : Iface) : Search Unit :=
  if d.selection.status = .active then .returned (if d.virtIfList = [] then none else some ())
  else .missing

/-- `WanMgr_GetActiveVirtIfData_locked` -/
def getActiveVirtIfDataLocked : DataM (Option (Nat × Unit)) :=
  lockAndSearch (searchIfaces testActive)

/-! ## Set-up -/

/-- `AnscAllocateMemory` -/
def allocate : DataM Bool := do
  let ok ← observe fun db => db.outside.allocate db.allocations
  update fun db => { db with allocations := db.allocations + 1 }
  return ok

/-- The defaults of a group, and what PSM says about it. -/
def initGroup (db : Database) (i : Nat) : IfaceGroup := db.outside.groupConf i {}

def initGroups (db : Database) : Database :=
  { db with group := some ((List.range db.totalNumbWanIfaceGroup).map (initGroup db)) }

/-- `WanMgr_Group_Configure`; a failed allocation returns under the lock. -/
def groupConfigure : DataM Bool := do
  if ← lock then
    update fun db => { db with
      totalNumbWanIfaceGroup := db.outside.totalNoOfGroups.getD db.totalNumbWanIfaceGroup }
    if ← allocate then
      update initGroups
      unlock
      return true
    else do
      update fun db => { db with group := none }
      return false
  else return true

/-- `MAX_WAN_INTERFACE_ENTRY` -/
def maxWanInterfaceEntry : Nat := 32

def modifyIface (i : Nat) (f : Iface → Iface) (db : Database) : Database :=
  { db with pIface := db.pIface.map fun t => t.modify i f }

@[simp] theorem outside_modifyIface (i : Nat) (f : Iface → Iface) (db : Database) :
    (modifyIface i f db).outside = db.outside := rfl

@[simp] theorem allocations_modifyIface (i : Nat) (f : Iface → Iface) (db : Database) :
    (modifyIface i f db).allocations = db.allocations := rfl

/-- `WanMgr_IfaceData_Init`; `VirtIfList` is not touched. -/
def ifaceDataInit (i : Nat) (d : Iface) : Iface :=
  { d with
    uiIfaceIdx := i
    name := ""
    displayName := ""
    aliasName := ""
    remoteCpeMac := ""
    baseInterfaceStatus := .down
    ifaceType := .local_
    selection := { d.selection with
      enable := false, priority := -1, timeout := 0, activeLink := false
      status := .notSelected, requiresReboot := false, rebootTriggerStatus := false, group := 1 }
    virtIfChanged := false
    noOfVirtIfs := 1 }

def modifyVirtIf (i v : Nat) (f : VirtIf → VirtIf) : Database → Database :=
  modifyIface i fun d => { d with virtIfList := d.virtIfList.modify v f }

/-- `WanMgr_AddVirtualToList` -/
def addVirtualToList (i : Nat) (v : VirtIf) : Database → Database :=
  modifyIface i fun d => { d with virtIfList := d.virtIfList ++ [v] }

/-- One entry of a list of `WanMgr_VirtIfConfVLAN`. -/
def addEntry (add : VirtIf → Nat → VirtIf) (i v n : Nat) : DataM Bool := do
  if ← allocate then
    update (modifyVirtIf i v fun x => add x n)
    return true
  else return false

/-- `WanMgr_VirtIfConfVLAN` -/
def virtIfConfVlan (i v : Nat) : DataM Bool := do
  let entries ← observe fun db => db.outside.noOfInterfaceEntries i v
  let markings ← observe fun db => db.outside.noOfMarkingEntries i v
  if ← (List.range entries).allM
      (addEntry (fun x n => { x with interfaceList := x.interfaceList ++ [n] }) i v) then
    (List.range markings).allM
      (addEntry (fun x n => { x with virtMarking := x.virtMarking ++ [n] }) i v)
  else return false

/-- One virtual interface of `WanMgr_WanIfaceConfInit`. -/
def confVirtIf (i v : Nat) : DataM Bool := do
  if ← allocate then
    update fun db =>
      addVirtualToList i (db.outside.virtualInterface i v { virIfIdx := v, baseIfIdx := i }) db
    let _ ← virtIfConfVlan i v
    return true
  else return false

def noOfVirtIfs (i : Nat) (db : Database) : Option Nat :=
  db.pIface.bind fun t => t[i]?.map (·.noOfVirtIfs)

/-- One interface of `WanMgr_WanIfaceConfInit`; beyond the table there is none to configure. -/
def confIface (i : Nat) : DataM Bool := do
  update fun db => modifyIface i (fun d => db.outside.wanInterface i (ifaceDataInit i d)) db
  match ← observe (noOfVirtIfs i) with
  | none => return true
  | some n => (List.range n).allM (confVirtIf i)

def allocateIfaces (n : Nat) (db : Database) : Database :=
  { db with pIface := some (List.replicate maxWanInterfaceEntry {}), totalNumbWanInterfaces := n }

/-- `WanMgr_WanIfaceConfInit` -/
def wanIfaceConfInit : DataM Bool := do
  match ← observe (·.outside.totalNoOfWanInterfaces) with
  | none => return false
  | some n =>
    if ← allocate then
      update (allocateIfaces n)
      (List.range n).allM confIface
    else do
      update fun db => { db with pIface := none }
      return false

/-- `WanMgr_WanDataInit` -/
def wanDataInit : DataM Bool := do
  if ← lock then
    let ok ← wanIfaceConfInit
    unlock
    return ok
  else return false

/-- `WanMgr_WanConfInit`, on the locked configuration. -/
def wanConfInit : DataM Bool := do
  let r ← observe fun db => db.outside.wanConf db.config
  update fun db => { db with config := r.2 }
  return r.1

/-- The first part of `WanMgr_WanConfigInit`. -/
def initConfig : DataM Bool := do
  if (← getConfigDataLocked).isSome then
    let ok ← wanConfInit
    unlock
    return ok
  else return false

/-- `WanMgr_WanConfigInit` -/
def wanConfigInit : DataM Bool := do
  if ← initConfig then
    let _ ← groupConfigure
    wanDataInit
  else return false

/-! ## Operations -/

/-- `WanMgr_IfaceData_GetTotalWanIface` -/
def getTotalWanIface : DataM Nat := do
  if ← lock then
    let n ← observe (·.totalNumbWanInterfaces)
    unlock
    return n
  else return 0

/-- `WanMgr_GetTotalNoOfGroups`; `MAX_INTERFACE_GROUP` if the lock cannot be taken. -/
def getTotalNoOfGroups : DataM Nat := do
  if ← lock then
    let n ← observe (·.totalNumbWanIfaceGroup)
    unlock
    return n
  else return 2

/-- `WanMgr_GetIfaceAliasNameByIndex`: the caller's buffer is only written for an interface
of the table. -/
def getIfaceAliasNameByIndex (i : Nat) (buffer : String) : DataM String := do
  if ← lock then
    let name ← observe fun db => (db.pIface.bind fun t =>
      if i < db.totalNumbWanInterfaces then t[i]?.map (·.aliasName) else none).getD buffer
    unlock
    return name
  else return buffer

/-- The last interface whose name occurs in the alias, counted from 1. -/
def indexOfAlias (aliasName : String) (db : Database) : Nat :=
  match db.pIface with
  | none => 0
  | some t => (t.take db.totalNumbWanInterfaces).zipIdx.foldl
      (fun index d => if d.1.aliasName ≠ "" ∧ strstr aliasName d.1.aliasName then d.2 + 1 else index) 0

/-- `WanMgr_GetIfaceIndexByAliasName` -/
def getIfaceIndexByAliasName (aliasName : String) : DataM Nat := do
  if aliasName = "" then return 0
  else if ← lock then
    let index ← observe (indexOfAlias aliasName)
    unlock
    return index
  else return 0

def modifyGroup (g : Nat) (f : IfaceGroup → IfaceGroup) (db : Database) : Database :=
  { db with group := db.group.map fun t => t.modify g f }

/-- The remote group has one more interface; one that was deactivated need not know. -/
def addRemoteIface (i : Nat) (g : IfaceGroup) : IfaceGroup :=
  { g with
    interfaceAvailable := g.interfaceAvailable ||| 1 <<< i
    configChanged := if g.state = .deactivated then g.configChanged else true }

def addToRemoteGroup (i : Nat) : DataM Unit := do
  if (← getIfaceGroupLocked 1).isSome then
    update (modifyGroup 1 (addRemoteIface i))
    unlock

/-- `WanMgr_Remote_IfaceData_Update`; `REMOTE_INTERFACE_NAME` is `brRWAN` and the group 2. -/
def remoteIfaceDataUpdate (i : Nat) : DataM Unit := do
  update fun db => modifyIface i (fun d => { d with
    name := "brRWAN", displayName := "REMOTE", ifaceType := .remote
    selection := { d.selection with enable := true, priority := db.remotePriority, group := 2 } }) db
  addToRemoteGroup i
  update fun db => { db with remotePriority := db.remotePriority + 1 }

/-- One virtual interface of `WanMgr_Remote_IfaceData_configure`. -/
def confRemoteVirtIf (i v : Nat) : DataM Bool := do
  if ← allocate then
    update fun db => addVirtualToList i (db.outside.remoteVirtualInterface v
      { virIfIdx := v, baseIfIdx := i, enable := true, name := "brRWAN", ipv6Source := .static }) db
    return true
  else return false

/-- `WanMgr_Remote_IfaceData_configure`: neither a failed allocation nor a full table gives
the lock back. -/
def remoteIfaceDataConfigure (remoteCpeMac : String) : DataM Bool := do
  if ← lock then
    let i ← observe (·.totalNumbWanInterfaces)
    if i < maxWanInterfaceEntry then
      update (modifyIface i (ifaceDataInit i))
      match ← observe (noOfVirtIfs i) with
      | none => fault
      | some n =>
        if ← (List.range n).allM (confRemoteVirtIf i) then
          remoteIfaceDataUpdate i
          update fun db => { modifyIface i (fun d => { d with remoteCpeMac }) db with
            totalNumbWanInterfaces := db.totalNumbWanInterfaces + 1 }
          unlock
          return true
        else return false
    else return false
  else return false

/-- The configuration is locked to set `BootToWanUp`, which is not kept. -/
def updateBootToWanUp : DataM Unit := do
  if (← getConfigDataLocked).isSome then
    pure ()
    unlock

/-- One interface of `WanMgr_UpdatePrevData`. -/
def updateBaseInterfaceStatus (i : Nat) : DataM Unit := do
  if (← getIfaceDataLocked i).isSome then
    update fun db => modifyIface i (fun d => { d with
      baseInterfaceStatus := db.outside.baseInterfaceStatus i d.baseInterfaceStatus }) db
    unlock

/-- `WanMgr_UpdatePrevData` -/
def updatePrevData : DataM Bool := do
  updateBootToWanUp
  let n ← getTotalWanIface
  (List.range n).forM updateBaseInterfaceStatus
  return true

end DataLayer
end WanManager
