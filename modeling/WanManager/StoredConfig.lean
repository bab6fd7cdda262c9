import WanManager.Text.Dotted
import WanManager.Text.Scan
import WanManager.Concurrency.Detached

/-! # The configuration in PSM

What the write functions of the data model put into PSM for an interface, under which keys,
and what the start-up makes of it. A number is printed and read with `%d`, whatever its type. -/

namespace WanManager
open Text Concurrency

namespace StoredConfig

/-! ## Keys -/

/-- The keys of an interface, `PSM_WANMANAGER_IF_NAME` and so on. -/
inductive IfaceKey where
  | name | displayName | alias_ | type | baseInterface | virifCount
  | selectionEnable | selectionActiveLink | selectionRequiresReboot | selectionGroup
  | selectionPriority | selectionTimeout
  deriving DecidableEq, Repr

/-- What the key says after the number of the interface. -/
def IfaceKey.path : IfaceKey → List String
  | name => ["Name"]
  | displayName => ["DisplayName"]
  | alias_ => ["AliasName"]
  | type => ["Type"]
  | baseInterface => ["BaseInterface"]
  | virifCount => ["VirtualInterfaceifcount"]
  | selectionEnable => ["Selection", "Enable"]
  | selectionActiveLink => ["Selection", "ActiveLink"]
  | selectionRequiresReboot => ["Selection", "RequiresReboot"]
  | selectionGroup => ["Selection", "Group"]
  | selectionPriority => ["Selection", "Priority"]
  | selectionTimeout => ["Selection", "Timeout"]

/-- The keys of a virtual interface, `PSM_WANMANAGER_IF_VIRIF_NAME` and so on. -/
inductive VirifKey where
  | pppInterface | vlanInUse | vlanTimeout | vlanInterfaceCount | vlanMarkingCount
  | enable | alias_ | name | enableMapt | enableDslite
  | ipInterface | ipMode | ipV4Source | ipDhcpv4 | ipV6Source | ipDhcpv6 | ipPreferredMode
  | ipModeForceEnable | connectivityCheckType
  deriving DecidableEq, Repr

/-- What the key says after the number of the virtual interface. -/
def VirifKey.path : VirifKey → List String
  | pppInterface => ["PPPInterface"]
  | vlanInUse => ["VlanInUse"]
  | vlanTimeout => ["Timeout"]
  | vlanInterfaceCount => ["VlanCount"]
  | vlanMarkingCount => ["MarkingCount"]
  | enable => ["Enable"]
  | alias_ => ["Alias"]
  | name => ["Name"]
  | enableMapt => ["EnableMAPT"]
  | enableDslite => ["EnableDSLite"]
  | ipInterface => ["IPInterface"]
  | ipMode => ["IP", "Mode"]
  | ipV4Source => ["IP", "IPv4Source"]
  | ipDhcpv4 => ["IP", "DHCPV4Interface"]
  | ipV6Source => ["IP", "IPv6Source"]
  | ipDhcpv6 => ["IP", "DHCPV6Interface"]
  | ipPreferredMode => ["IP", "PreferredMode"]
  | ipModeForceEnable => ["IP", "ModeForceEnable"]
  | connectivityCheckType => ["IP", "ConnectivityCheckType"]

/-- A key with its numbers, which are counted from 1. -/
inductive PsmKey where
  | iface (i : Nat) (k : IfaceKey)
  | virif (i j : Nat) (k : VirifKey)
  /-- `PSM_WANMANAGER_IF_VIRIF_VLAN_INTERFACE_ENTRY` -/
  | vlanInterfaceEntry (i j k : Nat)
  /-- `PSM_WANMANAGER_IF_VIRIF_VLAN_MARKING_ENTRY` -/
  | vlanMarkingEntry (i j k : Nat)
  deriving DecidableEq, Repr

namespace PsmKey

def segments : PsmKey → List String
  | iface i k => ["dmsb", "wanmanager", "if", i.repr] ++ k.path
  | virif i j k => ["dmsb", "wanmanager", "if", i.repr, "VirtualInterface", j.repr] ++ k.path
  | vlanInterfaceEntry i j k =>
    ["dmsb", "wanmanager", "if", i.repr, "VirtualInterface", j.repr, "VLAN", k.repr, "Interface"]
  | vlanMarkingEntry i j k =>
    ["dmsb", "wanmanager", "if", i.repr, "VirtualInterface", j.repr, "Marking", k.repr, "Entry"]

def text (key : PsmKey) : String := dotted key.segments

end PsmKey

/-! ## The configuration -/

/-- A list counted by a `UINT`. -/
@[ext] structure Counted (α : Type) where
  entries : List α
  length_lt : entries.length < 2 ^ 32

namespace Counted

variable {α : Type}

def empty : Counted α := ⟨[], Nat.two_pow_pos 32⟩

def count (c : Counted α) : UInt32 := UInt32.ofNat c.entries.length

/-- The list a loop up to the count builds. -/
def ofFn (n : UInt32) (f : Nat → α) : Counted α :=
  ⟨(List.range n.toNat).map f, by simpa using n.toNat_lt⟩

end Counted

/-- The stored fields of `DML_VIRTUALIF_VLAN`; the two counts are those of the lists. -/
structure VlanConf where
  enable : Bool := false
  vlanInUse : String := ""
  timeout : UInt32 := 0
  interfaceList : Counted String := .empty
  virtMarking : Counted UInt32 := .empty

/-- The stored fields of `DML_WANIFACE_IP`. -/
structure IpConf where
  interface : String := ""
  mode : UInt32 := 3
  ipv4Source : UInt32 := 2
  dhcpv4Iface : String := ""
  ipv6Source : UInt32 := 2
  dhcpv6Iface : String := ""
  preferredMode : UInt32 := 1
  modeForceEnable : Bool := false
  connectivityCheckType : UInt32 := 0

/-- The stored fields of `DML_VIRTUAL_IFACE`, as `WanMgr_VirtIface_Init` leaves them in
cleared memory. -/
structure VirtIfConf where
  name : String := ""
  alias_ : String := ""
  enable : Bool := false
  enableMapt : Bool := false
  enableDslite : Bool := false
  pppEnable : Bool := false
  pppInterface : String := ""
  vlan : VlanConf := {}
  ip : IpConf := {}

/-- The stored fields of `DML_IFACE_SELECTION`. -/
structure SelectionConf where
  enable : Bool := false
  activeLink : Bool := false
  priority : UInt32 := 0 - 1
  timeout : UInt32 := 0
  group : UInt32 := 1
  requiresReboot : Bool := false

/-- The stored fields of `DML_WAN_IFACE` but for the virtual interfaces, as
`WanMgr_IfaceData_Init` leaves them. -/
structure IfaceData where
  name : String := ""
  displayName : String := ""
  aliasName : String := ""
  baseInterface : String := ""
  type : UInt32 := 1
  selection : SelectionConf := {}

structure IfaceConf where
  data : IfaceData := {}
  virtIfList : Counted VirtIfConf

/-! ## Writing -/

def boolText (b : Bool) : String := if b then "TRUE" else "FALSE"

/-- `write_Wan_Interface_ParametersFromPSM` -/
def writeWanInterfaceParameters (i : Nat) (d : IfaceData) : List (PsmKey × String) :=
  [(.iface i .selectionEnable, boolText d.selection.enable),
   (.iface i .type, printInt d.type),
   (.iface i .selectionTimeout, printInt d.selection.timeout),
   (.iface i .selectionGroup, printInt d.selection.group),
   (.iface i .selectionRequiresReboot, boolText d.selection.requiresReboot),
   (.iface i .selectionPriority, printInt d.selection.priority),
   (.iface i .baseInterface, d.baseInterface)]

/-- `write_Virtual_Interface_ToPSM` -/
def writeVirtualInterface (i j : Nat) (v : VirtIfConf) : List (PsmKey × String) :=
  [(.virif i (j + 1) .enableDslite, boolText v.enableDslite),
   (.virif i (j + 1) .enableMapt, boolText v.enableMapt),
   (.virif i (j + 1) .enable, boolText v.enable),
   (.virif i (j + 1) .name, v.name),
   (.virif i (j + 1) .alias_, v.alias_),
   (.virif i (j + 1) .pppInterface, v.pppInterface),
   (.virif i (j + 1) .vlanTimeout, printInt v.vlan.timeout),
   (.virif i (j + 1) .vlanInterfaceCount, printInt v.vlan.interfaceList.count),
   (.virif i (j + 1) .vlanMarkingCount, printInt v.vlan.virtMarking.count),
   (.virif i (j + 1) .ipInterface, v.ip.interface),
   (.virif i (j + 1) .ipMode, printInt v.ip.mode),
   (.virif i (j + 1) .ipV4Source, printInt v.ip.ipv4Source),
   (.virif i (j + 1) .ipDhcpv4, v.ip.dhcpv4Iface),
   (.virif i (j + 1) .ipV6Source, printInt v.ip.ipv6Source),
   (.virif i (j + 1) .ipDhcpv6, v.ip.dhcpv6Iface),
   (.virif i (j + 1) .ipPreferredMode, printInt v.ip.preferredMode),
   (.virif i (j + 1) .ipModeForceEnable, boolText v.ip.modeForceEnable)]

/-- `write_VirtMarking_ParametersToPSM` -/
def writeVirtMarking (baseIfIdx virIfIdx instance_ : Nat) (entry : UInt32) : List (PsmKey × String) :=
  [(.vlanMarkingEntry (baseIfIdx + 1) (virIfIdx + 1) (instance_ + 1), printInt entry)]

/-- `write_VlanInterface_ParametersToPSM`, under the key of a marking. -/
def writeVlanInterface (baseIfIdx virIfIdx index : Nat) (interface : String) : List (PsmKey × String) :=
  [(.vlanMarkingEntry (baseIfIdx + 1) (virIfIdx + 1) (index + 1), interface)]

/-- The calls that write what belongs to one virtual interface. -/
def virtIfCalls (idx j : Nat) (v : VirtIfConf) : List (List (PsmKey × String)) :=
  writeVirtualInterface (idx + 1) j v ::
    (v.vlan.interfaceList.entries.zipIdx.map (fun e => writeVlanInterface idx j e.2 e.1) ++
      v.vlan.virtMarking.entries.zipIdx.map fun e => writeVirtMarking idx j e.2 e.1)

/-- The calls that write the configuration of the interface with index `idx`. -/
def saveCalls (idx : Nat) (c : IfaceConf) : List (List (PsmKey × String)) :=
  writeWanInterfaceParameters (idx + 1) c.data ::
    c.virtIfList.entries.zipIdx.flatMap fun e => virtIfCalls idx e.2 e.1

/-- PSM, found empty, after these writes, which all succeed. -/
def store (writes : List (PsmKey × String)) (name : String) : Option String :=
  Crowd.lastWrite (fun w => if w.1.text = name then some w.2 else none) writes

/-! ## Loading -/

/-- A variable after `sscanf (_, "%d", _)` on what was read, if anything was. -/
def scanOr (text : Option String) (n : UInt32) : UInt32 :=
  match text with
  | some t => ((scanInt t.toList).map (·.1)).getD n
  | none => n

/-- `strncmp` with a table name up to its length -/
def startsWith (table text : String) : Bool := table.toList.isPrefixOf text.toList

/-- `get_Wan_Interface_ParametersFromPSM`, with `NoOfVirtIfs`. -/
def getWanInterfaceParameters (psm : String → Option String) (i : Nat) : IfaceData × UInt32 :=
  let get := fun k => psm (PsmKey.iface i k).text
  let timeout := scanOr (get .selectionTimeout) 0
  ({ name := (get .name).getD ""
     displayName := (get .displayName).getD ""
     aliasName := (get .alias_).getD ""
     baseInterface := (get .baseInterface).getD ""
     type := scanOr (get .type) 1
     selection :=
       { enable := get .selectionEnable = some "TRUE"
         activeLink := get .selectionActiveLink = some "TRUE"
         priority := scanOr (get .selectionPriority) (0 - 1)
         timeout := if timeout < 20 then 20 else timeout
         group := scanOr (get .selectionGroup) 1
         requiresReboot := get .selectionRequiresReboot = some "TRUE" } },
   scanOr (get .virifCount) 1)

/-- The first loop of `WanMgr_VirtIfConfVLAN` -/
def vlanInterfaceEntries (psm : String → Option String) (ifid j : Nat) (n : UInt32) : Counted String :=
  .ofFn n fun k => (psm (PsmKey.vlanInterfaceEntry (ifid + 1) (j + 1) (k + 1)).text).getD ""

/-- The second loop of `WanMgr_VirtIfConfVLAN` -/
def vlanMarkingEntries (psm : String → Option String) (ifid j : Nat) (n : UInt32) : Counted UInt32 :=
  .ofFn n fun k => scanOr (psm (PsmKey.vlanMarkingEntry (ifid + 1) (j + 1) (k + 1)).text) 0

/-- `WanMgr_VirtIface_Init`, `get_Virtual_Interface_FromPSM` and `WanMgr_VirtIfConfVLAN` for
one virtual interface. A text that is not stored is read as the empty one. -/
def loadVirtualInterface (psm : String → Option String) (maptRfc : String) (idx j : Nat) : VirtIfConf :=
  let get := fun k => psm (PsmKey.virif (idx + 1) (j + 1) k).text
  let pppInterface := (get .pppInterface).getD ""
  let vlanInUse := (get .vlanInUse).getD ""
  let interfaceEntries := scanOr (get .vlanInterfaceCount) 0
  { name := (get .name).getD ""
    alias_ := (get .alias_).getD ""
    enable := get .enable = some "TRUE"
    enableMapt := get .enableMapt = some "TRUE" ∨ maptRfc = "true"
    enableDslite := get .enableDslite = some "TRUE"
    pppEnable := startsWith "Device.PPP.Interface." pppInterface
    pppInterface
    vlan :=
      { enable := startsWith "Device.X_RDK_Ethernet.VLANTermination." vlanInUse ∨ 0 < interfaceEntries
        vlanInUse
        timeout := scanOr (get .vlanTimeout) 0
        interfaceList := vlanInterfaceEntries psm idx j interfaceEntries
        virtMarking := vlanMarkingEntries psm idx j (scanOr (get .vlanMarkingCount) 0) }
    ip :=
      { interface := (get .ipInterface).getD ""
        mode := scanOr (get .ipMode) 3
        ipv4Source := scanOr (get .ipV4Source) 2
        dhcpv4Iface := (get .ipDhcpv4).getD ""
        ipv6Source := scanOr (get .ipV6Source) 2
        dhcpv6Iface := (get .ipDhcpv6).getD ""
        preferredMode := scanOr (get .ipPreferredMode) 1
        modeForceEnable := get .ipModeForceEnable = some "TRUE"
        connectivityCheckType := scanOr (get .connectivityCheckType) 0 } }

/-- What `WanMgr_WanIfaceConfInit` does for the interface with index `idx`. -/
def loadInterface (psm : String → Option String) (maptRfc : String) (idx : Nat) : IfaceConf :=
  let (data, noOfVirtIfs) := getWanInterfaceParameters psm (idx + 1)
  { data, virtIfList := .ofFn noOfVirtIfs fun j => loadVirtualInterface psm maptRfc idx j }

end StoredConfig
end WanManager
