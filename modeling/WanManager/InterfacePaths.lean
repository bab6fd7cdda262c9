import WanManager.Types
import WanManager.Text.Scan

/-! # Interface paths on the bus

The handlers of `Device.X_RDK_WanManager.Interface.{i}.` find the interface, the virtual
interface and the field of a request in the text of its path. The interface may also be
named by its alias, in brackets; that path reaches what the path with the index reaches
exactly when the text of the alias is not mistaken for anything else. -/

namespace WanManager
open Text

/-- `DML_WANIFACE_SUBSCRIBE` -/
structure WanIfaceSubscribe where
  baseInterfaceStatusSub : Nat := 0
  wanStatusSub : Nat := 0
  wanLinkStatusSub : Nat := 0
  wanEnableSub : Nat := 0
  deriving DecidableEq, Repr

/-- `DML_WAN_IFACE` with what only the bus handlers read of it. -/
structure DmlWanIface extends WanIface where
  aliasName : String := ""
  sub : WanIfaceSubscribe := {}
  deriving DecidableEq, Repr

namespace InterfacePaths

/-- `WANMGR_INFACE_TABLE` -/
def ifaceTable : String := "Device.X_RDK_WanManager.Interface"

/-- `WANMGR_V1_INFACE_TABLE` -/
def v1IfaceTable : String := "Device.X_RDK_WanManager.CPEInterface"

/-- `rbusError_t` -/
inductive RbusError where
  | busError | invalidInput
  deriving DecidableEq, Repr

/-- `rbusValue_t`: `unset` is what `rbusValue_Init` leaves. -/
inductive RbusValue where
  | unset
  | string (text : String)
  | boolean (b : Bool)
  deriving DecidableEq, Repr

/-- What a handler is called for. -/
inductive Request where
  | get | set | subscribe
  deriving DecidableEq, Repr

/-- What a branch of a handler works on. -/
inductive Field where
  | baseInterfaceStatus | vlanStatus | status | selectionEnable | aliasName
  | ipv4Address | ipv6Address | sitePrefix
  deriving DecidableEq, Repr

/-! ## The path -/

/-- The conversions of `sscanf` for a path of the old table. -/
def v1Format : List Conversion := [.lit "Device.X_RDK_WanManager.CPEInterface.", .int, .lit "."]

/-- The conversions for a path of the interface table. A subscription has no variable for
the index of the virtual interface. -/
def format : Request → List Conversion
  | .get | .set =>
    [.lit "Device.X_RDK_WanManager.Interface.", .int, .lit ".VirtualInterface.", .int, .lit "."]
  | .subscribe => [.lit "Device.X_RDK_WanManager.Interface.", .int, .lit "."]

/-- `index` and `VirtIfIndex` after the path was scanned for numbers. -/
def scanIndices (r : Request) (name : String) : Nat × Nat :=
  match sscanf (if strstr name v1IfaceTable then v1Format else format r) name.toList with
  | [.int index] => (index.toNat, 1)
  | [.int index, .int virtIfIndex] => (index.toNat, virtIfIndex.toNat)
  | _ => (0, 1)

/-- `AliasName` after the path was scanned for a word. -/
def scanAliasName (name : String) : String :=
  match sscanf [.lit "Device.X_RDK_WanManager.Interface.", .word 63, .lit "."] name.toList with
  | .word text :: _ => text
  | _ => ""

/-- `WanMgr_GetIfaceIndexByAliasName`: the last alias that occurs in the text. -/
def getIfaceIndexByAliasName (ifaces : List DmlWanIface) (aliasName : String) : Nat :=
  if aliasName = "" then 0
  else lastMatch (fun d => d.aliasName ≠ "" ∧ strstr aliasName d.aliasName) ifaces

/-- The tests each handler makes of the path, in their order. `WANMGR_PHY_STATUS_CHECK`,
`WANMGR_WAN_LINKSTATUS_CHECK` and `WANMGR_WAN_STATUS_CHECK` look for two names. -/
def fieldTests : Request → List (List String × Field)
  | .get =>
    [([".BaseInterfaceStatus", ".Phy.Status"], .baseInterfaceStatus),
     ([".VlanStatus", ".Wan.LinkStatus"], .vlanStatus),
     ([".Status", ".Wan.Status"], .status),
     ([".Selection.Enable"], .selectionEnable),
     ([".Alias"], .aliasName),
     (["IP.IPv4Address"], .ipv4Address),
     (["IP.IPv6Address"], .ipv6Address),
     (["IP.IPv6Prefix"], .sitePrefix)]
  | .set =>
    [([".BaseInterfaceStatus"], .baseInterfaceStatus),
     ([".VlanStatus"], .vlanStatus),
     ([".Status"], .status),
     ([".Selection.Enable"], .selectionEnable)]
  | .subscribe =>
    [([".BaseInterfaceStatus", ".Phy.Status"], .baseInterfaceStatus),
     ([".VlanStatus", ".Wan.LinkStatus"], .vlanStatus),
     ([".Status", ".Wan.Status"], .status),
     ([".Selection.Enable"], .selectionEnable)]

/-- The field of the first test that finds a name in the path. -/
def fieldOf (r : Request) (name : String) : Option Field :=
  ((fieldTests r).find? fun e => e.1.any (strstr name)).map (·.2)

/-- What a request acts on: the number of an interface and of a virtual interface, counted
from 1, and the branch that is taken, if any. -/
structure Target where
  index : Nat
  virtIfIndex : Nat
  field : Option Field
  deriving DecidableEq, Repr

/-- How every handler begins. -/
def target (r : Request) (ifaces : List DmlWanIface) (name : String) : Except RbusError Target :=
  let (index, virtIfIndex) := scanIndices r name
  let index := if index = 0 then getIfaceIndexByAliasName ifaces (scanAliasName name) else index
  if index = 0 then .error .invalidInput else .ok ⟨index, virtIfIndex, fieldOf r name⟩

/-! ## The handlers -/

/-- `WanMgr_EnumToString (_, ENUM_PHY, _)` -/
def phyToString : PhyStatus → String
  | .down => "Down" | .initializing => "Initializing" | .up => "Up" | .unknown => "Unknown"

/-- `WanMgr_EnumToString (_, ENUM_WAN_STATUS, _)` -/
def wanStatusToString : IfaceStatus → String
  | .initialising => "Initialising" | .validating => "Validating" | .up | .standby => "Up"
  | .valid => "Standby" | .invalid => "Invalid" | .disabled => "Disabled"

/-- `WanMgr_EnumToString (_, ENUM_WAN_LINKSTATUS, _)` -/
def linkStatusToString : LinkStatus → String
  | .configuring => "Configuring" | .up => "Up" | .down => "Down"

/-- `WanMgr_StringToEnum (_, ENUM_PHY, _)` -/
def phyOfString (s : String) : PhyStatus :=
  if s = "Down" then .down else if s = "Initializing" then .initializing
  else if s = "Up" then .up else .unknown

/-- `WanMgr_StringToEnum (_, ENUM_WAN_STATUS, _)` -/
def wanStatusOfString (s : String) : IfaceStatus :=
  if s = "Initialising" then .initialising else if s = "Validating" then .validating
  else if s = "Up" then .up else if s = "Standby" then .standby
  else if s = "Invalid" then .invalid else .disabled

/-- `WanMgr_StringToEnum (_, ENUM_WAN_LINKSTATUS, _)` -/
def linkStatusOfString (s : String) : LinkStatus :=
  if s = "Configuring" then .configuring else if s = "Up" then .up else .down

/-- `WanMgr_getVirtualIfaceById (_, VirtIfIndex - 1)`; the index of 0 wraps. -/
def virtIf? (d : DmlWanIface) : Nat → Option VirtualIface
  | 0 => none
  | v + 1 => d.virtualIfaceById v

def modifyVirtIf (d : DmlWanIface) (virtIfIndex : Nat) (f : VirtualIface → VirtualIface) : DmlWanIface :=
  { d with toWanIface := d.toWanIface.modifyVirtIf (virtIfIndex - 1) f }

/-- The branches of `WanMgr_Interface_GetHandler`; `none` when the pointer to the virtual
interface is null. -/
def readField (d : DmlWanIface) (virtIfIndex : Nat) : Option Field → Option RbusValue
  | some .baseInterfaceStatus => some (.string (phyToString d.baseInterfaceStatus))
  | some .vlanStatus => do
    let v ← virtIf? d virtIfIndex
    return .string (linkStatusToString v.vlan.status)
  | some .status => do
    let v ← virtIf? d virtIfIndex
    if d.ifaceType = .remote ∧ v.remoteStatus ≠ .up then
      return .string (wanStatusToString v.remoteStatus)
    else return .string (wanStatusToString v.status)
  | some .selectionEnable => some (.boolean d.selection.enable)
  | some .aliasName => some (.string d.aliasName)
  | some .ipv4Address => do
    let v ← virtIf? d virtIfIndex
    return .string v.ip.ipv4Data.ip
  | some .ipv6Address => do
    let v ← virtIf? d virtIfIndex
    return .string v.ip.ipv6Data.address
  | some .sitePrefix => do
    let v ← virtIf? d virtIfIndex
    return .string v.ip.ipv6Data.sitePrefix
  | none => some .unset

/-- `WanMgr_Interface_GetHandler` -/
def interfaceGetHandler (ifaces : List DmlWanIface) :
    Option String → Option (Except RbusError RbusValue)
  | none => some (.error .busError)
  | some name =>
    match target .get ifaces name with
    | .error e => some (.error e)
    | .ok t =>
      match ifaces[t.index - 1]? with
      | some d => (readField d t.virtIfIndex t.field).map .ok
      | none => some (.ok .unset)

/-- What a set does besides its return value. -/
structure SetEffect where
  iface : DmlWanIface
  published : List (String × RbusValue) := []
  psm : List (String × String) := []
  deriving DecidableEq, Repr

/-- An event under the name of the request, and one under the name in the old table. -/
def publishTwice (subscribed : Bool) (name : String) (index : Nat) (v1Suffix text : String) :
    List (String × RbusValue) :=
  if subscribed then
    [(name, .string text), (v1IfaceTable ++ "." ++ index.repr ++ v1Suffix, .string text)]
  else []

/-- The branches of `WanMgr_Interface_SetHandler`; a text is cut to the 19 characters of its
buffer. -/
def writeField (d : DmlWanIface) (name : String) (t : Target) (value : RbusValue) :
    Option (Except RbusError SetEffect) :=
  match t.field, value with
  | some .baseInterfaceStatus, .string text =>
    let s := String.ofList (text.toList.take 19)
    some (.ok { iface := { d with baseInterfaceStatus := phyOfString s },
                published := publishTwice (0 < d.sub.baseInterfaceStatusSub) name t.index
                  ".Phy.Status" s })
  | some .vlanStatus, .string text => do
    let s := String.ofList (text.toList.take 19)
    let _ ← virtIf? d t.virtIfIndex
    return .ok { iface := modifyVirtIf d t.virtIfIndex fun v =>
                   { v with vlan := { v.vlan with status := linkStatusOfString s } },
                 published := publishTwice (0 < d.sub.wanLinkStatusSub) name t.index
                   ".Wan.LinkStatus" s }
  | some .status, .string text => do
    let s := String.ofList (text.toList.take 19)
    let _ ← virtIf? d t.virtIfIndex
    return .ok { iface := modifyVirtIf d t.virtIfIndex fun v =>
                   { v with status := wanStatusOfString s },
                 published := publishTwice (0 < d.sub.wanStatusSub) name t.index ".Wan.Status" s }
  | some .selectionEnable, .boolean enable =>
    some (.ok { iface := { d with selection := { d.selection with enable } },
                published := if 0 < d.sub.wanEnableSub then [(name, .boolean enable)] else [],
                psm := [("dmsb.wanmanager.if." ++ t.index.repr ++ ".Selection.Enable",
                         if enable then "TRUE" else "FALSE")] })
  | some .baseInterfaceStatus, _ | some .vlanStatus, _ | some .status, _
  | some .selectionEnable, _ => some (.error .invalidInput)
  | _, _ => some (.ok { iface := d })

/-- `WanMgr_Interface_SetHandler`: with no such interface nothing is done. -/
def interfaceSetHandler (ifaces : List DmlWanIface) (value : RbusValue) :
    Option String → Option (Except RbusError (Option SetEffect))
  | none => some (.error .busError)
  | some name =>
    match target .set ifaces name with
    | .error e => some (.error e)
    | .ok t =>
      match ifaces[t.index - 1]? with
      | some d => (writeField d name t value).map (·.map some)
      | none => some (.ok none)

/-- `rbusEventSubAction_t` -/
inductive SubAction where
  | subscribe | unsubscribe
  deriving DecidableEq, Repr

def SubAction.count : SubAction → Nat → Nat
  | .subscribe, n => n + 1
  | .unsubscribe, n => n - 1

/-- The branches of `wanMgrDmlPublishEventHandler` -/
def countSub (action : SubAction) (s : WanIfaceSubscribe) : Option Field → WanIfaceSubscribe
  | some .baseInterfaceStatus =>
    { s with baseInterfaceStatusSub := action.count s.baseInterfaceStatusSub }
  | some .vlanStatus => { s with wanLinkStatusSub := action.count s.wanLinkStatusSub }
  | some .status => { s with wanStatusSub := action.count s.wanStatusSub }
  | some .selectionEnable => { s with wanEnableSub := action.count s.wanEnableSub }
  | _ => s

/-- `wanMgrDmlPublishEventHandler` -/
def dmlPublishEventHandler (ifaces : List DmlWanIface) (action : SubAction) :
    Option String → Except RbusError (List DmlWanIface)
  | none => .error .busError
  | some name =>
    match target .subscribe ifaces name with
    | .error e => .error e
    | .ok t => .ok (ifaces.modify (t.index - 1) fun d => { d with sub := countSub action d.sub t.field })

end InterfacePaths
end WanManager
