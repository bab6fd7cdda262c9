import Mathlib.Algebra.Group.Int.Defs
import Mathlib.Algebra.Group.Nat.Defs
import Mathlib.Data.List.Infix
/-! # The WAN manager's data model

The enumerations and records of `wanmgr_dml.h`, restricted to the fields the failover
machine, the selection policies and the interface state machine read or write. `BOOL` is
`Bool`, a `UINT` counter is a `Nat` reduced where it can wrap, and a `struct timespec` is
its `tv_sec`.
-/

namespace WanManager

/-! ## Enumerations -/

/-- `ANSC_STATUS` -/
inductive AnscStatus where
  | success | failure
  deriving DecidableEq, Repr

/-- `DML_WAN_IFACE_STATUS` -/
inductive IfaceStatus where
  | disabled | initialising | validating | valid | up | invalid | standby
  deriving DecidableEq, Repr, Inhabited

/-- `WANMGR_IFACE_SELECTION` -/
inductive SelectionStatus where
  | unknown | notSelected | validating | selected | active
  deriving DecidableEq, Repr, Inhabited

/-- `DML_WAN_IFACE_PHY_STATUS` -/
inductive PhyStatus where
  | down | initializing | up | unknown
  deriving DecidableEq, Repr, Inhabited

/-- `DML_WAN_IFACE_IPV4_STATUS` and `DML_WAN_IFACE_IPV6_STATUS` -/
inductive LeaseStatus where
  | up | down | unknown
  deriving DecidableEq, Repr, Inhabited

/-- `DML_WAN_IFACE_MAPT_STATUS` -/
inductive MaptStatus where
  | up | down
  deriving DecidableEq, Repr, Inhabited

/-- `CONNECTIVITY_STATUS` -/
inductive ConnectivityStatus where
  | unknown | up | down
  deriving DecidableEq, Repr, Inhabited

/-- `CONNECTIVITY_CHECK_TYPE` -/
inductive ConnectivityCheckType where
  | noCheck | ihc | tad
  deriving DecidableEq, Repr, Inhabited

/-- `DML_WAN_IFACE_LINKSTATUS` and `DML_WAN_IFACE_PPP_LINK_STATUS` -/
inductive LinkStatus where
  | down | configuring | up
  deriving DecidableEq, Repr, Inhabited

/-- `DML_WAN_IFACE_IPCP_STATUS` and `DML_WAN_IFACE_IPV6CP_STATUS` -/
inductive IpcpStatus where
  | down | up
  deriving DecidableEq, Repr, Inhabited

/-- `DML_WAN_IP_SOURCE` -/
inductive IpSource where
  | static | dhcp | ppp
  deriving DecidableEq, Repr, Inhabited

/-- `DML_WAN_IP_MODE` -/
inductive IpMode where
  | ipv4Only | ipv6Only | dualStack | noIp
  deriving DecidableEq, Repr, Inhabited

/-- `DML_WAN_IP_PREFERRED_MODE` -/
inductive PreferredMode where
  | dualStack | mapt | mape | dslite
  deriving DecidableEq, Repr, Inhabited

/-- `WANMGR_DHCPC_STATUS` -/
inductive DhcpcStatus where
  | unknown | started | stopped | failed
  deriving DecidableEq, Repr, Inhabited

/-- `TIMER_STATUS` -/
inductive TimerStatus where
  | notStarted | expired | running | complete
  deriving DecidableEq, Repr, Inhabited

/-- `IFACE_TYPE` -/
inductive IfaceType where
  | local_ | remote
  deriving DecidableEq, Repr, Inhabited

/-- `WAN_IFACE_GROUP_STATUS` -/
inductive GroupState where
  | unknown | running | stopped | deactivated
  deriving DecidableEq, Repr, Inhabited

/-- `FAILOVER_TYPE` -/
inductive FailOverType where
  | hotswap | coldswap
  deriving DecidableEq, Repr, Inhabited

/-- `DML_WAN_POLICY` -/
inductive WanPolicy where
  | fixedModeOnBootup | fixedMode | primaryPriorityOnBootup | primaryPriority | multiwan
  | autowan | parallelScan
  deriving DecidableEq, Repr, Inhabited

/-- `eWanState_t` -/
inductive WanState where
  | exit | vlanConfiguring | pppConfiguring | validatingWan | obtainingIpAddresses
  | ipv4Leased | ipv6Leased | dualStackActive | maptActive
  | refreshingWan | deconfiguringWan | standby
  deriving DecidableEq, Repr, Inhabited

/-- `wanmgr_iface_status_t`; the two link states have no effect. -/
inductive IfaceEvent where
  | connectionUp | connectionDown | connectionIpv6Up | connectionIpv6Down | maptStart | maptStop
  deriving DecidableEq, Repr, Inhabited

/-- `TelemetryEvent_t`; the controller starts it at 0, which names no event. -/
inductive TelemetryEvent where
  | none | failoverSuccess | failoverFail | restoreSuccess | restoreFail
  deriving DecidableEq, Repr, Inhabited

/-- Whether a C string occurs in another. -/
def strstr (s sub : String) : Bool := decide (sub.toList <:+: s.toList)

/-- A C string up to the first occurrence of a character. -/
def upTo (c : Char) (s : String) : String := String.ofList (s.toList.takeWhile (· ≠ c))

/-! ## Interfaces -/

/-- The part of `DML_VIRTUALIF_VLAN` the interface state machine works on. -/
structure VirtIfVlan where
  enable : Bool := false
  vlanInUse : String := ""
  activeIndex : Nat := 0
  timeout : Nat := 0
  interfaceList : List String := []
  status : LinkStatus := .down
  expired : Bool := false
  reset : Bool := false
  timerStart : Nat := 0
  deriving DecidableEq, Repr, Inhabited

/-- `DATAMODEL_PPP` -/
structure PppData where
  enable : Bool := false
  interface : String := ""
  ipcpStatus : IpcpStatus := .down
  ipv6cpStatus : IpcpStatus := .down
  ipcpStatusChanged : Bool := false
  ipv6cpStatusChanged : Bool := false
  linkStatus : LinkStatus := .down
  deriving DecidableEq, Repr, Inhabited

/-- `IFADDRCONF_ADD` and `IFADDRCONF_REMOVE` -/
inductive IfAddrConf where
  | add | remove
  deriving DecidableEq, Repr, Inhabited

/-- The address, the gateway and the name servers of a DHCPv4 lease. -/
structure Ipv4Lease where
  ip : String := ""
  mask : String := ""
  gateway : String := ""
  dnsServer : String := ""
  dnsServer1 : String := ""
  deriving DecidableEq, Repr, Inhabited

/-- What the DHCP manager tells of a DHCPv4 lease. -/
structure Ipv4Terms extends Ipv4Lease where
  ifname : String := ""
  mtuSize : UInt32 := 0
  timeOffset : Int := 0
  isTimeOffsetAssigned : Bool := false
  timeZone : String := ""
  upstreamCurrRate : Nat := 0
  deriving DecidableEq, Repr, Inhabited

/-- `WANMGR_IPV4_DATA` -/
structure Ipv4Data extends Ipv4Terms where
  leaseReceivedTime : Nat := 0
  downstreamCurrRate : Nat := 0
  dhcpServerId : String := ""
  dhcpState : String := ""
  leaseTime : Nat := 0
  deriving DecidableEq, Repr, Inhabited

/-- The address, the prefix and the name servers of a DHCPv6 lease. -/
structure Ipv6Lease where
  address : String := ""
  sitePrefix : String := ""
  nameserver : String := ""
  nameserver1 : String := ""
  deriving DecidableEq, Repr, Inhabited

/-- What the DHCP manager tells of a DHCPv6 lease. -/
structure Ipv6Terms extends Ipv6Lease where
  ifname : String := ""
  domainName : String := ""
  prefixPltime : Nat := 0
  prefixVltime : Nat := 0
  addrAssigned : Bool := false
  prefixAssigned : Bool := false
  domainNameAssigned : Bool := false
  ipv6TimeOffset : Nat := 0
  deriving DecidableEq, Repr, Inhabited

/-- `WANMGR_IPV6_DATA` -/
structure Ipv6Data extends Ipv6Terms where
  pdIfAddress : String := ""
  sitePrefixOld : String := ""
  addrCmd : IfAddrConf := .add
  prefixCmd : IfAddrConf := .add
  deriving DecidableEq, Repr, Inhabited

/-- `DML_WANIFACE_IP` -/
structure IfaceIp where
  ipv4Status : LeaseStatus := .down
  ipv6Status : LeaseStatus := .down
  connectivityCheckType : ConnectivityCheckType := .noCheck
  connectivityCheckRunning : Bool := false
  wccTypeChanged : Bool := false
  ipv4ConnectivityStatus : ConnectivityStatus := .up
  ipv6ConnectivityStatus : ConnectivityStatus := .up
  ipv4Source : IpSource := .dhcp
  ipv6Source : IpSource := .dhcp
  restartConnectivityCheck : Bool := false
  refreshDhcp : Bool := false
  mode : IpMode := .dualStack
  modeForceEnable : Bool := false
  preferredMode : PreferredMode := .dualStack
  selectedMode : PreferredMode := .dualStack
  selectedModeTimerStart : Nat := 0
  selectedModeTimerStatus : TimerStatus := .notStarted
  ipv4Changed : Bool := false
  ipv6Changed : Bool := false
  ipv4Renewed : Bool := false
  ipv6Renewed : Bool := false
  ipv4Data : Ipv4Data := {}
  ipv6Data : Ipv6Data := {}
  dhcp4cStatus : DhcpcStatus := .stopped
  dhcp6cStatus : DhcpcStatus := .stopped
  deriving DecidableEq, Repr, Inhabited

/-- `DML_WANIFACE_MAP` -/
structure IfaceMap where
  maptStatus : MaptStatus := .down
  maptChanged : Bool := false
  deriving DecidableEq, Repr, Inhabited

/-- `DML_VIRTUAL_IFACE` -/
structure VirtualIface where
  enable : Bool := true
  enableMapt : Bool := false
  status : IfaceStatus := .disabled
  remoteStatus : IfaceStatus := .disabled
  vlan : VirtIfVlan := {}
  reset : Bool := false
  ip : IfaceIp := {}
  ppp : PppData := {}
  map : IfaceMap := {}
  eCurrentState : WanState := .exit
  interfaceSmRunning : Bool := false
  deriving DecidableEq, Repr, Inhabited

/-- `DML_IFACE_SELECTION` -/
structure IfaceSelection where
  enable : Bool := true
  priority : Int := 0
  timeout : Nat := 0
  status : SelectionStatus := .notSelected
  activeLink : Bool := false
  group : Nat := 1
  requiresReboot : Bool := false
  rebootTriggerStatus : Bool := false
  deriving DecidableEq, Repr, Inhabited

/-- `DML_WAN_IFACE`. The state machines dereference the head of `VirtIfList` without a
test, so an interface has at least one virtual interface: the head, then the rest. -/
structure WanIface where
  baseInterface : String := ""
  baseInterfaceStatus : PhyStatus := .down
  selection : IfaceSelection := {}
  ifaceType : IfaceType := .local_
  virtIfChanged : Bool := false
  virtIf : VirtualIface := {}
  moreVirtIfs : List VirtualIface := []
  deriving DecidableEq, Repr, Inhabited

namespace WanIface

/-- The whole `VirtIfList`; `NoOfVirtIfs` is its length. -/
def virtIfs (i : WanIface) : List VirtualIface := i.virtIf :: i.moreVirtIfs

/-- `WanMgr_getVirtualIfaceById`: the list is built with `VirIfIdx` its position. -/
def virtualIfaceById (i : WanIface) (v : Nat) : Option VirtualIface := i.virtIfs[v]?

def modifyVirtIf (i : WanIface) (v : Nat) (f : VirtualIface → VirtualIface) : WanIface :=
  match v with
  | 0 => { i with virtIf := f i.virtIf }
  | v + 1 => { i with moreVirtIfs := i.moreVirtIfs.modify v f }

end WanIface

/-! ## Groups and configuration -/

/-- `WANMGR_IFACE_GROUP`; of `ThreadId` only whether it names a thread matters. -/
structure IfaceGroup where
  threadId : Option Nat := none
  state : GroupState := .stopped
  interfaceAvailable : Nat := 0
  selectedInterface : Nat := 0
  selectionTimeOut : Nat := 0
  activationCount : Nat := 0
  persistSelectedIface : Bool := false
  policy : WanPolicy := .autowan
  configChanged : Bool := false
  resetSelectedInterface : Bool := false
  initialScanComplete : Bool := false
  deriving DecidableEq, Repr, Inhabited

/-- `DML_WANMGR_CONFIG` -/
structure WanConfig where
  enable : Bool := true
  deviceNwModeChanged : Bool := false
  resetFailOverScan : Bool := false
  allowRemoteInterfaces : Bool := false
  restorationDelay : Nat := 0
  deriving DecidableEq, Repr, Inhabited

/-! ## Controllers -/

/-- `WcFailOverState_t` -/
inductive FailOverState where
  | scanningGroup | groupActive | restorationWait | deactivateGroup | exit | error
  deriving DecidableEq, Repr, Inhabited

/-- `WanMgr_FailOver_Controller_t`; the LED fields drive no decision. -/
structure FailOverController where
  wanEnable : Bool := false
  failOverType : FailOverType := .hotswap
  currentActiveGroup : Nat := 0
  highestValidGroup : Nat := 0
  groupSelectionTimer : Nat := 0
  failOverTimer : Nat := 0
  restorationDelay : Nat := 0
  resetScan : Bool := false
  telemetryEvent : TelemetryEvent := .none
  allowRemoteInterfaces : Bool := false
  deriving DecidableEq, Repr, Inhabited

/-- `WanMgr_Policy_Controller_t`; `activeInterfaceIdx` is `none` for -1. The pointer
`pWanActiveIfaceData` is looked up again in every tick. -/
structure PolicyController where
  wanEnable : Bool := false
  activeInterfaceIdx : Option Nat := none
  selectionTimeOutStart : Nat := 0
  interfaceSelectionTimeOut : Nat := 0
  totalIfaces : Nat := 0
  groupCfgChanged : Bool := false
  groupPersistSelectedIface : Bool := false
  resetSelectedInterface : Bool := false
  allowRemoteInterfaces : Bool := false
  groupInst : Nat := 0
  deriving DecidableEq, Repr, Inhabited

/-! ## Interface state machines -/

/-- The life of an interface state machine thread; `running st` carries `iface_sm_state`. -/
inductive VismPhase where
  | absent
  | created
  | running (st : WanState)
  | exited
  deriving DecidableEq, Repr, Inhabited

/-- What a tick is answered by the bus, the drivers and the DHCP clients. -/
structure VismOutside where
  startDhcpv4 : Bool := true
  stopDhcpv4 : Bool := true
  startDhcpv6 : Bool := true
  stopDhcpv6 : Bool := true
  restartDhcpv6 : Bool := true
  setUpIpv4 : Bool := true
  tearDownIpv4 : Bool := true
  setUpIpv6 : Bool := true
  tearDownIpv6 : Bool := true
  setUpLanPrefixIpv6 : Bool := true
  setUpMapt : Bool := true
  tearDownMapt : Bool := true
  verifyMapt : Bool := true
  processMapt : Bool := true
  lanAddressReady : Bool := true
  maptFeature : Bool := false
  cellularUp : Bool := false
  pppUp : Bool := false
  pppConnected : Option Bool := none
  vlanUp : Bool := false
  ipModeEnable : Bool := false
  /-- `MeshRemoteWANInterface_UlaAddr` -/
  ulaAddr : String := ""
  deriving DecidableEq, Repr, Inhabited

/-- The three ways an address can be configured on an interface. -/
structure Families where
  ipv4 : Bool := false
  ipv6 : Bool := false
  mapt : Bool := false
  deriving DecidableEq, Repr, Inhabited

/-- The leases the last calls configured; `none` after a failure or a teardown. -/
structure Applied where
  ipv4 : Option Ipv4Lease := none
  lanPrefix : Option Ipv6Lease := none
  ipv6 : Option Ipv6Lease := none
  deriving DecidableEq, Repr, Inhabited

/-- An interface state machine with the interface it works on. -/
structure Vism where
  phase : VismPhase := .created
  wanEnable : Bool := false
  deviceNwModeChanged : Bool := false
  config : WanConfig := {}
  selection : IfaceSelection := {}
  baseInterface : String := ""
  baseInterfaceStatus : PhyStatus := .up
  ifaceType : IfaceType := .local_
  virtIf : VirtualIface := {}
  now : Nat := 0
  /-- `ipv4_connection_state` is `up` -/
  ipv4ConnectionState : Bool := false
  /-- `ipv6_connection_state` is `up` -/
  ipv6ConnectionState : Bool := false
  maptFeatureEnableChanged : Bool := false
  outside : VismOutside := {}
  /-- history: the families whose last `wan_setUp` no `wan_tearDown` has followed -/
  configured : Families := {}
  /-- history: the machine obtains addresses since it left a leased state -/
  leftLease : Bool := false
  /-- history: what `wan_setUpIPv4`, `setUpLanPrefixIPv6` and `wan_setUpIPv6` last used -/
  applied : Applied := {}
  /-- history: how often `wan_setUpIPv4`, `wan_setUpIPv6` and `wan_setUpMapt` were called -/
  setUps : Nat := 0
  deriving DecidableEq, Repr, Inhabited

end WanManager
