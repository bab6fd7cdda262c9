import WanManager.World
import WanManager.Concurrency.Reactive

/-! # The interface state machine

`wanmgr_interface_sm.c`, built with MAP-T, the DHCP manager and configurable WAN interfaces,
and without the IPoE health check. A tick holds the lock of the data base from the handling
of the messages to the end of the state function, so it is one uninterrupted program. Of
what it does outside the data base the connection-state sysevents are kept, which it reads
back; the answers of the bus, the drivers and the DHCP clients are inputs of the tick.
-/

namespace WanManager
open Concurrency

abbrev VismProg := Prog Site Vism

namespace Vism

def mapVirtIf (s : Vism) (f : VirtualIface → VirtualIface) : Vism := { s with virtIf := f s.virtIf }

def mapIp (s : Vism) (f : IfaceIp → IfaceIp) : Vism :=
  s.mapVirtIf fun v => { v with ip := f v.ip }

def mapVlan (s : Vism) (f : VirtIfVlan → VirtIfVlan) : Vism :=
  s.mapVirtIf fun v => { v with vlan := f v.vlan }

def mapPpp (s : Vism) (f : PppData → PppData) : Vism :=
  s.mapVirtIf fun v => { v with ppp := f v.ppp }

def mapMap (s : Vism) (f : IfaceMap → IfaceMap) : Vism :=
  s.mapVirtIf fun v => { v with map := f v.map }

def setStatus (s : Vism) (st : IfaceStatus) : Vism := s.mapVirtIf fun v => { v with status := st }

end Vism

namespace InterfaceSm

/-! ## DHCP clients -/

/-- `WanManager_StartDhcpv4Client` -/
def startDhcpv4Client (s : Vism) : Vism :=
  s.mapIp fun ip => { ip with dhcp4cStatus := if s.outside.startDhcpv4 then .started else .failed }

/-- `WanManager_StopDhcpv4Client`; whether a release is sent changes nothing here. -/
def stopDhcpv4Client (s : Vism) : Vism :=
  s.mapIp fun ip =>
    { ip with dhcp4cStatus := if s.outside.stopDhcpv4 then .stopped else ip.dhcp4cStatus }

/-- `WanManager_StartDhcpv6Client` -/
def startDhcpv6Client (s : Vism) : Vism :=
  s.mapIp fun ip => { ip with dhcp6cStatus := if s.outside.startDhcpv6 then .started else .failed }

/-- `WanManager_StopDhcpv6Client` -/
def stopDhcpv6Client (s : Vism) : Vism :=
  s.mapIp fun ip =>
    { ip with dhcp6cStatus := if s.outside.stopDhcpv6 then .stopped else ip.dhcp6cStatus }

/-- `WanManager_RestartDhcpv6Client` -/
def restartDhcpv6Client (s : Vism) : Vism :=
  s.mapIp fun ip =>
    { ip with dhcp6cStatus := if s.outside.restartDhcpv6 then .started else ip.dhcp6cStatus }

def dhcpv4Mode (s : Vism) : Bool := s.virtIf.ip.mode == .dualStack || s.virtIf.ip.mode == .ipv4Only

def dhcpv6Mode (s : Vism) : Bool := s.virtIf.ip.mode == .dualStack || s.virtIf.ip.mode == .ipv6Only

/-- The family uses DHCP in the current mode. -/
def usesDhcpv4 (s : Vism) : Bool := s.virtIf.ip.ipv4Source == .dhcp && dhcpv4Mode s

def usesDhcpv6 (s : Vism) : Bool := s.virtIf.ip.ipv6Source == .dhcp && dhcpv6Mode s

/-! ## Connectivity check -/

/-- `WanMgr_StartConnectivityCheck` -/
def startConnectivityCheck (s : Vism) : Vism :=
  if s.virtIf.ip.connectivityCheckRunning && !s.virtIf.ip.restartConnectivityCheck then s
  else if s.virtIf.ip.connectivityCheckType = .tad then
    s.mapIp fun ip => { ip with connectivityCheckRunning := true }
  else s

/-- `WanMgr_StopConnectivityCheck` -/
def stopConnectivityCheck (s : Vism) : Vism :=
  s.mapIp fun ip => { ip with connectivityCheckRunning := false }

/-- `WanMgr_SendMsgTo_ConnectivityCheck` -/
def sendMsgToConnectivityCheck (s : Vism) : Vism :=
  if s.virtIf.ip.connectivityCheckRunning then s else startConnectivityCheck s

/-- The end of `WanMgr_MonitorDhcpApps`: a new type of check is started afresh. -/
def restartConnectivityCheck (s : Vism) : Vism :=
  let s := if s.virtIf.ip.connectivityCheckRunning then
      s.mapIp fun ip => { ip with
        connectivityCheckRunning := false
        ipv4ConnectivityStatus := .up
        ipv6ConnectivityStatus := .up }
    else s
  (startConnectivityCheck s).mapIp fun ip => { ip with wccTypeChanged := false }

/-- A change of the IP mode that the DHCP clients already follow. -/
def refreshDone (s : Vism) : Bool :=
  let started4 := s.virtIf.ip.dhcp4cStatus == .started
  let started6 := s.virtIf.ip.dhcp6cStatus == .started
  ((s.virtIf.ip.ipv6Source != .dhcp || s.virtIf.ip.mode == .noIp) && !started4 && !started6) ||
    (s.virtIf.ip.mode == .ipv6Only && !started4 && started6) ||
    (s.virtIf.ip.mode == .ipv4Only && started4 && !started6) ||
    (s.virtIf.ip.mode == .dualStack && started4 && started6)

/-- `WanMgr_MonitorDhcpApps` -/
def monitorDhcpApps (s : Vism) : Vism :=
  if !s.wanEnable || s.selection.status = .notSelected || !s.selection.enable then s
  else if s.virtIf.ip.refreshDhcp then
    if refreshDone s then s.mapIp fun ip => { ip with refreshDhcp := false } else s
  else if s.virtIf.ip.wccTypeChanged then restartConnectivityCheck s
  else s

/-! ## Actions -/

/-- `WanManager_UpdateInterfaceStatus` -/
def updateInterfaceStatus (s : Vism) : IfaceEvent → Vism
  | .connectionUp => s.mapIp fun ip => { ip with ipv4Status := .up }
  | .connectionDown => s.mapIp fun ip => { ip with
      ipv4Status := .down, ipv4Changed := false, ipv4Renewed := false
      ipv4Data := { ip.ipv4Data with ip := "" } }
  | .connectionIpv6Up => s.mapIp fun ip => { ip with ipv6Status := .up }
  | .connectionIpv6Down =>
      let s := s.mapIp fun ip => { ip with
        ipv6Status := .down, ipv6Changed := false, ipv6Renewed := false
        ipv6Data := { ip.ipv6Data with toIpv6Lease := {}, pdIfAddress := "" } }
      { s.mapMap fun _ => { maptStatus := .down, maptChanged := false } with
        ipv6ConnectionState := false }
  | .maptStart => s.mapMap fun m => { m with maptStatus := .up }
  | .maptStop => s.mapMap fun _ => { maptStatus := .down, maptChanged := false }

/-- What a call has configured. -/
def onSuccess {α : Type} (ok : Bool) (a : α) : Option α := if ok then some a else none

/-- `wan_setUpIPv4`; the answer is for its caller. -/
def setUpIpv4 (s : Vism) : Vism :=
  startConnectivityCheck { s with
    ipv4ConnectionState := true
    configured := { s.configured with ipv4 := true }
    applied := { s.applied with ipv4 := onSuccess s.outside.setUpIpv4 s.virtIf.ip.ipv4Data.toIpv4Lease }
    setUps := s.setUps + 1 }

/-- `wan_tearDownIPv4` -/
def tearDownIpv4 (s : Vism) : Vism :=
  { s with
    ipv4ConnectionState := false
    configured := { s.configured with ipv4 := false }
    applied := { s.applied with ipv4 := none } }

/-- `wan_setUpIPv6` -/
def setUpIpv6 (s : Vism) : Vism :=
  startConnectivityCheck { s with
    ipv6ConnectionState := true
    configured := { s.configured with ipv6 := true }
    applied := { s.applied with
      ipv6 := onSuccess s.outside.setUpIpv6 s.virtIf.ip.ipv6Data.toIpv6Lease }
    setUps := s.setUps + 1 }

/-- `wan_tearDownIPv6`, which takes the prefix from the LAN as well. -/
def tearDownIpv6 (s : Vism) : Vism :=
  { s with
    ipv6ConnectionState := false
    configured := { s.configured with ipv6 := false }
    applied := { s.applied with lanPrefix := none, ipv6 := none } }

/-- The address of the LAN bridge in a delegated prefix. -/
def lanAddress (d : Ipv6Data) : Ipv6Data :=
  if d.prefixAssigned ∧ d.sitePrefix ≠ "" ∧ d.prefixCmd = .add ∧ d.prefixPltime ≠ 0 ∧
      d.prefixVltime ≠ 0 ∧ '/' ∈ d.sitePrefix.toList then
    { d with pdIfAddress := upTo '/' d.sitePrefix ++ "1/64" }
  else d

/-- `setUpLanPrefixIPv6`; the answer is for its caller. -/
def setUpLanPrefixIpv6 (s : Vism) : Vism :=
  let s := s.mapIp fun ip => { ip with ipv6Data := lanAddress ip.ipv6Data }
  { s with applied := { s.applied with
      lanPrefix := onSuccess s.outside.setUpLanPrefixIpv6 s.virtIf.ip.ipv6Data.toIpv6Lease } }

/-- `wan_setUpMapt` -/
def setUpMapt (s : Vism) : Vism :=
  { s with configured := { s.configured with mapt := true }, setUps := s.setUps + 1 }

/-- `wan_tearDownMapt` -/
def tearDownMapt (s : Vism) : Vism := { s with configured := { s.configured with mapt := false } }

/-- `WanManager_ClearDHCPData` -/
def clearDhcpData (s : Vism) : Vism :=
  s.mapIp fun ip => { ip with
    ipv4Status := .down, ipv4Changed := false, ipv4Renewed := false, dhcp4cStatus := .stopped
    ipv4Data := {}
    ipv6Status := .down, ipv6Changed := false, ipv6Renewed := false, dhcp6cStatus := .stopped
    ipv6Data := {} }

/-- `WanMgr_RdkBus_ConfigureVlan`: enabling starts the timer of a VLAN discovery. -/
def configureVlan (enable : Bool) (s : Vism) : Vism :=
  if enable && decide (s.virtIf.vlan.interfaceList.length > 1) then
    s.mapVlan fun v => { v with timerStart := s.now }
  else s

/-- `WanMgr_RestartFindExistingLink` -/
def restartFindExistingLink (s : Vism) : Vism :=
  let s := if strstr s.baseInterface "Cellular" && s.outside.cellularUp then
      s.mapVlan fun v => { v with status := .up }
    else s
  let s := if s.virtIf.ppp.enable && s.virtIf.ppp.interface != "" && s.outside.pppUp then
      s.mapPpp fun p => { p with linkStatus := .up, ipv6cpStatus := .up }
    else s
  if s.virtIf.vlan.enable && s.virtIf.vlan.vlanInUse != "" && s.outside.vlanUp then
    s.mapVlan fun v => { v with status := .up }
  else s

/-- `WanMgr_GetSelectedIPMode` -/
def getSelectedIpMode (s : Vism) : Vism :=
  s.mapIp fun ip => { ip with selectedMode :=
    if !ip.modeForceEnable && s.outside.ipModeEnable then ip.preferredMode else .dualStack }

/-! ## Conditions -/

/-- The VLAN link or the PPP link of the interface is down. -/
def vlanDown (s : Vism) : Bool := s.virtIf.vlan.enable && s.virtIf.vlan.status == .down

def pppNotUp (s : Vism) : Bool := s.virtIf.ppp.enable && s.virtIf.ppp.linkStatus != .up

/-- The interface is to be given up: the first test of every state. -/
def interfaceDown (s : Vism) : Bool :=
  !s.wanEnable || !s.selection.enable || !s.virtIf.enable ||
    s.selection.status == .notSelected || s.baseInterfaceStatus != .up

/-- The first test of the states that hold a lease. -/
def leasedInterfaceDown (s : Vism) : Bool :=
  interfaceDown s || s.virtIf.reset || s.virtIf.vlan.reset

/-- The timer of a VLAN discovery has run out. -/
def vlanTimerExpired (s : Vism) : Bool :=
  decide (s.virtIf.vlan.interfaceList.length > 1) &&
    (s.virtIf.vlan.reset || decide (s.virtIf.vlan.timerStart + s.virtIf.vlan.timeout < s.now))

/-- The IP mode was changed at run time and the family is no longer obtained by DHCP. -/
def refreshDropsIpv4 (s : Vism) : Bool := s.virtIf.ip.refreshDhcp && !usesDhcpv4 s

def refreshDropsIpv6 (s : Vism) : Bool := s.virtIf.ip.refreshDhcp && !usesDhcpv6 s

/-- The interface is not the active one any more, or the networking mode changed. -/
def leavesActive (s : Vism) : Bool := s.selection.status != .active || s.deviceNwModeChanged

/-! ## Transitions -/

/-- The VLAN branch of `wan_transition_start`. -/
def startVlan (s : Vism) : Vism :=
  let s := s.mapVlan fun v =>
    if v.vlanInUse = "" then { v with activeIndex := 0, vlanInUse := v.interfaceList.getD 0 "" } else v
  configureVlan true (s.mapVlan fun v => { v with status := .configuring })

/-- A VLAN has to be configured before the interface can be used. -/
def needsVlan (s : Vism) : Bool := vlanDown s && s.ifaceType != .remote

def wanTransitionStart (s : Vism) : WanState × Vism :=
  let s := s.mapIp fun ip => { ip with ipv4Status := .down, ipv6Status := .down }
  let s := s.mapMap fun m => { m with maptStatus := .down }
  let s := restartFindExistingLink (s.setStatus .initialising)
  let s := if needsVlan s then startVlan s else s
  (.vlanConfiguring, getSelectedIpMode (s.mapVirtIf fun v => { v with interfaceSmRunning := true }))

def wanTransitionPppConfigure (s : Vism) : WanState × Vism :=
  (.pppConfiguring, s.mapPpp fun p =>
    if p.enable && p.linkStatus = .down then { p with linkStatus := .configuring } else p)

/-- The test under which `wan_transition_ipv4_down` stops the DHCPv4 client. -/
def stopsDhcpv4 (s : Vism) : Bool := leasedInterfaceDown s || vlanDown s || refreshDropsIpv4 s

/-- The DHCPv4 client, as the family goes down. -/
def settleDhcpv4 (s : Vism) : Vism :=
  if stopsDhcpv4 s then
    if s.virtIf.ip.dhcp4cStatus = .started then stopDhcpv4Client s else s
  else if s.virtIf.ip.dhcp4cStatus ≠ .started ∧ ¬ s.virtIf.ppp.enable ∧
      ¬ (s.virtIf.enableMapt ∧ s.selection.status = .active ∧ s.virtIf.map.maptStatus = .up) then
    startDhcpv4Client s
  else s

def wanTransitionIpv4Down (s : Vism) : WanState × Vism :=
  let s := updateInterfaceStatus (settleDhcpv4 s) .connectionDown
  let s := if s.virtIf.status = .up then tearDownIpv4 s else s
  let s := sendMsgToConnectivityCheck s
  if s.virtIf.ip.ipv6Status = .up ∧ s.ipv6ConnectionState then (.ipv6Leased, s)
  else (.obtainingIpAddresses, s.setStatus .validating)

/-- The test under which `wan_transition_ipv6_down` stops the DHCPv6 client. -/
def stopsDhcpv6 (s : Vism) : Bool :=
  leasedInterfaceDown s || vlanDown s || pppNotUp s || refreshDropsIpv6 s

/-- The DHCPv6 client, as the family goes down. -/
def settleDhcpv6 (s : Vism) : Vism :=
  if stopsDhcpv6 s then stopDhcpv6Client s
  else if s.virtIf.ip.dhcp6cStatus ≠ .started then startDhcpv6Client s
  else s

def wanTransitionIpv6Down (s : Vism) : WanState × Vism :=
  let s := updateInterfaceStatus (settleDhcpv6 s) .connectionIpv6Down
  let s := if s.virtIf.status = .up then tearDownIpv6 s else s
  let s := sendMsgToConnectivityCheck s
  if s.virtIf.ip.ipv4Status = .up ∧ s.ipv4ConnectionState then (.ipv4Leased, s)
  else (.obtainingIpAddresses, s.setStatus .validating)

def wanTransitionDualStackDown (s : Vism) : WanState × Vism :=
  let s := (wanTransitionIpv4Down (s.setStatus .validating)).2
  (.obtainingIpAddresses, (wanTransitionIpv6Down s).2)

/-- The address family MAP-T replaced is obtained again, if the interface goes on. -/
def restartIpv4 (s : Vism) : Vism :=
  if !(leasedInterfaceDown s) && s.selection.status = .active && !s.virtIf.ppp.enable then
    startDhcpv4Client s
  else s

def wanTransitionMaptDown (s : Vism) : WanState × Vism :=
  let s := updateInterfaceStatus s .maptStop
  let s := if s.virtIf.status = .up then tearDownMapt s else s
  let s := (updateInterfaceStatus s .connectionDown).mapIp fun ip => { ip with ipv4Data := {} }
  (.ipv6Leased, restartIpv4 s)

def wanTransitionMaptFeatureRefresh (s : Vism) : WanState × Vism :=
  let s := (wanTransitionIpv6Down s).2
  let s := s.mapIp fun ip => { ip with
    ipv6Status := .down, ipv6Changed := false, ipv6Renewed := false, ipv6Data := {} }
  (.obtainingIpAddresses, if usesDhcpv6 s then restartDhcpv6Client s else s)

/-- The families that are up, one after the other. -/
def familiesDown (s : Vism) : Vism :=
  let s := if s.virtIf.map.maptStatus = .up then (wanTransitionMaptDown s).2 else s
  let s := if s.virtIf.ip.ipv4Status = .up then (wanTransitionIpv4Down s).2 else s
  if s.virtIf.ip.ipv6Status = .up then (wanTransitionIpv6Down s).2 else s

def stopDhcpClients (s : Vism) : Vism :=
  let s := if s.virtIf.ip.dhcp4cStatus = .started then stopDhcpv4Client s else s
  if s.virtIf.ip.dhcp6cStatus = .started then stopDhcpv6Client s else s

/-- The links below the interface; one that is not there yet is not waited for. -/
def linksDown (s : Vism) : Vism :=
  let s := s.mapPpp fun p =>
    if p.enable && p.linkStatus = .configuring then { p with linkStatus := .down } else p
  if s.virtIf.vlan.enable ∧ s.ifaceType ≠ .remote then
    (configureVlan false s).mapVlan fun v =>
      if v.status = .configuring then { v with status := .down } else v
  else s

/-- The interface is only refreshed, not given up. -/
def refreshes (s : Vism) : Bool := s.virtIf.reset || s.virtIf.vlan.reset || s.virtIf.vlan.expired

def wanTransitionPhysicalInterfaceDown (s : Vism) : WanState × Vism :=
  let s := stopDhcpClients (familiesDown s)
  let s := stopConnectivityCheck (s.mapIp fun ip => { ip with selectedModeTimerStatus := .notStarted })
  let s := linksDown s
  if refreshes s then (.refreshingWan, s) else (.deconfiguringWan, s)

def wanTransitionWanUp (s : Vism) : WanState × Vism := (.validatingWan, s.setStatus .validating)

/-- The DHCP clients of a validated interface; MAP-T mode waits for a DHCPv6 lease. -/
def startDhcpClients (s : Vism) : Vism :=
  if s.virtIf.ip.selectedMode = .mapt ∧ s.virtIf.ip.selectedModeTimerStatus ≠ .expired then
    (startDhcpv6Client s).mapIp fun ip =>
      { ip with selectedModeTimerStatus := .running, selectedModeTimerStart := s.now }
  else
    let s := if usesDhcpv4 s then startDhcpv4Client s else s
    if usesDhcpv6 s ∧ s.virtIf.ip.dhcp6cStatus ≠ .started then startDhcpv6Client s else s

/-- The state of a PPP session that exists already; `none` if it cannot be read. -/
def fetchPppStatus (s : Vism) : Vism :=
  if s.virtIf.ppp.enable && s.virtIf.ppp.interface != "" then
    match s.outside.pppConnected with
    | none => s
    | some true => s.mapPpp fun p => { p with ipcpStatusChanged := true, ipv6cpStatusChanged := true }
    | some false => s.mapPpp fun p => { p with ipcpStatus := .down, ipv6cpStatus := .down }
  else s

/-- A PPP session is there, and its state cannot be read. -/
def pppUnreadable (s : Vism) : Bool :=
  s.virtIf.ppp.enable && s.virtIf.ppp.interface != "" && s.outside.pppConnected.isNone

/-- The address of a remote interface is assigned by the mesh. -/
def assignUlaAddr (s : Vism) : Vism :=
  if s.ifaceType = .remote && !pppUnreadable s then
    s.mapIp fun ip => { ip with ipv6Data := { ip.ipv6Data with address := upTo '/' s.outside.ulaAddr } }
  else s

def wanTransitionWanValidated (s : Vism) : WanState × Vism :=
  let s := if (s.virtIf.ip.ipv4Source = .dhcp ∨ s.virtIf.ip.ipv6Source = .dhcp) ∧
      s.virtIf.ip.selectedModeTimerStatus ≠ .expired then clearDhcpData s else s
  let s := s.mapIp fun ip =>
    { ip with ipv4ConnectivityStatus := .up, ipv6ConnectivityStatus := .up }
  (.obtainingIpAddresses, assignUlaAddr (fetchPppStatus (startDhcpClients s)))

/-- The VLAN `wan_transition_wan_refreshed` tries next. -/
def nextVlan (v : VirtIfVlan) : VirtIfVlan :=
  let index :=
    if v.reset ∨ v.activeIndex = 2 ^ 32 - 1 then 0
    else if v.activeIndex + 1 < v.interfaceList.length then v.activeIndex + 1
    else 0
  { v with activeIndex := index, vlanInUse := v.interfaceList.getD index "" }

def wanTransitionWanRefreshed (s : Vism) : WanState × Vism :=
  let s :=
    if needsVlan s then
      let s := s.mapVlan fun v => if v.expired || v.reset then nextVlan v else v
      configureVlan true (s.mapVlan fun v => { v with status := .configuring })
    else s
  let s := if s.virtIf.reset then { s with config := { s.config with resetFailOverScan := true } } else s
  let s := s.mapVlan fun v => { v with reset := false, expired := false }
  (.vlanConfiguring, s.mapVirtIf fun v => { v with reset := false })

def wanTransitionIpv4Up (s : Vism) : WanState × Vism :=
  let s := sendMsgToConnectivityCheck (setUpIpv4 (s.setStatus .up))
  let s := s.mapIp fun ip => { ip with ipv4Changed := false, ipv4Renewed := false }
  if s.virtIf.ip.ipv6Status = .up ∧ s.ipv6ConnectionState then (.dualStackActive, s)
  else (.ipv4Leased, s)

def wanTransitionIpv6Up (s : Vism) : WanState × Vism :=
  let s := sendMsgToConnectivityCheck (setUpIpv6 (s.setStatus .up))
  if s.virtIf.ip.ipv4Status = .up ∧ s.ipv4ConnectionState then (.dualStackActive, s)
  else (.ipv6Leased, s)

/-- An IPv4 lease that was not configured yet is configured before MAP-T replaces it. -/
def configureNewIpv4 (s : Vism) : Vism :=
  if s.virtIf.ip.ipv4Changed ∧ s.virtIf.ip.ipv4Status = .up then (wanTransitionIpv4Up s).2 else s

/-- MAP-T replaces the IPv4 lease. -/
def releaseIpv4 (s : Vism) : Vism :=
  let s := if s.virtIf.ip.dhcp4cStatus = .started then stopDhcpv4Client s else s
  if s.virtIf.ip.ipv4Status = .up then (wanTransitionIpv4Down s).2 else s

def wanTransitionMaptUp (s : Vism) : WanState × Vism :=
  if s.outside.verifyMapt then
    let s := configureNewIpv4 (s.mapMap fun m => { m with maptChanged := false })
    let s := releaseIpv4 (setUpMapt s)
    if s.outside.processMapt then (.maptActive, s) else (s.virtIf.eCurrentState, s)
  else (s.virtIf.eCurrentState, s)

/-- The store in which MAP-T is configured, once its configuration is verified. -/
def replaced (s : Vism) : Vism :=
  releaseIpv4 (setUpMapt (configureNewIpv4 (s.mapMap fun m => { m with maptChanged := false })))

theorem wanTransitionMaptUp_verified {s : Vism} (h : s.outside.verifyMapt = true) :
    wanTransitionMaptUp s = if (replaced s).outside.processMapt then (.maptActive, replaced s)
      else ((replaced s).virtIf.eCurrentState, replaced s) := by
  rw [wanTransitionMaptUp, if_pos h]
  rfl

def wanTransitionExit (s : Vism) : WanState × Vism :=
  (.exit, s.mapVirtIf fun v => { v with status := .disabled, reset := false, interfaceSmRunning := false })

def wanTransitionStandby (s : Vism) : WanState × Vism :=
  (.standby, startConnectivityCheck (s.setStatus .standby))

def wanTransitionStandbyDeconfigIps (s : Vism) : WanState × Vism :=
  let s := if s.virtIf.map.maptStatus = .up then tearDownMapt s else s
  let s := if s.virtIf.ip.connectivityCheckType = .ihc then stopConnectivityCheck s else s
  let s := if s.virtIf.ip.ipv4Status = .up then tearDownIpv4 s else s
  let s := if s.virtIf.ip.ipv6Status = .up then
      (tearDownIpv6 s).mapIp fun ip => { ip with ipv6Changed := true }
    else s
  (.standby, s.setStatus .standby)

/-! ## States

A state function reads the interface, acts on it and ends with a transition. The label of
the last section names the transition, and its store is what the transition finds. -/

def self : VismProg Vism := .read .vism id

def act (f : Vism → Vism) : VismProg Unit := .modify .vism f

def go (t : WanTransition) (f : Vism → WanState × Vism) : VismProg WanState :=
  .critical (.wanTransition t) f

/-- The end of a state function that calls no transition. -/
def keep (st : WanState) : VismProg WanState := go .keep fun s => (st, s)

def giveUp : VismProg WanState := go .physicalInterfaceDown wanTransitionPhysicalInterfaceDown

/-- The VLAN is given up for the next one. -/
def giveUpVlan : VismProg WanState := do
  act fun s => s.mapVlan fun v => { v with expired := true }
  giveUp

def wanStateVlanConfiguring : VismProg WanState := do
  let s ← self
  if interfaceDown s then giveUp
  else if vlanTimerExpired s then giveUpVlan
  else if s.virtIf.vlan.enable ∧ s.virtIf.vlan.status ≠ .up then keep .vlanConfiguring
  else go .pppConfigure wanTransitionPppConfigure

/-- The PPP session can be used; DHCPv6 over it waits for IPv6CP. -/
def pppReady (s : Vism) : Bool :=
  s.virtIf.ppp.linkStatus == .up && !(usesDhcpv6 s && s.virtIf.ppp.ipv6cpStatus != .up)

def wanStatePppConfiguring : VismProg WanState := do
  let s ← self
  if interfaceDown s then giveUp
  else if vlanTimerExpired s then giveUpVlan
  else if s.virtIf.ppp.enable ∧ ¬ pppReady s then keep .pppConfiguring
  else go .wanUp wanTransitionWanUp

def wanStateValidatingWan : VismProg WanState := do
  let s ← self
  if interfaceDown s then giveUp
  else if vlanTimerExpired s then giveUpVlan
  else go .wanValidated wanTransitionWanValidated

/-- One DHCP client follows the IP mode. -/
def followMode (uses started : Vism → Bool) (start stop : Vism → Vism) (s : Vism) : Vism :=
  if uses s then (if started s then s else start s)
  else if started s then stop s
  else s

def started4 (s : Vism) : Bool := s.virtIf.ip.dhcp4cStatus == .started

def started6 (s : Vism) : Bool := s.virtIf.ip.dhcp6cStatus == .started

/-- The branch of `wan_state_obtaining_ip_addresses` for a changed IP mode. -/
def refreshDhcpClients (s : Vism) : Vism :=
  let s := followMode usesDhcpv4 started4 startDhcpv4Client stopDhcpv4Client s
  let s := followMode usesDhcpv6 started6 startDhcpv6Client stopDhcpv6Client s
  let s := if !started4 s && !started6 s then s.setStatus .validating else s
  s.mapIp fun ip => { ip with refreshDhcp := false }

/-- `SELECTED_MODE_TIMEOUT_SECONDS` -/
def selectedModeTimeout : Nat := 10

/-- MAP-T was preferred and is not offered: its lease arrived without it, or none did. -/
def maptNotOffered (s : Vism) : Bool :=
  decide (s.virtIf.ip.selectedModeTimerStart + selectedModeTimeout < s.now) ||
    s.virtIf.ip.ipv6Status == .up

/-- The links are not configured yet, or the interface is to be reset. -/
def linksRestart (s : Vism) : Bool :=
  s.virtIf.vlan.status == .configuring || s.virtIf.ppp.linkStatus == .configuring || s.virtIf.reset

/-- The links are lost. -/
def linksLost (s : Vism) : Bool :=
  vlanTimerExpired s || vlanDown s || (s.virtIf.ppp.enable && s.virtIf.ppp.linkStatus == .down)

/-- `setUpLanPrefixIPv6`, after which `Ipv6Changed` is cleared whatever the answer was. -/
def clearIpv6Changed (s : Vism) : Vism :=
  (setUpLanPrefixIpv6 s).mapIp fun ip => { ip with ipv6Changed := false }

/-- An active interface without MAP-T was told that the feature has been switched. -/
def maptSwitched (s : Vism) : Bool :=
  s.virtIf.enableMapt && s.selection.status == .active && s.maptFeatureEnableChanged &&
    s.virtIf.map.maptStatus == .down

/-- The branch of several states that starts MAP-T anew. -/
def maptSwitchedOn (st : WanState) : VismProg WanState := do
  if (← self).outside.maptFeature then
    act fun s => { s with maptFeatureEnableChanged := false }
    go .maptFeatureRefresh wanTransitionMaptFeatureRefresh
  else keep st

def obtainIpv6 : VismProg WanState := do
  let s ← self
  if s.selection.status ≠ .active then go .standby wanTransitionStandby
  else if s.virtIf.ip.ipv6Changed then
    act clearIpv6Changed
    keep .obtainingIpAddresses
  else if s.outside.lanAddressReady then go .ipv6Up wanTransitionIpv6Up
  else keep .obtainingIpAddresses

def obtainLease : VismProg WanState := do
  act monitorDhcpApps
  let s ← self
  if s.virtIf.ip.ipv4Status = .up then
    if s.selection.status = .active then go .ipv4Up wanTransitionIpv4Up
    else go .standby wanTransitionStandby
  else if s.virtIf.ip.ipv6Status = .up then obtainIpv6
  else if maptSwitched s then maptSwitchedOn .obtainingIpAddresses
  else keep .obtainingIpAddresses

def obtainAddresses : VismProg WanState := do
  let s ← self
  if s.virtIf.ip.refreshDhcp then
    act refreshDhcpClients
    keep .obtainingIpAddresses
  else obtainLease

/-- The preferred mode is MAP-T: wait for it before anything else is obtained. -/
def obtainMapt : VismProg WanState := do
  let s ← self
  if s.virtIf.map.maptStatus = .up then
    act fun s => s.mapIp fun ip => { ip with selectedModeTimerStatus := .complete }
    obtainAddresses
  else if s.virtIf.ip.selectedModeTimerStatus = .running then
    if maptNotOffered s then
      act fun s => s.mapIp fun ip => { ip with selectedModeTimerStatus := .expired }
      go .wanValidated wanTransitionWanValidated
    else keep .obtainingIpAddresses
  else obtainAddresses

def wanStateObtainingIpAddresses : VismProg WanState := do
  let s ← self
  if interfaceDown s || linksRestart s then giveUp
  else if linksLost s then giveUpVlan
  else if s.virtIf.ip.selectedMode = .mapt then obtainMapt
  else obtainAddresses

/-- What `wan_state_standby` calls for an interface that became active. -/
def activateStandby (s : Vism) : WanState × Vism :=
  let r :=
    if s.virtIf.ip.ipv6Status = .up then
      let s := if s.virtIf.ip.ipv6Changed then clearIpv6Changed s else s
      if s.outside.lanAddressReady then wanTransitionIpv6Up s else (.standby, s)
    else (.standby, s)
  if r.2.virtIf.ip.ipv4Status = .up then wanTransitionIpv4Up r.2 else r

/-- The test under which `wan_state_standby` goes back to obtaining addresses. -/
def standbyLost (s : Vism) : Bool :=
  vlanDown s || pppNotUp s ||
    (s.virtIf.ip.ipv4Status == .down && s.virtIf.ip.ipv6Status == .down) || s.virtIf.ip.refreshDhcp

def wanStateStandby : VismProg WanState := do
  if interfaceDown (← self) then giveUp
  else
    act monitorDhcpApps
    let s ← self
    if standbyLost s then keep .obtainingIpAddresses
    else if s.selection.status = .active then go .standbyUp activateStandby
    else
      act fun s =>
        if s.virtIf.ip.restartConnectivityCheck ∧ s.virtIf.ip.connectivityCheckType = .tad then
          startConnectivityCheck s
        else s
      keep .standby

/-- The IPv4 configuration is replaced: `Ipv4Changed` in a leased state. -/
def reconfigureIpv4 (s : Vism) : Vism :=
  let torn := tearDownIpv4 s
  if s.outside.tearDownIpv4 then
    let set := setUpIpv4 torn
    if s.outside.setUpIpv4 then
      (sendMsgToConnectivityCheck set).mapIp fun ip => { ip with ipv4Changed := false }
    else set
  else torn

/-- The IPv6 configuration is replaced: `Ipv6Changed` in a leased state. A success is
followed by `done`. -/
def reconfigureIpv6 (done : Vism → Vism) (s : Vism) : Vism :=
  let torn := tearDownIpv6 s
  if s.outside.tearDownIpv6 then
    let delegated := setUpLanPrefixIpv6 torn
    if s.outside.setUpLanPrefixIpv6 then
      let set := setUpIpv6 delegated
      if s.outside.setUpIpv6 then
        done ((sendMsgToConnectivityCheck set).mapIp fun ip => { ip with ipv6Changed := false })
      else set
    else delegated
  else torn

/-- MAP-T is set up again: `MaptChanged` in `wan_state_mapt_active`. -/
def reconfigureMapt (s : Vism) : Vism :=
  let torn := tearDownMapt s
  if s.outside.tearDownMapt then
    let set := setUpMapt torn
    if s.outside.setUpMapt && s.outside.verifyMapt && s.outside.processMapt then
      set.mapMap fun m => { m with maptChanged := false }
    else set
  else torn

def renewIpv4 (s : Vism) : Vism :=
  (sendMsgToConnectivityCheck s).mapIp fun ip => { ip with ipv4Renewed := false }

def renewIpv6 (s : Vism) : Vism :=
  (sendMsgToConnectivityCheck s).mapIp fun ip => { ip with ipv6Renewed := false }

/-- The branch of two states for an offered MAP-T lease. -/
def maptOffered (st : WanState) : VismProg WanState := do
  if (← self).outside.lanAddressReady then go .maptUp wanTransitionMaptUp else keep st

def leaseIpv6 : VismProg WanState := do
  let s ← self
  if s.virtIf.ip.ipv6Changed then
    act clearIpv6Changed
    keep .ipv4Leased
  else if s.outside.lanAddressReady then go .ipv6Up wanTransitionIpv6Up
  else keep .ipv4Leased

/-- The DHCPv6 client of an interface that became dual stack at run time. -/
def joinDhcpv6 (s : Vism) : Vism :=
  if s.virtIf.ip.refreshDhcp && s.virtIf.ip.ipv6Source == .dhcp && s.virtIf.ip.mode == .dualStack &&
      !started6 s then startDhcpv6Client s
  else s

def wanStateIpv4Leased : VismProg WanState := do
  act joinDhcpv6
  act monitorDhcpApps
  let s ← self
  if leasedInterfaceDown s then giveUp
  else if s.virtIf.ip.ipv4Status = .down || vlanDown s || pppNotUp s || refreshDropsIpv4 s then
    go .ipv4Down wanTransitionIpv4Down
  else if leavesActive s then go .standbyDeconfigIps wanTransitionStandbyDeconfigIps
  else if s.virtIf.ip.ipv4Changed then
    act reconfigureIpv4
    keep .ipv4Leased
  else if s.virtIf.ip.ipv6Status = .up then leaseIpv6
  else if s.virtIf.ip.ipv4Renewed then
    act renewIpv4
    keep .ipv4Leased
  else if maptSwitched s then maptSwitchedOn .ipv4Leased
  else keep .ipv4Leased

/-- The DHCPv4 client of an interface that became dual stack at run time. -/
def joinDhcpv4 (s : Vism) : Vism :=
  if s.virtIf.ip.refreshDhcp && s.virtIf.ip.ipv4Source == .dhcp && s.virtIf.ip.mode == .dualStack &&
      s.virtIf.ip.selectedModeTimerStatus != .complete && !started4 s then startDhcpv4Client s
  else s

/-- An active interface has been offered MAP-T. -/
def maptUpReady (s : Vism) : Bool :=
  s.virtIf.enableMapt && s.selection.status == .active && s.virtIf.map.maptStatus == .up

def wanStateIpv6Leased : VismProg WanState := do
  act joinDhcpv4
  act monitorDhcpApps
  let s ← self
  if leasedInterfaceDown s then giveUp
  else if s.virtIf.ip.ipv6Status = .down || vlanDown s || pppNotUp s || refreshDropsIpv6 s then
    go .ipv6Down wanTransitionIpv6Down
  else if leavesActive s then go .standbyDeconfigIps wanTransitionStandbyDeconfigIps
  else if s.virtIf.ip.ipv6Changed then
    act (reconfigureIpv6 id)
    keep .ipv6Leased
  else if s.virtIf.ip.ipv4Status = .up then go .ipv4Up wanTransitionIpv4Up
  else if maptUpReady s then maptOffered .ipv6Leased
  else if maptSwitched s then maptSwitchedOn .ipv6Leased
  else if s.virtIf.ip.ipv6Renewed then
    act renewIpv6
    keep .ipv6Leased
  else keep .ipv6Leased

/-- The last lines of the states that hold a lease of both kinds. -/
def monitorAndKeep (st : WanState) : VismProg WanState := do
  act monitorDhcpApps
  keep st

/-- The MAP-T and renewal branches of `wan_state_dual_stack_active`. -/
def dualStackMapt : VismProg WanState := do
  let s ← self
  if maptUpReady s then
    if s.outside.lanAddressReady then go .maptUp wanTransitionMaptUp
    else monitorAndKeep .dualStackActive
  else if maptSwitched s then
    if s.outside.maptFeature then
      act fun s => { s with maptFeatureEnableChanged := false }
      go .maptFeatureRefresh wanTransitionMaptFeatureRefresh
    else monitorAndKeep .dualStackActive
  else
    act fun s =>
      if s.virtIf.ip.ipv4Renewed then renewIpv4 s
      else if s.virtIf.ip.ipv6Renewed then renewIpv6 s
      else s
    monitorAndKeep .dualStackActive

def wanStateDualStackActive : VismProg WanState := do
  let s ← self
  if leasedInterfaceDown s then giveUp
  else if vlanDown s || pppNotUp s then go .dualStackDown wanTransitionDualStackDown
  else if s.virtIf.ip.ipv4Status = .down || refreshDropsIpv4 s then
    go .ipv4Down wanTransitionIpv4Down
  else if leavesActive s then go .standbyDeconfigIps wanTransitionStandbyDeconfigIps
  else if s.virtIf.ip.ipv4Changed then
    act reconfigureIpv4
    monitorAndKeep .dualStackActive
  else if s.virtIf.ip.ipv6Status = .down || refreshDropsIpv6 s then
    go .ipv6Down wanTransitionIpv6Down
  else if s.virtIf.ip.ipv6Changed then
    act (reconfigureIpv6 id)
    monitorAndKeep .dualStackActive
  else dualStackMapt

/-- MAP-T has to be given up. -/
def maptLost (s : Vism) : Bool :=
  !s.virtIf.enableMapt || s.virtIf.ip.ipv6Status == .down || s.virtIf.map.maptStatus == .down ||
    (s.virtIf.ip.refreshDhcp && !dhcpv6Mode s) || vlanDown s

/-- MAP-T follows a new IPv6 configuration. -/
def maptFollows (s : Vism) : Vism :=
  if maptUpReady s then s.mapMap fun m => { m with maptChanged := true } else s

/-- The reconfigurations of `wan_state_mapt_active`. -/
def reconfigureMaptActive (s : Vism) : Vism :=
  if s.virtIf.ip.ipv6Changed then reconfigureIpv6 maptFollows s
  else if s.virtIf.map.maptChanged then reconfigureMapt s
  else if s.virtIf.ip.ipv6Renewed then renewIpv6 s
  else s

/-- `wan_transition_mapt_down` and `wan_transition_mapt_feature_refresh` in one tick. -/
def maptDownRefresh (s : Vism) : WanState × Vism :=
  wanTransitionMaptFeatureRefresh (wanTransitionMaptDown s).2

def wanStateMaptActive : VismProg WanState := do
  let s ← self
  if leasedInterfaceDown s then giveUp
  else if leavesActive s then go .standbyDeconfigIps wanTransitionStandbyDeconfigIps
  else if maptLost s then go .maptDown wanTransitionMaptDown
  else if s.maptFeatureEnableChanged then
    if s.outside.maptFeature then monitorAndKeep .maptActive
    else
      act fun s => { s with maptFeatureEnableChanged := false }
      go .maptDownRefresh maptDownRefresh
  else
    act reconfigureMaptActive
    monitorAndKeep .maptActive

/-- A link below the interface is still up. -/
def linksStillUp (s : Vism) : Bool :=
  (s.virtIf.ppp.enable && s.virtIf.ppp.linkStatus != .down) ||
    (s.virtIf.vlan.enable && s.virtIf.vlan.status != .down)

def wanStateRefreshingWan : VismProg WanState := do
  let s ← self
  if interfaceDown s then
    act fun s => { s.mapVlan fun v => { v with reset := false, expired := false } with
      virtIf.reset := false }
    giveUp
  else if linksStillUp s then keep .refreshingWan
  else go .wanRefreshed wanTransitionWanRefreshed

def wanStateDeconfiguringWan : VismProg WanState := do
  if linksStillUp (← self) then keep .deconfiguringWan
  else go .exit wanTransitionExit

def wanStateExit : VismProg WanState := do
  act clearDhcpData
  keep .exit

/-! ## The thread -/

/-- The controller's copy of the configuration; the change of the mode is taken. -/
def updateWanConfig (s : Vism) : Vism :=
  { s with
    wanEnable := s.config.enable
    deviceNwModeChanged := s.config.deviceNwModeChanged
    config := { s.config with deviceNwModeChanged := false } }

/-- `WanMgr_IfaceIpcMsg_handle`; the lease messages themselves come with the environment. -/
def ipcMsgHandle (s : Vism) : Vism :=
  s.mapPpp fun p =>
    if p.enable then { p with ipcpStatusChanged := false, ipv6cpStatusChanged := false } else p

def wanState : WanState → VismProg WanState
  | .vlanConfiguring => wanStateVlanConfiguring
  | .pppConfiguring => wanStatePppConfiguring
  | .validatingWan => wanStateValidatingWan
  | .obtainingIpAddresses => wanStateObtainingIpAddresses
  | .ipv4Leased => wanStateIpv4Leased
  | .ipv6Leased => wanStateIpv6Leased
  | .dualStackActive => wanStateDualStackActive
  | .maptActive => wanStateMaptActive
  | .refreshingWan => wanStateRefreshingWan
  | .deconfiguringWan => wanStateDeconfiguringWan
  | .standby => wanStateStandby
  | .exit => wanStateExit

/-- The states that hold a lease for an active interface. -/
def leased : WanState → Bool
  | .ipv4Leased | .ipv6Leased | .dualStackActive | .maptActive => true
  | _ => false

/-- The end of a tick that was in `st`: the next state, with its history. -/
def enter (st st' : WanState) (s : Vism) : Vism :=
  { s with
    phase := if st = .exit then .exited else .running st'
    leftLease := st' == .obtainingIpAddresses &&
      (leased st || (st == .obtainingIpAddresses && s.leftLease)) }

/-- One iteration of `WanMgr_InterfaceSMThread`. -/
def vismLoop (st : WanState) : VismProg Unit := do
  act fun s => (ipcMsgHandle (updateWanConfig s)).mapVirtIf fun v => { v with eCurrentState := st }
  act (enter st (← wanState st))

def vismStart : VismProg Unit := do
  let st ← go .start wanTransitionStart
  act fun s => { s with phase := .running st }

def vismTick : VismProg Unit := do
  match (← self).phase with
  | .created => vismStart
  | .running st => vismLoop st
  | .absent | .exited => return ()

end InterfaceSm
end WanManager
