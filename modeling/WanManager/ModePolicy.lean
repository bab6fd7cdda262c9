import WanManager.BackupWan

/-! # The WAN mode policy

`WanMgr_Policy_AutoWan` of `wanmgr_policy_autowan_impl.c`, in the build of the backup machine: the
data its two machines share, the modes it keeps in syscfg, and what both machines do. The data base is
locked for a tick, so a tick is one step; what sysevent says is read once a tick. Traces, telemetry
events, the published list of interfaces and the Ethernet link of the current mode have no effect
here. -/

namespace WanManager

namespace ModePolicy
open BackupWan

/-! ## Data -/

/-- `WcFmobPolicyState_t`, of both machines. -/
inductive State where
  | selectingInterface | interfaceDown | interfaceUp | waitingForInterface
  | autoWanValidatedInterface | validatedInterface | configuringInterface
  | deconfiguringInterface | scanningInterface | interfaceActive | interfaceTeardown | exit
  deriving DecidableEq, Repr, Inhabited

/-- `NetworkConnectivityCheck_t` -/
inductive CheckState where
  | disabled | enabled | starting | stopped | started
  deriving DecidableEq, Repr

/-- The globals of the modes. -/
structure Modes where
  current : WanMode := .auto
  lastKnown : WanMode := .auto
  selected : WanMode := .auto
  deriving DecidableEq, Repr

/-- `curr_wan_mode`, `last_wan_mode` and `selected_wan_mode` in syscfg. -/
structure StoredModes where
  current : Option WanMode := none
  lastKnown : Option WanMode := none
  selected : Option WanMode := none
  deriving DecidableEq, Repr

/-- What the policy asks of other components. -/
inductive Request where
  | wanStart | wanStop | sshdRestart | reboot
  | udhcpc (ifname : String) | killUdhcpc | dibbler | killDibbler
  | acceptRa (ifname : String) (on : Bool) | interfaceUp (ifname : String)
  | configReset (action : Action) (ifname : String) | ipv6Config (ifname : String)
  | phyStatus (idx : Nat) | operationalStatus (idx : Nat) | ipMonitor (idx : Nat)
  | configureWan (idx : Nat) (on : Bool) | customConfig (idx : Nat) (on : Bool)
  | postCfgWanFinalize (idx : Nat)
  deriving DecidableEq, Repr

/-- What a tick is answered. -/
structure Outside where
  /-- the sysevents `wan-status` and `wan_service-status` -/
  wanStatus : String := ""
  wanServiceStatus : String := ""
  /-- `IsDefaultRoutePresent`, of one family -/
  defaultRoute : Bool := true
  /-- `WanMgr_Trigger_TAD` -/
  triggerTad : WccEvent → Bool := fun _ => true
  /-- `WanMgr_RdkBus_SetRequestIfComponent`, for the two requests whose answer counts -/
  configureWan : Bool := true
  customConfig : Bool := true
  componentReady : Bool := true
  /-- `WanMgr_Policy_CheckAndStartUDHCPClientOverWanInterface (.., WAN_START_FOR_VALIDATION, ..)` -/
  startForValidation : Bool := true
  /-- `last_erouter_mode` -/
  eRouterMode : Int := 1
  /-- `syscfg_set_commit` -/
  syscfgSet : Bool := true

/-- Where `WanMgr_Policy_AutoWan` is: it chooses a machine, waits in `Transition_StartAuto` for the
first interface, or runs a machine. -/
inductive Phase where
  | choosing | startingAuto | auto | fixed
  deriving DecidableEq, Repr

structure Machine where
  phase : Phase := .choosing
  st : State := .selectingInterface
  wanEnable : Bool := false
  wanOperationalMode : WanMode := .unknown
  activeInterfaceIdx : Option Nat := none
  /-- the interface `pWanActiveIfaceData` points to during a tick -/
  locked : Option Nat := none
  previousActiveInterfaceIndex : Option Nat := none
  /-- `is_v6_ip_configured`, one for each machine -/
  v6Configured : Bool := false
  v6ConfiguredFixed : Bool := false
  telemetryRestoreStatus : SwitchOver := .unknown
  telemetryBackUpStatus : SwitchOver := .unknown
  modes : Modes := {}
  stored : StoredModes := {}
  /-- the sysevent `network_connectivity_check` -/
  connectivityCheck : Nat := 0
  config : WanConfig := {}
  ifaces : List Iface := []
  outside : Outside := {}
  /-- `ENABLE_WANMODECHANGE_NOREBOOT` -/
  noReboot : Bool := false
  /-- history -/
  requests : List Request := []

namespace Machine

/-- `pFixedInterface`, with its index -/
def fixed? (m : Machine) : Option (Nat × Iface) := m.locked.bind fun i => m.ifaces[i]?.map fun d => (i, d)

def modifyIface (i : Nat) (f : Iface → Iface) (m : Machine) : Machine :=
  { m with ifaces := m.ifaces.modify i f }

def request (rs : List Request) (m : Machine) : Machine := { m with requests := m.requests ++ rs }

def requestIf (b : Bool) (r : Request) (m : Machine) : Machine := if b then m.request [r] else m

/-- `wanmgr_isWanStarted` -/
def wanStarted (m : Machine) : Bool := m.outside.wanStatus == "started"

/-- `wanmgr_isWanStandby` -/
def wanStandby (m : Machine) : Bool := m.outside.wanStatus == "standby"

/-- `WanMgr_GetWanStatus () == 0` -/
def wanStopped (m : Machine) : Bool := m.outside.wanStatus == "stopped"

/-- `WanMgr_GetWanServiceStatus () == 1` -/
def wanServiceStarted (m : Machine) : Bool := m.outside.wanServiceStatus == "started"

end Machine

/-! ## The modes -/

/-- `SetCurrentWanMode` -/
def setCurrentWanMode (mode : WanMode) (m : Machine) : Machine :=
  { m with
    modes := { m.modes with current := mode }
    stored := if m.outside.syscfgSet then { m.stored with current := some mode } else m.stored }

/-- `SetLastKnownWanMode` -/
def setLastKnownWanMode (mode : WanMode) (m : Machine) : Machine :=
  { m with
    modes := { m.modes with lastKnown := mode }
    stored := if m.outside.syscfgSet then { m.stored with lastKnown := some mode } else m.stored }

/-- `SelectedWanMode` -/
def selectedWanMode (mode : WanMode) (m : Machine) : Machine :=
  { m with
    modes := { m.modes with selected := mode }
    stored := if m.outside.syscfgSet then { m.stored with selected := some mode } else m.stored }

/-- `IntializeAutoWanConfig`: without a stored mode the policy is for the primary interface. -/
def initializeAutoWanConfig (m : Machine) : Machine :=
  let m := { m with
    modes := {
      current := .unknown
      lastKnown := m.stored.lastKnown.getD .unknown
      selected := m.stored.selected.getD .auto } }
  let m := if m.stored.selected = none then selectedWanMode .primary m else m
  let m := if m.modes.lastKnown = .unknown then { m with modes := { m.modes with lastKnown := .primary } }
    else m
  setCurrentWanMode .unknown m

/-- `WanMgr_Policy_AutoWan_GetLastKnownModeInterfaceIndex` -/
def lastKnownModeInterfaceIndex (m : Machine) : Option Nat :=
  match m.modes.lastKnown with
  | .primary => m.ifaces.findIdx? fun d => d.ifaceType == .local_ && d.wanType == .primary
  | .secondary => m.ifaces.findIdx? fun d => d.ifaceType == .local_ && d.wanType == .secondary
  | _ => none

/-! ## The backup interface -/

/-- `isAnyRemoteInterfaceActive`: the status of the first remote interface that is enabled. Without
any the value is 0 or -1, which no caller tells apart. -/
def anyRemoteInterfaceActive (ifaces : List Iface) : SelectionStatus :=
  match ifaces.find? fun d => d.ifaceType == .remote && d.selection.enable with
  | some d => d.selection.status
  | none => .unknown

/-- `isAnyRemoteInterfaceActive () >= WAN_IFACE_SELECTED` -/
def remoteSelected (ifaces : List Iface) : Bool :=
  anyRemoteInterfaceActive ifaces == .selected || anyRemoteInterfaceActive ifaces == .active

/-- There is a remote interface, and it is not active. -/
def remoteInactive (ifaces : List Iface) : Bool :=
  anyRemoteInterfaceActive ifaces != .unknown && anyRemoteInterfaceActive ifaces != .active

/-- `WanMgr_Policy_BackupWan_IsConnectivityCheckGood` -/
def backupConnectivityCheckGood (ifaces : List Iface) : Bool :=
  ifaces.any fun d => d.tad && d.ifaceType == .remote && d.selection.enable &&
    (d.virtIf.ip.ipv4ConnectivityStatus == .up || d.virtIf.ip.ipv6ConnectivityStatus == .up)

/-! ## The connectivity check -/

/-- The bit of a state in the sysevent. -/
def CheckState.bit : CheckState → Nat
  | .disabled => 0
  | .enabled => 1
  | .starting => 2
  | .stopped => 4
  | .started => 8

/-- `WanMgr_Sysevent_SetConnectivityCheckState` -/
def setConnectivityCheckState (enable : Bool) (state : CheckState) (m : Machine) : Machine :=
  { m with connectivityCheck := state.bit ||| (if enable then CheckState.enabled.bit else 0) }

/-- The sysevent as the two machines start with it. -/
def startConnectivityCheck (d : Option Iface) (m : Machine) : Machine :=
  { m with connectivityCheck := if d.any Iface.tad then 1 else 0 }

/-- `WanMgr_DnsCheckWaitForRemoteInActive` -/
def dnsCheckWaitForRemoteInActive (d : Iface) (m : Machine) : Machine :=
  if m.connectivityCheck &&& CheckState.starting.bit ≠ 0 ∧ m.wanStandby ∧
      anyRemoteInterfaceActive m.ifaces ≠ .active then
    let m := { m with telemetryBackUpStatus := .stoped }.request
      [.acceptRa d.name true, .configReset .configure d.name]
    (if d.tad then setConnectivityCheckState true .started m
      else setConnectivityCheckState false .disabled m).request [.wanStart]
  else m

/-- The type of check was changed to another one. -/
def stopCheck (i : Nat) (d : Iface) (m : Machine) : Bool × Machine :=
  if d.virtIf.ip.wccTypeChanged ∧ m.outside.triggerTad .stop then
    (true, m.modifyIface i fun d => (d.setConnectivity .down).setIp fun ip =>
      { ip with wccTypeChanged := false, restartConnectivityCheck := false })
  else (false, m)

/-- The type of check was changed to this one, and nothing is connected. -/
def startCheck (i : Nat) (m : Machine) : Bool × Machine :=
  if m.outside.triggerTad .start then
    (true, m.modifyIface i (·.setIp fun ip =>
      { ip with wccTypeChanged := false, restartConnectivityCheck := false }))
  else (false, m)

/-- The check is started again, with new name servers. -/
def restartCheck (event : WccEvent) (i : Nat) (m : Machine) : Machine :=
  if m.outside.triggerTad event then
    m.modifyIface i (·.setIp fun ip => { ip with restartConnectivityCheck := false })
  else m

/-- The check of an interface that has just failed. -/
def failCheck (i : Nat) (d : Iface) (m : Machine) : Machine :=
  if d.tad then
    setConnectivityCheckState true .stopped
      ((m.request [.configReset .deconfigure d.name]).modifyIface i (·.setConnectivity .down))
  else m

/-- The check of an interface that comes up starts anew. -/
def beginCheck (i : Nat) (d : Iface) (m : Machine) : Machine :=
  if d.tad then
    setConnectivityCheckState true .starting
      ((m.request [.acceptRa d.name false]).modifyIface i (·.setConnectivity .up))
  else m

/-- The physical link is lost, and the WAN service is not left to its connectivity check. -/
def linkLost (d : Iface) (m : Machine) : Bool :=
  d.baseInterfaceStatus == .down && (!d.tad || m.wanServiceStarted)

/-- The backup interface has connectivity, and this one has not. -/
def connectivityLost (d : Iface) (m : Machine) : Bool :=
  d.tad && remoteSelected m.ifaces && backupConnectivityCheckGood m.ifaces && d.connectivityDown

/-- What an interface that is active leaves the WAN service with, when it lost its connectivity. -/
def leaveToBackup (d : Iface) (m : Machine) : Machine :=
  { (setConnectivityCheckState true .starting m).request
      [.wanStop, .acceptRa d.name false, .configReset .deconfigure d.name] with
    telemetryBackUpStatus := .started }

/-- An interface that was up loses its link. -/
def linkDown (i : Nat) (d : Iface) (m : Machine) : Machine :=
  { (failCheck i d (m.modifyIface i fun d => (d.setSelection .notSelected).setStatus .disabled)).request
      [.wanStop, .acceptRa d.name false] with
    telemetryBackUpStatus := .started }

/-- The service runs after a switch over. -/
def switchOverDone (m : Machine) : Machine :=
  if m.telemetryRestoreStatus = .started ∨ m.telemetryRestoreStatus = .failed then
    { m with telemetryRestoreStatus := .success }
  else m

/-! ## What both machines do -/

/-- `Transition_WanInterfaceTearDown` -/
def transitionWanInterfaceTearDown (m : Machine) : State × Machine :=
  match m.fixed? with
  | none => (.interfaceTeardown, m)
  | some (i, d) =>
    (.interfaceTeardown,
      (m.modifyIface i fun d =>
        ({ d with baseInterfaceStatus := .unknown }.setSelection .notSelected).setStatus .disabled).request
          [.wanStop, .acceptRa d.name false, .killDibbler, .killUdhcpc])

/-- `State_WanInterfaceTearDown` -/
def stateWanInterfaceTearDown (m : Machine) : State × Machine :=
  match m.fixed? with
  | none => (.interfaceTeardown, m)
  | some _ =>
    if ¬ m.wanEnable then (.interfaceTeardown, m)
    else if m.wanOperationalMode ≠ m.stored.selected.getD .unknown then (.exit, m)
    else if m.modes.selected = .auto ∧ m.modes.current = .unknown then (.selectingInterface, m)
    else (.interfaceDown, m)

/-- `Transition_WanInterfaceValidating`, and the transitions of that name of the other states and
machine: an address can be leased over the interface. -/
def transitionWanInterfaceValidating (m : Machine) : Option State × Machine :=
  match m.fixed? with
  | none => (none, m)
  | some (i, d) =>
    if ¬ m.wanEnable ∨ ¬ d.selection.enable ∨ d.baseInterfaceStatus = .down then (none, m)
    else
      let m := if m.activeInterfaceIdx = some 0 then m.request [.interfaceUp d.name] else m
      if m.outside.startForValidation then
        (some .validatedInterface, m.modifyIface i (·.setSelection .selected))
      else (none, m)

/-- What a tick reads before it runs the function of its state. -/
def updateConfig (m : Machine) : Machine :=
  { m with wanEnable := m.config.enable, locked := m.activeInterfaceIdx }

end ModePolicy

end WanManager
