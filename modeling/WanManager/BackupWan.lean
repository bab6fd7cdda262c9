import WanManager.Types

/-! # The backup WAN machine

`Wanmgr_BackupWan_StateMachineThread` of `wanmgr_policy_autowan_impl.c`, in a build with
`WAN_FAILOVER_SUPPORTED` and `FEATURE_TAD_HEALTH_CHECK`. The machine picks the remote interface,
validates it and makes it active while no local interface is good; it goes back when one has been
good for the restoration delay. The data base is locked for a tick, so a tick is one step. Traces,
telemetry events, the published list of interfaces and the name servers handed to the connectivity
check have no effect on the machine. -/

namespace WanManager

namespace BackupWan

/-! ## Data -/

/-- `WcBWanPolicyState_t`; no function returns `STATE_BACKUP_WAN_EXIT`. -/
inductive State where
  | selectingInterface | interfaceDown | validatingInterface | available
  | interfaceUp | interfaceActive | interfaceInactive | waiting
  deriving DecidableEq, Repr, Inhabited

/-- `SwitchOver_t` -/
inductive SwitchOver where
  | unknown | stoped | started | failed | success
  deriving DecidableEq, Repr, Inhabited

/-- `WanMode_t` -/
inductive WanMode where
  | auto | secondary | primary | unknown
  deriving DecidableEq, Repr, Inhabited

/-- `DML_WAN_IFACE_TYPE` -/
inductive WanIfaceType where
  | unconfigured | primary | secondary
  deriving DecidableEq, Repr, Inhabited

/-- `DML_WAN_IFACE_OPER_STATUS` -/
inductive OperStatus where
  | unknown | operational | notOperational
  deriving DecidableEq, Repr, Inhabited

/-- `WCC_EVENT` -/
inductive WccEvent where
  | start | stop | restart
  deriving DecidableEq, Repr, Inhabited

/-- The argument of the firewall script. -/
inductive Action where
  | configure | deconfigure
  deriving DecidableEq, Repr, Inhabited

/-- `DML_WAN_IFACE` with the fields only this build looks at. -/
structure Iface extends WanIface where
  /-- `VirtIfList->Name` -/
  name : String := ""
  /-- `InterfaceScanStatus == WAN_IFACE_STATUS_SCANNED` -/
  scanned : Bool := false
  wanType : WanIfaceType := .unconfigured
  monitorOperStatus : Bool := false
  /-- `VirtIfList->OperationalStatus` -/
  operationalStatus : OperStatus := .unknown
  wanConfigEnabled : Bool := false
  customConfigEnable : Bool := false
  deriving DecidableEq, Repr, Inhabited

/-- What a tick is answered by DHCP clients, the connectivity check, routes and sysevent. -/
structure Outside where
  /-- `WanMgr_Policy_CheckAndStartUDHCPClientOverWanInterface (.., WAN_START_FOR_BACKUP_WAN, ..)` -/
  startForBackupWan : Bool := true
  startForValidation : Bool := true
  startPrimaryValidation : Bool := true
  /-- `WanMgr_Trigger_Backup_TAD` -/
  triggerTad : WccEvent → Bool := fun _ => true
  /-- whether a default route is there at an attempt -/
  defaultRoute : Nat → Bool := fun _ => true
  /-- `WanMgr_GetWanRoutedStatus () == 0` -/
  routedStopped : Bool := true
  /-- the sysevent `current_wan_ifname`, once these scripts were run -/
  currentWanIfname : List Action → String := fun _ => ""
  deviceMode : Int := 0
  ulaAddr : String := ""
  selectedMode : WanMode := .auto
  currentMode : WanMode := .unknown

structure Machine where
  st : State := .selectingInterface
  wanEnable : Bool := false
  allowRemoteInterfaces : Bool := false
  activeInterfaceIdx : Option Nat := none
  /-- the interface `pWanActiveIfaceData` points to during a tick -/
  locked : Option Nat := none
  restorationDelayTimerStart : Bool := false
  restorationDelayTimer : Nat := 0
  restorationDelayTimeout : Nat := 0
  telemetryBackUpStatus : SwitchOver := .unknown
  config : WanConfig := {}
  ifaces : List Iface := []
  now : Nat := 0
  /-- the sysevent `remotewan_routeset` is `true` -/
  remotewanRouteset : Bool := false
  outside : Outside := {}
  /-- history: the runs of the firewall script -/
  scripts : List Action := []

namespace Machine

/-- `pFixedInterface` -/
def fixed? (m : Machine) : Option Iface := m.locked.bind fun i => m.ifaces[i]?

def modifyIface (i : Nat) (f : Iface → Iface) (m : Machine) : Machine :=
  { m with ifaces := m.ifaces.modify i f }

def modifyFixed (f : Iface → Iface) (m : Machine) : Machine :=
  match m.locked with
  | some i => m.modifyIface i f
  | none => m

end Machine

namespace Iface

def setSelection (st : SelectionStatus) (d : Iface) : Iface :=
  { d with selection := { d.selection with status := st } }

def setActiveLink (b : Bool) (d : Iface) : Iface :=
  { d with selection := { d.selection with activeLink := b } }

def setStatus (st : IfaceStatus) (d : Iface) : Iface :=
  { d with virtIf := { d.virtIf with status := st } }

def setVlanStatus (st : LinkStatus) (d : Iface) : Iface :=
  { d with virtIf := { d.virtIf with vlan := { d.virtIf.vlan with status := st } } }

def setIp (f : IfaceIp → IfaceIp) (d : Iface) : Iface :=
  { d with virtIf := { d.virtIf with ip := f d.virtIf.ip } }

def setConnectivity (st : ConnectivityStatus) : Iface → Iface :=
  setIp fun ip => { ip with ipv4ConnectivityStatus := st, ipv6ConnectivityStatus := st }

def leasesUnknown : Iface → Iface := setIp fun ip => { ip with ipv4Status := .unknown, ipv6Status := .unknown }

/-- What a transition to `STATE_BACKUP_WAN_INTERFACE_DOWN` resets. -/
def reset (d : Iface) : Iface :=
  (((d.setActiveLink false).setVlanStatus .down).setSelection .notSelected).leasesUnknown.setStatus
    .disabled

/-- A remote interface is always `REMOTE_INTERFACE_NAME`. -/
def renameRemote (d : Iface) : Iface := if d.ifaceType = .remote then { d with name := "brRWAN" } else d

def tad (d : Iface) : Bool := d.virtIf.ip.connectivityCheckType == .tad

/-- One family has connectivity, for the check the interface uses. -/
def connectivityUp (d : Iface) : Bool :=
  !d.tad || d.virtIf.ip.ipv4ConnectivityStatus == .up || d.virtIf.ip.ipv6ConnectivityStatus == .up

def connectivityDown (d : Iface) : Bool :=
  d.virtIf.ip.ipv4ConnectivityStatus == .down && d.virtIf.ip.ipv6ConnectivityStatus == .down

def enabledLocal (d : Iface) : Bool := d.ifaceType == .local_ && d.selection.enable

end Iface

/-! ## Local utils -/

/-- `WanMgr_Policy_BackupWan_GetCurrentBackupWanInterfaceIndex` -/
def currentBackupWanInterfaceIndex (ifaces : List Iface) : Option Nat :=
  ifaces.findIdx? fun d => d.selection.enable && d.ifaceType == .remote

/-- `WanMgr_Policy_BackupWan_CheckAnyLocalWANIsPhysicallyActive () != -1` -/
def anyLocalWanIsPhysicallyActive (ifaces : List Iface) : Bool :=
  ifaces.any fun d => d.enabledLocal && d.baseInterfaceStatus == .up

/-- `WanMgr_Policy_PrimaryWan_CheckAnyLocalWANIsSelected` -/
def anyLocalWanIsSelected (ifaces : List Iface) : Bool :=
  ifaces.any fun d => d.enabledLocal && (d.selection.status == .selected || d.selection.status == .active)

/-- `WanMgr_Policy_PrimaryWan_IsConnectivityCheckGood` -/
def primaryConnectivityCheckGood (ifaces : List Iface) : Bool :=
  ifaces.any fun d => d.tad && d.enabledLocal &&
    (d.virtIf.ip.ipv4ConnectivityStatus == .up || d.virtIf.ip.ipv6ConnectivityStatus == .up)

/-- `WanMgr_Policy_BackupWan_CheckLocalWANsScannedOnce`: the loop returns at the first scanned
interface of the selected mode, and counts the others. -/
def localWansScannedOnce (selected current : WanMode) (ifaces : List Iface) : Bool :=
  let locals := ifaces.filter (·.ifaceType == .local_)
  let scanned := locals.filter (·.scanned)
  !ifaces.isEmpty &&
    (scanned.any (fun d => (selected == .primary && d.wanType == .primary) ||
        (selected == .secondary && d.wanType == .secondary)) ||
      (selected == .auto && (current != .unknown || scanned.length == locals.length)))

/-- `WanMgr_Policy_PrimaryWan_ReTriggerValidation () == 0`: the first local interface that is up is
validated. -/
def retriggerPrimaryValidation (m : Machine) : Bool × Machine :=
  match m.ifaces.findIdx? fun d => d.enabledLocal && d.baseInterfaceStatus == .up with
  | none => (false, m)
  | some i =>
    if m.outside.startPrimaryValidation then (true, m)
    else (false, m.modifyIface i (·.setSelection .notSelected))

/-- `WanMgr_FirewallRuleConfig`: what the script returns is overwritten. -/
def firewallRuleConfig (action : Action) (name : String) (m : Machine) : Bool × Machine :=
  let current := m.outside.currentWanIfname m.scripts
  if action = .configure ∨ (current ≠ "" ∧ current = name) then
    (true, { m with scripts := m.scripts ++ [action] })
  else (true, m)

/-- `WanMgr_delBackUpIpv6Route` -/
def delBackUpIpv6Route (name : String) (m : Machine) : Machine :=
  if m.outside.deviceMode = 0 ∧ name ≠ "" ∧ m.outside.ulaAddr ≠ "" then
    { m with remotewanRouteset := false }
  else m

/-- The rules and the route of the backup interface are taken back. -/
def takeBackRules (name : String) (m : Machine) : Machine :=
  let m := (firewallRuleConfig .deconfigure name m).2
  if m.remotewanRouteset then delBackUpIpv6Route name m else m

/-- `RetryDelay` after the loop that looks for a default route. -/
def retryDelay (present : Nat → Bool) : Nat → Nat → Nat
  | 0, delay => delay
  | fuel + 1, delay =>
    if present delay then delay
    else if delay < 10 then retryDelay present fuel (delay + 1)
    else delay + 1

def switchOverFailed (m : Machine) : Machine :=
  if m.telemetryBackUpStatus = .started then { m with telemetryBackUpStatus := .failed } else m

/-- No local interface is there to switch over from. -/
def noLocalWan (m : Machine) : Machine :=
  if anyLocalWanIsPhysicallyActive m.ifaces then m else switchOverFailed m

/-! ## Transitions -/

def transitionBackupWanSelectingInterface (m : Machine) : State × Machine :=
  (.selectingInterface, { m with activeInterfaceIdx := none })

def transitionBackupWanInterfaceSelected (m : Machine) : State × Machine :=
  match m.fixed? with
  | none => (.selectingInterface, m)
  | some _ => (.interfaceDown, m.modifyFixed fun d => d.reset.renameRemote)

/-- The value 0 of a failed start is `STATE_BACKUP_WAN_SELECTING_INTERFACE`. -/
def transitionValidatingBackupWanInterface (m : Machine) : State × Machine :=
  match m.fixed? with
  | none => transitionBackupWanSelectingInterface m
  | some d =>
    if d.tad ∧ ¬ m.outside.startForBackupWan then (.selectingInterface, m)
    else (.validatingInterface, m)

def startTad (d : Iface) (started : Bool) : Iface :=
  let d := (d.setConnectivity .up).setIp fun ip => { ip with restartConnectivityCheck := true }
  if started then d.setIp fun ip => { ip with restartConnectivityCheck := false } else d

def transitionBackupWanAvailable (m : Machine) : State × Machine :=
  match m.fixed? with
  | none => transitionBackupWanSelectingInterface m
  | some d =>
    let m := m.modifyFixed fun d =>
      ((d.setActiveLink true).setSelection .selected).setStatus .disabled
    (.available,
      if d.tad then m.modifyFixed fun d => startTad d (m.outside.triggerTad .start) else m)

def transitionBackupWanInterfaceUp (m : Machine) : State × Machine :=
  match m.fixed? with
  | none => transitionBackupWanSelectingInterface m
  | some d =>
    if ¬ d.tad ∧ ¬ m.outside.startForBackupWan then (.interfaceDown, m)
    else (.interfaceUp, m.modifyFixed fun d => (d.setVlanStatus .up).setStatus .up)

/-- No local interface can carry the traffic instead. -/
def noPrimary (d : Iface) (m : Machine) : Bool :=
  !anyLocalWanIsPhysicallyActive m.ifaces || (d.tad && !primaryConnectivityCheckGood m.ifaces)

/-- The end of `Transition_BackupWanInterfaceDown`, for an interface that is given up. -/
def tearDown (d : Iface) (m : Machine) : Machine :=
  let m := if d.tad then m.modifyFixed (·.setConnectivity .down) else m
  m.modifyFixed Iface.reset

def transitionBackupWanInterfaceDown (m : Machine) : State × Machine :=
  match m.fixed? with
  | none => transitionBackupWanSelectingInterface m
  | some d =>
    if d.virtIf.status = .up ∧ d.virtIf.remoteStatus = .up then
      if noPrimary d m then (.waiting, m.modifyFixed (·.setSelection .notSelected))
      else (.interfaceDown, tearDown d (takeBackRules d.name m))
    else (.interfaceDown, tearDown d m)

def transitionBackupWanInterfaceActive (m : Machine) : State × Machine :=
  match m.fixed? with
  | none => transitionBackupWanSelectingInterface m
  | some d =>
    if d.baseInterfaceStatus = .down ∨ d.virtIf.vlan.status ≠ .up ∨ d.virtIf.remoteStatus ≠ .up then
      transitionBackupWanInterfaceDown (switchOverFailed m)
    else
      let m := m.modifyFixed fun d => (d.setSelection .active).setStatus .up
      let configured := firewallRuleConfig .configure d.name m
      if configured.1 = false then transitionBackupWanInterfaceDown (switchOverFailed configured.2)
      -- a route that is only found by the last attempt does not count
      else if 10 ≤ retryDelay m.outside.defaultRoute 10 1 then
        transitionBackupWanInterfaceDown configured.2
      else
        let m := configured.2
        (.interfaceActive,
          if m.telemetryBackUpStatus = .started ∨ m.telemetryBackUpStatus = .failed then
            { m with telemetryBackUpStatus := .success }
          else m)

def transitionBackupWanInterfaceInActive (m : Machine) : State × Machine :=
  match m.fixed? with
  | none => transitionBackupWanSelectingInterface m
  | some d =>
    (.interfaceInactive, (takeBackRules d.name m).modifyFixed (·.setSelection .selected))

def transitionBackupWanInterfaceWaitingPrimaryUp (m : Machine) : State × Machine :=
  match m.fixed? with
  | none => transitionBackupWanSelectingInterface m
  | some _ => transitionBackupWanInterfaceDown m

/-! ## States -/

def stateSelectingBackupWanInterface (m : Machine) : State × Machine :=
  if ¬ m.wanEnable ∨ ¬ m.allowRemoteInterfaces then (.selectingInterface, m)
  else
    let m := { m with activeInterfaceIdx := currentBackupWanInterfaceIndex m.ifaces }
    if m.activeInterfaceIdx ≠ none then transitionBackupWanInterfaceSelected m
    else (.selectingInterface, noLocalWan m)

def stateBackupWanInterfaceDown (m : Machine) : State × Machine :=
  match m.fixed? with
  | none => transitionBackupWanSelectingInterface m
  | some d =>
    if ¬ d.selection.enable ∨ ¬ m.wanEnable ∨ ¬ m.allowRemoteInterfaces then
      transitionBackupWanSelectingInterface m
    else if m.wanEnable ∧ d.baseInterfaceStatus = .up ∧ d.virtIf.remoteStatus = .up ∧
        d.virtIf.status = .disabled then
      let ret := transitionValidatingBackupWanInterface m
      if ret.1 ≠ .selectingInterface then ret else (.interfaceDown, noLocalWan ret.2)
    else (.interfaceDown, noLocalWan m)

/-- The interface has an address, or can be leased one. -/
def leaseFound (d : Iface) (m : Machine) : Bool :=
  if d.tad then d.virtIf.ip.ipv4Status == .up || d.virtIf.ip.ipv6Status == .up
  else m.outside.startForValidation

def stateValidatingBackupWanInterface (m : Machine) : State × Machine :=
  match m.fixed? with
  | none => transitionBackupWanSelectingInterface m
  | some d =>
    if ¬ m.allowRemoteInterfaces then transitionBackupWanSelectingInterface m
    else if ¬ m.wanEnable ∨ ¬ d.selection.enable ∨ d.baseInterfaceStatus = .down ∨
        d.virtIf.remoteStatus ≠ .up then
      transitionBackupWanInterfaceDown m
    else if leaseFound d m then transitionBackupWanAvailable m
    else (.validatingInterface, noLocalWan m)

/-- "Restart Test and Diagnostic DNS connectivity check if DNS server changed", for an interface
with another check. -/
def stopTad (m : Machine) : Machine :=
  match m.fixed? with
  | none => m
  | some d =>
    if d.virtIf.ip.wccTypeChanged ∧ m.outside.triggerTad .stop then
      m.modifyFixed fun d => (d.setConnectivity .down).setIp fun ip =>
        { ip with wccTypeChanged := false, restartConnectivityCheck := false }
    else m

def restartTad (m : Machine) : Machine :=
  match m.fixed? with
  | none => m
  | some d =>
    if d.virtIf.ip.restartConnectivityCheck ∧ m.outside.triggerTad .restart then
      m.modifyFixed (·.setIp fun ip => { ip with restartConnectivityCheck := false })
    else m

/-- The type of check was changed to this one, and nothing is connected. -/
def tadPending (d : Iface) : Bool := d.connectivityDown && d.virtIf.ip.wccTypeChanged

def startPendingTad (m : Machine) : Machine :=
  if m.outside.triggerTad .start then
    m.modifyFixed (·.setIp fun ip =>
      { ip with wccTypeChanged := false, restartConnectivityCheck := false })
  else m

/-- The same block of four states. -/
def updateTad (d : Iface) (m : Machine) : Machine :=
  if ¬ d.tad then stopTad m
  else if tadPending d then startPendingTad m
  else restartTad m

def stateBackupWanAvailable (m : Machine) : State × Machine :=
  match m.fixed? with
  | none => transitionBackupWanSelectingInterface m
  | some d =>
    if ¬ m.wanEnable ∨ ¬ d.selection.enable ∨ ¬ m.allowRemoteInterfaces ∨
        d.baseInterfaceStatus = .down ∨ d.virtIf.remoteStatus ≠ .up then
      transitionBackupWanInterfaceDown m
    else
      let m := updateTad d m
      if m.fixed?.any fun d => d.connectivityUp && d.baseInterfaceStatus == .up then
        transitionBackupWanInterfaceUp m
      else (.available, m)

/-- What `State_BackupWanInterfaceUp` and the states after it leave for. -/
def goesDown (d : Iface) (m : Machine) : Bool :=
  !m.wanEnable || !m.allowRemoteInterfaces || !d.selection.enable ||
    d.baseInterfaceStatus == .down || d.virtIf.vlan.status != .up || d.virtIf.status != .up ||
    d.virtIf.remoteStatus != .up

/-- The switch over from the local interfaces. -/
def switchesOver (m : Machine) : Bool :=
  m.fixed?.any fun d => d.virtIf.remoteStatus == .up && m.telemetryBackUpStatus != .stoped &&
    d.connectivityUp && (!d.tad || !primaryConnectivityCheckGood m.ifaces) && m.outside.routedStopped

def stateBackupWanInterfaceUp (m : Machine) : State × Machine :=
  match m.fixed? with
  | none => transitionBackupWanSelectingInterface m
  | some d =>
    if goesDown d m then transitionBackupWanInterfaceDown m
    else
      let m := updateTad d m
      if switchesOver m ∧ localWansScannedOnce m.outside.selectedMode m.outside.currentMode m.ifaces then
        transitionBackupWanInterfaceActive m
      else (.interfaceUp, m)

def stopTimer (m : Machine) : Machine :=
  { m with restorationDelayTimerStart := false, restorationDelayTimer := 0 }

/-- A local interface could take over. -/
def primaryReady (d : Iface) (m : Machine) : Bool :=
  anyLocalWanIsPhysicallyActive m.ifaces && (!d.tad || primaryConnectivityCheckGood m.ifaces) &&
    anyLocalWanIsSelected m.ifaces

/-- The restoration delay, at the end of `State_BackupWanInterfaceActive`. -/
def restorationDelay (d : Iface) (m : Machine) : State × Machine :=
  if primaryReady d m then
    if ¬ m.restorationDelayTimerStart then
      (.interfaceActive, { m with
        restorationDelayTimer := m.now + m.restorationDelayTimeout
        restorationDelayTimerStart := true })
    else if m.restorationDelayTimer < m.now then
      let m := stopTimer m
      if d.tad then transitionBackupWanInterfaceInActive m
      else
        let validated := retriggerPrimaryValidation m
        if validated.1 then transitionBackupWanInterfaceInActive validated.2
        else (.interfaceActive, validated.2)
    else (.interfaceActive, m)
  else (.interfaceActive, if m.restorationDelayTimerStart then stopTimer m else m)

/-- The block of `State_BackupWanInterfaceActive`: a check that was just started is restarted, if it
is to be. -/
def updateActiveTad (d : Iface) (m : Machine) : Machine :=
  if ¬ d.tad then stopTad m
  else restartTad (if tadPending d then startPendingTad m else m)

/-- The backup interface lost its connectivity while a local one has it. -/
def backupLost (d : Iface) (m : Machine) : Bool :=
  d.tad && !tadPending d && d.connectivityDown && primaryConnectivityCheckGood m.ifaces

def stateBackupWanInterfaceActive (m : Machine) : State × Machine :=
  match m.fixed? with
  | none => transitionBackupWanSelectingInterface m
  | some d =>
    if goesDown d m then transitionBackupWanInterfaceDown m
    else if backupLost d m then transitionBackupWanInterfaceInActive (stopTimer m)
    else restorationDelay d (updateActiveTad d m)

def stateBackupWanInterfaceInActive (m : Machine) : State × Machine :=
  match m.fixed? with
  | none => transitionBackupWanSelectingInterface m
  | some d =>
    if goesDown d m then transitionBackupWanInterfaceDown m
    else
      let m := updateTad d m
      if switchesOver m then transitionBackupWanInterfaceActive m else (.interfaceInactive, m)

/-- What is tested of the backup interface before it is tried again. -/
def triesAgain (m : Machine) : Bool :=
  m.fixed?.any fun d => d.selection.enable && d.baseInterfaceStatus == .up && d.connectivityUp &&
    d.virtIf.remoteStatus == .up

def stateBackupWanInterfaceWaitingPrimaryUp (m : Machine) : State × Machine :=
  match m.fixed? with
  | none => (.waiting, m)
  | some d =>
    if ¬ m.wanEnable ∨ ¬ m.allowRemoteInterfaces then transitionBackupWanSelectingInterface m
    else if anyLocalWanIsPhysicallyActive m.ifaces ∧ (¬ d.tad ∨ primaryConnectivityCheckGood m.ifaces) then
      transitionBackupWanInterfaceWaitingPrimaryUp m
    else
      let m := updateTad d m
      if triesAgain m then transitionBackupWanInterfaceActive m else (.waiting, m)

/-! ## The thread -/

/-- What a tick reads before it runs the function of its state. -/
def updateConfig (m : Machine) : Machine :=
  { m with
    wanEnable := m.config.enable
    allowRemoteInterfaces := m.config.allowRemoteInterfaces
    restorationDelayTimeout :=
      if m.restorationDelayTimerStart then m.restorationDelayTimeout else m.config.restorationDelay
    locked := m.activeInterfaceIdx }

def stateFunction : State → Machine → State × Machine
  | .selectingInterface => stateSelectingBackupWanInterface
  | .interfaceDown => stateBackupWanInterfaceDown
  | .validatingInterface => stateValidatingBackupWanInterface
  | .available => stateBackupWanAvailable
  | .interfaceUp => stateBackupWanInterfaceUp
  | .interfaceActive => stateBackupWanInterfaceActive
  | .interfaceInactive => stateBackupWanInterfaceInActive
  | .waiting => stateBackupWanInterfaceWaitingPrimaryUp

/-- One turn of `Wanmgr_BackupWan_StateMachineThread`. -/
def tick (m : Machine) : Machine :=
  let next := stateFunction m.st (updateConfig m)
  { next.2 with st := next.1 }

end BackupWan

end WanManager
