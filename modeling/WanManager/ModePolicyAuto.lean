import WanManager.ModePolicy

/-! # The machine of the automatic WAN mode

`Wanmgr_WanAutoMode_StartStateMachine`. The local interfaces are tried one after the other; the mode
of the first one that gets an address is kept as the last known mode, and the device is rebooted when
it was another one. -/

namespace WanManager

namespace ModePolicy
open BackupWan

/-! ## Choosing an interface -/

/-- The first local interface that is not this one. -/
def alternateInterface (i : Nat) (ifaces : List Iface) : Option Nat :=
  (List.range ifaces.length).find? fun j => j != i && (ifaces[j]?).any (·.ifaceType == .local_)

/-- `Transition_WaitingForInterface` -/
def transitionWaitingForInterface (i : Nat) (m : Machine) : State × Machine :=
  let named := (m.ifaces[i]?).any (·.baseInterface ≠ "")
  (.waitingForInterface,
    (m.modifyIface i fun d =>
      { ((d.setActiveLink true).setSelection .notSelected).setStatus .disabled with
        baseInterfaceStatus := .unknown }).requestIf named (.phyStatus i))

/-- `WanMgr_Policy_AutoWan_SelectAlternateInterface` -/
def selectAlternateInterface (m : Machine) : State × Machine :=
  match m.fixed? with
  | none => (.waitingForInterface, m)
  | some (i, _) =>
    match alternateInterface i m.ifaces with
    | none => (.waitingForInterface, m)
    | some j =>
      transitionWaitingForInterface j
        { m with previousActiveInterfaceIndex := m.activeInterfaceIdx, activeInterfaceIdx := some j }

/-- `WanMgr_Policy_AutoWan_CfgPostWanSelection` -/
def cfgPostWanSelection (m : Machine) : Machine :=
  m.request (((List.range m.ifaces.length).filter fun j =>
    (m.ifaces[j]?).any (·.ifaceType == .local_)).map .postCfgWanFinalize)

/-! ## DHCP clients -/

/-- `WanMgr_GetWanInterfaceType` of the previous interface -/
def previousType (m : Machine) : WanIfaceType :=
  match m.previousActiveInterfaceIndex.bind (m.ifaces[·]?) with
  | some d => d.wanType
  | none => .primary

/-- `StartWanClients`: on an interface of the last known mode the WAN service is started, on another
one only a DHCP client. -/
def startWanClients (d : Iface) (m : Machine) : Machine :=
  match m.modes.lastKnown with
  | .primary =>
    if d.wanType = .primary then
      m.request ((if previousType m ≠ .primary then [.wanStop, .killUdhcpc, .killDibbler, .killUdhcpc]
        else []) ++ [.wanStart, .sshdRestart])
    else if m.outside.eRouterMode = 2 then m.request [.killDibbler, .dibbler]
    else if m.outside.eRouterMode = 1 ∨ m.outside.eRouterMode = 3 then
      m.request [.acceptRa d.name true, .killUdhcpc, .udhcpc d.name]
    else m
  | .secondary =>
    if d.wanType = .secondary then
      m.request ((if previousType m ≠ .secondary then [.wanStop, .killUdhcpc, .killUdhcpc, .killDibbler]
        else []) ++ [.wanStart, .sshdRestart])
    else m.request [.killUdhcpc, .acceptRa d.name true, .udhcpc d.name]
  | _ => m

/-- What an interface is scanned for, and who tells. -/
def startScan (i : Nat) (d : Iface) (m : Machine) : State × Machine :=
  let m := startWanClients d m
  (.scanningInterface,
    m.request (if d.monitorOperStatus then [.operationalStatus i] else [.ipMonitor i]))

/-- An interface that is to be scanned has no address, as far as is known. -/
def Iface.unscanned (d : Iface) : Iface :=
  { d.leasesUnknown.setSelection .selected with operationalStatus := .unknown }

/-! ## Transitions -/

/-- `Transition_WanInterfacePhyUp` -/
def transitionWanInterfacePhyUp (m : Machine) : State × Machine :=
  match m.fixed? with
  | none => (.selectingInterface, m)
  | some (i, d) => startScan i d (m.modifyIface i Iface.unscanned)

/-- `Transition_WanInterfaceConfigured` -/
def transitionWanInterfaceConfigured (m : Machine) : State × Machine :=
  match m.fixed? with
  | none => (.selectingInterface, m)
  | some (i, d) => startScan i d (m.modifyIface i fun d => (Iface.unscanned d).setStatus .disabled)

/-- The mode of an interface that has come up becomes the last known one. -/
def lockMode (d : Iface) (m : Machine) : Machine :=
  let change (mode : WanMode) : Machine :=
    let m := setCurrentWanMode mode (setLastKnownWanMode mode m)
    if d.selection.requiresReboot then m.request [.reboot] else startWanClients d m
  let keep (mode : WanMode) : Machine := setCurrentWanMode mode (setLastKnownWanMode mode m)
  match m.modes.lastKnown with
  | .primary => if d.wanType = .secondary then change .secondary else keep .primary
  | .secondary => if d.wanType = .primary then change .primary else keep .secondary
  | _ => m

/-- Without `ENABLE_WANMODECHANGE_NOREBOOT` every interface requires a reboot. -/
def Iface.comeUp (noReboot : Bool) (d : Iface) : Iface :=
  { d with
    selection := { d.selection with
      status := .selected, requiresReboot := !noReboot || d.selection.requiresReboot } }

/-- `Transition_WanInterfaceUp` -/
def transitionWanInterfaceUp (m : Machine) : State × Machine :=
  match m.fixed? with
  | none => (.interfaceActive, m)
  | some (i, d) =>
    let m := lockMode (Iface.comeUp m.noReboot d) (beginCheck i d (m.modifyIface i (Iface.comeUp m.noReboot)))
    (.interfaceUp,
      if d.tad then (setConnectivityCheckState true .starting m).request [.wanStart] else m)

/-- `Transition_DnsConnectivityCheckUp` -/
def transitionDnsConnectivityCheckUp (m : Machine) : State × Machine :=
  match m.fixed? with
  | none => (.interfaceActive, m)
  | some (i, d) =>
    let m := m.modifyIface i (·.setSelection .selected)
    (.interfaceUp,
      if d.tad then
        (setConnectivityCheckState true .starting (m.request [.acceptRa d.name false])).request [.wanStart]
      else m)

/-- `Transition_WanInterfaceActive` -/
def transitionWanInterfaceActive (m : Machine) : State × Machine :=
  match m.fixed? with
  | none => (.interfaceActive, m)
  | some (i, _) => (.interfaceActive, m.modifyIface i fun d => (d.setSelection .active).setStatus .up)

/-- `Transition_AutoWanInterfaceValidating` or `Transition_WanInterfaceValidating`, where it was
called: the value 0 leaves the state as it is. -/
def validateInterface (st : State) (m : Machine) : State × Machine :=
  let ret := transitionWanInterfaceValidating m
  (ret.1.getD st, ret.2)

/-! ## States -/

/-- `State_AutoWanInterfaceValidated`; no function returns this state. -/
def stateAutoWanInterfaceValidated (m : Machine) : State × Machine :=
  match m.fixed? with
  | none => (.autoWanValidatedInterface, m)
  | some (i, d) =>
    if ¬ m.wanEnable then transitionWanInterfaceTearDown m
    else if d.baseInterfaceStatus = .down ∨ d.selection.status = .notSelected then
      (.interfaceDown, m.modifyIface i fun d => (d.setSelection .notSelected).setStatus .disabled)
    else if remoteInactive m.ifaces then
      transitionWanInterfacePhyUp { m with telemetryRestoreStatus := .started }
    else (.autoWanValidatedInterface, m)

/-- `State_WanInterfaceValidated` -/
def stateWanInterfaceValidated (m : Machine) : State × Machine :=
  match m.fixed? with
  | none => (.validatedInterface, m)
  | some (i, d) =>
    if ¬ m.wanEnable then transitionWanInterfaceTearDown m
    else if d.baseInterfaceStatus = .down ∨ d.selection.status = .notSelected then
      (.interfaceDown, m.modifyIface i fun d => (d.setSelection .notSelected).setStatus .disabled)
    else if remoteInactive m.ifaces then
      let m := m.request [.wanStart]
      if m.outside.wanServiceStatus = "starting" ∨ m.outside.wanServiceStatus = "started" then
        transitionWanInterfaceUp { m.request [.sshdRestart] with telemetryRestoreStatus := .started }
      else (.validatedInterface, m)
    else (.validatedInterface, m)

/-- `State_WanConfiguringInterface` -/
def stateWanConfiguringInterface (m : Machine) : State × Machine :=
  match m.fixed? with
  | none => (.waitingForInterface, m)
  | some (i, d) =>
    if ¬ m.wanEnable then transitionWanInterfaceTearDown m
    else
      let m := m.requestIf d.wanConfigEnabled (.configureWan i true)
      if d.wanConfigEnabled ∧ ¬ m.outside.configureWan then (.deconfiguringInterface, m)
      else
        let m := m.requestIf d.customConfigEnable (.customConfig i true)
        if d.customConfigEnable ∧ ¬ m.outside.customConfig then (.deconfiguringInterface, m)
        else if anyRemoteInterfaceActive m.ifaces = .active then
          validateInterface .configuringInterface (m.request [.acceptRa d.name false])
        else transitionWanInterfaceConfigured m

/-- `State_WanDeConfiguringInterface` -/
def stateWanDeConfiguringInterface (m : Machine) : State × Machine :=
  match m.fixed? with
  | none => (.selectingInterface, m)
  | some (i, d) =>
    if ¬ m.wanEnable then transitionWanInterfaceTearDown m
    else
      (.selectingInterface,
        ((m.modifyIface i (·.setActiveLink false)).requestIf d.customConfigEnable (.customConfig i false)).requestIf
          d.wanConfigEnabled (.configureWan i false))

/-- What the scan of an interface has come to, if it has. -/
def scanResult (d : Iface) : Option Bool :=
  if d.monitorOperStatus then
    match d.operationalStatus with
    | .operational => some true
    | .notOperational => some false
    | .unknown => none
  else if d.virtIf.ip.ipv4Status = .up ∨ d.virtIf.ip.ipv6Status = .up then some true
  else if d.virtIf.ip.ipv4Status = .down ∧ d.virtIf.ip.ipv6Status = .down then some false
  else none

/-- `State_WanScanningInterface` -/
def stateWanScanningInterface (m : Machine) : State × Machine :=
  match m.fixed? with
  | none => (.scanningInterface, m)
  | some (_, d) =>
    if ¬ m.wanEnable then transitionWanInterfaceTearDown m
    else
      match scanResult d with
      | some true => transitionWanInterfaceUp (cfgPostWanSelection (switchOverDone m))
      | some false =>
        (.deconfiguringInterface,
          if m.telemetryRestoreStatus = .started then { m with telemetryRestoreStatus := .failed } else m)
      | none => (.scanningInterface, m)

/-- The check of an interface that is active. -/
def activeCheck (i : Nat) (d : Iface) (m : Machine) : Machine :=
  if d.tad then
    if d.connectivityDown ∧ d.virtIf.ip.wccTypeChanged then
      let ret := startCheck i m
      if ret.1 then setConnectivityCheckState false .started ret.2 else ret.2
    else m
  else
    let ret := stopCheck i d m
    if ret.1 then setConnectivityCheckState false .disabled ret.2 else ret.2

/-- "Restart Test and Diagnostic DNS Connectivity check if DNS Server changed" -/
def restartActiveCheck (i : Nat) (m : Machine) : Machine :=
  if (m.ifaces[i]?).any (·.virtIf.ip.restartConnectivityCheck) then restartCheck .restart i m else m

/-- `State_WanInterfaceActive` -/
def stateWanInterfaceActive (m : Machine) : State × Machine :=
  match m.fixed? with
  | none => (.interfaceActive, m)
  | some (i, d) =>
    if ¬ m.wanEnable then transitionWanInterfaceTearDown m
    else if linkLost d m then (.interfaceDown, linkDown i d m)
    else
      let m := activeCheck i d m
      let ret := if connectivityLost d m then transitionDnsConnectivityCheckUp (leaveToBackup d m)
        else (.interfaceActive, m)
      (ret.1, restartActiveCheck i ret.2)

/-- The check of an interface that is up, while it waits for the backup interface. -/
def upCheck (i : Nat) (d : Iface) (m : Machine) : Machine :=
  if d.connectivityDown ∧ d.virtIf.ip.wccTypeChanged then (startCheck i m).2
  else if d.virtIf.ip.ipv4ConnectivityStatus = .up ∨ d.virtIf.ip.ipv6ConnectivityStatus = .up then
    dnsCheckWaitForRemoteInActive d
      (if d.virtIf.ip.restartConnectivityCheck ∧ m.wanStandby then restartCheck .start i m else m)
  else m

/-- The IPv6 address is added once for each time the WAN service is started. -/
def configureV6 (d : Iface) (m : Machine) : Machine :=
  if m.wanStarted ∧ ¬ m.v6Configured then { m.request [.ipv6Config d.name] with v6Configured := true } else m

/-- `State_WanInterfaceUp` -/
def stateWanInterfaceUp (m : Machine) : State × Machine :=
  match m.fixed? with
  | none => (.interfaceUp, m)
  | some (i, d) =>
    if ¬ m.wanEnable then transitionWanInterfaceTearDown m
    else if linkLost d m then (.interfaceDown, linkDown i d (m.request [.acceptRa d.name false]))
    else
      let m := if d.tad then upCheck i d m else (stopCheck i d (dnsCheckWaitForRemoteInActive d m)).2
      let m := configureV6 d m
      if m.wanStarted ∧ m.wanServiceStarted then
        let m := switchOverDone m
        if m.outside.defaultRoute then transitionWanInterfaceActive { m with v6Configured := false }
        else (.interfaceUp, m)
      else (.interfaceUp, m)

/-- `State_WanInterfaceDown` -/
def stateWanInterfaceDown (m : Machine) : State × Machine :=
  match m.fixed? with
  | none => (.interfaceDown, m)
  | some (_, d) =>
    if ¬ m.wanEnable then transitionWanInterfaceTearDown m
    else if d.baseInterfaceStatus = .up then
      let m := { m with telemetryBackUpStatus := .stoped }
      if anyRemoteInterfaceActive m.ifaces = .active ∧ ¬ d.tad then validateInterface .interfaceDown m
      else if ¬ d.tad ∨ m.wanStopped then transitionWanInterfaceUp (m.request [.wanStart, .sshdRestart])
      else (.interfaceDown, m)
    else (.interfaceDown, m)

/-- `State_WaitingForInterface` -/
def stateWaitingForInterface (m : Machine) : State × Machine :=
  match m.fixed? with
  | none => (.waitingForInterface, m)
  | some (i, d) =>
    if ¬ m.wanEnable then transitionWanInterfaceTearDown m
    else
      match d.baseInterfaceStatus with
      | .up =>
        let m := { m with telemetryBackUpStatus := .stoped }.modifyIface i fun d => { d with scanned := true }
        if m.activeInterfaceIdx ≠ m.previousActiveInterfaceIndex then (.configuringInterface, m)
        else if anyRemoteInterfaceActive m.ifaces = .active ∧ ¬ d.tad then
          validateInterface .waitingForInterface (m.request [.acceptRa d.name false])
        else if ¬ d.tad ∨ m.wanStopped then
          transitionWanInterfacePhyUp (m.modifyIface i (·.setSelection .selected))
        else (.waitingForInterface, m)
      | .down => (.deconfiguringInterface, m.modifyIface i fun d => { d with scanned := true })
      | .unknown | .initializing => (.waitingForInterface, m)

/-! ## The machine -/

/-- One turn of the loop of `Transition_StartAuto`. -/
def startAuto (m : Machine) : Machine :=
  match m.activeInterfaceIdx.bind fun i => m.ifaces[i]?.map fun d => (i, d) with
  | none => m
  | some (i, d) =>
    let m := startConnectivityCheck (some d) (m.modifyIface i (·.setActiveLink true))
    if d.baseInterface = "" then m
    else
      let m := m.modifyIface i fun d => { d with baseInterfaceStatus := .unknown }
      { (if m.outside.componentReady then m.request [.phyStatus i] else m) with
        phase := .auto, st := .waitingForInterface }

def autoFunction : State → Machine → State × Machine
  | .selectingInterface => selectAlternateInterface
  | .waitingForInterface => stateWaitingForInterface
  | .configuringInterface => stateWanConfiguringInterface
  | .scanningInterface => stateWanScanningInterface
  | .deconfiguringInterface => stateWanDeConfiguringInterface
  | .interfaceActive => stateWanInterfaceActive
  | .interfaceUp => stateWanInterfaceUp
  | .interfaceDown => stateWanInterfaceDown
  | .interfaceTeardown => stateWanInterfaceTearDown
  | .autoWanValidatedInterface => stateAutoWanInterfaceValidated
  | .validatedInterface => stateWanInterfaceValidated
  | .exit => fun m => (.exit, { m with phase := .choosing })

/-- One turn of `Wanmgr_WanAutoMode_StartStateMachine`. -/
def autoTick (m : Machine) : Machine :=
  let next := autoFunction m.st (updateConfig m)
  { next.2 with st := next.1 }

end ModePolicy

end WanManager
