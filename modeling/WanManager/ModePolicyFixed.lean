import WanManager.ModePolicyAuto

/-! # The machine of a fixed WAN mode, and the policy

`Wanmgr_WanFixedMode_StartStateMachine` keeps to the interface of the selected mode.
`WanMgr_Policy_AutoWan` runs it or the machine of the automatic mode, as the mode in syscfg says, and
chooses again when that machine has ended. -/

namespace WanManager

namespace ModePolicy
open BackupWan

/-! ## Transitions -/

/-- `Transition_WanInterfaceSelected` works on the interface of the tick, not on the one that was just
selected. -/
def transitionWanInterfaceSelected (m : Machine) : State × Machine :=
  match m.fixed? with
  | none => (.selectingInterface, m)
  | some (i, d) =>
    (.interfaceDown,
      (m.modifyIface i fun d => { d.reset with scanned := true }).request [.acceptRa d.name false])

/-- `Transition_FixedWanInterfaceDown` -/
def transitionFixedWanInterfaceDown (m : Machine) : State × Machine :=
  match m.fixed? with
  | none => (.selectingInterface, m)
  | some (i, d) => (.interfaceDown, linkDown i d m)

/-- `Transition_FixedWanInterfaceUp` -/
def transitionFixedWanInterfaceUp (m : Machine) : State × Machine :=
  match m.fixed? with
  | none => (.selectingInterface, m)
  | some (i, d) =>
    (.interfaceUp,
      (beginCheck i d (m.modifyIface i fun d => (d.setActiveLink true).setStatus .up)).request [.wanStart])

/-- `Transition_FixedDnsConnectivityCheckUp` -/
def transitionFixedDnsConnectivityCheckUp (m : Machine) : State × Machine :=
  match m.fixed? with
  | none => (.selectingInterface, m)
  | some (i, d) =>
    let m := m.modifyIface i (·.setSelection .selected)
    (.interfaceUp,
      if d.tad then
        (setConnectivityCheckState true .starting (m.request [.acceptRa d.name false])).request [.wanStart]
      else m)

/-! ## States -/

/-- `State_FixedWanInterfaceValidated` -/
def stateFixedWanInterfaceValidated (m : Machine) : State × Machine :=
  match m.fixed? with
  | none => (.validatedInterface, m)
  | some (_, d) =>
    if ¬ m.wanEnable then transitionWanInterfaceTearDown m
    else if d.baseInterfaceStatus = .down ∨ d.selection.status = .notSelected then
      transitionFixedWanInterfaceDown m
    else if remoteInactive m.ifaces then
      transitionFixedWanInterfaceUp { m with telemetryRestoreStatus := .started }
    else (.validatedInterface, m)

/-- `State_SelectingWanInterface` -/
def stateSelectingWanInterface (m : Machine) : State × Machine :=
  let m := { m with activeInterfaceIdx := lastKnownModeInterfaceIndex m }
  if m.activeInterfaceIdx ≠ none then transitionWanInterfaceSelected m else (.selectingInterface, m)

/-- `State_FixedWanInterfaceDown` -/
def stateFixedWanInterfaceDown (m : Machine) : State × Machine :=
  match m.fixed? with
  | none => (.selectingInterface, m)
  | some (i, d) =>
    if ¬ m.wanEnable then transitionWanInterfaceTearDown m
    else if (d.baseInterfaceStatus = .up ∨ d.baseInterfaceStatus = .initializing) ∧
        d.virtIf.status = .disabled then
      let m := { m with telemetryBackUpStatus := .stoped }
      if anyRemoteInterfaceActive m.ifaces = .active ∧ ¬ d.tad then validateInterface .interfaceDown m
      else if ¬ d.tad ∨ m.wanStopped then
        transitionFixedWanInterfaceUp (m.modifyIface i (·.setSelection .selected))
      else (.interfaceDown, m)
    else (.interfaceDown, m)

/-- The check of an interface that is up; with another check than this one the backup interface is only
waited for when the type was changed. -/
def fixedUpCheck (i : Nat) (d : Iface) (m : Machine) : Machine :=
  if d.tad then upCheck i d m
  else if d.virtIf.ip.wccTypeChanged then (stopCheck i d (dnsCheckWaitForRemoteInActive d m)).2
  else m

def configureV6Fixed (d : Iface) (m : Machine) : Machine :=
  if m.wanStarted ∧ ¬ m.v6ConfiguredFixed then
    { m.request [.ipv6Config d.name] with v6ConfiguredFixed := true }
  else m

/-- `State_FixedWanInterfaceUp` -/
def stateFixedWanInterfaceUp (m : Machine) : State × Machine :=
  match m.fixed? with
  | none => (.interfaceDown, m)
  | some (i, d) =>
    if ¬ m.wanEnable then transitionWanInterfaceTearDown m
    else if linkLost d m then transitionFixedWanInterfaceDown m
    else
      let m := fixedUpCheck i d m
      let m := configureV6Fixed d m
      if m.wanStarted ∧ m.wanServiceStarted then
        let m := switchOverDone m
        if m.outside.defaultRoute then
          (.interfaceActive, { m.modifyIface i (·.setSelection .active) with v6ConfiguredFixed := false })
        else (.interfaceUp, m)
      else (.interfaceUp, m)

/-- `State_FixedWanInterfaceActive`: the connectivity check is not started again once the backup
interface takes over. -/
def stateFixedWanInterfaceActive (m : Machine) : State × Machine :=
  match m.fixed? with
  | none => (.interfaceDown, m)
  | some (i, d) =>
    if ¬ m.wanEnable then transitionWanInterfaceTearDown m
    else if linkLost d m then transitionFixedWanInterfaceDown m
    else
      let m := activeCheck i d m
      if connectivityLost d m then transitionFixedDnsConnectivityCheckUp (leaveToBackup d m)
      else (.interfaceActive, restartActiveCheck i m)

/-- The machine ends with a failure in a state it has no function for. -/
def fixedFunction : State → Machine → State × Machine
  | .selectingInterface => stateSelectingWanInterface
  | .interfaceDown => stateFixedWanInterfaceDown
  | .interfaceUp => stateFixedWanInterfaceUp
  | .interfaceTeardown => stateWanInterfaceTearDown
  | .validatedInterface => stateFixedWanInterfaceValidated
  | .interfaceActive => stateFixedWanInterfaceActive
  | .exit => fun m => (.exit, { m with phase := .choosing })
  | st => fun m => (st, { m with phase := .choosing })

/-- One turn of `Wanmgr_WanFixedMode_StartStateMachine`. -/
def fixedTick (m : Machine) : Machine :=
  let next := fixedFunction m.st (updateConfig m)
  { next.2 with st := next.1 }

/-! ## The policy -/

/-- `WanMgr_Controller_PolicyCtrlInit` and the selected mode -/
def policyCtrlInit (m : Machine) : Machine :=
  { m with
    wanEnable := false, activeInterfaceIdx := none, locked := none
    wanOperationalMode := m.modes.selected }

/-- `Wanmgr_WanFixedMode_StartStateMachine` up to its loop. -/
def startFixed (m : Machine) : Machine :=
  let m := policyCtrlInit m
  { startConnectivityCheck none m with phase := .fixed, st := .selectingInterface }

/-- `Wanmgr_WanAutoMode_StartStateMachine` up to `Transition_StartAuto`. -/
def startAutoMode (m : Machine) : Machine :=
  let m := policyCtrlInit m
  let idx := lastKnownModeInterfaceIndex m
  { m with activeInterfaceIdx := idx, previousActiveInterfaceIndex := idx, phase := .startingAuto }

/-- One round of `WanMgr_Policy_AutoWan`, up to the loop of a machine. -/
def choose (m : Machine) : Machine :=
  let m := initializeAutoWanConfig m
  match m.modes.selected with
  | .primary => startFixed (setCurrentWanMode .primary (setLastKnownWanMode .primary m))
  | .secondary => startFixed (setCurrentWanMode .secondary (setLastKnownWanMode .secondary m))
  | .auto => startAutoMode m
  | .unknown => startAutoMode (selectedWanMode .auto m)

/-- One turn of the policy thread. -/
def step (m : Machine) : Machine :=
  match m.phase with
  | .choosing => choose m
  | .startingAuto => startAuto m
  | .auto => autoTick m
  | .fixed => fixedTick m

end ModePolicy

end WanManager
