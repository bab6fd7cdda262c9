import WanManager.World

/-! # The failover machine

`wanmgr_wan_failover.c`: one thread activates the selected interface of the best valid
group. A tick copies the configuration, starts the selection threads of groups that have
interfaces but no thread, and runs the function of the current state. Telemetry beyond
the recorded event, tracing and the LED have no effect on later ticks.
-/

namespace WanManager
open Concurrency

abbrev FailOverProg := Prog Site FailOverView

namespace FailOverView

def mapCtrl (f : FailOverController → FailOverController) (v : FailOverView) : FailOverView :=
  { v with self := { v.self with ctrl := f v.self.ctrl } }

def traceEvent (e : FailOverEvent) (v : FailOverView) : FailOverView :=
  { v with self := { v.self with trace := v.self.trace ++ [e] } }

def setPhase (p : FailOverPhase) (v : FailOverView) : FailOverView :=
  { v with self := { v.self with phase := p } }

end FailOverView

namespace Failover

/-- The failover thread reads its own controller. -/
def ctrl : FailOverProg FailOverController := .read .thread (·.self.ctrl)

def setCtrl (f : FailOverController → FailOverController) : FailOverProg Unit :=
  .modify .thread (FailOverView.mapCtrl f)

def trace (e : FailOverEvent) : FailOverProg Unit := .modify .thread (FailOverView.traceEvent e)

/-! ## Groups -/

/-- `WanMgr_DeactivateGroup`: the selected interface goes from `ACTIVE` to `SELECTED`. -/
def deactivateGroup (groupId : Nat) (s : Shared) : Shared :=
  match s.selected? groupId with
  | none => s
  | some i => if s.selectionStatus i = .active then s.setSelectionStatus i .selected else s

/-- `WanMgr_ActivateGroup`: the selected interface goes from `SELECTED` to `ACTIVE`. -/
def activateGroup (groupId : Nat) (s : Shared) : Shared :=
  match s.selected? groupId with
  | none => s
  | some i =>
    if s.selectionStatus i = .selected then
      (s.setSelectionStatus i .active).modifyGroup groupId fun g =>
        { g with activationCount := (g.activationCount + 1) % 2 ^ 32 }
    else s

/-- The test of a group's selected interface in `MarkHighPriorityGroup`. -/
def ifaceUsable (d : WanIface) : Bool :=
  (d.virtIf.status == .standby || d.virtIf.status == .up) &&
  !(d.ifaceType == .remote && d.virtIf.remoteStatus != .up) &&
  (d.virtIf.ip.ipv4ConnectivityStatus == .up || d.virtIf.ip.ipv6ConnectivityStatus == .up)

def groupUsable (s : Shared) (groupId : Nat) : Bool :=
  match s.selectedIface? groupId with
  | some d => ifaceUsable d
  | none => false

/-- Whether the interface selected in a group is `SELECTED` but not `ACTIVE`. -/
def leftSelected (s : Shared) (groupId : Nat) : Bool :=
  match s.selected? groupId with
  | some i => s.selectionStatus i == .selected
  | none => false

/-! ## Controller data -/

/-- One interface of the loop in `WanMgr_FailOverCtrlInit`. -/
def addInterfaceAvailable (i : Nat) (v : FailOverView) : FailOverView :=
  match v.shared.ifaces[i]? with
  | none => v
  | some d =>
    { v with shared := v.shared.modifyGroup d.selection.group fun g =>
        { g with interfaceAvailable := g.interfaceAvailable ||| 1 <<< i } }

def failOverCtrlInit : FailOverProg Unit := do
  setCtrl fun _ => {}
  let total ← Prog.read .thread (·.shared.ifaces.length)
  Prog.forEach (List.range total) fun i =>
    Prog.modify (.failOverCtrlInit i) (addInterfaceAvailable i)
  Prog.modify .thread fun v =>
    v.mapCtrl fun c => { c with failOverType := v.shared.outside.psmFailOverType.getD c.failOverType }

/-- The states in which a tick does not need a rescan request: it scans, or ends. -/
def scansAnyway (p : FailOverPhase) : Bool :=
  match p with
  | .loop .groupActive | .loop .restorationWait | .loop .deactivateGroup => false
  | _ => true

/-- The section of `WanMgr_UpdateFOControllerData`, with the history it leaves. -/
def takeConfig (v : FailOverView) : FailOverView :=
  let cfg := v.shared.config
  { v with
    shared := { v.shared with config := { cfg with resetFailOverScan := false } }
    self := { v.self with
      ctrl := { v.self.ctrl with
        wanEnable := cfg.enable
        restorationDelay := cfg.restorationDelay
        resetScan := cfg.resetFailOverScan
        allowRemoteInterfaces := cfg.allowRemoteInterfaces }
      tookRequestIn := match v.self.phase with
        | .loop st => if cfg.resetFailOverScan then some (st, cfg.enable) else none
        | _ => none
      rescanServed :=
        if scansAnyway v.self.phase then v.shared.rescanRequests else v.self.rescanServed } }

def updateFOControllerData : FailOverProg Unit := .modify .updateFOControllerData takeConfig

/-! ## Selection threads -/

/-- The longest `Selection.Timeout` of the group's interfaces. -/
def maxSelectionTimeout (s : Shared) (groupInst : Nat) : Nat :=
  (s.ifaces.filter (·.selection.group = groupInst)).foldl
    (fun t d => max t d.selection.timeout) 0

/-- The policy a selection thread is created with; `AUTOWAN_MODE` if not supported. -/
def selectionPolicy (g : IfaceGroup) : WanPolicy :=
  if g.policy = .parallelScan then .parallelScan else .autowan

/-- The group as its selection thread is about to be created. -/
def restartGroup (s : Shared) (i : Nat) (g : IfaceGroup) : IfaceGroup :=
  { g with
    selectionTimeOut := maxSelectionTimeout s (i + 1)
    initialScanComplete := false
    activationCount := 0
    configChanged := false
    policy := selectionPolicy g }

/-- One group of `WanMgr_FO_IfaceGroupMonitor`. -/
def monitorGroup (i : Nat) (v : FailOverView) : FailOverView :=
  match v.shared.groups[i]? with
  | none => v
  | some g =>
    if g.interfaceAvailable ≠ 0 ∧ g.state ≠ .running ∧ g.state ≠ .deactivated then
      if v.shared.outside.pthreadCreate then
        { v with
          shared := v.shared.modifyGroup (i + 1) fun g =>
            { restartGroup v.shared i g with threadId := some v.policyCount, state := .running }
          policies := Function.update v.policies v.policyCount
            { phase := .created (selectionPolicy g), ctrl := { groupInst := i + 1 } }
          policyCount := v.policyCount + 1 }
      else { v with shared := v.shared.modifyGroup (i + 1) (restartGroup v.shared i) }
    else v

/-- The number of groups is fixed when the table is allocated. -/
def totalNoOfGroups : FailOverProg Nat := .read .thread (·.shared.groups.length)

def ifaceGroupMonitor : FailOverProg Unit := do
  Prog.forEach (List.range (← totalNoOfGroups)) fun i =>
    Prog.modify (.ifaceGroupMonitor i) (monitorGroup i)

/-! ## Transitions -/

/-- One group of the `COLDSWAP` loop in `Transition_Start`. -/
def deactivateState (i : Nat) (v : FailOverView) : FailOverView :=
  { v with shared := v.shared.modifyGroup (i + 1) fun g => { g with state := .deactivated } }

def startDeactivated : FailOverProg Unit := do
  if (← ctrl).failOverType = .coldswap then
    Prog.forEach (List.range (← totalNoOfGroups)) fun i =>
      Prog.modify (.transitionStart i) (deactivateState i)

/-- The first assignments of `Transition_Start`. -/
def startCtrl (v : FailOverView) : FailOverView :=
  v.mapCtrl fun c =>
    { c with currentActiveGroup := 0, highestValidGroup := 0, groupSelectionTimer := v.shared.now }

def transitionStart : FailOverProg FailOverState := do
  Prog.modify .thread startCtrl
  startDeactivated
  return .scanningGroup

/-- `HighestValidGroup` once the group has been looked at. -/
def highestAt (i : Nat) (v : FailOverView) : Nat :=
  let c := v.self.ctrl
  if c.highestValidGroup ≠ 0 then c.highestValidGroup
  else match v.shared.selectedIface? (i + 1) with
    | none => 0
    | some d =>
      if ifaceUsable d then i + 1
      -- a reset of the current group's interface does not give the group up
      else if c.currentActiveGroup = i + 1 ∧ d.virtIf.reset then c.currentActiveGroup
      else 0

/-- One group of `MarkHighPriorityGroup`; `true` leaves the loop. -/
def markGroup (waitForHigherGroup : Bool) (i : Nat) (v : FailOverView) : Bool × FailOverView :=
  match v.shared.groups[i]? with
  | none => (false, v)
  | some g =>
    let c := v.self.ctrl
    let highest := highestAt i v
    let shared :=
      if c.failOverType = .coldswap ∧ highest = 0 ∧ g.state = .deactivated then
        v.shared.modifyGroup (i + 1) fun g => { g with state := .stopped }
      else v.shared
    let v' := { v with shared, self := { v.self with ctrl := { c with highestValidGroup := highest } } }
    if g.configChanged then
      (true, v'.mapCtrl fun c => { c with highestValidGroup := c.currentActiveGroup })
    else
      (waitForHigherGroup &&
        (decide (v.shared.now < c.groupSelectionTimer + g.selectionTimeOut) ||
          !g.initialScanComplete), v')

def markHighPriorityGroup (waitForHigherGroup : Bool) : FailOverProg Unit := do
  setCtrl fun c => { c with highestValidGroup := 0 }
  Prog.forUntil (List.range (← totalNoOfGroups)) fun i =>
    Prog.critical (.markHighPriorityGroup i) (markGroup waitForHigherGroup i)

/-- `WanMgr_ActivateGroup (HighestValidGroup)` and the assignment to the thread's own
`CurrentActiveGroup` after it, which no other thread can see apart. -/
def activateHighest (v : FailOverView) : FailOverView :=
  let c := v.self.ctrl
  let shared := activateGroup c.highestValidGroup v.shared
  ({ v with shared }.mapCtrl fun c => { c with currentActiveGroup := c.highestValidGroup })
    |>.traceEvent (.activated c.highestValidGroup (leftSelected shared c.highestValidGroup))

/-- One group of the `COLDSWAP` loop in `Transition_ActivateGroup`. -/
def stopGroup (i : Nat) (v : FailOverView) : FailOverView :=
  { v with shared := v.shared.modifyGroup (i + 1) fun g =>
      if g.state = .running then { g with state := .deactivated, configChanged := true } else g }

/-- The telemetry event of moving from the current group to the best one. -/
def activationTelemetry (c : FailOverController) : FailOverController :=
  if c.currentActiveGroup = 0 then c
  else if c.currentActiveGroup < c.highestValidGroup then
    { c with telemetryEvent := .failoverSuccess }
  else if c.currentActiveGroup > c.highestValidGroup then
    { c with telemetryEvent := .restoreSuccess }
  else c

/-- Cold swap: stop all the groups of lower priority than the current one. -/
def stopLowerGroups : FailOverProg Unit := do
  let c ← ctrl
  if c.failOverType = .coldswap then
    Prog.forEach ((List.range (← totalNoOfGroups)).drop c.currentActiveGroup) fun i =>
      Prog.modify (.coldswapStop i) (stopGroup i)

/-- "We should never reach this case." -/
def activateNothing (v : FailOverView) : FailOverView :=
  v.traceEvent (.activated 0 (leftSelected v.shared v.self.ctrl.currentActiveGroup))

def transitionActivateGroup : FailOverProg FailOverState := do
  if (← ctrl).highestValidGroup ≠ 0 then
    setCtrl activationTelemetry
    Prog.modify .activateGroup activateHighest
    stopLowerGroups
    return .groupActive
  else
    Prog.modify .thread activateNothing
    return .groupActive

/-- `WanMgr_DeactivateGroup (CurrentActiveGroup)`, if there is a current group. -/
def deactivateCurrent : FailOverProg Unit := do
  if (← ctrl).currentActiveGroup ≠ 0 then
    Prog.modify .deactivateGroup fun v =>
      { v with shared := deactivateGroup v.self.ctrl.currentActiveGroup v.shared }

def transitionDeactivateGroup : FailOverProg FailOverState := do
  deactivateCurrent
  trace .deactivateGroup
  return .deactivateGroup

def transitionRestoration : FailOverProg FailOverState := do
  Prog.modify .thread fun v => v.mapCtrl fun c => { c with groupSelectionTimer := v.shared.now }
  trace .restoration
  return .restorationWait

def transitionRestorationFail : FailOverProg FailOverState := do
  setCtrl fun c => { c with telemetryEvent := .restoreFail }
  trace .restorationFail
  return .groupActive

/-- The assignments of `Transition_ResetScan`; the request is served from here on. -/
def resetScanCtrl (v : FailOverView) : FailOverView :=
  { v with self := { v.self with
      ctrl := { v.self.ctrl with
        currentActiveGroup := 0, highestValidGroup := 0, resetScan := false
        groupSelectionTimer := v.shared.now }
      trace := v.self.trace ++ [.resetScan]
      rescanServed := v.shared.rescanRequests } }

def transitionResetScan : FailOverProg FailOverState := do
  deactivateCurrent
  Prog.modify .thread resetScanCtrl
  return .scanningGroup

/-! ## States -/

def stateScanningGroup : FailOverProg FailOverState := do
  if (← ctrl).wanEnable = false then return .exit
  else
    markHighPriorityGroup true
    if (← ctrl).highestValidGroup ≠ 0 then transitionActivateGroup
    else return .scanningGroup

/-- `ActivationCount` of the best group, `(UINT)-1` if there is no such group. -/
def activationCount (v : FailOverView) : Nat :=
  match v.shared.group? v.self.ctrl.highestValidGroup with
  | some g => g.activationCount
  | none => 2 ^ 32 - 1

def startFailOverTimer : FailOverProg Unit :=
  .modify .thread fun v => v.mapCtrl fun c => { c with failOverTimer := v.shared.now }

/-- The end of `State_GroupActive`, with the best group known. -/
def compareGroups : FailOverProg FailOverState := do
  let c ← ctrl
  if c.highestValidGroup ≠ 0 then
    let count ← Prog.read .activationCount activationCount
    if c.currentActiveGroup < c.highestValidGroup ∨
        (count = 0 ∧ c.currentActiveGroup > c.highestValidGroup) then
      startFailOverTimer
      transitionDeactivateGroup
    else if c.currentActiveGroup > c.highestValidGroup then
      startFailOverTimer
      transitionRestoration
    else return .groupActive
  else
    setCtrl fun c =>
      if c.currentActiveGroup = 1 ∧ c.allowRemoteInterfaces then
        { c with telemetryEvent := .failoverFail }
      else c
    return .groupActive

def stateGroupActive : FailOverProg FailOverState := do
  let c ← ctrl
  if c.wanEnable = false then transitionDeactivateGroup
  else if c.resetScan then transitionResetScan
  else
    markHighPriorityGroup false
    compareGroups

/-- What `State_RestorationWait` finds out about the target group. -/
inductive RestorationView where
  | down
  | expired (valid : Bool)
  | wait
  deriving DecidableEq, Repr

/-- `HighestValidGroup_Down`: only the virtual interface's status is looked at, and only
if the group has a selected interface. -/
def highestValidGroupDown (v : FailOverView) : Bool :=
  match v.shared.selectedIface? v.self.ctrl.highestValidGroup with
  | some d => d.virtIf.status != .standby && d.virtIf.status != .up
  | none => false

def restorationExpired (v : FailOverView) : Bool :=
  decide (v.self.ctrl.groupSelectionTimer + v.self.ctrl.restorationDelay < v.shared.now)

/-- The test of the target and the clock read after it; whether the target is still valid
for `MarkHighPriorityGroup` is recorded, not tested. -/
def restorationTest (v : FailOverView) : RestorationView :=
  if highestValidGroupDown v then .down
  else if restorationExpired v then .expired (groupUsable v.shared v.self.ctrl.highestValidGroup)
  else .wait

def stateRestorationWait : FailOverProg FailOverState := do
  if (← ctrl).wanEnable = false then transitionDeactivateGroup
  else
    match ← Prog.read .restorationWait restorationTest with
    | .down => transitionRestorationFail
    | .expired valid =>
      trace (.restorationExpired valid)
      transitionDeactivateGroup
    | .wait => return .restorationWait

/-- `CurrentActiveGroup_Deactivated` -/
def currentActiveGroupDeactivated (v : FailOverView) : Bool :=
  match v.self.ctrl.currentActiveGroup with
  | 0 => true
  | n + 1 =>
    match v.shared.groups[n]? with
    | none => false
    | some g =>
      match g.selectedInterface with
      | 0 => true
      | i + 1 =>
        match v.shared.ifaces[i]? with
        | none => false
        | some d => d.virtIf.status != .up

def stateDeactivateGroup : FailOverProg FailOverState := do
  if ← Prog.read .deactivateGroupTest currentActiveGroupDeactivated then
    if (← ctrl).wanEnable = false then return .exit
    else transitionActivateGroup
  else return .deactivateGroup

/-! ## The thread -/

def setPhase (p : FailOverPhase) : FailOverProg Unit := .modify .thread (FailOverView.setPhase p)

/-- `WanMgr_FailOverThread` up to its loop. -/
def failOverStart : FailOverProg Unit := do
  failOverCtrlInit
  updateFOControllerData
  let st ← transitionStart
  ifaceGroupMonitor
  setPhase (.loop st)

/-- One iteration of the loop. -/
def failOverLoop (st : FailOverState) : FailOverProg Unit := do
  updateFOControllerData
  ifaceGroupMonitor
  match st with
  | .scanningGroup => setPhase (.loop (← stateScanningGroup))
  | .groupActive => setPhase (.loop (← stateGroupActive))
  | .restorationWait => setPhase (.loop (← stateRestorationWait))
  | .deactivateGroup => setPhase (.loop (← stateDeactivateGroup))
  | .exit | .error => setPhase .waitExit

def groupRunning (i : Nat) (v : FailOverView) : Bool :=
  match v.shared.groups[i]? with
  | some g => g.state == .running
  | none => false

/-- One round of the wait for the selection threads; `true` if one still runs. -/
def selectionThreadRunning : List Nat → FailOverProg Bool
  | [] => return false
  | i :: is => do
    let r ← Prog.read (.exitWait i) (groupRunning i)
    return r || (← selectionThreadRunning is)

def failOverWaitExit : FailOverProg Unit := do
  if ← selectionThreadRunning (List.range (← totalNoOfGroups)) then return ()
  else setPhase .idle

/-- One wake-up of the thread that runs `WanController_Init_StateMachine`. -/
def failOverTick : FailOverProg Unit := do
  match ← Prog.read .thread (·.self.phase) with
  | .idle => if ← Prog.read .thread (·.shared.config.enable) then failOverStart
  | .loop st => failOverLoop st
  | .waitExit => failOverWaitExit

end Failover
end WanManager
