import WanManager.Policy

/-! # The AutoWAN selection policy

`wanmgr_policy_auto_impl.c`, built without the platform switches: the thread of a group
takes its interfaces one by one, by priority, until one can be validated, and keeps that
one. `data` in a state function is `pWanActiveIfaceData` with its index. -/

namespace WanManager
open Concurrency

namespace AutoWan
open Policy

/-! ## Interface table -/

/-- One interface of the loop in `WanMgr_GetPrevSelectedInterface`; `true` leaves it. The
loop stores what it finds in `activeInterfaceIdx`, where its caller puts the result. -/
def prevSelected (i : Nat) (x : PolicyView) : Bool × PolicyView :=
  match x.shared.ifaces[i]? with
  | none => (false, x)
  | some d =>
    if d.selection.group = x.self.ctrl.groupInst ∧ d.selection.activeLink then
      if d.selection.enable then (true, x.mapCtrl fun c => { c with activeInterfaceIdx := some i })
      else (true, x.mapShared (setActiveLink i false))
    else (false, x)

def getPrevSelectedInterface : PolicyProg Unit := do
  setCtrl fun c => { c with activeInterfaceIdx := none }
  let is ← Prog.read .thread PolicyView.ifaceRange
  Prog.forUntil is fun i => Prog.critical (.scanIface i) (prevSelected i)

/-- `DML_WAN_IFACE_PRIORITY_MAX` -/
def priorityMax : Int := 255

/-- The priority of an interface that may be selected. -/
def selectable (i : Nat) (x : PolicyView) : Option Int :=
  match x.shared.ifaces[i]? with
  | none => none
  | some d =>
    if d.selection.group = x.self.ctrl.groupInst ∧ d.selection.enable ∧ 0 ≤ d.selection.priority ∧
        d.virtIf.status = .disabled ∧ ¬ (¬ x.self.ctrl.allowRemoteInterfaces ∧ d.ifaceType = .remote) then
      some d.selection.priority
    else none

/-- The loop of `WanMgr_Policy_Auto_GetHighPriorityIface`, with its two variables. -/
def highPriorityIface (sel : Option Nat) (priority : Int) : List Nat → PolicyProg (Option Nat)
  | [] => return sel
  | i :: is => do
    match ← Prog.read (.scanIface i) (selectable i) with
    | some p => if p < priority then highPriorityIface (some i) p is else highPriorityIface sel priority is
    | none => highPriorityIface sel priority is

/-- `WanMgr_Policy_Auto_GetHighPriorityIface` -/
def getHighPriorityIface : PolicyProg Unit := do
  if (← ctrl).wanEnable then
    let is ← Prog.read .thread PolicyView.ifaceRange
    let sel ← highPriorityIface none priorityMax is
    setCtrl fun c => { c with activeInterfaceIdx := sel.orElse fun _ => c.activeInterfaceIdx }

/-- One interface of `WanMgr_ResetIfaceTable`. -/
def resetIface (group i : Nat) (s : Shared) : Shared :=
  s.modifyIface i fun d =>
    if d.selection.group = group ∧ d.virtIf.status = .invalid then
      { d with virtIf := { d.virtIf with status := .disabled } }
    else d

/-- `WanMgr_ResetIfaceTable`, under the lock. -/
def resetIfaceTable (x : PolicyView) : PolicyView :=
  x.mapShared fun s => x.ifaceRange.foldl (fun s i => resetIface x.self.ctrl.groupInst i s) s

/-- `WanMgr_ResetActiveLinkOnAllIface`, up to the first failure to store it. -/
def resetActiveLinks (group : Nat) : List Nat → Shared → Bool × Shared
  | [], s => (true, s)
  | i :: is, s =>
    match s.ifaces[i]? with
    | none => resetActiveLinks group is s
    | some d =>
      if d.selection.group = group then
        if s.outside.setActiveLinkInPsm i false then
          resetActiveLinks group is (setActiveLink i false s)
        else (false, setActiveLink i false s)
      else resetActiveLinks group is s

def resetActiveLinkOnAllIface (x : PolicyView) : Bool × PolicyView :=
  match x.ifaceRange with
  | [] => (false, x)
  | is =>
    match resetActiveLinks x.self.ctrl.groupInst is x.shared with
    | (ok, s) => (ok, { x with shared := s })

/-- `WanMgr_SetGroupSelectedIface`, for the thread's own group. -/
def setGroupSelected (ifaceInst : Nat) (x : PolicyView) : PolicyView :=
  x.mapShared fun s => s.setGroupSelectedIface x.self.ctrl.groupInst ifaceInst

/-- `WanMgr_ResetGroupSelectedIface` -/
def resetGroupSelectedIface (x : PolicyView) : Bool × PolicyView :=
  if x.self.ctrl.totalIfaces = 0 then (false, x) else (true, setGroupSelected 0 x)

/-- Another interface of the group could be used. -/
def otherPossible (x : PolicyView) (i j : Nat) : Bool :=
  match x.shared.ifaces[j]? with
  | none => false
  | some d => j != i && decide (d.selection.group = x.self.ctrl.groupInst) && d.selection.enable

/-- `WanMgr_CheckIfSelectedIfaceOnlyPossibleWanLink` -/
def onlyPossible (i : Nat) (d : WanIface) (x : PolicyView) : Bool :=
  x.self.ctrl.totalIfaces != 0 &&
    ((x.self.ctrl.groupPersistSelectedIface && d.selection.activeLink) ||
      x.ifaceRange.all fun j => !otherPossible x i j)

def timerExpired (x : PolicyView) : Bool :=
  decide (x.self.ctrl.selectionTimeOutStart < x.shared.now)

/-! ## Transitions -/

def transitionInterfaceSelected (d : WanIface) (x : PolicyView) : AutoWanState × PolicyView :=
  (.waiting, x.mapCtrl fun c =>
    { c with selectionTimeOutStart := x.shared.now + d.selection.timeout })

def transitionInterfaceInvalid (i : Nat) (x : PolicyView) : AutoWanState × PolicyView :=
  let x := x.mapShared fun s =>
    setActiveLink i false
      (s.modifyIface i fun d => { d with virtIf := { d.virtIf with status := .invalid } })
  (.selecting, x.mapCtrl fun c => { c with activeInterfaceIdx := none })

def setSelection (i : Nat) (st : SelectionStatus) (x : PolicyView) : PolicyView :=
  x.mapShared fun s => s.setSelectionStatus i st

def transitionInterfaceFound (i : Nat) (d : WanIface) (x : PolicyView) : AutoWanState × PolicyView :=
  (.scanning, (startIfaceStateMachine i d (setSelection i .selected x)).2)

def transitionInterfaceDeselect (i : Nat) (x : PolicyView) : AutoWanState × PolicyView :=
  (.teardown, setSelection i .notSelected x)

def transitionInterfaceValidated (i : Nat) (x : PolicyView) : AutoWanState × PolicyView :=
  let x := setGroupSelected (i + 1) (x.mapShared (setActiveLink i true))
  (.reconfiguration, x.mapCtrl fun c => { c with selectionTimeOutStart := 0 })

/-- The reset is taken: from here on the thread selects anew. -/
def clearResetSelected (x : PolicyView) : PolicyView :=
  let x := x.mapShared fun s =>
    s.modifyGroup x.self.ctrl.groupInst fun g => { g with resetSelectedInterface := false }
  (x.mapShared Shared.requestRescan).mapCtrl fun c =>
    { c with
      activeInterfaceIdx := none
      resetSelectedInterface :=
        if (x.shared.group? c.groupInst).isSome then false else c.resetSelectedInterface }

def transitionRestartSelectionInterface (x : PolicyView) : AutoWanState × PolicyView :=
  match resetActiveLinkOnAllIface x with
  | (false, x) => (.error, x)
  | (true, x) =>
    match resetGroupSelectedIface (resetIfaceTable (clearResetSelected x)) with
    | (true, x) => (.selecting, x)
    | (false, x) => (.error, x)

def transitionReconfigurePlatform (i : Nat) (x : PolicyView) : AutoWanState × PolicyView :=
  (.rebootPlatform, (setSelection i .notSelected x).mapShared fun s =>
    s.modifyIface i fun d => { d with selection := { d.selection with rebootTriggerStatus := true } })

def transitionWanInterfaceUp (i : Nat) (d : WanIface) (x : PolicyView) : AutoWanState × PolicyView :=
  if ismRunningStatus x.shared i then (.down, x)
  else (.active, (startIfaceStateMachine i d x).2)

def transitionResetSelectedInterface (i : Nat) (x : PolicyView) : AutoWanState × PolicyView :=
  (.teardown, setSelection i .notSelected x)

/-! ## States with a selected interface

Each is one section: the interface's data stays locked. -/

/-- All interfaces have been looked at once. -/
def setInitialScanComplete (x : PolicyView) : PolicyView :=
  x.mapShared fun s =>
    s.modifyGroup x.self.ctrl.groupInst fun g => { g with initialScanComplete := true }

def stateSelectingInterface (d : WanIface) (x : PolicyView) : AutoWanState × PolicyView :=
  if stops x.self.ctrl then (.smExit, x) else transitionInterfaceSelected d x

def stateWaitForInterface (i : Nat) (d : WanIface) (x : PolicyView) : AutoWanState × PolicyView :=
  if stops x.self.ctrl then (.smExit, x)
  else if !d.selection.enable then transitionInterfaceInvalid i x
  else if d.baseInterfaceStatus = .up then transitionInterfaceFound i d x
  else if timerExpired x && !onlyPossible i d x then transitionInterfaceInvalid i x
  else (.waiting, if onlyPossible i d x then setInitialScanComplete x else x)

def stateScanningInterface (i : Nat) (d : WanIface) (x : PolicyView) : AutoWanState × PolicyView :=
  if stops x.self.ctrl then transitionInterfaceDeselect i x
  else if onlyPossible i d x then transitionInterfaceValidated i x
  else if !d.selection.enable then transitionInterfaceDeselect i x
  -- the state machines are gone: wait for the link without restarting the timer
  else if !ismRunningStatus x.shared i then (.waiting, x)
  else if validated d.virtIf.status then transitionInterfaceValidated i x
  else if decide (0 < x.self.ctrl.selectionTimeOutStart) && timerExpired x then
    transitionInterfaceDeselect i x
  else (.scanning, x)

def stateWaitingForIfaceTearDown (i : Nat) (x : PolicyView) : AutoWanState × PolicyView :=
  if ismRunningStatus x.shared i then (.teardown, x)
  else if stops x.self.ctrl then (.tearingDown, x)
  else if x.self.ctrl.resetSelectedInterface then transitionRestartSelectionInterface x
  else transitionInterfaceInvalid i x

/-- The hardware of an Ethernet interface of the group has to be switched, and was. -/
def hwConfigChanged (x : PolicyView) (i j : Nat) : Bool :=
  match x.shared.outside.ethUpstream j with
  | none => false
  | some wan => wan != decide (j = i) && x.shared.outside.setEthUpstream j

def isEthernet (d : WanIface) : Bool := strstr d.baseInterface "Ethernet"

def rebootRequired (x : PolicyView) (i j : Nat) : Bool :=
  match x.shared.ifaces[j]? with
  | none => false
  | some d => isEthernet d && decide (d.selection.group = x.self.ctrl.groupInst) &&
      d.selection.requiresReboot && hwConfigChanged x i j

def stateInterfaceReconfiguration (i : Nat) (x : PolicyView) : AutoWanState × PolicyView :=
  if x.ifaceRange.any (rebootRequired x i) then transitionReconfigurePlatform i x
  else if !ismRunningStatus x.shared i then (.down, x)
  else (.active, x)

def stateRebootingPlatform (i : Nat) (x : PolicyView) : AutoWanState × PolicyView :=
  if ismRunningStatus x.shared i then (.rebootPlatform, x) else (.smExit, x)

def stateWanInterfaceActive (i : Nat) (d : WanIface) (x : PolicyView) : AutoWanState × PolicyView :=
  if stops x.self.ctrl || x.self.ctrl.resetSelectedInterface then transitionResetSelectedInterface i x
  else if d.baseInterfaceStatus ≠ .up ∨ ¬ d.selection.enable ∨ ¬ ismRunningStatus x.shared i then
    (.down, setGroupSelected (i + 1) x)
  else (.active, startChangedVirtIfs i d x)

def stateWanInterfaceDown (i : Nat) (d : WanIface) (x : PolicyView) : AutoWanState × PolicyView :=
  if stops x.self.ctrl || x.self.ctrl.resetSelectedInterface then transitionResetSelectedInterface i x
  else if d.baseInterfaceStatus = .up ∧ d.selection.enable then
    transitionWanInterfaceUp i d (setGroupSelected (i + 1) x)
  else (.down, x)

def stateWaitingForInterfaceSMExit (i : Nat) (x : PolicyView) : AutoWanState × PolicyView :=
  let x := setSelection i .notSelected x
  if ismRunningStatus x.shared i then (.tearingDown, x)
  else
    let x := (resetGroupSelectedIface (resetIfaceTable x)).2
    (.smExit, if x.self.ctrl.groupCfgChanged then (resetActiveLinkOnAllIface x).2 else x)

/-- The states with the data of the selected interface. -/
def lockedState (st : AutoWanState) (i : Nat) (d : WanIface) (x : PolicyView) :
    AutoWanState × PolicyView :=
  match st with
  | .selecting => stateSelectingInterface d x
  | .waiting => stateWaitForInterface i d x
  | .scanning => stateScanningInterface i d x
  | .teardown => stateWaitingForIfaceTearDown i x
  | .reconfiguration => stateInterfaceReconfiguration i x
  | .rebootPlatform => stateRebootingPlatform i x
  | .active => stateWanInterfaceActive i d x
  | .down => stateWanInterfaceDown i d x
  | .tearingDown => stateWaitingForInterfaceSMExit i x
  | .smExit => (.smExit, x)
  | .error => (.error, x)

/-- A thread without a group takes that of its interface. -/
def adoptGroup (d : WanIface) (x : PolicyView) : PolicyView :=
  x.mapCtrl fun c => { c with groupInst := if c.groupInst = 0 then d.selection.group else c.groupInst }

def enterState (r : AutoWanState × PolicyView) : PolicyView := r.2.setPhase (.autoWan r.1)

/-! ## States without one -/

/-- `Transition_TryingNextInterface` -/
def transitionTryingNextInterface : PolicyProg Unit := do
  getHighPriorityIface
  if (← ctrl).activeInterfaceIdx.isNone then
    Prog.modify .selectGroupIface setInitialScanComplete
    let is ← Prog.read .thread PolicyView.ifaceRange
    Prog.forEach is fun i =>
      Prog.modify (.scanIface i) fun x => x.mapShared (resetIface x.self.ctrl.groupInst i)

def setState (st : AutoWanState) : PolicyProg Unit := .modify .thread (PolicyView.setPhase (.autoWan st))

def selectingNothing : PolicyProg Unit := do
  let c ← ctrl
  if stops c then setState .smExit
  else if c.activeInterfaceIdx.isNone then transitionTryingNextInterface
  else setState .error

/-- The states without the data of a selected interface. -/
def unlockedState : AutoWanState → PolicyProg Unit
  | .selecting => selectingNothing
  | .rebootPlatform => setState .smExit
  | .tearingDown | .smExit | .error => return ()
  | .waiting | .scanning | .teardown | .reconfiguration | .active | .down => setState .error

/-! ## The thread -/

/-- `Transition_Start` -/
def transitionStart : PolicyProg Unit := do
  if (← ctrl).wanEnable then
    getPrevSelectedInterface
    if (← ctrl).activeInterfaceIdx.isNone then getHighPriorityIface

/-- `WanMgr_AutoWanSelectionProcess` up to its loop. -/
def start : PolicyProg Unit := do
  setCtrl fun c => { ({} : PolicyController) with groupInst := c.groupInst }
  updateControllerData
  transitionStart
  setState .selecting

/-- One iteration of the loop, and what follows its last one. -/
def loop (st : AutoWanState) : PolicyProg Unit := do
  updateControllerData
  Prog.lockedIf .policyState PolicyView.activeIface?
    (fun a => .modify .policyState fun x => enterState (lockedState st a.1 a.2 (adoptGroup a.2 x)))
    (unlockedState st)
  if st = .smExit ∨ st = .error then policyExit

end AutoWan

end WanManager
