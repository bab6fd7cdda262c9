import WanManager.Policy

/-! # The parallel-scan selection policy

`wanmgr_policy_parallel_scan_impl.c`: the thread of a group starts the state machines of all
its interfaces and selects the best one that was validated in time. While it scans it has no
selected interface, so it works without the lock, interface by interface. -/

namespace WanManager
open Concurrency

namespace ParallelScan
open Policy

/-! ## Interface table -/

/-- One interface of the loop in `Transition_Start`. The assignment that should take back a
disabled interface's `ActiveLink` is a comparison in the source. -/
def startIface (i : Nat) (x : PolicyView) : PolicyView :=
  match x.shared.ifaces[i]? with
  | none => x
  | some d =>
    if d.selection.group = x.self.ctrl.groupInst ∧ d.selection.enable then
      x.mapCtrl fun c =>
        { c with interfaceSelectionTimeOut := max c.interfaceSelectionTimeOut d.selection.timeout }
    else x

/-- An `INT` as it is compared with a `UINT`. -/
def uint (p : Int) : Nat := (p % 2 ^ 32).toNat

/-- What the first loop of `State_ScanningInterface` has found; the two priorities are `UINT`s. -/
structure Scan where
  validIface : Option Nat := none
  priority : Nat := 255
  activePriority : Nat := 255
  activeIface : Option Nat := none
  lastSelectedFound : Bool := false
  deriving DecidableEq, Repr

/-- One interface of the loop; `true` leaves it. The negative value that should put the last link
before all others is the greatest `UINT`. -/
def scanIface (i : Nat) (c : Scan) (x : PolicyView) : Bool × Scan :=
  match x.shared.ifaces[i]? with
  | none => (false, c)
  | some d =>
    if d.selection.group = x.self.ctrl.groupInst ∧ d.selection.enable then
      let up := Policy.validated d.virtIf.status
      let c := if d.selection.activeLink then
          { c with lastSelectedFound := true, validIface := some i, priority := uint (-1) }
        else c
      if d.selection.activeLink ∧ up then (true, { c with activeIface := some i })
      else
        let c := if uint d.selection.priority ≤ c.priority then
            { c with validIface := some i, priority := uint d.selection.priority }
          else c
        (false, if up ∧ uint d.selection.priority ≤ c.activePriority then
            { c with activeIface := some i, activePriority := uint d.selection.priority }
          else c)
    else (false, c)

def scanIfaces (c : Scan) : List Nat → PolicyProg Scan
  | [] => return c
  | i :: is => do
    match ← Prog.read (.scanIface i) (scanIface i c) with
    | (true, c) => return c
    | (false, c) => scanIfaces c is

/-- One interface of the loop in `Transition_SelectingInterface`. -/
def selectIface (i : Nat) (x : PolicyView) : PolicyView :=
  x.mapShared fun s => s.modifyIface i fun d =>
    if d.selection.group = x.self.ctrl.groupInst ∧ d.selection.enable then
      let selected := decide (x.self.ctrl.activeInterfaceIdx = some i)
      { d with selection := { d.selection with
          status := if selected then .selected else .notSelected
          activeLink := selected } }
    else d

/-- The test of the second loop of `State_ScanningInterface`. -/
def newlyConnected (i : Nat) (lastSelectedFound : Bool) (x : PolicyView) : Bool :=
  match x.shared.ifaces[i]? with
  | none => false
  | some d => decide (d.selection.group = x.self.ctrl.groupInst) && d.selection.enable &&
      d.baseInterfaceStatus == .up && d.virtIf.status == .disabled &&
      !(x.self.ctrl.groupPersistSelectedIface && lastSelectedFound && !d.selection.activeLink)

def setSelection (i : Nat) (st : SelectionStatus) (x : PolicyView) : PolicyView :=
  x.mapShared fun s => s.setSelectionStatus i st

/-- `Transition_NewInterfaceConnected`. If a thread cannot be created the lock is not given
back; nobody else runs from then on, which is a run of this model too. -/
def transitionNewInterfaceConnected (i : Nat) (x : PolicyView) : PolicyView :=
  match x.shared.ifaces[i]? with
  | none => x
  | some d =>
    let x := setSelection i .validating x
    (startVirtIfs i (virtIfRange d) (x.mapShared (clearVirtIfChanged i))).2

def setGroupSelected (ifaceInst : Nat) (x : PolicyView) : PolicyView :=
  x.mapShared fun s => s.setGroupSelectedIface x.self.ctrl.groupInst ifaceInst

/-- One interface of the loop in `Transition_TearingDown`. -/
def tearDownIface (group : Nat) (configChanged : Bool) (i : Nat) (s : Shared) : Shared :=
  s.modifyIface i fun d =>
    if d.selection.group = group then
      { d with
        selection := { d.selection with
          status := .notSelected
          activeLink := if configChanged then false else d.selection.activeLink }
        virtIf := { d.virtIf with
          status := if d.virtIf.status = .invalid then .disabled else d.virtIf.status } }
    else d

/-- One interface of the loop in `Transition_RestartScan`. -/
def restartIface (group : Nat) (r : Nat × Shared) (i : Nat) : Nat × Shared :=
  match r.2.ifaces[i]? with
  | none => r
  | some d =>
    if d.selection.group = group then
      (if d.selection.enable then max r.1 d.selection.timeout else r.1, setActiveLink i false r.2)
    else r

/-! ## Transitions with a selected interface -/

def transitionTearingDown (x : PolicyView) : ParallelScanState × PolicyView :=
  let c := x.self.ctrl
  let x := x.mapShared fun s =>
    x.ifaceRange.foldl (fun s i => tearDownIface c.groupInst c.groupCfgChanged i s) s
  (.interfaceTearDown, setGroupSelected 0 x)

/-- The loop of `Transition_RestartScan`, and the selection that is given up before it. -/
def restartIfaces (i : Nat) (x : PolicyView) : PolicyView :=
  let x := setGroupSelected 0 (setSelection i .validating x)
  match x.ifaceRange.foldl (restartIface x.self.ctrl.groupInst) (0, x.shared) with
  | (timeout, s) => ({ x with shared := s }).mapCtrl fun c =>
      { c with interfaceSelectionTimeOut := timeout, activeInterfaceIdx := none }

def clearResetSelected (x : PolicyView) : PolicyView :=
  match x.shared.group? x.self.ctrl.groupInst with
  | none => x
  | some _ =>
    (x.mapShared fun s => s.modifyGroup x.self.ctrl.groupInst fun g =>
      { g with resetSelectedInterface := false }).mapCtrl fun c =>
        { c with resetSelectedInterface := false }

def transitionRestartScan (i : Nat) (x : PolicyView) : ParallelScanState × PolicyView :=
  let x := (clearResetSelected (restartIfaces i x)).mapShared Shared.requestRescan
  (.scanningInterface, x.mapCtrl fun c => { c with selectionTimeOutStart := x.shared.now })

def transitionSelectedInterfaceUp (i : Nat) (d : WanIface) (x : PolicyView) :
    ParallelScanState × PolicyView :=
  match startIfaceStateMachine i d x with
  | (true, x) => (.selectedInterfaceUp, x)
  | (false, x) => (.selectedInterfaceDown, x)

/-! ## States with a selected interface -/

/-- An Ethernet interface of the group answers; the first that does not ends the loop. -/
def reconfigureAt (x : PolicyView) (j : Nat) : Option Bool :=
  match x.shared.ifaces[j]? with
  | none => none
  | some d =>
    if d.selection.group = x.self.ctrl.groupInst ∧ strstr d.baseInterface "Ethernet" then
      match x.shared.outside.ethUpstream j with
      | none => some false
      | some wan => if wan = decide (x.self.ctrl.activeInterfaceIdx = some j) then none else some true
    else none

/-- `WanMgr_CheckIfPlatformReconfiguringRequired` -/
def reconfiguringRequired (x : PolicyView) : Bool :=
  (x.ifaceRange.findSome? (reconfigureAt x)).getD false

def stateCheckReconfiguration (x : PolicyView) : ParallelScanState × PolicyView :=
  if stops x.self.ctrl then transitionTearingDown x
  else if reconfiguringRequired x then (.reconfigurePlatform, x)
  else (.selectedInterfaceUp, x)

def stateReconfigurePlatform (d : WanIface) (x : PolicyView) : ParallelScanState × PolicyView :=
  if d.selection.requiresReboot then (.reboot, x) else (.selectedInterfaceUp, x)

/-- Another interface of the group has a higher priority. -/
def higherPriority (i : Nat) (d : WanIface) (x : PolicyView) (j : Nat) : Bool :=
  match x.shared.ifaces[j]? with
  | none => false
  | some e => decide (e.selection.group = x.self.ctrl.groupInst) && e.selection.enable && j != i &&
      decide (e.selection.priority < d.selection.priority)

/-- `WanMgr_CheckRescanRequired` -/
def rescanRequired (i : Nat) (d : WanIface) (x : PolicyView) : Bool :=
  d.baseInterfaceStatus != .up || d.virtIf.status != .up || x.ifaceRange.any (higherPriority i d x)

/-- The rest of `State_SelectedInterfaceUp`. -/
def keepSelectedInterfaceUp (i : Nat) (d : WanIface) (x : PolicyView) : ParallelScanState × PolicyView :=
  if d.baseInterfaceStatus ≠ .up ∨ ¬ d.selection.enable then (.selectedInterfaceDown, x)
  else (.selectedInterfaceUp, startChangedVirtIfs i d x)

def stateSelectedInterfaceUp (i : Nat) (d : WanIface) (x : PolicyView) :
    ParallelScanState × PolicyView :=
  if stops x.self.ctrl then transitionTearingDown x
  else if x.self.ctrl.resetSelectedInterface then
    if rescanRequired i d x then transitionRestartScan i x
    else keepSelectedInterfaceUp i d (clearResetSelected x)
  else keepSelectedInterfaceUp i d x

def stateSelectedInterfaceDown (i : Nat) (d : WanIface) (x : PolicyView) :
    ParallelScanState × PolicyView :=
  if stops x.self.ctrl then transitionTearingDown x
  else if x.self.ctrl.resetSelectedInterface then transitionRestartScan i x
  else if d.virtIf.status ≠ .disabled then (.selectedInterfaceDown, x)
  else if d.baseInterfaceStatus = .up ∧ d.selection.enable then transitionSelectedInterfaceUp i d x
  else (.selectedInterfaceDown, x)

/-- An interface of the group whose state machine may still run. -/
def notDisabled (x : PolicyView) (j : Nat) : Bool :=
  match x.shared.ifaces[j]? with
  | none => false
  | some d => decide (d.selection.group = x.self.ctrl.groupInst) && d.virtIf.status != .disabled

def stateInterfaceTearDown (x : PolicyView) : ParallelScanState × PolicyView :=
  if x.ifaceRange.any (notDisabled x) then (.interfaceTearDown, x) else (.policyExit, x)

/-- The states with the data of the selected interface; scanning is a program of its own. -/
def lockedState (st : ParallelScanState) (i : Nat) (d : WanIface) (x : PolicyView) :
    ParallelScanState × PolicyView :=
  match st with
  | .scanningInterface => (.scanningInterface, x)
  | .checkReconfiguration => stateCheckReconfiguration x
  | .reconfigurePlatform => stateReconfigurePlatform d x
  | .reboot => (.reboot, x)
  | .selectedInterfaceUp => stateSelectedInterfaceUp i d x
  | .selectedInterfaceDown => stateSelectedInterfaceDown i d x
  | .interfaceTearDown => stateInterfaceTearDown x
  | .policyExit => (.policyExit, x)
  | .policyError => (.policyError, x)

def enterState (r : ParallelScanState × PolicyView) : PolicyView := r.2.setPhase (.parallelScan r.1)

/-! ## Scanning -/

def setState (st : ParallelScanState) : PolicyProg Unit :=
  .modify .thread (PolicyView.setPhase (.parallelScan st))

/-- `Transition_SelectingInterface` -/
def transitionSelectingInterface (i : Nat) : PolicyProg Unit := do
  setCtrl fun c => { c with activeInterfaceIdx := some i, selectionTimeOutStart := 0 }
  let is ← Prog.read .thread PolicyView.ifaceRange
  Prog.forEach is fun j => Prog.modify (.scanIface j) (selectIface j)
  Prog.modify .selectGroupIface (setGroupSelected (i + 1))
  setState .checkReconfiguration

/-- The second loop of `State_ScanningInterface`: one new interface for each tick. -/
def findNewInterface (lastSelectedFound : Bool) : List Nat → PolicyProg Unit
  | [] => return ()
  | i :: is => do
    if ← Prog.read (.scanIface i) (newlyConnected i lastSelectedFound) then
      Prog.modify (.newInterfaceConnected i) (transitionNewInterfaceConnected i)
    else findNewInterface lastSelectedFound is

def selectionTimeOutExpired (x : PolicyView) : Bool :=
  decide (x.self.ctrl.selectionTimeOutStart + x.self.ctrl.interfaceSelectionTimeOut < x.shared.now)

/-- The best validated interface is the best there is, or the others had their time. -/
def scanned (c : Scan) : PolicyProg Unit := do
  match c.activeIface with
  | none => findNewInterface c.lastSelectedFound (← Prog.read .thread PolicyView.ifaceRange)
  | some i =>
    let expired ← Prog.read .thread selectionTimeOutExpired
    if c.validIface = some i ∨ expired then transitionSelectingInterface i
    else findNewInterface c.lastSelectedFound (← Prog.read .thread PolicyView.ifaceRange)

theorem scanned_none {c : Scan} (h : c.activeIface = none) :
    scanned c = (.read .thread PolicyView.ifaceRange >>= findNewInterface c.lastSelectedFound) := by
  rw [scanned, h]

theorem scanned_some {c : Scan} {i : Nat} (h : c.activeIface = some i) :
    scanned c = (.read .thread selectionTimeOutExpired >>= fun expired =>
      if c.validIface = some i ∨ expired = true then transitionSelectingInterface i
      else .read .thread PolicyView.ifaceRange >>= findNewInterface c.lastSelectedFound) := by
  rw [scanned, h]

/-- `State_ScanningInterface`. Without the data of a selected interface, which it has none
of, `Transition_TearingDown` is refused. -/
def stateScanningInterface : PolicyProg Unit := do
  if stops (← ctrl) then setState .policyError
  else
    let is ← Prog.read .thread PolicyView.ifaceRange
    let c ← scanIfaces {} is
    scanned c

/-- `State_CheckReconfiguration` for an interface that is not in the table. -/
def checkReconfigurationUnlocked : PolicyProg Unit := do
  if stops (← ctrl) then setState .policyError
  else
    let required ← Prog.read .thread reconfiguringRequired
    setState (if required then .reconfigurePlatform else .selectedInterfaceUp)

/-- The states without the data of a selected interface. -/
def unlockedState : ParallelScanState → PolicyProg Unit
  | .scanningInterface => stateScanningInterface
  | .checkReconfiguration => checkReconfigurationUnlocked
  | .reboot | .policyExit | .policyError => return ()
  | .reconfigurePlatform | .selectedInterfaceUp | .selectedInterfaceDown
  | .interfaceTearDown => setState .policyError

/-! ## The thread -/

/-- `Transition_Start` -/
def transitionStart : PolicyProg Unit := do
  let is ← Prog.read .thread PolicyView.ifaceRange
  Prog.forEach is fun i => Prog.modify (.scanIface i) (startIface i)
  Prog.modify .selectGroupIface fun x => x.mapShared fun s =>
    s.modifyGroup x.self.ctrl.groupInst fun g => { g with initialScanComplete := true }
  Prog.modify .thread fun x => x.mapCtrl fun c => { c with selectionTimeOutStart := x.shared.now }

/-- `WanMgr_ParallelScanSelectionProcess` up to its loop. -/
def start : PolicyProg Unit := do
  setCtrl fun c => { ({} : PolicyController) with groupInst := c.groupInst }
  updateControllerData
  transitionStart
  setState .scanningInterface

/-- One iteration of the loop, and what follows its last one. -/
def loop (st : ParallelScanState) : PolicyProg Unit := do
  updateControllerData
  Prog.lockedIf .policyState PolicyView.activeIface?
    (fun a => .modify .policyState fun x => enterState (lockedState st a.1 a.2 x))
    (unlockedState st)
  if st = .policyExit ∨ st = .policyError then policyExit

end ParallelScan

end WanManager
