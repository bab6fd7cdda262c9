import WanManager.Types
import WanManager.Concurrency.Pool

/-! # Threads and the data base they share

`gWanMgrDataBase` is guarded by one recursive mutex, so what a thread does between
taking and releasing it is one section. Every thread keeps its own controller; it is
stored with the thread here so that invariants can speak about it, and each kind of
thread works on a `View` that holds the data base, its own record and the table of the
threads it may create.
-/

namespace WanManager
open Concurrency

/-- What PSM, the bus and the operating system answer; it may differ at every call. -/
structure Outside where
  /-- `DmlSetWanActiveLinkInPSMDB` -/
  setActiveLinkInPsm : Nat → Bool → Bool := fun _ _ => true
  /-- whether the hardware of an Ethernet interface is configured for WAN, if it answers -/
  ethUpstream : Nat → Option Bool := fun _ => none
  setEthUpstream : Nat → Bool := fun _ => true
  pthreadCreate : Bool := true
  /-- whether the next interface state machine thread, with this number, can be created -/
  vismCreate : Nat → Bool := fun _ => true
  /-- `PSM_WANMANAGER_FAILOVER_TYPE` -/
  psmFailOverType : Option FailOverType := none

/-- `gWanMgrDataBase`, with the clock and the outside. -/
structure Shared where
  config : WanConfig := {}
  ifaces : List WanIface := []
  groups : List IfaceGroup := []
  now : Nat := 0
  outside : Outside := {}
  /-- history: how many rescans of the failover machine were requested so far -/
  rescanRequests : Nat := 0

theorem WanIface.virtIfs_modifyVirtIf (d : WanIface) (v : Nat) (f : VirtualIface → VirtualIface) :
    (d.modifyVirtIf v f).virtIfs = d.virtIfs.modify v f := by
  cases v <;> simp [modifyVirtIf, virtIfs]

namespace Shared

/-- `WanMgr_GetIfaceGroup_locked (inst - 1)`: instance 0 wraps to an index no table has. -/
def group? (s : Shared) : Nat → Option IfaceGroup
  | 0 => none
  | n + 1 => s.groups[n]?

def modifyGroup (s : Shared) (inst : Nat) (f : IfaceGroup → IfaceGroup) : Shared :=
  match inst with
  | 0 => s
  | n + 1 => { s with groups := s.groups.modify n f }

/-- The index of the interface selected in a group, if there is one. -/
def selected? (s : Shared) (inst : Nat) : Option Nat :=
  match (s.group? inst).map (·.selectedInterface) with
  | some (i + 1) => some i
  | _ => none

/-- `WanMgr_GetIfaceData_locked (SelectedInterface - 1)` -/
def selectedIface? (s : Shared) (inst : Nat) : Option WanIface :=
  (s.selected? inst).bind fun i => s.ifaces[i]?

def modifyIface (s : Shared) (i : Nat) (f : WanIface → WanIface) : Shared :=
  { s with ifaces := s.ifaces.modify i f }

def setSelectionStatus (s : Shared) (i : Nat) (st : SelectionStatus) : Shared :=
  s.modifyIface i fun d => { d with selection := { d.selection with status := st } }

/-- `Selection.Status`; an interface that is not in the table is not selected. -/
def selectionStatus (s : Shared) (i : Nat) : SelectionStatus :=
  match s.ifaces[i]? with
  | some d => d.selection.status
  | none => .notSelected

def modifyVirtIf (s : Shared) (i v : Nat) (f : VirtualIface → VirtualIface) : Shared :=
  s.modifyIface i fun d => d.modifyVirtIf v f

def virtualIface? (s : Shared) (i v : Nat) : Option VirtualIface :=
  s.ifaces[i]?.bind fun d => d.virtualIfaceById v

/-- `pWanConfigData->data.ResetFailOverScan = TRUE` -/
def requestRescan (s : Shared) : Shared :=
  { s with config := { s.config with resetFailOverScan := true },
           rescanRequests := s.rescanRequests + 1 }

/-- `WanMgr_SetGroupSelectedIface` -/
def setGroupSelectedIface (s : Shared) (groupInst ifaceInst : Nat) : Shared :=
  s.modifyGroup groupInst fun g =>
    { g with selectedInterface := ifaceInst, initialScanComplete := true }

/-! Reading one part of the data base after writing another. -/

@[simp] theorem group?_modifyIface (s : Shared) (i : Nat) (f : WanIface → WanIface) (g : Nat) :
    (s.modifyIface i f).group? g = s.group? g := by cases g <;> rfl

@[simp] theorem selected?_modifyIface (s : Shared) (i : Nat) (f : WanIface → WanIface) (g : Nat) :
    (s.modifyIface i f).selected? g = s.selected? g := by simp [selected?]

@[simp] theorem ifaces_modifyGroup (s : Shared) (g : Nat) (f : IfaceGroup → IfaceGroup) :
    (s.modifyGroup g f).ifaces = s.ifaces := by cases g <;> rfl

@[simp] theorem config_modifyGroup (s : Shared) (g : Nat) (f : IfaceGroup → IfaceGroup) :
    (s.modifyGroup g f).config = s.config := by cases g <;> rfl

@[simp] theorem rescanRequests_modifyGroup (s : Shared) (g : Nat) (f : IfaceGroup → IfaceGroup) :
    (s.modifyGroup g f).rescanRequests = s.rescanRequests := by cases g <;> rfl

@[simp] theorem group?_modifyGroup_self (s : Shared) (g : Nat) (f : IfaceGroup → IfaceGroup) :
    (s.modifyGroup g f).group? g = (s.group? g).map f := by
  cases g <;> simp [modifyGroup, group?]

theorem group?_modifyGroup_ne {s : Shared} {g h : Nat} (f : IfaceGroup → IfaceGroup) (hne : h ≠ g) :
    (s.modifyGroup g f).group? h = s.group? h := by
  cases g with
  | zero => rfl
  | succ n =>
    cases h with
    | zero => rfl
    | succ m =>
      have : n ≠ m := by omega
      simp [modifyGroup, group?, this]

/-- A group update that keeps `SelectedInterface` keeps the selected interface. -/
theorem selected?_modifyGroup {s : Shared} {g h : Nat} {f : IfaceGroup → IfaceGroup}
    (hf : ∀ x, (f x).selectedInterface = x.selectedInterface) :
    (s.modifyGroup g f).selected? h = s.selected? h := by
  by_cases hg : h = g
  · subst hg
    cases hx : s.group? h <;> simp [selected?, hx, hf]
  · simp [selected?, group?_modifyGroup_ne f hg]

@[simp] theorem selectionStatus_modifyGroup (s : Shared) (g : Nat) (f : IfaceGroup → IfaceGroup)
    (i : Nat) : (s.modifyGroup g f).selectionStatus i = s.selectionStatus i := by
  simp [selectionStatus]

@[simp] theorem selected?_setSelectionStatus (s : Shared) (i : Nat) (st : SelectionStatus)
    (g : Nat) : (s.setSelectionStatus i st).selected? g = s.selected? g :=
  selected?_modifyIface s i _ g

theorem virtualIface?_modifyVirtIf (s : Shared) (i v : Nat) (f : VirtualIface → VirtualIface)
    (j w : Nat) : (s.modifyVirtIf i v f).virtualIface? j w =
      if j = i ∧ w = v then (s.virtualIface? j w).map f else s.virtualIface? j w := by
  unfold virtualIface? modifyVirtIf modifyIface WanIface.virtualIfaceById
  rw [List.getElem?_modify]
  by_cases hi : i = j
  · subst hi
    cases hd : s.ifaces[i]? with
    | none => simp
    | some d =>
      by_cases hv : v = w
      · subst hv
        simp [WanIface.virtIfs_modifyVirtIf]
      · have hwv : w ≠ v := fun h => hv h.symm
        simp [WanIface.virtIfs_modifyVirtIf, hv, hwv]
  · have hji : j ≠ i := fun h => hi h.symm
    simp [hi, hji]

theorem lt_length_of_selectionStatus {s : Shared} {i : Nat}
    (h : s.selectionStatus i ≠ .notSelected) : i < s.ifaces.length := by
  by_contra hn
  rw [selectionStatus, List.getElem?_eq_none (by omega)] at h
  exact h rfl

theorem selectionStatus_set_ne {s : Shared} {i j : Nat} (st : SelectionStatus) (h : j ≠ i) :
    (s.setSelectionStatus i st).selectionStatus j = s.selectionStatus j := by
  simp [selectionStatus, setSelectionStatus, modifyIface, h.symm]

theorem selectionStatus_set_self {s : Shared} {i : Nat} (st : SelectionStatus)
    (h : i < s.ifaces.length) : (s.setSelectionStatus i st).selectionStatus i = st := by
  simp [selectionStatus, setSelectionStatus, modifyIface, h]

end Shared

/-! ## Threads -/

/-- `WcAwPolicyState_t` -/
inductive AutoWanState where
  | selecting | waiting | scanning | teardown | reconfiguration | rebootPlatform
  | active | down | error | tearingDown | smExit
  deriving DecidableEq, Repr, Inhabited

/-- `WcPsPolicyState_t` -/
inductive ParallelScanState where
  | scanningInterface | checkReconfiguration | reconfigurePlatform | reboot
  | selectedInterfaceUp | selectedInterfaceDown | interfaceTearDown | policyExit | policyError
  deriving DecidableEq, Repr, Inhabited

/-- Where a selection thread is between two ticks: just created, in the loop of one of
the two policies, or gone. Identifiers not yet given out are `absent`. -/
inductive PolicyPhase where
  | absent
  | created (policy : WanPolicy)
  | autoWan (st : AutoWanState)
  | parallelScan (st : ParallelScanState)
  | exited
  deriving DecidableEq, Repr, Inhabited

def PolicyPhase.Live (p : PolicyPhase) : Prop := p ≠ .absent ∧ p ≠ .exited

instance (p : PolicyPhase) : Decidable p.Live := inferInstanceAs (Decidable (_ ∧ _))

structure PolicyThread where
  phase : PolicyPhase := .absent
  ctrl : PolicyController := {}
  deriving DecidableEq, Repr, Inhabited

abbrev PolicyThread.Live (t : PolicyThread) : Prop := t.phase.Live

theorem PolicyPhase.live_autoWan (st : AutoWanState) : (PolicyPhase.autoWan st).Live :=
  ⟨by simp, by simp⟩

theorem PolicyPhase.live_parallelScan (st : ParallelScanState) : (PolicyPhase.parallelScan st).Live :=
  ⟨by simp, by simp⟩

theorem PolicyThread.live_created {t : PolicyThread} {p : WanPolicy} (h : t.phase = .created p) :
    t.Live := by
  rw [PolicyThread.Live, h]
  exact ⟨by simp, by simp⟩

theorem PolicyThread.live_autoWan {t : PolicyThread} {st : AutoWanState}
    (h : t.phase = .autoWan st) : t.Live := by
  rw [PolicyThread.Live, h]
  exact PolicyPhase.live_autoWan st

theorem PolicyThread.live_parallelScan {t : PolicyThread} {st : ParallelScanState}
    (h : t.phase = .parallelScan st) : t.Live := by
  rw [PolicyThread.Live, h]
  exact PolicyPhase.live_parallelScan st

/-- An interface state machine thread with its `WanMgr_IfaceSM_Controller_t`; the interface
data in `sm` is what it saw last. -/
structure VismThread where
  interfaceIdx : Nat := 0
  virIfIdx : Nat := 0
  sm : Vism := { phase := .absent }
  deriving DecidableEq, Repr, Inhabited

abbrev VismThread.phase (t : VismThread) : VismPhase := t.sm.phase

def VismThread.Live (t : VismThread) : Prop := t.phase ≠ .absent ∧ t.phase ≠ .exited

instance (t : VismThread) : Decidable t.Live := inferInstanceAs (Decidable (_ ∧ _))

/-- `WanController_Init_StateMachine` polls `Enable`; inside `WanMgr_FailOverThread` it is
in the loop, and then waits for the selection threads to stop. -/
inductive FailOverPhase where
  | idle
  | loop (st : FailOverState)
  | waitExit
  deriving DecidableEq, Repr, Inhabited

/-- What the transitions of the failover machine trace. `activated` names the group
(0 if none) and whether the current group's interface was left `SELECTED`;
`restorationExpired` whether the target then passed the test of `MarkHighPriorityGroup`. -/
inductive FailOverEvent where
  | activated (group : Nat) (leftSelected : Bool)
  | deactivateGroup
  | restoration
  | restorationFail
  | restorationExpired (targetValid : Bool)
  | resetScan
  deriving DecidableEq, Repr, Inhabited

structure FailOverThread where
  phase : FailOverPhase := .idle
  ctrl : FailOverController := {}
  trace : List FailOverEvent := []
  /-- history: the state and `Enable` of the last tick, if it took a rescan request -/
  tookRequestIn : Option (FailOverState × Bool) := none
  /-- history: the requests made before the last rescan, or the last tick of a scan -/
  rescanServed : Nat := 0
  deriving DecidableEq, Repr, Inhabited

structure World where
  shared : Shared := {}
  failOver : FailOverThread := {}
  policies : Nat → PolicyThread := fun _ => {}
  policyCount : Nat := 0
  visms : Nat → VismThread := fun _ => {}
  vismCount : Nat := 0

/-! ## What each thread sees -/

structure FailOverView where
  shared : Shared := {}
  self : FailOverThread := {}
  policies : Nat → PolicyThread := fun _ => {}
  policyCount : Nat := 0

structure PolicyView where
  shared : Shared := {}
  self : PolicyThread := {}
  visms : Nat → VismThread := fun _ => {}
  vismCount : Nat := 0

structure VismView where
  shared : Shared := {}
  self : VismThread := {}

namespace World

def failOverView : View World FailOverView where
  get w := ⟨w.shared, w.failOver, w.policies, w.policyCount⟩
  put v w := { w with shared := v.shared, failOver := v.self, policies := v.policies,
                      policyCount := v.policyCount }
  get_put _ _ := rfl
  put_get _ := rfl
  put_put _ _ _ := rfl

def policyView (t : Nat) : View World PolicyView where
  get w := ⟨w.shared, w.policies t, w.visms, w.vismCount⟩
  put v w := { w with shared := v.shared, policies := Function.update w.policies t v.self,
                      visms := v.visms, vismCount := v.vismCount }
  get_put _ _ := by simp
  put_get _ := by simp
  put_put _ _ _ := by simp

def vismView (t : Nat) : View World VismView where
  get w := ⟨w.shared, w.visms t⟩
  put v w := { w with shared := v.shared, visms := Function.update w.visms t v.self }
  get_put _ _ := by simp
  put_get _ := by simp
  put_put _ _ _ := by simp

end World

/-! ## Sections

The label of a section is the function of the source it belongs to. -/

/-- What the state function of an interface state machine ends with: one transition; two
of them, when a standby interface is activated (`standbyUp`) or the MAP-T feature is
switched off (`maptDownRefresh`); or none (`keep`). -/
inductive WanTransition where
  | start | pppConfigure | physicalInterfaceDown | wanUp | wanValidated | wanRefreshed
  | ipv4Up | ipv4Down | ipv6Up | ipv6Down | dualStackDown | maptFeatureRefresh
  | maptUp | maptDown | maptDownRefresh | exit | standby | standbyUp | standbyDeconfigIps | keep
  deriving DecidableEq, Repr

inductive Site where
  | thread
  | failOverCtrlInit (i : Nat)
  | updateFOControllerData
  | transitionStart (i : Nat)
  | ifaceGroupMonitor (i : Nat)
  | markHighPriorityGroup (i : Nat)
  | activationCount
  | activateGroup
  | coldswapStop (i : Nat)
  | deactivateGroup
  | restorationWait
  | deactivateGroupTest
  | exitWait (i : Nat)
  | updateControllerData
  | policyState
  | resetFailOverScan
  | policyExit
  | scanIface (i : Nat)
  | selectGroupIface
  | newInterfaceConnected (i : Nat)
  | vism
  | wanTransition (t : WanTransition)
  deriving DecidableEq, Repr

end WanManager
