import WanManager.World

/-! # What the selection policies share

The two policies repeat most of their helper functions; those are here. A selection thread
holds the lock of the data base while it processes a state with a selected interface;
without one it takes the lock again for every interface it looks at. The LAN bridge is only
told what happens, and nothing of it is stored. -/

namespace WanManager
open Concurrency

abbrev PolicyProg := Prog Site PolicyView

namespace PolicyView

def mapCtrl (f : PolicyController → PolicyController) (x : PolicyView) : PolicyView :=
  { x with self := { x.self with ctrl := f x.self.ctrl } }

def mapShared (f : Shared → Shared) (x : PolicyView) : PolicyView :=
  { x with shared := f x.shared }

def setPhase (p : PolicyPhase) (x : PolicyView) : PolicyView :=
  { x with self := { x.self with phase := p } }

/-- The interfaces a loop over `TotalIfaces` looks at. -/
def ifaceRange (x : PolicyView) : List Nat := List.range x.self.ctrl.totalIfaces

/-- The selected interface, if there is one in the table. -/
def activeIface? (x : PolicyView) : Option (Nat × WanIface) :=
  x.self.ctrl.activeInterfaceIdx.bind fun i => x.shared.ifaces[i]?.map fun d => (i, d)

end PolicyView

namespace Policy

/-! ## The controller -/

/-- The thread reads its own controller. -/
def ctrl : PolicyProg PolicyController := .read .thread (·.self.ctrl)

def setCtrl (f : PolicyController → PolicyController) : PolicyProg Unit :=
  .modify .thread (PolicyView.mapCtrl f)

def copyConfig (x : PolicyView) : PolicyView :=
  x.mapCtrl fun c =>
    { c with
      wanEnable := x.shared.config.enable
      allowRemoteInterfaces := x.shared.config.allowRemoteInterfaces }

def copyTotalIfaces (x : PolicyView) : PolicyView :=
  x.mapCtrl fun c => { c with totalIfaces := x.shared.ifaces.length }

def copyGroup (x : PolicyView) : PolicyView :=
  match x.shared.group? x.self.ctrl.groupInst with
  | none => x
  | some g => x.mapCtrl fun c =>
      { c with
        groupCfgChanged := g.configChanged
        groupPersistSelectedIface := g.persistSelectedIface
        resetSelectedInterface := g.resetSelectedInterface }

/-- `WanMgr_UpdateControllerData` -/
def updateControllerData : PolicyProg Unit := do
  Prog.modify .updateControllerData copyConfig
  Prog.modify .updateControllerData copyTotalIfaces
  Prog.modify .updateControllerData copyGroup

/-! ## Interface state machines -/

/-- `WanMgr_Get_ISM_RunningStatus` -/
def ismRunningStatus (s : Shared) (i : Nat) : Bool :=
  match s.ifaces[i]? with
  | none => false
  | some d => d.virtIfs.any (·.interfaceSmRunning)

/-- `WanMgr_StartInterfaceStateMachine`; the answer is whether the thread was created. -/
def startInterfaceStateMachine (i v : Nat) (x : PolicyView) : Bool × PolicyView :=
  if x.shared.outside.vismCreate x.vismCount then
    (true, { x with
      visms := Function.update x.visms x.vismCount { interfaceIdx := i, virIfIdx := v, sm := {} }
      vismCount := x.vismCount + 1 })
  else (false, x)

/-- A virtual interface that is there and disabled gets no state machine. -/
def virtIfEnabled (x : PolicyView) (i v : Nat) : Bool :=
  match x.shared.virtualIface? i v with
  | none => true
  | some d => d.enable

/-- The loop that starts the state machines of an interface, up to the first failure. -/
def startVirtIfs (i : Nat) : List Nat → PolicyView → Bool × PolicyView
  | [], x => (true, x)
  | v :: vs, x =>
    if virtIfEnabled x i v then
      match startInterfaceStateMachine i v x with
      | (true, x) => startVirtIfs i vs x
      | (false, x) => (false, x)
    else startVirtIfs i vs x

def virtIfRange (d : WanIface) : List Nat := List.range d.virtIfs.length

def clearVirtIfChanged (i : Nat) (s : Shared) : Shared :=
  s.modifyIface i fun d => { d with virtIfChanged := false }

/-- `WanMgr_StartIfaceStateMachine` -/
def startIfaceStateMachine (i : Nat) (d : WanIface) (x : PolicyView) : Bool × PolicyView :=
  match startVirtIfs i (virtIfRange d) x with
  | (true, x) => (true, x.mapShared (clearVirtIfChanged i))
  | (false, x) => (false, x)

/-- A state machine is only started for a virtual interface that does not run one. -/
def startVirtIfNotRunning (i : Nat) (x : PolicyView) (v : Nat) : PolicyView :=
  match x.shared.virtualIface? i v with
  | none => x
  | some d =>
    if d.enable && !d.interfaceSmRunning then (startInterfaceStateMachine i v x).2 else x

/-- The branch of both policies for `VirtIfChanged`. -/
def startChangedVirtIfs (i : Nat) (d : WanIface) (x : PolicyView) : PolicyView :=
  if d.virtIfChanged then
    ((virtIfRange d).foldl (startVirtIfNotRunning i) x).mapShared (clearVirtIfChanged i)
  else x

/-! Starting a state machine only adds threads. -/

@[simp] theorem startInterfaceStateMachine_self (i v : Nat) (x : PolicyView) :
    (startInterfaceStateMachine i v x).2.self = x.self := by
  unfold startInterfaceStateMachine
  split <;> rfl

@[simp] theorem startInterfaceStateMachine_shared (i v : Nat) (x : PolicyView) :
    (startInterfaceStateMachine i v x).2.shared = x.shared := by
  unfold startInterfaceStateMachine
  split <;> rfl

/-- What holds and is kept by every start holds after the loop. -/
theorem startVirtIfs_induct {R : PolicyView → Prop} {i : Nat} {vs : List Nat} {x : PolicyView}
    (hstart : ∀ v ∈ vs, ∀ x, R x → virtIfEnabled x i v = true →
      R (startInterfaceStateMachine i v x).2)
    (hx : R x) : R (startVirtIfs i vs x).2 := by
  induction vs generalizing x with
  | nil => exact hx
  | cons v vs ih =>
    have hrest : ∀ u ∈ vs, ∀ x, R x → virtIfEnabled x i u = true →
        R (startInterfaceStateMachine i u x).2 := fun u hu => hstart u (by simp [hu])
    unfold startVirtIfs
    split
    · rename_i hen
      have hv := hstart v (by simp) x hx hen
      cases hs : startInterfaceStateMachine i v x with
      | mk ok x' =>
        rw [hs] at hv
        cases ok with
        | true => exact ih hrest hv
        | false => exact hv
    · exact ih hrest hx

@[simp] theorem startVirtIfs_self (i : Nat) (vs : List Nat) (x : PolicyView) :
    (startVirtIfs i vs x).2.self = x.self :=
  startVirtIfs_induct (R := fun y => y.self = x.self) (fun v _ y hy _ => by simpa using hy) rfl

@[simp] theorem startVirtIfs_shared (i : Nat) (vs : List Nat) (x : PolicyView) :
    (startVirtIfs i vs x).2.shared = x.shared :=
  startVirtIfs_induct (R := fun y => y.shared = x.shared) (fun v _ y hy _ => by simpa using hy) rfl

/-- `VirtIfChanged` is only taken back if every state machine was started. -/
theorem startIfaceStateMachine_eq (i : Nat) (d : WanIface) (x : PolicyView) :
    (startIfaceStateMachine i d x).2 = (startVirtIfs i (virtIfRange d) x).2 ∨
      (startIfaceStateMachine i d x).2 =
        (startVirtIfs i (virtIfRange d) x).2.mapShared (clearVirtIfChanged i) := by
  unfold startIfaceStateMachine
  cases startVirtIfs i (virtIfRange d) x with
  | mk ok x' => cases ok <;> simp

@[simp] theorem startIfaceStateMachine_self (i : Nat) (d : WanIface) (x : PolicyView) :
    (startIfaceStateMachine i d x).2.self = x.self := by
  rcases startIfaceStateMachine_eq i d x with h | h <;> rw [h]
  · exact startVirtIfs_self i _ x
  · exact startVirtIfs_self i _ x

theorem startVirtIfNotRunning_eq (i : Nat) (x : PolicyView) (v : Nat) :
    startVirtIfNotRunning i x v = x ∨
      (∃ d, x.shared.virtualIface? i v = some d ∧ d.enable = true ∧ d.interfaceSmRunning = false) ∧
        startVirtIfNotRunning i x v = (startInterfaceStateMachine i v x).2 := by
  unfold startVirtIfNotRunning
  cases hd : x.shared.virtualIface? i v with
  | none => exact .inl rfl
  | some d =>
    simp only
    split
    · rename_i h
      exact .inr ⟨⟨d, rfl, by simpa using h⟩, rfl⟩
    · exact .inl rfl

/-- What every start of a machine that does not run keeps holds after the loop. -/
theorem startNotRunning_induct {R : PolicyView → Prop} {i : Nat} {vs : List Nat} {x : PolicyView}
    (hstart : ∀ v ∈ vs, ∀ x d, R x → x.shared.virtualIface? i v = some d → d.enable = true →
      d.interfaceSmRunning = false → R (startInterfaceStateMachine i v x).2)
    (hx : R x) : R (vs.foldl (startVirtIfNotRunning i) x) := by
  induction vs generalizing x with
  | nil => exact hx
  | cons v vs ih =>
    refine ih (fun u hu => hstart u (by simp [hu])) ?_
    rcases startVirtIfNotRunning_eq i x v with h | ⟨⟨d, hd, hen, hrun⟩, h⟩
    · rw [h]
      exact hx
    · rw [h]
      exact hstart v (by simp) x d hx hd hen hrun

@[simp] theorem startNotRunning_self (i : Nat) (vs : List Nat) (x : PolicyView) :
    (vs.foldl (startVirtIfNotRunning i) x).self = x.self :=
  startNotRunning_induct (R := fun y => y.self = x.self)
    (fun v _ y d hy _ _ _ => by simpa using hy) rfl

@[simp] theorem startNotRunning_shared (i : Nat) (vs : List Nat) (x : PolicyView) :
    (vs.foldl (startVirtIfNotRunning i) x).shared = x.shared :=
  startNotRunning_induct (R := fun y => y.shared = x.shared)
    (fun v _ y d hy _ _ _ => by simpa using hy) rfl

@[simp] theorem startChangedVirtIfs_self (i : Nat) (d : WanIface) (x : PolicyView) :
    (startChangedVirtIfs i d x).self = x.self := by
  unfold startChangedVirtIfs
  split
  · exact startNotRunning_self i _ x
  · rfl

theorem activeIface_some {x : PolicyView} {i : Nat} {d : WanIface} (h : x.activeIface? = some (i, d)) :
    x.self.ctrl.activeInterfaceIdx = some i ∧ x.shared.ifaces[i]? = some d := by
  obtain ⟨j, hj, hd⟩ := Option.bind_eq_some_iff.mp h
  obtain ⟨e, he, heq⟩ := Option.map_eq_some_iff.mp hd
  cases heq
  exact ⟨hj, he⟩

/-! ## Selection -/

/-- The statuses with which an interface counts as validated. -/
def validated (st : IfaceStatus) : Bool := st == .up || st == .standby || st == .valid

/-- WAN was disabled, or the group's configuration changed. -/
def stops (c : PolicyController) : Bool := !c.wanEnable || c.groupCfgChanged

def setActiveLink (i : Nat) (b : Bool) (s : Shared) : Shared :=
  s.modifyIface i fun d => { d with selection := { d.selection with activeLink := b } }

/-- The end of a selection thread: the group forgets its interface and its thread, and
may be given a new one unless it was deactivated. -/
def leaveGroup (x : PolicyView) : PolicyView :=
  (x.mapShared fun s => s.modifyGroup x.self.ctrl.groupInst fun g =>
    { g with
      threadId := none
      selectedInterface := 0
      configChanged := false
      state := if g.state = .deactivated then .deactivated else .stopped }).setPhase .exited

/-- The code of both policies after their loop. -/
def policyExit : PolicyProg Unit := do
  Prog.modify .resetFailOverScan fun x =>
    if x.self.ctrl.groupCfgChanged then x.mapShared Shared.requestRescan else x
  Prog.modify .policyExit leaveGroup

end Policy

end WanManager
