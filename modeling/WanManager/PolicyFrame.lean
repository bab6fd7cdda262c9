import WanManager.PolicyEffects

/-! # What the selection policies leave alone

The state functions of both policies change what is selected. The states, policies and marks
of the groups, the group an interface belongs to and the running flags of the state machines
are not theirs to change; the end of a thread is the one section that touches them. -/

namespace WanManager
open Concurrency

namespace Shared

def states (s : Shared) : List GroupState := s.groups.map (·.state)

def policies (s : Shared) : List WanPolicy := s.groups.map (·.policy)

/-- `ConfigChanged` and `InterfaceAvailable` of every group. -/
def marks (s : Shared) : List (Bool × Nat) :=
  s.groups.map fun g => (g.configChanged, g.interfaceAvailable)

/-- `Selection.Group` of every interface. -/
def members (s : Shared) : List Nat := s.ifaces.map (·.selection.group)

/-- `Interface_SM_Running` of every virtual interface. -/
def flags (s : Shared) : List (List Bool) :=
  s.ifaces.map fun d => d.virtIfs.map (·.interfaceSmRunning)

theorem length_of_members {s s' : Shared} (h : s'.members = s.members) :
    s'.ifaces.length = s.ifaces.length := by
  have hlen := congrArg List.length h
  simpa [Shared.members] using hlen

/-- What the selection policies keep of the data base. -/
structure Keeps (s s' : Shared) : Prop where
  states : s'.states = s.states
  policies : s'.policies = s.policies
  marks : s'.marks = s.marks
  members : s'.members = s.members
  flags : s'.flags = s.flags

namespace Keeps

theorem refl (s : Shared) : Keeps s s := ⟨rfl, rfl, rfl, rfl, rfl⟩

theorem trans {s s' s'' : Shared} (h : Keeps s s') (h' : Keeps s' s'') : Keeps s s'' :=
  ⟨h'.states.trans h.states, h'.policies.trans h.policies, h'.marks.trans h.marks,
    h'.members.trans h.members, h'.flags.trans h.flags⟩

theorem map_modify {α β : Type} {g : α → β} {f : α → α} (h : ∀ a, g (f a) = g a) (l : List α)
    (i : Nat) : (l.modify i f).map g = l.map g := by
  apply List.ext_getElem?
  intro j
  rw [List.getElem?_map, List.getElem?_map, List.getElem?_modify]
  cases l[j]? with
  | none => rfl
  | some a =>
    by_cases hij : i = j
    · simp [hij, h]
    · simp [hij]

theorem modifyIface {f : WanIface → WanIface}
    (hgroup : ∀ d, (f d).selection.group = d.selection.group)
    (hrun : ∀ d, (f d).virtIfs.map (·.interfaceSmRunning) = d.virtIfs.map (·.interfaceSmRunning))
    (s : Shared) (i : Nat) : Keeps s (s.modifyIface i f) where
  states := rfl
  policies := rfl
  marks := rfl
  members := map_modify hgroup s.ifaces i
  flags := map_modify hrun s.ifaces i

theorem modifyGroup {f : IfaceGroup → IfaceGroup} (hstate : ∀ g, (f g).state = g.state)
    (hpolicy : ∀ g, (f g).policy = g.policy)
    (hmarks : ∀ g, ((f g).configChanged, (f g).interfaceAvailable) =
      (g.configChanged, g.interfaceAvailable)) (s : Shared) (inst : Nat) :
    Keeps s (s.modifyGroup inst f) := by
  cases inst with
  | zero => exact refl s
  | succ n =>
    exact ⟨map_modify hstate s.groups n, map_modify hpolicy s.groups n,
      map_modify hmarks s.groups n, rfl, rfl⟩

theorem foldl {α : Type} {f : Shared → α → Shared} (h : ∀ s a, Keeps s (f s a)) (l : List α)
    (s : Shared) : Keeps s (l.foldl f s) := by
  induction l generalizing s with
  | nil => exact refl s
  | cons a l ih => exact (h s a).trans (ih (f s a))

theorem setActiveLink (i : Nat) (b : Bool) (s : Shared) : Keeps s (Policy.setActiveLink i b s) :=
  .modifyIface (by intro; rfl) (by intro; rfl) s i

theorem setSelectionStatus (i : Nat) (st : SelectionStatus) (s : Shared) :
    Keeps s (s.setSelectionStatus i st) := .modifyIface (by intro; rfl) (by intro; rfl) s i

theorem setGroupSelectedIface (g i : Nat) (s : Shared) :
    Keeps s (s.setGroupSelectedIface g i) := .modifyGroup (by intro; rfl) (by intro; rfl) (by intro; rfl) s g

theorem clearVirtIfChanged (i : Nat) (s : Shared) : Keeps s (Policy.clearVirtIfChanged i s) :=
  .modifyIface (by intro; rfl) (by intro; rfl) s i

theorem requestRescan (s : Shared) : Keeps s s.requestRescan := ⟨rfl, rfl, rfl, rfl, rfl⟩

end Keeps
end Shared

namespace Policy

/-- The data base keeps what `Shared.Keeps` says, and the thread its group. -/
structure Keeps (x x' : PolicyView) : Prop where
  shared : Shared.Keeps x.shared x'.shared
  inst : x'.self.ctrl.groupInst = x.self.ctrl.groupInst

namespace Keeps

theorem refl (x : PolicyView) : Keeps x x := ⟨.refl _, rfl⟩

theorem trans {x x' x'' : PolicyView} (h : Keeps x x') (h' : Keeps x' x'') : Keeps x x'' :=
  ⟨h.shared.trans h'.shared, h'.inst.trans h.inst⟩

theorem mapShared {f : Shared → Shared} {x : PolicyView} (h : Shared.Keeps x.shared (f x.shared)) :
    Keeps x (x.mapShared f) := ⟨h, rfl⟩

theorem mapCtrl {f : PolicyController → PolicyController} {x : PolicyView}
    (h : (f x.self.ctrl).groupInst = x.self.ctrl.groupInst) : Keeps x (x.mapCtrl f) := ⟨.refl _, h⟩

theorem startVirtIfs (i : Nat) (vs : List Nat) (x : PolicyView) : Keeps x (startVirtIfs i vs x).2 :=
  ⟨by rw [startVirtIfs_shared]; exact .refl _, by rw [startVirtIfs_self]⟩

theorem startIfaceStateMachine (i : Nat) (d : WanIface) (x : PolicyView) :
    Keeps x (startIfaceStateMachine i d x).2 := by
  rcases startIfaceStateMachine_eq i d x with h | h <;> rw [h]
  · exact startVirtIfs i _ x
  · exact (startVirtIfs i _ x).trans (mapShared (.clearVirtIfChanged i _))

theorem startChangedVirtIfs (i : Nat) (d : WanIface) (x : PolicyView) :
    Keeps x (startChangedVirtIfs i d x) := by
  unfold Policy.startChangedVirtIfs
  split
  · have hstart : Keeps x ((virtIfRange d).foldl (startVirtIfNotRunning i) x) :=
      ⟨by rw [startNotRunning_shared]; exact .refl _, by rw [startNotRunning_self]⟩
    exact hstart.trans (mapShared (.clearVirtIfChanged i _))
  · exact refl x

end Keeps
end Policy

/-! ## AutoWAN -/

namespace AutoWan
open Policy

theorem keeps_setSelection (i : Nat) (st : SelectionStatus) (x : PolicyView) :
    Keeps x (setSelection i st x) := .mapShared (.setSelectionStatus i st _)

theorem keeps_setGroupSelected (i : Nat) (x : PolicyView) : Keeps x (setGroupSelected i x) :=
  .mapShared (.setGroupSelectedIface _ i _)

theorem keeps_resetIfaceTable (x : PolicyView) : Keeps x (resetIfaceTable x) := by
  refine .mapShared (.foldl (fun s i => .modifyIface (fun d => ?_) (fun d => ?_) s i) _ _)
  · split <;> rfl
  · split <;> rfl

theorem keeps_resetActiveLinks (group : Nat) (is : List Nat) (s : Shared) :
    Shared.Keeps s (resetActiveLinks group is s).2 := by
  induction is generalizing s with
  | nil => exact .refl s
  | cons i is ih =>
    unfold resetActiveLinks
    cases s.ifaces[i]? with
    | none => exact ih s
    | some d =>
      simp only
      split
      · split
        · exact (Shared.Keeps.setActiveLink i false s).trans (ih _)
        · exact Shared.Keeps.setActiveLink i false s
      · exact ih s

theorem keeps_resetActiveLinkOnAllIface (x : PolicyView) : Keeps x (resetActiveLinkOnAllIface x).2 := by
  unfold resetActiveLinkOnAllIface
  split
  · exact .refl x
  · exact ⟨keeps_resetActiveLinks _ _ _, rfl⟩

theorem keeps_resetGroupSelectedIface (x : PolicyView) : Keeps x (resetGroupSelectedIface x).2 := by
  unfold resetGroupSelectedIface
  split
  · exact .refl x
  · exact keeps_setGroupSelected 0 x

theorem keeps_transitionInterfaceInvalid (i : Nat) (x : PolicyView) :
    Keeps x (transitionInterfaceInvalid i x).2 := by
  have hinvalid : Shared.Keeps x.shared
      (x.shared.modifyIface i fun d => { d with virtIf := { d.virtIf with status := .invalid } }) :=
    .modifyIface (by intro; rfl) (by intro; rfl) _ _
  exact ⟨hinvalid.trans (.setActiveLink i false _), rfl⟩

theorem keeps_clearResetSelected (x : PolicyView) : Keeps x (clearResetSelected x) := by
  have hreset : Shared.Keeps x.shared (x.shared.modifyGroup x.self.ctrl.groupInst fun g =>
      { g with resetSelectedInterface := false }) :=
    .modifyGroup (by intro; rfl) (by intro; rfl) (by intro; rfl) _ _
  exact ⟨hreset.trans (.requestRescan _), rfl⟩

theorem keeps_transitionRestartSelectionInterface (x : PolicyView) :
    Keeps x (transitionRestartSelectionInterface x).2 := by
  have hlinks := keeps_resetActiveLinkOnAllIface x
  unfold transitionRestartSelectionInterface
  cases hx : resetActiveLinkOnAllIface x with
  | mk ok y =>
    rw [hx] at hlinks
    cases ok with
    | false => exact hlinks
    | true =>
      have hreset := (hlinks.trans (keeps_clearResetSelected y)).trans (keeps_resetIfaceTable _)
      have hselected := hreset.trans (keeps_resetGroupSelectedIface _)
      simp only
      cases hz : resetGroupSelectedIface (resetIfaceTable (clearResetSelected y)) with
      | mk ok z =>
        rw [hz] at hselected
        cases ok <;> exact hselected

theorem keeps_stateWaitForInterface (i : Nat) (d : WanIface) (x : PolicyView) :
    Keeps x (stateWaitForInterface i d x).2 := by
  have hscan : Keeps x (setInitialScanComplete x) :=
    .mapShared (.modifyGroup (by intro; rfl) (by intro; rfl) (by intro; rfl) _ _)
  have hfound : Keeps x (transitionInterfaceFound i d x).2 :=
    (keeps_setSelection i .selected x).trans (.startIfaceStateMachine i d _)
  unfold stateWaitForInterface
  split
  · exact .refl x
  · split
    · exact keeps_transitionInterfaceInvalid i x
    · split
      · exact hfound
      · split
        · exact keeps_transitionInterfaceInvalid i x
        · simp only
          split
          · exact hscan
          · exact .refl x

theorem keeps_stateScanningInterface (i : Nat) (d : WanIface) (x : PolicyView) :
    Keeps x (stateScanningInterface i d x).2 := by
  have hdeselect : Keeps x (transitionInterfaceDeselect i x).2 := keeps_setSelection i .notSelected x
  have hvalidated : Keeps x (transitionInterfaceValidated i x).2 :=
    ⟨(Shared.Keeps.setActiveLink i true _).trans (.setGroupSelectedIface _ _ _), rfl⟩
  unfold stateScanningInterface
  split
  · exact hdeselect
  · split
    · exact hvalidated
    · split
      · exact hdeselect
      · split
        · exact .refl x
        · split
          · exact hvalidated
          · split
            · exact hdeselect
            · exact .refl x

theorem keeps_stateWaitingForInterfaceSMExit (i : Nat) (x : PolicyView) :
    Keeps x (stateWaitingForInterfaceSMExit i x).2 := by
  have hdeselect := keeps_setSelection i .notSelected x
  have hreset := (hdeselect.trans (keeps_resetIfaceTable _)).trans (keeps_resetGroupSelectedIface _)
  simp only [stateWaitingForInterfaceSMExit]
  split
  · exact hdeselect
  · simp only
    split
    · exact hreset.trans (keeps_resetActiveLinkOnAllIface _)
    · exact hreset

theorem keeps_stateWaitingForIfaceTearDown (i : Nat) (x : PolicyView) :
    Keeps x (stateWaitingForIfaceTearDown i x).2 := by
  unfold stateWaitingForIfaceTearDown
  split
  · exact .refl x
  · split
    · exact .refl x
    · split
      · exact keeps_transitionRestartSelectionInterface x
      · exact keeps_transitionInterfaceInvalid i x

theorem keeps_stateInterfaceReconfiguration (i : Nat) (x : PolicyView) :
    Keeps x (stateInterfaceReconfiguration i x).2 := by
  unfold stateInterfaceReconfiguration
  split
  · exact ⟨(Shared.Keeps.setSelectionStatus i .notSelected _).trans
      (.modifyIface (by intro; rfl) (by intro; rfl) _ _), rfl⟩
  · split <;> exact .refl x

theorem keeps_stateWanInterfaceActive (i : Nat) (d : WanIface) (x : PolicyView) :
    Keeps x (stateWanInterfaceActive i d x).2 := by
  unfold stateWanInterfaceActive
  split
  · exact keeps_setSelection i .notSelected x
  · split
    · exact keeps_setGroupSelected _ x
    · exact .startChangedVirtIfs i d x

theorem keeps_stateWanInterfaceDown (i : Nat) (d : WanIface) (x : PolicyView) :
    Keeps x (stateWanInterfaceDown i d x).2 := by
  unfold stateWanInterfaceDown
  split
  · exact keeps_setSelection i .notSelected x
  · split
    · have hselect := keeps_setGroupSelected (i + 1) x
      unfold transitionWanInterfaceUp
      split
      · exact hselect
      · exact hselect.trans (.startIfaceStateMachine i d _)
    · exact .refl x

theorem keeps_lockedState (st : AutoWanState) (i : Nat) (d : WanIface) (x : PolicyView) :
    Keeps x (lockedState st i d x).2 := by
  cases st with
  | selecting =>
    show Keeps x (stateSelectingInterface d x).2
    unfold stateSelectingInterface
    split
    · exact .refl x
    · exact ⟨.refl _, rfl⟩
  | waiting => exact keeps_stateWaitForInterface i d x
  | scanning => exact keeps_stateScanningInterface i d x
  | teardown => exact keeps_stateWaitingForIfaceTearDown i x
  | reconfiguration => exact keeps_stateInterfaceReconfiguration i x
  | rebootPlatform =>
    show Keeps x (stateRebootingPlatform i x).2
    unfold stateRebootingPlatform
    split <;> exact .refl x
  | active => exact keeps_stateWanInterfaceActive i d x
  | down => exact keeps_stateWanInterfaceDown i d x
  | error | smExit => exact .refl x
  | tearingDown => exact keeps_stateWaitingForInterfaceSMExit i x

end AutoWan

/-! ## Parallel scan -/

namespace ParallelScan
open Policy

theorem keeps_setGroupSelected (i : Nat) (x : PolicyView) : Keeps x (setGroupSelected i x) :=
  .mapShared (.setGroupSelectedIface _ i _)

theorem keeps_setSelection (i : Nat) (st : SelectionStatus) (x : PolicyView) :
    Keeps x (setSelection i st x) := .mapShared (.setSelectionStatus i st _)

theorem keeps_selectIface (i : Nat) (x : PolicyView) : Keeps x (selectIface i x) := by
  refine .mapShared (.modifyIface (fun d => ?_) (fun d => ?_) _ i) <;> split <;> rfl

theorem keeps_tearDownIface (group : Nat) (configChanged : Bool) (i : Nat) (s : Shared) :
    Shared.Keeps s (tearDownIface group configChanged i s) := by
  refine .modifyIface (fun d => ?_) (fun d => ?_) s i <;> split <;> rfl

theorem keeps_transitionTearingDown (x : PolicyView) : Keeps x (transitionTearingDown x).2 :=
  Keeps.trans (.mapShared (.foldl (fun s i => keeps_tearDownIface _ _ i s) _ _))
    (keeps_setGroupSelected 0 _)

theorem keeps_restartIface (group : Nat) (r : Nat × Shared) (i : Nat) :
    Shared.Keeps r.2 (restartIface group r i).2 := by
  unfold restartIface
  split
  · exact .refl _
  · split
    · exact .setActiveLink i false _
    · exact .refl _

theorem keeps_restartIfaces (i : Nat) (x : PolicyView) : Keeps x (restartIfaces i x) := by
  have hloop : ∀ (is : List Nat) (group : Nat) (r : Nat × Shared),
      Shared.Keeps r.2 (is.foldl (restartIface group) r).2 := by
    intro is group
    induction is with
    | nil => exact fun r => .refl r.2
    | cons j is ih => exact fun r => (keeps_restartIface group r j).trans (ih _)
  have hselect := (keeps_setSelection i .validating x).trans (keeps_setGroupSelected 0 _)
  exact ⟨hselect.shared.trans (hloop _ _ (0, _)), rfl⟩

theorem keeps_clearResetSelected (x : PolicyView) : Keeps x (clearResetSelected x) := by
  unfold clearResetSelected
  split
  · exact .refl x
  · have hreset := Keeps.mapShared (x := x) (f := fun s => s.modifyGroup x.self.ctrl.groupInst fun g =>
      { g with resetSelectedInterface := false })
      (.modifyGroup (by intro; rfl) (by intro; rfl) (by intro; rfl) _ _)
    exact hreset.trans (.mapCtrl rfl)

theorem keeps_transitionRestartScan (i : Nat) (x : PolicyView) :
    Keeps x (transitionRestartScan i x).2 :=
  have hclear := (keeps_restartIfaces i x).trans (keeps_clearResetSelected _)
  ⟨hclear.shared.trans (.requestRescan _), hclear.inst⟩

theorem keeps_transitionNewInterfaceConnected (i : Nat) (x : PolicyView) :
    Keeps x (transitionNewInterfaceConnected i x) := by
  unfold transitionNewInterfaceConnected
  split
  · exact .refl x
  · exact ((keeps_setSelection i .validating x).trans (.mapShared (.clearVirtIfChanged i _))).trans
      (.startVirtIfs i _ _)

theorem keeps_keepSelectedInterfaceUp (i : Nat) (d : WanIface) (x : PolicyView) :
    Keeps x (keepSelectedInterfaceUp i d x).2 := by
  unfold keepSelectedInterfaceUp
  split
  · exact .refl x
  · exact .startChangedVirtIfs i d x

theorem keeps_stateSelectedInterfaceUp (i : Nat) (d : WanIface) (x : PolicyView) :
    Keeps x (stateSelectedInterfaceUp i d x).2 := by
  unfold stateSelectedInterfaceUp
  split
  · exact keeps_transitionTearingDown x
  · split
    · split
      · exact keeps_transitionRestartScan i x
      · exact (keeps_clearResetSelected x).trans (keeps_keepSelectedInterfaceUp i d _)
    · exact keeps_keepSelectedInterfaceUp i d x

theorem keeps_stateSelectedInterfaceDown (i : Nat) (d : WanIface) (x : PolicyView) :
    Keeps x (stateSelectedInterfaceDown i d x).2 := by
  have hup : Keeps x (transitionSelectedInterfaceUp i d x).2 := by
    have hstart := Keeps.startIfaceStateMachine i d x
    unfold transitionSelectedInterfaceUp
    cases hx : startIfaceStateMachine i d x with
    | mk ok y =>
      rw [hx] at hstart
      cases ok <;> exact hstart
  unfold stateSelectedInterfaceDown
  split
  · exact keeps_transitionTearingDown x
  · split
    · exact keeps_transitionRestartScan i x
    · split
      · exact .refl x
      · split
        · exact hup
        · exact .refl x

theorem keeps_lockedState (st : ParallelScanState) (i : Nat) (d : WanIface) (x : PolicyView) :
    Keeps x (lockedState st i d x).2 := by
  cases st with
  | scanningInterface | reboot | policyExit | policyError => exact .refl x
  | checkReconfiguration =>
    show Keeps x (stateCheckReconfiguration x).2
    unfold stateCheckReconfiguration
    split
    · exact keeps_transitionTearingDown x
    · split <;> exact .refl x
  | reconfigurePlatform =>
    show Keeps x (stateReconfigurePlatform d x).2
    unfold stateReconfigurePlatform
    split <;> exact .refl x
  | selectedInterfaceUp => exact keeps_stateSelectedInterfaceUp i d x
  | selectedInterfaceDown => exact keeps_stateSelectedInterfaceDown i d x
  | interfaceTearDown =>
    show Keeps x (stateInterfaceTearDown x).2
    unfold stateInterfaceTearDown
    split <;> exact .refl x

end ParallelScan

/-! ## A section -/

namespace Policy

/-- A section keeps the frame, and the thread goes on, unless it is its last. -/
theorem Effect.keeps {chosen missing : PolicyView → Nat → Prop} {l : Site} {x x' : PolicyView}
    (h : Effect chosen missing l x x') :
    (Shared.Keeps x.shared x'.shared ∧ (x'.self = x.self ∨ x.self.Live ∧ x'.self.Live)) ∨
      x.self.Live ∧ x' = leaveGroup x := by
  cases h with
  | same => exact .inl ⟨.refl _, .inl rfl⟩
  | own ho => exact .inl ⟨.refl _, .inr ⟨ho.alive, ho.live⟩⟩
  | iface _ hf _ => exact .inl ⟨.modifyIface hf.group hf.running _ _, .inl rfl⟩
  | group hf => exact .inl ⟨.modifyGroup hf.state hf.policy hf.marks _ _, .inl rfl⟩
  | rescan => exact .inl ⟨.requestRescan _, .inl rfl⟩
  | @autoWan st i d _ hst _ =>
    have hstate := AutoWan.keeps_lockedState st i d (AutoWan.adoptGroup d x)
    exact .inl ⟨hstate.shared, .inr ⟨PolicyThread.live_autoWan hst, PolicyPhase.live_autoWan _⟩⟩
  | @parallelScan st i d _ hst _ =>
    have hstate := ParallelScan.keeps_lockedState st i d x
    exact .inl ⟨hstate.shared,
      .inr ⟨PolicyThread.live_parallelScan hst, PolicyPhase.live_parallelScan _⟩⟩
  | selectIface _ => exact .inl ⟨(ParallelScan.keeps_selectIface _ x).shared, .inl rfl⟩
  | selectGroup _ => exact .inl ⟨(ParallelScan.keeps_setGroupSelected _ x).shared, .inl rfl⟩
  | connected _ =>
    exact .inl ⟨(ParallelScan.keeps_transitionNewInterfaceConnected _ x).shared,
      .inl (ParallelScan.transitionNewInterfaceConnected_self _ x)⟩
  | leave hlive _ => exact .inr ⟨hlive, rfl⟩

/-- A thread that does not run is left as it is. -/
theorem Effect.self_or_live {chosen missing : PolicyView → Nat → Prop} {l : Site} {x x' : PolicyView}
    (h : Effect chosen missing l x x') : x'.self = x.self ∨ x.self.Live := by
  rcases h.keeps with ⟨-, hsame | ⟨hlive, -⟩⟩ | ⟨hlive, -⟩
  · exact .inl hsame
  · exact .inr hlive
  · exact .inr hlive

theorem Effect.live {chosen missing : PolicyView → Nat → Prop} {l : Site} {x x' : PolicyView}
    (h : Effect chosen missing l x x') (hlive : x'.self.Live) : x.self.Live := by
  rcases h.self_or_live with hsame | hx
  · exact hsame ▸ hlive
  · exact hx

/-- A thread that has a group keeps it. -/
theorem Effect.inst {chosen missing : PolicyView → Nat → Prop} {l : Site} {x x' : PolicyView}
    (h : Effect chosen missing l x x') (hinst : x.self.ctrl.groupInst ≠ 0) :
    x'.self.ctrl.groupInst = x.self.ctrl.groupInst := by
  cases h with
  | same | iface | group | rescan | selectIface | selectGroup | leave => rfl
  | own ho => exact ho.inst
  | @autoWan st i d _ _ _ =>
    have hadopt : (AutoWan.adoptGroup d x).self.ctrl.groupInst = x.self.ctrl.groupInst := if_neg hinst
    exact (AutoWan.keeps_lockedState st i d _).inst.trans hadopt
  | parallelScan => exact (ParallelScan.keeps_lockedState _ _ _ x).inst
  | connected => rw [ParallelScan.transitionNewInterfaceConnected_self]

end Policy
end WanManager
