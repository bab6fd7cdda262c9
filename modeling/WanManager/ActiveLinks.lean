import WanManager.PolicyEffects
import WanManager.Concurrency.History

/-! # ActiveLink and what is stored of it

A parallel scan marks the interface it selected with `Selection.ActiveLink` and stores the mark in
PSM, where the next boot finds it. The marks are changed one interface at a time, when an interface
is selected, and all at once when the scan is restarted or torn down. Here are the marks of a group,
what is written to PSM, and what the functions of the thread do to the marks. -/

namespace WanManager
open Concurrency

namespace ActiveLinks
open Policy ParallelScan

/-! ## The marks of a group -/

def member? (inst : Nat) (s : Shared) (i : Nat) : Option WanIface :=
  s.ifaces[i]?.filter (·.selection.group = inst)

/-- `Selection.ActiveLink` of an interface of the group. -/
def link? (inst : Nat) (s : Shared) (i : Nat) : Option Bool :=
  (member? inst s i).map (·.selection.activeLink)

def member (x : PolicyView) (i : Nat) : Option WanIface := member? x.self.ctrl.groupInst x.shared i

def links (x : PolicyView) (i : Nat) : Option Bool := link? x.self.ctrl.groupInst x.shared i

def Single (x : PolicyView) : Prop :=
  ∀ i j, links x i = some true → links x j = some true → i = j

/-- The thread is inside `Transition_SelectingInterface`. -/
def selecting (t : PolicyThread) : Prop :=
  t.phase = .parallelScan .scanningInterface ∧ t.ctrl.activeInterfaceIdx ≠ none

instance (t : PolicyThread) : Decidable (selecting t) := inferInstanceAs (Decidable (_ ∧ _))

/-! ## What is written to PSM -/

/-- What the loop of `Transition_Start` writes: an interface that is disabled is not the last link. -/
def startWrites (i : Nat) (x : PolicyView) : Option Bool :=
  (member x i).bind fun d =>
    if !d.selection.enable && d.selection.activeLink then some false else none

/-- What the loop of `Transition_SelectingInterface` writes. -/
def selectWrites (i : Nat) (x : PolicyView) : Option Bool :=
  (member x i).bind fun d =>
    if d.selection.enable then some (decide (x.self.ctrl.activeInterfaceIdx = some i)) else none

/-- What the loop of `Transition_RestartScan` writes. -/
def restartWrites (x : PolicyView) (i : Nat) : Option Bool :=
  if i < x.self.ctrl.totalIfaces then (member x i).map fun _ => false else none

/-- What the loop of `Transition_TearingDown` writes. -/
def tearDownWrites (x : PolicyView) (i : Nat) : Option Bool :=
  if x.self.ctrl.groupCfgChanged then restartWrites x i else none

/-- `Transition_RestartScan` leads from one state to the other. -/
def restarts (st st' : ParallelScanState) : Bool :=
  (st == .selectedInterfaceUp || st == .selectedInterfaceDown) && st' == .scanningInterface

/-- `Transition_TearingDown` leads from one state to the other. -/
def tearsDown (st st' : ParallelScanState) : Bool :=
  (st == .checkReconfiguration || st == .selectedInterfaceUp || st == .selectedInterfaceDown) &&
    st' == .interfaceTearDown

/-- The calls of `DmlSetWanActiveLinkInPSMDB` in a section. -/
def writes (l : Site) (x x' : PolicyView) (i : Nat) : Option Bool :=
  match l with
  | .scanIface j =>
    if i ≠ j then none
    else if x.self.phase = .created .parallelScan then startWrites i x
    else if selecting x.self then selectWrites i x
    else none
  | .policyState =>
    match x.self.phase, x'.self.phase with
    | .parallelScan st, .parallelScan st' =>
      if restarts st st' then restartWrites x i
      else if tearsDown st st' then tearDownWrites x i
      else none
    | _, _ => none
  | _ => none

abbrev Store := Nat → Bool

def note (l : Site) (x x' : PolicyView) (store : Store) : Store := fun i =>
  (writes l x x' i).getD (store i)

/-- The marks and what is stored of them. -/
structure Books (y : PolicyView × Store) : Prop where
  agrees : ∀ i b, links y.1 i = some b → y.2 i = b
  single : ¬ selecting y.1.self → Single y.1

/-! ## What the functions do to the marks -/

theorem link?_of_ifaces {inst : Nat} {s s' : Shared} (h : s'.ifaces = s.ifaces) :
    link? inst s' = link? inst s := by
  funext i
  rw [link?, link?, member?, member?, h]

@[simp] theorem link?_modifyGroup (inst : Nat) (s : Shared) (g : Nat) (f : IfaceGroup → IfaceGroup) :
    link? inst (s.modifyGroup g f) = link? inst s := link?_of_ifaces (Shared.ifaces_modifyGroup s g f)

theorem member?_modifyIface {inst : Nat} {s : Shared} {i : Nat} {f : WanIface → WanIface}
    (hgroup : ∀ d, (f d).selection.group = d.selection.group) (j : Nat) :
    member? inst (s.modifyIface i f) j =
      if i = j then (member? inst s j).map f else member? inst s j := by
  unfold member? Shared.modifyIface
  rw [List.getElem?_modify]
  split
  · cases hd : s.ifaces[j]? with
    | none => rfl
    | some d => by_cases hin : d.selection.group = inst <;> simp [Option.filter, hgroup, hin]
  · simp

/-- A change of one interface whose mark goes through `g` if it is in the group. -/
theorem link?_modifyIface {inst : Nat} {s : Shared} {i : Nat} {f : WanIface → WanIface}
    {g : Bool → Bool} (hgroup : ∀ d, (f d).selection.group = d.selection.group)
    (hlink : ∀ d, d.selection.group = inst →
      (f d).selection.activeLink = g d.selection.activeLink) (j : Nat) :
    link? inst (s.modifyIface i f) j = if i = j then (link? inst s j).map g else link? inst s j := by
  unfold link?
  rw [member?_modifyIface hgroup]
  split
  · cases hd : member? inst s j with
    | none => rfl
    | some d =>
      have hin : d.selection.group = inst := by
        simpa using (Option.filter_eq_some_iff.mp hd).2
      simp [hlink d hin]
  · rfl

/-- A change of one interface that is not about its mark. -/
theorem link?_quiet {inst : Nat} {s : Shared} {i : Nat} {f : WanIface → WanIface}
    (hgroup : ∀ d, (f d).selection.group = d.selection.group)
    (hlink : ∀ d, (f d).selection.activeLink = d.selection.activeLink) :
    link? inst (s.modifyIface i f) = link? inst s := by
  funext j
  rw [link?_modifyIface (g := id) hgroup fun d _ => hlink d]
  simp

/-- A loop whose turns each send the mark of their interface through `g`. -/
theorem link?_foldl {β : Type} {p : β → Shared} {f : β → Nat → β} {inst : Nat} {g : Bool → Bool}
    (hf : ∀ r i j, link? inst (p (f r i)) j =
      if i = j then (link? inst (p r) j).map g else link? inst (p r) j)
    (hg : ∀ b, g (g b) = g b) (is : List Nat) (r : β) (j : Nat) :
    link? inst (p (is.foldl f r)) j =
      if j ∈ is then (link? inst (p r) j).map g else link? inst (p r) j := by
  induction is generalizing r with
  | nil => rfl
  | cons i is ih =>
    rw [List.foldl_cons, ih, hf]
    by_cases hij : i = j
    · subst hij
      cases link? inst (p r) i <;> simp [hg]
    · simp [hij, Ne.symm hij]

/-! ## The states with a selected interface -/

section States
variable {x x' : PolicyView} {st : ParallelScanState} {i : Nat} {d : WanIface}

theorem links_congr (hlinks : link? x.self.ctrl.groupInst x'.shared = link? x.self.ctrl.groupInst x.shared)
    (hinst : x'.self.ctrl.groupInst = x.self.ctrl.groupInst) : links x' = links x := by
  funext j
  rw [links, links, hinst, hlinks]

theorem links_setSelection (st : SelectionStatus) : links (setSelection i st x) = links x :=
  links_congr (link?_quiet (fun _ => rfl) fun _ => rfl) rfl

theorem links_setGroupSelected (n : Nat) : links (setGroupSelected n x) = links x :=
  links_congr (link?_modifyGroup _ _ _ _) rfl

theorem links_clearVirtIfChanged : links (x.mapShared (clearVirtIfChanged i)) = links x :=
  links_congr (link?_quiet (fun _ => rfl) fun _ => rfl) rfl

theorem links_clearResetSelected : links (clearResetSelected x) = links x := by
  unfold clearResetSelected
  split
  · rfl
  · exact links_congr (link?_modifyGroup _ _ _ _) rfl

theorem links_startVirtIfs (vs : List Nat) : links (startVirtIfs i vs x).2 = links x :=
  links_congr (by rw [startVirtIfs_shared]) (by rw [startVirtIfs_self])

theorem links_startIfaceStateMachine : links (startIfaceStateMachine i d x).2 = links x := by
  rcases startIfaceStateMachine_eq i d x with h | h
  · rw [h]
    exact links_startVirtIfs _
  · rw [h, links_clearVirtIfChanged]
    exact links_startVirtIfs _

theorem links_startChangedVirtIfs : links (startChangedVirtIfs i d x) = links x := by
  unfold startChangedVirtIfs
  split
  · rw [links_clearVirtIfChanged]
    exact links_congr (by rw [startNotRunning_shared]) (by rw [startNotRunning_self])
  · rfl

theorem links_newInterfaceConnected : links (transitionNewInterfaceConnected i x) = links x := by
  unfold transitionNewInterfaceConnected
  split
  · rfl
  · rw [links_startVirtIfs, links_clearVirtIfChanged, links_setSelection]

theorem links_selectIface (j k : Nat) : links (selectIface j x) k =
    if j = k then (member x k).map fun d =>
      if d.selection.enable then decide (x.self.ctrl.activeInterfaceIdx = some k)
      else d.selection.activeLink
    else links x k := by
  show link? x.self.ctrl.groupInst (x.shared.modifyIface j _) k = _
  rw [link?, member?_modifyIface fun d => by split <;> rfl]
  split
  · rename_i hjk
    subst hjk
    show ((member x j).map _).map _ = _
    rw [Option.map_map]
    refine Option.map_congr fun d hd => ?_
    have hin : d.selection.group = x.self.ctrl.groupInst := by
      simpa using (Option.filter_eq_some_iff.mp hd).2
    by_cases henable : d.selection.enable = true
    · simp [hin, henable]
    · simp [henable]
  · rfl

/-- What a tick in a state with a selected interface does to the marks. -/
inductive Outcome (st : ParallelScanState) (x : PolicyView) : ParallelScanState × PolicyView → Prop
  | same {r} : links r.2 = links x → restarts st r.1 = false → tearsDown st r.1 = false →
      r.1 ≠ .scanningInterface → Outcome st x r
  | restart {r} : restarts st r.1 = true → r.2.self.ctrl.activeInterfaceIdx = none →
      (∀ j, links r.2 j = if j < x.self.ctrl.totalIfaces then (links x j).map fun _ => false
        else links x j) → Outcome st x r
  | tearDown {r} : tearsDown st r.1 = true → (∀ j, links r.2 j =
      if x.self.ctrl.groupCfgChanged ∧ j < x.self.ctrl.totalIfaces then (links x j).map fun _ => false
      else links x j) → Outcome st x r

/-- A state that is entered without a transition. -/
theorem Outcome.enter {st' : ParallelScanState} (hlinks : links x' = links x)
    (hrestarts : restarts st st' = false) (htears : tearsDown st st' = false)
    (hne : st' ≠ .scanningInterface) : Outcome st x (st', x') := .same hlinks hrestarts htears hne

theorem outcome_tearingDown (hst : tearsDown st .interfaceTearDown = true) :
    Outcome st x (transitionTearingDown x) := by
  refine .tearDown hst fun j => ?_
  have hturn (s : Shared) (i j : Nat) : link? x.self.ctrl.groupInst
      (tearDownIface x.self.ctrl.groupInst x.self.ctrl.groupCfgChanged i s) j =
        if i = j then (link? x.self.ctrl.groupInst s j).map fun b =>
          if x.self.ctrl.groupCfgChanged then false else b
        else link? x.self.ctrl.groupInst s j := by
    unfold tearDownIface
    refine link?_modifyIface (fun d => ?_) (fun d hin => ?_) j
    · split <;> rfl
    · rw [if_pos hin]
  have hloop := link?_foldl (p := id) hturn (fun b => by split <;> rfl) x.ifaceRange x.shared j
  unfold transitionTearingDown
  rw [links_setGroupSelected]
  refine Eq.trans hloop ?_
  simp only [PolicyView.ifaceRange, List.mem_range]
  cases x.self.ctrl.groupCfgChanged with
  | true =>
    simp only [if_true, true_and]
    rfl
  | false =>
    simp
    rfl

theorem link?_restartIface (inst : Nat) (r : Nat × Shared) (i j : Nat) :
    link? inst (restartIface inst r i).2 j =
      if i = j then (link? inst r.2 j).map fun _ => false else link? inst r.2 j := by
  have hother (hr : restartIface inst r i = r) (hnone : link? inst r.2 i = none) :
      link? inst (restartIface inst r i).2 j =
        if i = j then (link? inst r.2 j).map fun _ => false else link? inst r.2 j := by
    rw [hr]
    split
    · rename_i hij
      rw [← hij, hnone]
      rfl
    · rfl
  cases hd : r.2.ifaces[i]? with
  | none => exact hother (by rw [restartIface, hd]) (by rw [link?, member?, hd]; rfl)
  | some d =>
    by_cases hin : d.selection.group = inst
    · have hr : (restartIface inst r i).2 = setActiveLink i false r.2 := by
        simp only [restartIface, hd, if_pos hin]
      rw [hr]
      refine link?_modifyIface (g := fun _ => false) ?_ ?_ j <;> intros <;> rfl
    · refine hother (by simp only [restartIface, hd, if_neg hin]) ?_
      rw [link?, member?, hd]
      simp [Option.filter, hin]

theorem links_restartIfaces (j : Nat) : links (restartIfaces i x) j =
    if j < x.self.ctrl.totalIfaces then (links x j).map fun _ => false else links x j := by
  have hx : links (setGroupSelected 0 (setSelection i .validating x)) = links x := by
    rw [links_setGroupSelected, links_setSelection]
  have hloop := link?_foldl (p := Prod.snd) (link?_restartIface x.self.ctrl.groupInst) (fun _ => rfl)
    x.ifaceRange (0, (setGroupSelected 0 (setSelection i .validating x)).shared) j
  simp only [PolicyView.ifaceRange, List.mem_range] at hloop
  rw [← hx]
  exact hloop

theorem outcome_restartScan (hst : restarts st .scanningInterface = true) :
    Outcome st x (transitionRestartScan i x) := by
  have hidx : (clearResetSelected (restartIfaces i x)).self.ctrl.activeInterfaceIdx = none := by
    unfold clearResetSelected
    split <;> rfl
  refine .restart hst hidx fun j => ?_
  refine Eq.trans ?_ (links_restartIfaces (i := i) j)
  exact congrFun (links_clearResetSelected (x := restartIfaces i x)) j

theorem outcome_keepSelectedInterfaceUp :
    Outcome .selectedInterfaceUp x (keepSelectedInterfaceUp i d x) := by
  unfold keepSelectedInterfaceUp
  split
  · exact .enter rfl rfl rfl nofun
  · exact .enter links_startChangedVirtIfs rfl rfl nofun

theorem Outcome.of_links {r : ParallelScanState × PolicyView} (h : Outcome st x' r)
    (hlinks : links x' = links x) (hctrl : x'.self.ctrl.totalIfaces = x.self.ctrl.totalIfaces ∧
      x'.self.ctrl.groupCfgChanged = x.self.ctrl.groupCfgChanged) : Outcome st x r := by
  cases h with
  | same hsame hrestarts htears hne => exact .same (hsame.trans hlinks) hrestarts htears hne
  | restart hst hidx hmarks => exact .restart hst hidx (by rw [← hlinks, ← hctrl.1]; exact hmarks)
  | tearDown hst hmarks => exact .tearDown hst (by rw [← hlinks, ← hctrl.1, ← hctrl.2]; exact hmarks)

/-- Only the transitions that restart the scan or tear it down change the marks. -/
theorem outcome_lockedState (hst : st ≠ .scanningInterface) : Outcome st x (lockedState st i d x) := by
  cases st with
  | scanningInterface => exact absurd rfl hst
  | reboot | policyExit | policyError => exact .enter rfl rfl rfl nofun
  | checkReconfiguration =>
    show Outcome _ x (stateCheckReconfiguration x)
    unfold stateCheckReconfiguration
    split
    · exact outcome_tearingDown rfl
    · split <;> exact .enter rfl rfl rfl nofun
  | reconfigurePlatform =>
    show Outcome _ x (stateReconfigurePlatform d x)
    unfold stateReconfigurePlatform
    split <;> exact .enter rfl rfl rfl nofun
  | interfaceTearDown =>
    show Outcome _ x (stateInterfaceTearDown x)
    unfold stateInterfaceTearDown
    split <;> exact .enter rfl rfl rfl nofun
  | selectedInterfaceUp =>
    show Outcome _ x (stateSelectedInterfaceUp i d x)
    unfold stateSelectedInterfaceUp
    split
    · exact outcome_tearingDown rfl
    · split
      · split
        · exact outcome_restartScan rfl
        · refine outcome_keepSelectedInterfaceUp.of_links links_clearResetSelected ?_
          unfold clearResetSelected
          split <;> exact ⟨rfl, rfl⟩
      · exact outcome_keepSelectedInterfaceUp
  | selectedInterfaceDown =>
    show Outcome _ x (stateSelectedInterfaceDown i d x)
    unfold stateSelectedInterfaceDown
    split
    · exact outcome_tearingDown rfl
    split
    · exact outcome_restartScan rfl
    split
    · exact .enter rfl rfl rfl nofun
    split
    · have hstart : links (startIfaceStateMachine i d x).2 = links x := links_startIfaceStateMachine
      unfold transitionSelectedInterfaceUp
      split <;> rename_i heq
      · exact .enter (by rw [← hstart, heq]) rfl rfl nofun
      · exact .enter (by rw [← hstart, heq]) rfl rfl nofun
    · exact .enter rfl rfl rfl nofun

end States

end ActiveLinks
end WanManager
