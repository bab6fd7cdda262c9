import WanManager.PolicyFrame
import WanManager.Concurrency.History

/-! # Scan cycles of AutoWAN

A selection thread tries the interfaces of its group one by one; an interface it gives up is
`INVALID` until `WanMgr_ResetIfaceTable` makes all of them `DISABLED` again. What it tried is
read off a log of its sections. Here are the log, what is asked of it, and what the functions of
the thread do to the interfaces it may try. -/

namespace WanManager
open Concurrency

namespace ScanCycle
open Policy AutoWan

/-! ## The log -/

/-- An interface becomes the current one, found with this priority and `ActiveLink`. -/
structure Trial where
  index : Nat
  priority : Int
  activeLink : Bool
  deriving DecidableEq, Repr

/-- `due` are the interfaces that can be tried then; `complete` whether `InitialScanComplete` is
set before the table is reset. -/
inductive ScanEvent where
  | started (due : List Nat)
  | tried (t : Trial)
  | reset (complete : Bool) (due : List Nat)
  deriving DecidableEq, Repr

def ScanEvent.isReset : ScanEvent → Bool
  | .reset _ _ => true
  | .started _ | .tried _ => false

/-- Trials, the last one first. -/
structure Cycle where
  started : Bool := false
  due : List Nat := []
  trials : List Trial := []
  deriving DecidableEq, Repr

namespace Cycle

def tried (c : Cycle) : List Nat := c.trials.map Trial.index

def Complete (c : Cycle) : Prop := ∀ i ∈ c.due, i ∈ c.tried

/-- Trials in nondecreasing order of priority, the last one first. -/
def InOrder (ts : List Trial) : Prop := ts.Pairwise fun later t => t.priority ≤ later.priority

/-- The trials in order, and before them that of the link a new thread resumes. -/
structure Splits (c : Cycle) (chosen first : List Trial) : Prop where
  eq : c.trials = chosen ++ first
  ordered : InOrder chosen
  resumed : first = [] ∨ c.started ∧ ∃ t, first = [t] ∧ t.activeLink

structure Fair (c : Cycle) : Prop where
  once : c.tried.Nodup
  ordered : ∃ chosen first, c.Splits chosen first

instance (c : Cycle) : Decidable c.Complete := inferInstanceAs (Decidable (∀ _ ∈ _, _))

instance (ts : List Trial) : Decidable (InOrder ts) := inferInstanceAs (Decidable (List.Pairwise _ _))

end Cycle

/-- The cycle a log ends with; it began with a reset or, if `restarts`, with the thread. -/
def cycle (restarts : Bool) : List ScanEvent → Cycle
  | [] => {}
  | .tried t :: es => { cycle restarts es with trials := t :: (cycle restarts es).trials }
  | .reset _ due :: _ => { due }
  | .started due :: es => if restarts then { started := true, due } else cycle restarts es

/-- Every cycle is fair, and complete if it sets `InitialScanComplete`. -/
def FairLog (log : List ScanEvent) : Prop :=
  ∀ es, es <:+ log → (cycle true es).Fair ∧
    ∀ due es', es = .reset true due :: es' → (cycle true es').Complete

/-- The same from one reset to the next, whichever threads run in between. -/
def FairBetweenResets (log : List ScanEvent) : Prop :=
  ∀ (complete : Bool) due es, .reset complete due :: es <:+ log → es.any (·.isReset) →
    (cycle false es).tried.Nodup ∧ Cycle.InOrder (cycle false es).trials ∧
      (complete → (cycle false es).Complete)

theorem fairLog_nil : FairLog [] := by
  intro es hes
  obtain rfl := List.suffix_nil.mp hes
  exact ⟨⟨List.nodup_nil, [], [], rfl, List.Pairwise.nil, .inl rfl⟩, nofun⟩

theorem FairLog.cons {e : ScanEvent} {log : List ScanEvent} (h : FairLog log)
    (hfair : (cycle true (e :: log)).Fair)
    (hcomplete : ∀ due, e = .reset true due → (cycle true log).Complete) : FairLog (e :: log) := by
  intro es hes
  rcases List.suffix_cons_iff.mp hes with rfl | hes
  · refine ⟨hfair, fun due es' heq => ?_⟩
    obtain ⟨rfl, rfl⟩ := List.cons.inj heq
    exact hcomplete due rfl
  · exact h es hes

/-- A cycle without trials. -/
theorem Cycle.Fair.untried {c : Cycle} (h : c.trials = []) : c.Fair := by
  refine ⟨?_, [], [], h, List.Pairwise.nil, .inl rfl⟩
  rw [Cycle.tried, h]
  exact List.nodup_nil

theorem FairLog.started {log : List ScanEvent} (h : FairLog log) (due : List Nat) :
    FairLog (.started due :: log) := h.cons (.untried rfl) nofun

theorem FairLog.reset {log : List ScanEvent} {complete : Bool} (h : FairLog log) (due : List Nat)
    (hcomplete : complete → (cycle true log).Complete) : FairLog (.reset complete due :: log) := by
  refine h.cons (.untried rfl) fun due' heq => hcomplete ?_
  rw [ScanEvent.reset.injEq] at heq
  exact heq.1

/-! ## The interfaces of the group -/

/-- The interface, if it is in the thread's group. -/
def ours? (x : PolicyView) (i : Nat) : Option WanIface :=
  x.shared.ifaces[i]?.filter (·.selection.group = x.self.ctrl.groupInst)

/-- The configuration of an interface that the search looks at. -/
def plan (d : WanIface) : Bool × Int × IfaceType :=
  (d.selection.enable, d.selection.priority, d.ifaceType)

def status (d : WanIface) : IfaceStatus := d.virtIf.status

def Eligible (remote : Bool) (d : WanIface) : Prop :=
  d.selection.enable ∧ 0 ≤ d.selection.priority ∧ d.selection.priority < priorityMax ∧
    d.virtIf.status = .disabled ∧ (d.ifaceType = .remote → remote)

instance (remote : Bool) (d : WanIface) : Decidable (Eligible remote d) :=
  inferInstanceAs (Decidable (_ ∧ _))

/-- The priority of an interface of the group that can be tried. -/
def candidate (x : PolicyView) (i : Nat) : Option Int :=
  ((ours? x i).filter fun d => Eligible x.shared.config.allowRemoteInterfaces d).map
    (·.selection.priority)

def due (x : PolicyView) : List Nat :=
  (List.range x.shared.ifaces.length).filter fun i => (candidate x i).isSome

theorem ours?_eq_some {x : PolicyView} {i : Nat} {d : WanIface} : ours? x i = some d ↔
    x.shared.ifaces[i]? = some d ∧ d.selection.group = x.self.ctrl.groupInst := by
  simp [ours?, Option.filter_eq_some_iff]

theorem candidate_eq_some {x : PolicyView} {i : Nat} {p : Int} : candidate x i = some p ↔
    ∃ d, ours? x i = some d ∧ Eligible x.shared.config.allowRemoteInterfaces d ∧
      d.selection.priority = p := by
  simp [candidate, Option.filter_eq_some_iff, and_assoc]

theorem mem_due {x : PolicyView} {i : Nat} : i ∈ due x ↔ (candidate x i).isSome := by
  rw [due, List.mem_filter, List.mem_range]
  refine ⟨fun h => h.2, fun h => ⟨?_, h⟩⟩
  obtain ⟨p, hp⟩ := Option.isSome_iff_exists.mp h
  obtain ⟨d, hd, -⟩ := candidate_eq_some.mp hp
  obtain ⟨hi, -⟩ := ours?_eq_some.mp hd
  exact (List.getElem?_eq_some_iff.mp hi).1

/-- Whether an interface can be tried depends on its configuration and its status. -/
theorem candidate_congr {x x' : PolicyView} {i : Nat}
    (hremote : x'.shared.config.allowRemoteInterfaces = x.shared.config.allowRemoteInterfaces)
    (hplan : (ours? x' i).map plan = (ours? x i).map plan)
    (hstatus : (ours? x' i).map status = (ours? x i).map status) : candidate x' i = candidate x i := by
  unfold candidate
  rw [hremote]
  cases h : ours? x i with
  | none =>
    rw [h] at hplan
    rw [Option.map_eq_none_iff.mp hplan]
  | some d =>
    rw [h] at hplan hstatus
    obtain ⟨d', hd', hp⟩ := Option.map_eq_some_iff.mp hplan
    rw [hd', Option.map_some, Option.map_some, Option.some.injEq] at hstatus
    obtain ⟨henable, hpriority, htype⟩ : d'.selection.enable = d.selection.enable ∧
        d'.selection.priority = d.selection.priority ∧ d'.ifaceType = d.ifaceType := by
      simpa [plan] using hp
    have heligible : Eligible x.shared.config.allowRemoteInterfaces d' ↔
        Eligible x.shared.config.allowRemoteInterfaces d := by
      unfold Eligible
      unfold status at hstatus
      rw [henable, hpriority, htype, hstatus]
    rw [hd', Option.filter_some, Option.filter_some]
    simp only [heligible]
    split
    · exact congrArg some hpriority
    · rfl

/-! ## Changes -/

/-- The thread's group, with what the search looks at, is as before. -/
structure Quiet (x x' : PolicyView) : Prop where
  inst : x'.self.ctrl.groupInst = x.self.ctrl.groupInst
  remote : x'.shared.config.allowRemoteInterfaces = x.shared.config.allowRemoteInterfaces
  plan : ∀ i, (ours? x' i).map plan = (ours? x i).map plan
  status : ∀ i, (ours? x' i).map status = (ours? x i).map status

namespace Quiet

theorem refl (x : PolicyView) : Quiet x x := ⟨rfl, rfl, fun _ => rfl, fun _ => rfl⟩

theorem trans {x y z : PolicyView} (h : Quiet x y) (h' : Quiet y z) : Quiet x z :=
  ⟨h'.inst.trans h.inst, h'.remote.trans h.remote, fun i => (h'.plan i).trans (h.plan i),
    fun i => (h'.status i).trans (h.status i)⟩

theorem of_same {x x' : PolicyView} (hinst : x'.self.ctrl.groupInst = x.self.ctrl.groupInst)
    (hremote : x'.shared.config.allowRemoteInterfaces = x.shared.config.allowRemoteInterfaces)
    (hifaces : x'.shared.ifaces = x.shared.ifaces) : Quiet x x' := by
  have hours : ∀ i, ours? x' i = ours? x i := fun i => by rw [ours?, ours?, hinst, hifaces]
  exact ⟨hinst, hremote, fun i => by rw [hours i], fun i => by rw [hours i]⟩

theorem mapCtrl {f : PolicyController → PolicyController} {x : PolicyView}
    (h : (f x.self.ctrl).groupInst = x.self.ctrl.groupInst) : Quiet x (x.mapCtrl f) :=
  of_same h rfl rfl

theorem modifyGroup (x : PolicyView) (inst : Nat) (f : IfaceGroup → IfaceGroup) :
    Quiet x (x.mapShared fun s => s.modifyGroup inst f) :=
  of_same rfl (by simp [PolicyView.mapShared]) (by simp [PolicyView.mapShared])

end Quiet

theorem ours?_modifyIface {f : WanIface → WanIface}
    (hgroup : ∀ d, (f d).selection.group = d.selection.group) (x : PolicyView) (i j : Nat) :
    ours? (x.mapShared fun s => s.modifyIface i f) j =
      if i = j then (ours? x j).map f else ours? x j := by
  have hself : (x.mapShared fun s => s.modifyIface i f).self = x.self := rfl
  have hifaces : (x.mapShared fun s => s.modifyIface i f).shared.ifaces = x.shared.ifaces.modify i f := rfl
  rw [ours?, ours?, hself, hifaces, List.getElem?_modify]
  by_cases hij : i = j
  · subst hij
    rw [if_pos rfl]
    cases x.shared.ifaces[i]? with
    | none => rfl
    | some d =>
      simp only [if_true, Option.map_eq_map, Option.map_some, Option.filter_some, hgroup]
      split <;> rfl
  · simp [hij]

theorem Quiet.modifyIface {f : WanIface → WanIface}
    (hgroup : ∀ d, (f d).selection.group = d.selection.group)
    (hplan : ∀ d, ScanCycle.plan (f d) = ScanCycle.plan d)
    (hstatus : ∀ d, ScanCycle.status (f d) = ScanCycle.status d) (x : PolicyView) (i : Nat) :
    Quiet x (x.mapShared fun s => s.modifyIface i f) := by
  refine ⟨rfl, rfl, fun j => ?_, fun j => ?_⟩
  · rw [ours?_modifyIface hgroup]
    split
    · rw [Option.map_map]
      exact congrArg (Option.map · (ours? x j)) (funext hplan)
    · rfl
  · rw [ours?_modifyIface hgroup]
    split
    · rw [Option.map_map]
      exact congrArg (Option.map · (ours? x j)) (funext hstatus)
    · rfl

/-! ### What the thread does to the table -/

theorem quiet_setSelection (i : Nat) (st : SelectionStatus) (x : PolicyView) :
    Quiet x (setSelection i st x) :=
  .modifyIface (by intro; rfl) (by intro; rfl) (by intro; rfl) x i

theorem quiet_setActiveLink (i : Nat) (b : Bool) (x : PolicyView) :
    Quiet x (x.mapShared (setActiveLink i b)) :=
  .modifyIface (by intro; rfl) (by intro; rfl) (by intro; rfl) x i

theorem quiet_setGroupSelected (i : Nat) (x : PolicyView) : Quiet x (setGroupSelected i x) :=
  .modifyGroup x _ _

theorem quiet_setInitialScanComplete (x : PolicyView) : Quiet x (setInitialScanComplete x) :=
  .modifyGroup x _ _

theorem quiet_clearVirtIfChanged (i : Nat) (x : PolicyView) :
    Quiet x (x.mapShared (clearVirtIfChanged i)) :=
  .modifyIface (by intro; rfl) (by intro; rfl) (by intro; rfl) x i

theorem quiet_startIfaceStateMachine (i : Nat) (d : WanIface) (x : PolicyView) :
    Quiet x (startIfaceStateMachine i d x).2 := by
  have hstart : Quiet x (startVirtIfs i (virtIfRange d) x).2 := by
    refine .of_same ?_ ?_ ?_
    · rw [startVirtIfs_self]
    · rw [startVirtIfs_shared]
    · rw [startVirtIfs_shared]
  rcases startIfaceStateMachine_eq i d x with h | h <;> rw [h]
  · exact hstart
  · exact hstart.trans (quiet_clearVirtIfChanged i _)

theorem quiet_startChangedVirtIfs (i : Nat) (d : WanIface) (x : PolicyView) :
    Quiet x (startChangedVirtIfs i d x) := by
  unfold startChangedVirtIfs
  split
  · refine Quiet.trans (.of_same ?_ ?_ ?_) (quiet_clearVirtIfChanged i _)
    · rw [startNotRunning_self]
    · rw [startNotRunning_shared]
    · rw [startNotRunning_shared]
  · exact .refl x

/-- The interface is given up. -/
def spend (i : Nat) (x : PolicyView) : PolicyView :=
  x.mapShared fun s => s.modifyIface i fun d => { d with virtIf := { d.virtIf with status := .invalid } }

theorem ours?_spend (i j : Nat) (x : PolicyView) : ours? (spend i x) j = if i = j then
    (ours? x j).map fun d => { d with virtIf := { d.virtIf with status := .invalid } } else ours? x j :=
  ours?_modifyIface (by intro; rfl) x i j

/-! ### The states with a selected interface -/

/-- The state functions that reset the table are those of these two states. -/
def Resets (st : AutoWanState) (x : PolicyView) (st' : AutoWanState) : Prop :=
  (st = .teardown ∧ x.self.ctrl.resetSelectedInterface ∧ st' = .selecting) ∨
    (st = .tearingDown ∧ st' = .smExit)

instance (st : AutoWanState) (x : PolicyView) (st' : AutoWanState) : Decidable (Resets st x st') :=
  inferInstanceAs (Decidable (_ ∨ _))

/-- What the state function of a state can do while interface `i` is tried. -/
inductive Outcome (st : AutoWanState) (x : PolicyView) (i : Nat) : AutoWanState × PolicyView → Prop
  | stays {st' x'} : Quiet x x' → x'.self.ctrl.activeInterfaceIdx = some i → ¬ Resets st x st' →
      Outcome st x i (st', x')
  | gaveUp {st' x'} : Quiet (spend i x) x' → x'.self.ctrl.activeInterfaceIdx = none →
      ¬ Resets st x st' → Outcome st x i (st', x')
  | restarted {st' x'} : Resets st x st' → x'.self.ctrl.activeInterfaceIdx = none →
      x'.self.ctrl.groupInst = x.self.ctrl.groupInst → Outcome st x i (st', x')
  | leaves {st' x'} : leaving st' → Outcome st x i (st', x')

variable {x : PolicyView} {i : Nat} {d : WanIface}

theorem not_resets {st st' : AutoWanState} (hteardown : st ≠ .teardown) (htearing : st ≠ .tearingDown) :
    ¬ Resets st x st' := by
  rintro (h | h)
  · exact hteardown h.1
  · exact htearing h.1

theorem outcome_invalid {st : AutoWanState} (hno : ¬ Resets st x .selecting) :
    Outcome st x i (transitionInterfaceInvalid i x) :=
  .gaveUp ((quiet_setActiveLink i false (spend i x)).trans (.mapCtrl rfl)) rfl hno

theorem outcome_selected (hidx : x.self.ctrl.activeInterfaceIdx = some i) :
    Outcome .selecting x i (stateSelectingInterface d x) := by
  unfold stateSelectingInterface
  split
  · exact .leaves (.inl rfl)
  · exact .stays (.mapCtrl rfl) hidx (not_resets nofun nofun)

theorem outcome_waiting (hidx : x.self.ctrl.activeInterfaceIdx = some i) :
    Outcome .waiting x i (stateWaitForInterface i d x) := by
  have hno (st' : AutoWanState) : ¬ Resets .waiting x st' := not_resets nofun nofun
  unfold stateWaitForInterface
  split
  · exact .leaves (.inl rfl)
  split
  · exact outcome_invalid (hno _)
  split
  · refine .stays ((quiet_setSelection i .selected x).trans (quiet_startIfaceStateMachine i d _)) ?_ (hno _)
    rw [startIfaceStateMachine_self]
    exact hidx
  split
  · exact outcome_invalid (hno _)
  · split
    · exact .stays (quiet_setInitialScanComplete x) hidx (hno _)
    · exact .stays (.refl x) hidx (hno _)

theorem outcome_validated {st : AutoWanState} (hidx : x.self.ctrl.activeInterfaceIdx = some i)
    (hno : ¬ Resets st x .reconfiguration) : Outcome st x i (transitionInterfaceValidated i x) :=
  .stays (((quiet_setActiveLink i true x).trans (quiet_setGroupSelected _ _)).trans (.mapCtrl rfl))
    hidx hno

theorem outcome_scanning (hidx : x.self.ctrl.activeInterfaceIdx = some i) :
    Outcome .scanning x i (stateScanningInterface i d x) := by
  have hno (st' : AutoWanState) : ¬ Resets .scanning x st' := not_resets nofun nofun
  have hdeselect : Outcome .scanning x i (transitionInterfaceDeselect i x) :=
    .stays (quiet_setSelection i .notSelected x) hidx (hno _)
  unfold stateScanningInterface
  split
  · exact hdeselect
  split
  · exact outcome_validated hidx (hno _)
  split
  · exact hdeselect
  split
  · exact .stays (.refl x) hidx (hno _)
  split
  · exact outcome_validated hidx (hno _)
  split
  · exact hdeselect
  · exact .stays (.refl x) hidx (hno _)

/-- `Transition_RestartSelectionInterface` resets the table, or ends the thread. -/
theorem outcome_restart (hreset : x.self.ctrl.resetSelectedInterface) :
    Outcome .teardown x i (transitionRestartSelectionInterface x) := by
  have hlinks : (resetActiveLinkOnAllIface x).2.self = x.self := by
    unfold resetActiveLinkOnAllIface
    split <;> rfl
  unfold transitionRestartSelectionInterface
  cases hl : resetActiveLinkOnAllIface x with
  | mk ok y =>
    rw [hl] at hlinks
    cases ok with
    | false => exact .leaves (.inr rfl)
    | true =>
      have hself : (resetGroupSelectedIface (resetIfaceTable (clearResetSelected y))).2.self =
          (clearResetSelected y).self := by
        unfold resetGroupSelectedIface
        split <;> rfl
      dsimp only
      cases hg : resetGroupSelectedIface (resetIfaceTable (clearResetSelected y)) with
      | mk ok z =>
        rw [hg] at hself
        cases ok with
        | false => exact .leaves (.inr rfl)
        | true =>
          refine .restarted (.inl ⟨rfl, hreset, rfl⟩) ?_ ?_
          · rw [hself]
            rfl
          · rw [hself]
            show y.self.ctrl.groupInst = _
            rw [hlinks]

theorem outcome_teardown (hidx : x.self.ctrl.activeInterfaceIdx = some i) :
    Outcome .teardown x i (stateWaitingForIfaceTearDown i x) := by
  have hstays {st' : AutoWanState} (hst : st' ≠ .selecting) : Outcome .teardown x i (st', x) := by
    refine .stays (.refl x) hidx ?_
    rintro (h | h)
    · exact hst h.2.2
    · exact absurd h.1 nofun
  unfold stateWaitingForIfaceTearDown
  split
  · exact hstays nofun
  split
  · exact hstays nofun
  split
  · next hreset => exact outcome_restart hreset
  · next hreset =>
    refine outcome_invalid ?_
    rintro (h | h)
    · exact hreset h.2.1
    · exact absurd h.1 nofun

theorem outcome_reconfiguration (hidx : x.self.ctrl.activeInterfaceIdx = some i) :
    Outcome .reconfiguration x i (stateInterfaceReconfiguration i x) := by
  have hno (st' : AutoWanState) : ¬ Resets .reconfiguration x st' := not_resets nofun nofun
  unfold stateInterfaceReconfiguration
  split
  · refine .stays ((quiet_setSelection i .notSelected x).trans ?_) hidx (hno _)
    exact .modifyIface (by intro; rfl) (by intro; rfl) (by intro; rfl) _ i
  split
  · exact .stays (.refl x) hidx (hno _)
  · exact .stays (.refl x) hidx (hno _)

theorem outcome_active (hidx : x.self.ctrl.activeInterfaceIdx = some i) :
    Outcome .active x i (stateWanInterfaceActive i d x) := by
  have hno (st' : AutoWanState) : ¬ Resets .active x st' := not_resets nofun nofun
  unfold stateWanInterfaceActive
  split
  · exact .stays (quiet_setSelection i .notSelected x) hidx (hno _)
  split
  · exact .stays (quiet_setGroupSelected _ x) hidx (hno _)
  · refine .stays (quiet_startChangedVirtIfs i d x) ?_ (hno _)
    rw [startChangedVirtIfs_self]
    exact hidx

theorem outcome_down (hidx : x.self.ctrl.activeInterfaceIdx = some i) :
    Outcome .down x i (stateWanInterfaceDown i d x) := by
  have hno (st' : AutoWanState) : ¬ Resets .down x st' := not_resets nofun nofun
  unfold stateWanInterfaceDown
  split
  · exact .stays (quiet_setSelection i .notSelected x) hidx (hno _)
  split
  · unfold transitionWanInterfaceUp
    split
    · exact .stays (quiet_setGroupSelected _ x) hidx (hno _)
    · refine .stays ((quiet_setGroupSelected _ x).trans (quiet_startIfaceStateMachine i d _)) ?_ (hno _)
      rw [startIfaceStateMachine_self]
      exact hidx
  · exact .stays (.refl x) hidx (hno _)

theorem outcome_tearingDown (hidx : x.self.ctrl.activeInterfaceIdx = some i) :
    Outcome .tearingDown x i (stateWaitingForInterfaceSMExit i x) := by
  unfold stateWaitingForInterfaceSMExit
  dsimp only
  split
  · refine .stays (quiet_setSelection i .notSelected x) hidx ?_
    rintro (h | h)
    · exact absurd h.1 nofun
    · exact absurd h.2 nofun
  · exact .leaves (.inl rfl)

theorem outcome_lockedState (st : AutoWanState) (hidx : x.self.ctrl.activeInterfaceIdx = some i) :
    Outcome st x i (lockedState st i d x) := by
  cases st with
  | selecting => exact outcome_selected hidx
  | waiting => exact outcome_waiting hidx
  | scanning => exact outcome_scanning hidx
  | teardown => exact outcome_teardown hidx
  | reconfiguration => exact outcome_reconfiguration hidx
  | rebootPlatform =>
    rw [lockedState, stateRebootingPlatform]
    split
    · exact .stays (.refl x) hidx (not_resets nofun nofun)
    · exact .leaves (.inl rfl)
  | active => exact outcome_active hidx
  | down => exact outcome_down hidx
  | tearingDown => exact outcome_tearingDown hidx
  | smExit => exact .leaves (.inl rfl)
  | error => exact .leaves (.inr rfl)

end ScanCycle

end WanManager
