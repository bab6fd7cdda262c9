import WanManager.PolicyFrame
import WanManager.PolicyRest
import Mathlib.Logic.Function.Iterate

/-! # A selection thread whose group was reconfigured ends

While `ConfigChanged` of its group is set, every tick takes a selection thread closer to
its end, as soon as the interface state machines have stopped; and the thread takes the
mark with it. The one state it does not leave waits for the reboot it has asked for. -/

namespace WanManager
open Concurrency

namespace Policy

/-- `ConfigChanged` is set in the thread's group. -/
def Marked (x : PolicyView) : Prop :=
  (x.shared.group? x.self.ctrl.groupInst).any (·.configChanged) = true

instance (x : PolicyView) : Decidable (Marked x) := inferInstanceAs (Decidable (_ = _))

def stopMachine (v : VirtualIface) : VirtualIface :=
  { v with interfaceSmRunning := false, status := .disabled }

/-- No interface state machine runs any more. -/
def stopMachines (s : Shared) : Shared :=
  { s with ifaces := s.ifaces.map fun d =>
      { d with virtIf := stopMachine d.virtIf, moreVirtIfs := d.moreVirtIfs.map stopMachine } }

/-- A tick of the thread after the state machines have stopped. -/
def lateTick (x : PolicyView) : PolicyView := (Policy.tick.run (x.mapShared stopMachines)).2

/-- What holds of a thread that sleeps. -/
structure Resting (x : PolicyView) : Prop where
  tearing : x.self.phase = .autoWan .tearingDown → x.activeIface? ≠ none
  scanning : x.self.phase = .parallelScan .scanningInterface → x.self.ctrl.activeInterfaceIdx = none

/-- The thread has ended and its group is not marked, or it waits for the reboot. -/
def WoundUp (x : PolicyView) : Prop :=
  x.self.phase = .exited ∧ ¬ Marked x ∨ x.self.phase = .parallelScan .reboot

/-- How many ticks a thread needs at most. -/
def distance : PolicyPhase → Nat
  | .absent | .exited => 0
  | .created _ => 7
  | .autoWan st =>
    match st with
    | .reconfiguration => 6
    | .scanning | .active | .down => 5
    | .teardown => 4
    | .tearingDown => 3
    | .selecting | .waiting | .rebootPlatform => 2
    | .smExit | .error => 1
  | .parallelScan st =>
    match st with
    | .reconfigurePlatform => 5
    | .checkReconfiguration | .selectedInterfaceUp | .selectedInterfaceDown => 4
    | .interfaceTearDown => 3
    | .scanningInterface => 2
    | .policyExit | .policyError => 1
    | .reboot => 0

/-! ## What is kept -/

theorem any_of_marks {s s' : Shared} (h : s'.marks = s.marks) (inst : Nat) :
    (s'.group? inst).any (·.configChanged) = (s.group? inst).any (·.configChanged) := by
  cases inst with
  | zero => rfl
  | succ n =>
    have hn := congrArg (fun l : List (Bool × Nat) => l[n]?.any (·.1)) h
    simpa [Shared.marks, Shared.group?, Option.any_map, Function.comp_def] using hn

theorem Keeps.marked {x x' : PolicyView} (h : Keeps x x') : Marked x' ↔ Marked x := by
  rw [Marked, Marked, h.inst, any_of_marks h.shared.marks]

theorem Marked.inst {x : PolicyView} (h : Marked x) : x.self.ctrl.groupInst ≠ 0 := by
  intro hz
  rw [Marked, hz] at h
  cases h

@[simp] theorem ismRunningStatus_stopMachines (s : Shared) (i : Nat) :
    ismRunningStatus (stopMachines s) i = false := by
  unfold ismRunningStatus stopMachines
  cases hd : s.ifaces[i]? with
  | none => simp [hd]
  | some d => simp [hd, WanIface.virtIfs, stopMachine]

theorem activeIface_stopMachines {x : PolicyView} (h : x.activeIface? ≠ none) :
    (x.mapShared stopMachines).activeIface? ≠ none := by
  unfold PolicyView.activeIface? at h ⊢
  cases hidx : x.self.ctrl.activeInterfaceIdx with
  | none => simp [hidx] at h
  | some i =>
    cases hd : x.shared.ifaces[i]? with
    | none => simp [hidx, hd] at h
    | some d => simp [PolicyView.mapShared, stopMachines, hidx, hd]

/-! ## The sections of a tick -/

/-- `WanMgr_UpdateControllerData`, left alone. -/
def refresh (x : PolicyView) : PolicyView := copyGroup (copyTotalIfaces (copyConfig x))

theorem updateControllerData_run (x : PolicyView) : updateControllerData.run x = ((), refresh x) := rfl

/-- The thread of a marked group is told to stop. -/
structure ToldToStop (x y : PolicyView) : Prop where
  shared : y.shared = x.shared
  phase : y.self.phase = x.self.phase
  idx : y.self.ctrl.activeInterfaceIdx = x.self.ctrl.activeInterfaceIdx
  inst : y.self.ctrl.groupInst = x.self.ctrl.groupInst
  changed : y.self.ctrl.groupCfgChanged = true

theorem refresh_told {x : PolicyView} (h : Marked x) : ToldToStop x (refresh x) := by
  unfold Marked at h
  cases hg : x.shared.group? x.self.ctrl.groupInst with
  | none => simp [hg] at h
  | some g =>
    have hrefresh : refresh x = (copyTotalIfaces (copyConfig x)).mapCtrl fun c =>
        { c with groupCfgChanged := g.configChanged
                 groupPersistSelectedIface := g.persistSelectedIface
                 resetSelectedInterface := g.resetSelectedInterface } := by
      have hg' : (copyTotalIfaces (copyConfig x)).shared.group?
          (copyTotalIfaces (copyConfig x)).self.ctrl.groupInst = some g := hg
      rw [refresh, copyGroup, hg']
    have hchanged : g.configChanged = true := by simpa [hg] using h
    rw [hrefresh]
    exact ⟨rfl, rfl, rfl, rfl, hchanged⟩

theorem ToldToStop.stops {x y : PolicyView} (h : ToldToStop x y) : stops y.self.ctrl = true := by
  simp [Policy.stops, h.changed]

theorem ToldToStop.keeps {x y : PolicyView} (h : ToldToStop x y) : Keeps x y :=
  ⟨by rw [h.shared]; exact .refl _, h.inst⟩

theorem ToldToStop.active {x y : PolicyView} (h : ToldToStop x y) : y.activeIface? = x.activeIface? := by
  rw [PolicyView.activeIface?, PolicyView.activeIface?, h.idx, h.shared]

/-- The end of a thread clears the mark of its group. -/
theorem policyExit_woundUp (x : PolicyView) : WoundUp (policyExit.run x).2 := by
  have hleave : ∀ y : PolicyView, WoundUp (leaveGroup y) := by
    intro y
    refine .inl ⟨rfl, ?_⟩
    have hgroup : (leaveGroup y).shared.group? y.self.ctrl.groupInst = _ :=
      Shared.group?_modifyGroup_self _ _ _
    show ¬ ((leaveGroup y).shared.group? y.self.ctrl.groupInst).any _ = true
    rw [hgroup]
    cases y.shared.group? y.self.ctrl.groupInst <;> simp
  exact hleave _

/-- A tick takes the thread closer to its end. -/
structure Closer (x y : PolicyView) : Prop where
  live : y.self.Live
  marked : Marked y
  resting : Resting y
  near : distance y.self.phase < distance x.self.phase

end Policy

/-! ## AutoWAN -/

namespace AutoWan
open Policy

theorem loop_leaving {st : AutoWanState} (h : leaving st) (x : PolicyView) :
    WoundUp ((loop st).run x).2 := by
  rw [loop, Prog.run_bind, Prog.run_bind, if_pos (show st = .smExit ∨ st = .error from h)]
  exact policyExit_woundUp _

theorem loop_locked {st : AutoWanState} {x : PolicyView} {i : Nat} {d : WanIface} (h : ¬ leaving st)
    (ha : (refresh x).activeIface? = some (i, d)) :
    ((loop st).run x).2 = enterState (lockedState st i d (adoptGroup d (refresh x))) := by
  rw [loop, Prog.run_bind, updateControllerData_run, Prog.run_bind, Prog.run_lockedIf_some ha,
    if_neg (show ¬ (st = .smExit ∨ st = .error) from h)]
  rfl

theorem loop_unlocked {st : AutoWanState} {x : PolicyView} (h : ¬ leaving st)
    (ha : (refresh x).activeIface? = none) :
    ((loop st).run x).2 = ((unlockedState st).run (refresh x)).2 := by
  rw [loop, Prog.run_bind, updateControllerData_run, Prog.run_bind, Prog.run_lockedIf_none ha,
    if_neg (show ¬ (st = .smExit ∨ st = .error) from h)]
  rfl

theorem distance_leaving {st : AutoWanState} (h : leaving st) : distance (.autoWan st) = 1 := by
  rcases h with rfl | rfl <;> rfl

theorem one_lt_distance {st : AutoWanState} (h : ¬ leaving st) : 1 < distance (.autoWan st) := by
  cases st with
  | smExit => exact absurd (.inl rfl) h
  | error => exact absurd (.inr rfl) h
  | selecting | waiting | scanning | teardown | reconfiguration | rebootPlatform | active | down
  | tearingDown => decide

/-- Told to stop, a thread without the data of its interface goes to one of its last states. -/
theorem unlocked_phase {st : AutoWanState} {x : PolicyView} (hst : ¬ leaving st)
    (htear : st ≠ .tearingDown) (hstops : stops x.self.ctrl = true) :
    ∃ st', leaving st' ∧ ((unlockedState st).run x).2 = x.setPhase (.autoWan st') := by
  cases st with
  | selecting =>
    refine ⟨.smExit, .inl rfl, ?_⟩
    simp [unlockedState, selectingNothing, ctrl, hstops, setState]
  | rebootPlatform => exact ⟨.smExit, .inl rfl, rfl⟩
  | waiting | scanning | teardown | reconfiguration | active | down => exact ⟨.error, .inr rfl, rfl⟩
  | tearingDown => exact absurd rfl htear
  | smExit | error => exact absurd (by decide) hst

/-- Told to stop, a thread goes on to a state that is closer to its end. -/
theorem locked_closer {st : AutoWanState} {i : Nat} {d : WanIface} {x : PolicyView}
    (hst : ¬ leaving st) (hstops : stops x.self.ctrl = true)
    (hrun : ismRunningStatus x.shared i = false) :
    distance (.autoWan (lockedState st i d x).1) < distance (.autoWan st) := by
  have hstill : ∀ st, ismRunningStatus (x.shared.setSelectionStatus i st) i = false := by
    intro st
    unfold ismRunningStatus at hrun ⊢
    cases hd : x.shared.ifaces[i]? with
    | none => simp [Shared.setSelectionStatus, Shared.modifyIface, hd]
    | some e => simpa [Shared.setSelectionStatus, Shared.modifyIface, hd, WanIface.virtIfs] using hrun
  cases st with
  | selecting => simp [lockedState, stateSelectingInterface, hstops, distance]
  | waiting => simp [lockedState, stateWaitForInterface, hstops, distance]
  | scanning => simp [lockedState, stateScanningInterface, hstops, transitionInterfaceDeselect, distance]
  | teardown => simp [lockedState, stateWaitingForIfaceTearDown, hstops, hrun, distance]
  | reconfiguration =>
    simp only [lockedState, stateInterfaceReconfiguration]
    split
    · simp [transitionReconfigurePlatform, distance]
    · simp [hrun, distance]
  | rebootPlatform => simp [lockedState, stateRebootingPlatform, hrun, distance]
  | active =>
    simp [lockedState, stateWanInterfaceActive, hstops, transitionResetSelectedInterface, distance]
  | down =>
    simp [lockedState, stateWanInterfaceDown, hstops, transitionResetSelectedInterface, distance]
  | tearingDown =>
    simp [lockedState, stateWaitingForInterfaceSMExit, setSelection, PolicyView.mapShared, hstill,
      distance]
  | smExit | error => exact absurd (by decide) hst

/-- A tick of an AutoWAN thread whose group is marked. -/
theorem loop_closer {st : AutoWanState} {x : PolicyView} (hst : x.self.phase = .autoWan st)
    (hmarked : Marked x) (hrest : Resting x) (hrun : ∀ i, ismRunningStatus x.shared i = false) :
    WoundUp ((loop st).run x).2 ∨ Closer x ((loop st).run x).2 := by
  by_cases hleave : leaving st
  · exact .inl (loop_leaving hleave x)
  have htold := refresh_told hmarked
  have hmarked' : Marked (refresh x) := htold.keeps.marked.mpr hmarked
  refine .inr ?_
  cases ha : (refresh x).activeIface? with
  | none =>
    have htear : st ≠ .tearingDown := by
      rintro rfl
      exact hrest.tearing hst (htold.active.symm.trans ha)
    obtain ⟨st', hleaves, hst'⟩ := unlocked_phase hleave htear htold.stops
    rw [loop_unlocked hleave ha, hst']
    refine ⟨⟨nofun, nofun⟩, hmarked', ⟨fun h => ?_, nofun⟩, ?_⟩
    · rcases hleaves with rfl | rfl <;> cases h
    · rw [hst]
      exact Nat.lt_of_le_of_lt (Nat.le_of_eq (distance_leaving hleaves)) (one_lt_distance hleave)
  | some a =>
    obtain ⟨i, d⟩ := a
    obtain ⟨hidx, hd⟩ := activeIface_some ha
    have hadopt : adoptGroup d (refresh x) = refresh x := by
      simp [adoptGroup, PolicyView.mapCtrl, hmarked'.inst]
    have hkeeps := keeps_lockedState st i d (refresh x)
    have hnear := locked_closer (i := i) (d := d) hleave htold.stops (by
      rw [htold.shared]
      exact hrun i)
    rw [loop_locked hleave ha, hadopt]
    refine ⟨⟨nofun, nofun⟩, hkeeps.marked.mpr hmarked', ⟨fun h => ?_, nofun⟩, ?_⟩
    · have hsame := lockedState_tearing (PolicyPhase.autoWan.inj h)
      have hlen : (lockedState st i d (refresh x)).2.shared.ifaces.length =
          (refresh x).shared.ifaces.length := Shared.length_of_members hkeeps.shared.members
      have hlt : i < (lockedState st i d (refresh x)).2.shared.ifaces.length := by
        rw [hlen]
        exact (List.getElem?_eq_some_iff.mp hd).1
      show (lockedState st i d (refresh x)).2.activeIface? ≠ none
      rw [PolicyView.activeIface?, hsame, hidx]
      simp [hlt]
    · rw [hst]
      exact hnear

end AutoWan

/-! ## Parallel scan -/

namespace ParallelScan
open Policy

theorem loop_leaving {st : ParallelScanState} (h : leaving st) (x : PolicyView) :
    WoundUp ((loop st).run x).2 := by
  rw [loop, Prog.run_bind, Prog.run_bind, if_pos (show st = .policyExit ∨ st = .policyError from h)]
  exact policyExit_woundUp _

theorem loop_locked {st : ParallelScanState} {x : PolicyView} {i : Nat} {d : WanIface}
    (h : ¬ leaving st) (ha : (refresh x).activeIface? = some (i, d)) :
    ((loop st).run x).2 = enterState (lockedState st i d (refresh x)) := by
  rw [loop, Prog.run_bind, updateControllerData_run, Prog.run_bind, Prog.run_lockedIf_some ha,
    if_neg (show ¬ (st = .policyExit ∨ st = .policyError) from h)]
  rfl

theorem loop_unlocked {st : ParallelScanState} {x : PolicyView} (h : ¬ leaving st)
    (ha : (refresh x).activeIface? = none) :
    ((loop st).run x).2 = ((unlockedState st).run (refresh x)).2 := by
  rw [loop, Prog.run_bind, updateControllerData_run, Prog.run_bind, Prog.run_lockedIf_none ha,
    if_neg (show ¬ (st = .policyExit ∨ st = .policyError) from h)]
  rfl

/-- Told to stop, a thread without the data of its interface is refused its shutdown. -/
theorem unlocked_phase {st : ParallelScanState} {x : PolicyView} (hst : ¬ leaving st)
    (hreboot : st ≠ .reboot) (hstops : stops x.self.ctrl = true) :
    ((unlockedState st).run x).2 = x.setPhase (.parallelScan .policyError) := by
  cases st with
  | scanningInterface => simp [unlockedState, stateScanningInterface, ctrl, hstops, setState]
  | checkReconfiguration => simp [unlockedState, checkReconfigurationUnlocked, ctrl, hstops, setState]
  | reconfigurePlatform | selectedInterfaceUp | selectedInterfaceDown | interfaceTearDown => rfl
  | reboot => exact absurd rfl hreboot
  | policyExit => exact absurd (.inl rfl) hst
  | policyError => exact absurd (.inr rfl) hst

/-- Told to stop, a thread goes on to a state that is closer to its end. -/
theorem locked_closer {st : ParallelScanState} {i : Nat} {d : WanIface} {x : PolicyView}
    (hst : ¬ leaving st) (hscan : st ≠ .scanningInterface) (hreboot : st ≠ .reboot)
    (hstops : stops x.self.ctrl = true) (hdown : x.ifaceRange.any (notDisabled x) = false) :
    distance (.parallelScan (lockedState st i d x).1) < distance (.parallelScan st) ∧
      (lockedState st i d x).1 ≠ .scanningInterface := by
  cases st with
  | scanningInterface => exact absurd rfl hscan
  | checkReconfiguration =>
    simp [lockedState, stateCheckReconfiguration, hstops, transitionTearingDown, distance]
  | reconfigurePlatform =>
    simp only [lockedState, stateReconfigurePlatform]
    split <;> simp [distance]
  | selectedInterfaceUp =>
    simp [lockedState, stateSelectedInterfaceUp, hstops, transitionTearingDown, distance]
  | selectedInterfaceDown =>
    simp [lockedState, stateSelectedInterfaceDown, hstops, transitionTearingDown, distance]
  | interfaceTearDown =>
    simp [lockedState, stateInterfaceTearDown, hdown, distance]
  | reboot => exact absurd rfl hreboot
  | policyExit => exact absurd (.inl rfl) hst
  | policyError => exact absurd (.inr rfl) hst

theorem two_le_distance {st : ParallelScanState} (h : ¬ leaving st) (hreboot : st ≠ .reboot) :
    1 < distance (.parallelScan st) := by
  cases st with
  | policyExit => exact absurd (.inl rfl) h
  | policyError => exact absurd (.inr rfl) h
  | reboot => exact absurd rfl hreboot
  | scanningInterface | checkReconfiguration | reconfigurePlatform | selectedInterfaceUp
  | selectedInterfaceDown | interfaceTearDown => decide

theorem notDisabled_stopped {x : PolicyView} (h : ∀ d ∈ x.shared.ifaces, d.virtIf.status = .disabled)
    (j : Nat) : notDisabled x j = false := by
  unfold notDisabled
  cases hd : x.shared.ifaces[j]? with
  | none => rfl
  | some d => simp [h d (List.mem_of_getElem? hd)]

/-- A tick of a parallel scan whose group is marked. -/
theorem loop_closer {st : ParallelScanState} {x : PolicyView} (hst : x.self.phase = .parallelScan st)
    (hmarked : Marked x) (hrest : Resting x)
    (hdown : ∀ d ∈ x.shared.ifaces, d.virtIf.status = .disabled) :
    WoundUp ((loop st).run x).2 ∨ Closer x ((loop st).run x).2 := by
  by_cases hleave : leaving st
  · exact .inl (loop_leaving hleave x)
  have htold := refresh_told hmarked
  have hmarked' : Marked (refresh x) := htold.keeps.marked.mpr hmarked
  by_cases hreboot : st = .reboot
  · refine .inl (.inr ?_)
    subst hreboot
    cases ha : (refresh x).activeIface? with
    | none =>
      rw [loop_unlocked hleave ha]
      exact htold.phase.trans hst
    | some a => rw [loop_locked hleave ha]; rfl
  refine .inr ?_
  cases ha : (refresh x).activeIface? with
  | none =>
    rw [loop_unlocked hleave ha, unlocked_phase hleave hreboot htold.stops]
    refine ⟨⟨nofun, nofun⟩, hmarked', ⟨nofun, nofun⟩, ?_⟩
    rw [hst]
    exact two_le_distance hleave hreboot
  | some a =>
    obtain ⟨i, d⟩ := a
    obtain ⟨hidx, -⟩ := activeIface_some ha
    have hscan : st ≠ .scanningInterface := by
      rintro rfl
      have hnone := hrest.scanning hst
      rw [htold.idx, hnone] at hidx
      cases hidx
    have hall : (refresh x).ifaceRange.any (notDisabled (refresh x)) = false := by
      refine List.any_eq_false.mpr fun j _ => ?_
      rw [notDisabled_stopped (by rw [htold.shared]; exact hdown) j]
      nofun
    obtain ⟨hnear, hnot⟩ := locked_closer (i := i) (d := d) hleave hscan hreboot htold.stops hall
    rw [loop_locked hleave ha]
    refine ⟨⟨nofun, nofun⟩, (keeps_lockedState st i d (refresh x)).marked.mpr hmarked',
      ⟨nofun, fun h => absurd (PolicyPhase.parallelScan.inj h) hnot⟩, ?_⟩
    rw [hst]
    exact hnear

end ParallelScan

/-! ## All the ticks -/

namespace Policy

/-- A thread that is alive was so before, and kept its group and the marks. -/
def Goes (x x' : PolicyView) : Prop :=
  x'.self.Live → x.self.Live ∧ Shared.Keeps x.shared x'.shared ∧
    (x.self.ctrl.groupInst ≠ 0 → x'.self.ctrl.groupInst = x.self.ctrl.groupInst)

theorem Goes.trans {a b c : PolicyView} (h : Goes a b) (h' : Goes b c) : Goes a c := by
  intro hc
  obtain ⟨hb, hkeeps', hinst'⟩ := h' hc
  obtain ⟨ha, hkeeps, hinst⟩ := h hb
  refine ⟨ha, hkeeps.trans hkeeps', fun hne => ?_⟩
  have hsame := hinst hne
  exact (hinst' (by rwa [hsame])).trans hsame

theorem Effect.goes {chosen missing : PolicyView → Nat → Prop} {l : Site} {x x' : PolicyView}
    (h : Effect chosen missing l x x') : Goes x x' := by
  intro hlive
  rcases h.keeps with ⟨hkeeps, hself | ⟨hx, -⟩⟩ | ⟨-, hleave⟩
  · rw [hself] at hlive
    exact ⟨hlive, hkeeps, h.inst⟩
  · exact ⟨hx, hkeeps, h.inst⟩
  · rw [hleave] at hlive
    exact absurd rfl hlive.2

theorem goes_run {p : PolicyProg Unit} {x : PolicyView} {A B : PolicyThread → Prop}
    (h : Triple (effects (fun _ => True) (fun _ _ => True) fun _ _ => True)
      (Own (fun _ _ => True) (fun _ _ => True) A) p
      fun _ => Own (fun _ _ => True) (fun _ _ => True) B) (hx : A x.self) :
    B (p.run x).2.self ∧ Goes x (p.run x).2 := by
  obtain ⟨hpost, hgoes⟩ := Triple.run (R := Goes) h (own_iff.mpr hx) (fun _ => trivial)
    (fun _ _ => trivial) (fun _ hlive => ⟨hlive, .refl _, fun _ => rfl⟩) (fun h h' => h.trans h')
    fun _ _ _ hstep => hstep.goes
  exact ⟨hpost.own, hgoes⟩

/-- The first tick of a thread. -/
theorem start_closer {x y : PolicyView} {p : PolicyPhase} (hmarked : Marked x) (hgoes : Goes x y)
    (hphase : y.self.phase = p) (hlive : p.Live) (hrest : Resting y)
    (hnear : distance p < distance x.self.phase) : Closer x y := by
  have hlive' : y.self.Live := by rwa [PolicyThread.Live, hphase]
  obtain ⟨-, hkeeps, hinst⟩ := hgoes hlive'
  have hkeep : Keeps x y := ⟨hkeeps, hinst hmarked.inst⟩
  exact ⟨hlive', hkeep.marked.mpr hmarked, hrest, by rwa [hphase]⟩

theorem tick_closer {x : PolicyView} (hlive : x.self.Live) (hmarked : Marked x) (hrest : Resting x)
    (hrun : ∀ i, ismRunningStatus x.shared i = false)
    (hdown : ∀ d ∈ x.shared.ifaces, d.virtIf.status = .disabled) :
    WoundUp (Policy.tick.run x).2 ∨ Closer x (Policy.tick.run x).2 := by
  have hfinds : Finds (fun _ _ => True) fun _ _ => True :=
    ⟨fun _ _ _ _ _ => trivial, fun _ _ _ => trivial⟩
  cases hphase : x.self.phase with
  | absent => exact absurd hphase hlive.1
  | exited => exact absurd hphase hlive.2
  | autoWan st =>
    rw [tick_autoWan hphase]
    exact AutoWan.loop_closer hphase hmarked hrest hrun
  | parallelScan st =>
    rw [tick_parallelScan hphase]
    exact ParallelScan.loop_closer hphase hmarked hrest hdown
  | created policy =>
    rw [tick_created hphase]
    refine .inr ?_
    by_cases hp : policy = .parallelScan
    · rw [if_pos hp]
      subst hp
      obtain ⟨hscan, hgoes⟩ := goes_run ParallelScan.start_effect hphase
      obtain ⟨hat, -⟩ := Triple.run (s := x) (R := fun _ _ => True) ParallelScan.start_record
        ⟨hphase, trivial⟩ (fun _ => trivial) (fun _ _ => trivial) (fun _ => trivial) (fun _ _ => trivial)
        fun _ _ _ _ => trivial
      have hlive := PolicyPhase.live_parallelScan
      refine start_closer hmarked hgoes hscan (hlive _) ⟨fun h => ?_, fun _ => hat.2⟩ ?_
      · exact absurd (hscan.symm.trans h) (by simp)
      · rw [hphase]
        show 2 < 7
        omega
    · rw [if_neg hp]
      obtain ⟨hselects, hgoes⟩ := goes_run (AutoWan.start_effect hfinds hp) hphase
      refine start_closer hmarked hgoes hselects (PolicyPhase.live_autoWan _) ⟨fun h => ?_, fun h => ?_⟩ ?_
      · exact absurd (hselects.symm.trans h) (by simp)
      · exact absurd (hselects.symm.trans h) (by simp)
      · rw [hphase]
        show 2 < 7
        omega

theorem lateTick_closer {x : PolicyView} (hlive : x.self.Live) (hmarked : Marked x)
    (hrest : Resting x) : WoundUp (lateTick x) ∨ Closer x (lateTick x) := by
  have hdown : ∀ d ∈ (stopMachines x.shared).ifaces, d.virtIf.status = .disabled := by
    intro d hd
    obtain ⟨e, -, rfl⟩ := List.mem_map.mp hd
    rfl
  have hrest' : Resting (x.mapShared stopMachines) :=
    ⟨fun h => activeIface_stopMachines (hrest.tearing h), hrest.scanning⟩
  have htick := tick_closer (x := x.mapShared stopMachines) hlive hmarked hrest'
    (ismRunningStatus_stopMachines x.shared) hdown
  exact htick.imp_right fun h => ⟨h.live, h.marked, h.resting, h.near⟩

/-- A selection thread whose group is marked ends and clears the mark, once the interface
state machines have stopped, or waits for the reboot it has asked for. -/
theorem winds_up {x : PolicyView} (hlive : x.self.Live) (hmarked : Marked x) (hrest : Resting x) :
    ∃ n, WoundUp (lateTick^[n] x) := by
  induction hn : distance x.self.phase using Nat.strongRecOn generalizing x with
  | ind n ih =>
    rcases lateTick_closer hlive hmarked hrest with hwound | hcloser
    · exact ⟨1, hwound⟩
    · obtain ⟨m, hm⟩ := ih _ (hn ▸ hcloser.near) hcloser.live hcloser.marked hcloser.resting rfl
      exact ⟨m + 1, by rwa [Function.iterate_succ_apply]⟩

end Policy
end WanManager
