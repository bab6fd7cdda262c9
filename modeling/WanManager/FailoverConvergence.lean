import WanManager.FailoverMarking
import WanManager.FailoverActivation
import WanManager.FailoverEffects
import WanManager.Concurrency.LeadsTo

/-! # The failover machine comes to rest on the best group

Hot swap, in surroundings that have become steady: WAN stays enabled, nobody requests a rescan or
changes a group's configuration, which groups can be used no longer changes, and the interface of a
group that was given up goes down some time. Between two ticks everything else may change. The
machine then ends in `STATE_FAILOVER_GROUP_ACTIVE` with the first usable group current and its
interface `ACTIVE`, from every state but those in which it takes the best group for active while
that group's interface is only `SELECTED`. -/

namespace WanManager
open Concurrency

namespace Failover

/-! ## Steady surroundings -/

/-- The interface selected in the group is `ACTIVE`. -/
def activeIn (s : Shared) (g : Nat) : Prop :=
  ∃ i, s.selected? g = some i ∧ s.selectionStatus i = .active

/-- A data base in which only the first `best` of `n` groups matters to the failover machine. -/
structure Steady (best limit delay n : Nat) (s : Shared) : Prop where
  enabled : s.config.enable = true
  noRequest : s.config.resetFailOverScan = false
  restorationDelay : s.config.restorationDelay ≤ delay
  length : s.groups.length = n
  served : ∀ g ∈ s.groups, g.interfaceAvailable ≠ 0 → g.state = .running ∨ g.state = .deactivated
  configured : ∀ g ∈ s.groups, g.configChanged = false
  known : ∀ g i, s.selected? g = some i → i < s.ifaces.length
  scanned : ∀ i g, i + 1 < best → s.groups[i]? = some g →
    g.initialScanComplete = true ∧ g.selectionTimeOut ≤ limit
  usable : groupUsable s best = true
  unusable : ∀ g, g < best → groupUsable s g = false
  noReset : ∀ g d, s.selectedIface? g = some d → d.virtIf.reset = false
  ready : ∀ i, s.selected? best = some i →
    s.selectionStatus i = .selected ∨ s.selectionStatus i = .active

/-- What others do between two ticks. -/
structure Between (v v' : FailOverView) : Prop where
  self : v'.self = v.self
  selected : ∀ g, v'.shared.selected? g = v.shared.selected? g
  status : ∀ g i, v.shared.selected? g = some i →
    v'.shared.selectionStatus i = v.shared.selectionStatus i

/-- The views the ticks of the failover thread start from, in steady surroundings. -/
structure SteadyRun (best limit delay n : Nat) (r : Nat → FailOverView) : Prop where
  tick : ∀ k, Between (failOverTick.run (r k)).2 (r (k + 1))
  steady : ∀ k, Steady best limit delay n (r k).shared
  clock : ∀ t k, ∃ j, k ≤ j ∧ t < (r j).shared.now
  goesDown : ∀ k i, (∀ j, k ≤ j → (r j).shared.selectionStatus i ≠ .active) →
    ∃ j, k ≤ j ∧ ∀ d, (r j).shared.ifaces[i]? = some d → d.virtIf.status ≠ .up

/-! ## Where the thread is -/

/-- The thread is in its loop, and its groups are groups of the table. -/
structure InLoop (n : Nat) (v : FailOverView) : Prop where
  hotswap : v.self.ctrl.failOverType = .hotswap
  phase : ∃ st, v.self.phase = .loop st ∧ st ≠ .exit ∧ st ≠ .error
  current : v.self.ctrl.currentActiveGroup ≤ n
  highest : v.self.ctrl.highestValidGroup ≤ n
  givenUp : v.self.phase = .loop .deactivateGroup →
    ¬ activeIn v.shared v.self.ctrl.currentActiveGroup

/-- The best group is current and active. -/
structure OnBest (best : Nat) (v : FailOverView) : Prop where
  phase : v.self.phase = .loop .groupActive
  current : v.self.ctrl.currentActiveGroup = best
  active : activeIn v.shared best

/-- The best group is current, but its interface is not `ACTIVE`. -/
structure HalfActive (best : Nat) (v : FailOverView) : Prop where
  phase : v.self.phase = .loop .groupActive
  current : v.self.ctrl.currentActiveGroup = best
  inactive : ¬ activeIn v.shared best

section Tick

variable {best limit delay n : Nat} {v w : FailOverView}

/-! ## One tick -/

theorem run_forEach_of_fixed {ℓ σ β : Type} {is : List β} {body : β → Prog ℓ σ Unit} {s : σ}
    (h : ∀ i ∈ is, (body i).run s = ((), s)) : (Prog.forEach is body).run s = ((), s) := by
  induction is with
  | nil => rfl
  | cons i is ih =>
    rw [Prog.forEach, Prog.run_bind, h i List.mem_cons_self]
    exact ih fun j hj => h j (List.mem_cons_of_mem i hj)

theorem Steady.run_ifaceGroupMonitor (hsteady : Steady best limit delay n w.shared) :
    (ifaceGroupMonitor.run w).2 = w := by
  unfold ifaceGroupMonitor totalNoOfGroups
  rw [Prog.run_bind, Prog.run_read, run_forEach_of_fixed]
  intro i _
  rw [Prog.run_modify, monitorGroup]
  split
  · rfl
  · next g hg =>
    have hserved := hsteady.served g (List.mem_of_getElem? hg)
    rw [if_neg]
    intro ⟨havail, hrun, hdeact⟩
    rcases hserved havail with h | h
    · exact hrun h
    · exact hdeact h

theorem Steady.afterConfig (hsteady : Steady best limit delay n v.shared) :
    Steady best limit delay n (takeConfig v).shared :=
  { hsteady with noRequest := rfl }

/-! ## Marking -/

theorem Steady.qualifies_eq (hsteady : Steady best limit delay n w.shared) (i : Nat) :
    qualifies w i = groupUsable w.shared (i + 1) := by
  unfold qualifies groupUsable
  cases hd : w.shared.selectedIface? (i + 1) with
  | none => rfl
  | some d => simp [hsteady.noReset _ _ hd]

theorem Steady.best_pos (hsteady : Steady best limit delay n w.shared) : ∃ b, best = b + 1 ∧ b < n := by
  have husable := hsteady.usable
  unfold groupUsable Shared.selectedIface? Shared.selected? at husable
  cases best with
  | zero => simp [Shared.group?] at husable
  | succ b =>
    refine ⟨b, rfl, ?_⟩
    rw [← hsteady.length]
    by_contra hge
    simp [Shared.group?, List.getElem?_eq_none (Nat.not_lt.mp hge)] at husable

theorem Steady.firstOf_eq (hsteady : Steady best limit delay n w.shared) (m : Nat) :
    firstOf w m = if best ≤ m then best else 0 := by
  obtain ⟨b, rfl, -⟩ := hsteady.best_pos
  split
  · next hle =>
    rw [firstOf_eq_succ]
    refine ⟨?_, hle, fun j hj => ?_⟩
    · rw [hsteady.qualifies_eq, hsteady.usable]
    · rw [hsteady.qualifies_eq, hsteady.unusable _ (Nat.succ_lt_succ hj)]
      exact Bool.false_ne_true
  · next hgt =>
    rw [firstOf_eq_zero]
    intro i hi
    rw [hsteady.qualifies_eq, hsteady.unusable _ (by omega)]
    exact Bool.false_ne_true

/-- `MarkHighPriorityGroup` with this result. -/
def marksHighest (h : Nat) (v : FailOverView) : FailOverView :=
  v.mapCtrl fun c => { c with highestValidGroup := h }

@[simp] theorem highestValidGroup_marksHighest (h : Nat) (v : FailOverView) :
    (marksHighest h v).self.ctrl.highestValidGroup = h := rfl

@[simp] theorem currentActiveGroup_marksHighest (h : Nat) (v : FailOverView) :
    (marksHighest h v).self.ctrl.currentActiveGroup = v.self.ctrl.currentActiveGroup := rfl

@[simp] theorem shared_marksHighest (h : Nat) (v : FailOverView) :
    (marksHighest h v).shared = v.shared := rfl

theorem Steady.marked_eq (hsteady : Steady best limit delay n w.shared)
    (hswap : w.self.ctrl.failOverType = .hotswap) (wait : Bool) :
    marked wait w = marksHighest (if best ≤ examined wait w then best else 0) w := by
  have hconfig : cutByConfig wait w = false := by
    unfold cutByConfig
    cases hcut : cut? wait w with
    | none => rfl
    | some i =>
      obtain ⟨hlt, -, -⟩ := List.findIdx?_eq_some_iff_getElem.mp hcut
      have hno := hsteady.configured _ (List.getElem_mem hlt)
      simp [List.getElem?_eq_getElem hlt, hno]
  have hgroups : markedGroups w (examined wait w) = w.shared.groups := by
    apply List.ext_getElem?
    intro i
    simp [getElem?_markedGroups, hswap]
  simp only [marked, hconfig, Bool.false_eq_true, if_false, markedUpTo, hgroups,
    hsteady.firstOf_eq]
  rfl

/-- Nothing is waited for while a group is active. -/
theorem Steady.marked_active (hsteady : Steady best limit delay n w.shared)
    (hswap : w.self.ctrl.failOverType = .hotswap) : marked false w = marksHighest best w := by
  obtain ⟨b, rfl, hb⟩ := hsteady.best_pos
  have hcut : cut? false w = none := by
    rw [cut?, List.findIdx?_eq_none_iff]
    intro g hg
    simp [cuts, hsteady.configured g hg]
  rw [hsteady.marked_eq hswap, if_pos]
  simp only [examined, hcut, hsteady.length]
  exact hb

/-- A scan either waits or finds the best group; once the time of the groups before it is over it
finds it. -/
theorem Steady.marked_scan (hsteady : Steady best limit delay n w.shared)
    (hswap : w.self.ctrl.failOverType = .hotswap) :
    marked true w = marksHighest best w ∨ marked true w = marksHighest 0 w ∧
      w.shared.now < w.self.ctrl.groupSelectionTimer + limit := by
  rw [hsteady.marked_eq hswap]
  split
  · exact .inl rfl
  · next hgt =>
    refine .inr ⟨rfl, ?_⟩
    obtain ⟨b, rfl, hb⟩ := hsteady.best_pos
    unfold examined at hgt
    cases hcut : cut? true w with
    | none =>
      simp only [hcut, hsteady.length] at hgt
      omega
    | some i =>
      simp only [hcut] at hgt
      obtain ⟨hlt, hcuts, -⟩ := List.findIdx?_eq_some_iff_getElem.mp hcut
      obtain ⟨hscan, htime⟩ := hsteady.scanned i _ (by omega) (List.getElem?_eq_getElem hlt)
      simp only [cuts, waits, hsteady.configured _ (List.getElem_mem hlt), hscan, Bool.true_and,
        Bool.false_or, Bool.not_true, Bool.or_false, decide_eq_true_eq] at hcuts
      omega

/-! ## The states -/

def stateFunction : FailOverState → FailOverProg FailOverState
  | .scanningGroup => stateScanningGroup
  | .groupActive => stateGroupActive
  | .restorationWait => stateRestorationWait
  | .deactivateGroup => stateDeactivateGroup
  | .exit => pure .exit
  | .error => pure .error

theorem Steady.run_failOverTick (hsteady : Steady best limit delay n v.shared) {st st' : FailOverState}
    (hphase : v.self.phase = .loop st) (hst : st ≠ .exit ∧ st ≠ .error)
    (hrun : (stateFunction st).run (takeConfig v) = (st', w)) :
    (failOverTick.run v).2 = w.setPhase (.loop st') := by
  have hw : w.setPhase (.loop st') = ((stateFunction st).run (takeConfig v)).2.setPhase
      (.loop ((stateFunction st).run (takeConfig v)).1) := by
    rw [hrun]
  have hmonitor := hsteady.afterConfig.run_ifaceGroupMonitor
  unfold failOverTick
  rw [hw, Prog.run_bind, Prog.run_read]
  dsimp only
  rw [hphase]
  dsimp only
  unfold failOverLoop updateFOControllerData
  rw [Prog.run_bind, Prog.run_modify, Prog.run_bind, hmonitor]
  cases st with
  | exit => exact absurd rfl hst.1
  | error => exact absurd rfl hst.2
  | scanningGroup | groupActive | restorationWait | deactivateGroup =>
    dsimp only
    rw [Prog.run_bind]
    rfl

theorem Steady.enabled_takeConfig (hsteady : Steady best limit delay n v.shared) :
    ¬ (takeConfig v).self.ctrl.wanEnable = false := by
  rw [show (takeConfig v).self.ctrl.wanEnable = v.shared.config.enable from rfl, hsteady.enabled]
  decide

/-- `Transition_ActivateGroup` with a group, in hot swap. -/
theorem run_transitionActivateGroup (hhighest : w.self.ctrl.highestValidGroup ≠ 0)
    (hswap : w.self.ctrl.failOverType = .hotswap) :
    transitionActivateGroup.run w =
      (.groupActive, activateHighest (w.mapCtrl activationTelemetry)) := by
  have hswap' : (activateHighest (w.mapCtrl activationTelemetry)).self.ctrl.failOverType
      = .hotswap := (activationTelemetry_keeps w.self.ctrl).2.trans hswap
  unfold transitionActivateGroup ctrl setCtrl
  rw [Prog.run_bind, Prog.run_read, if_pos hhighest, Prog.run_bind, Prog.run_modify, Prog.run_bind,
    Prog.run_modify]
  unfold stopLowerGroups ctrl
  rw [Prog.run_bind, Prog.run_bind, Prog.run_read]
  dsimp only
  rw [if_neg (by rw [hswap']; decide)]
  rfl

/-! ## Selection statuses -/

theorem activeIn_activateGroup {s : Shared} {g i : Nat} (hsel : s.selected? g = some i)
    (hi : i < s.ifaces.length)
    (hready : s.selectionStatus i = .selected ∨ s.selectionStatus i = .active) :
    activeIn (activateGroup g s) g := by
  unfold activateGroup
  rw [hsel]
  dsimp only
  rcases hready with hs | hs
  · rw [if_pos hs]
    refine ⟨i, ?_, ?_⟩
    · rw [Shared.selected?_modifyGroup, Shared.selected?_setSelectionStatus, hsel]
      exact fun _ => rfl
    · rw [Shared.selectionStatus_modifyGroup, Shared.selectionStatus_set_self _ hi]
  · rw [if_neg (by rw [hs]; decide)]
    exact ⟨i, hsel, hs⟩

theorem not_activeIn_deactivateGroup (s : Shared) (g : Nat) :
    ¬ activeIn (deactivateGroup g s) g := by
  unfold deactivateGroup
  cases hsel : s.selected? g with
  | none =>
    intro ⟨i, hi, _⟩
    rw [hsel] at hi
    cases hi
  | some i =>
    dsimp only
    split
    · next hactive =>
      intro ⟨j, hj, hstatus⟩
      rw [Shared.selected?_setSelectionStatus, hsel] at hj
      cases hj
      have hi := s.lt_length_of_selectionStatus (i := i) (by rw [hactive]; decide)
      rw [Shared.selectionStatus_set_self _ hi] at hstatus
      cases hstatus
    · next hactive =>
      intro ⟨j, hj, hstatus⟩
      rw [hsel] at hj
      cases hj
      exact hactive hstatus

theorem Between.activeIn_iff (h : Between v w) (g : Nat) :
    activeIn w.shared g ↔ activeIn v.shared g := by
  unfold activeIn
  rw [h.selected]
  constructor
  · intro ⟨i, hi, hs⟩
    exact ⟨i, hi, (h.status g i hi).symm.trans hs⟩
  · intro ⟨i, hi, hs⟩
    exact ⟨i, hi, (h.status g i hi).trans hs⟩

theorem InLoop.between (hv : InLoop n v) (h : Between v w) : InLoop n w where
  hotswap := by rw [h.self]; exact hv.hotswap
  phase := by rw [h.self]; exact hv.phase
  current := by rw [h.self]; exact hv.current
  highest := by rw [h.self]; exact hv.highest
  givenUp := by rw [h.self, h.activeIn_iff]; exact hv.givenUp

theorem OnBest.between (hv : OnBest best v) (h : Between v w) : OnBest best w where
  phase := by rw [h.self]; exact hv.phase
  current := by rw [h.self]; exact hv.current
  active := (h.activeIn_iff best).mpr hv.active

theorem HalfActive.between (hv : HalfActive best v) (h : Between v w) : HalfActive best w where
  phase := by rw [h.self]; exact hv.phase
  current := by rw [h.self]; exact hv.current
  inactive := fun hw => hv.inactive ((h.activeIn_iff best).mp hw)

/-! ## One tick in each state -/

/-- `Transition_DeactivateGroup` leaves the current group's interface not `ACTIVE`. -/
theorem run_transitionDeactivateGroup (w : FailOverView) :
    ∃ w', transitionDeactivateGroup.run w = (.deactivateGroup, w') ∧ w'.self.ctrl = w.self.ctrl ∧
      ¬ activeIn w'.shared w.self.ctrl.currentActiveGroup := by
  have hrun : transitionDeactivateGroup.run w = (.deactivateGroup,
      ((if w.self.ctrl.currentActiveGroup ≠ 0 then
        { w with shared := deactivateGroup w.self.ctrl.currentActiveGroup w.shared } else w)).traceEvent
          .deactivateGroup) := by
    unfold transitionDeactivateGroup deactivateCurrent ctrl
    rw [Prog.run_bind, Prog.run_bind, Prog.run_bind, Prog.run_read]
    dsimp only
    rw [Prog.run_ite]
    split <;> rfl
  refine ⟨_, hrun, ?_, ?_⟩
  · split <;> rfl
  · split
    · exact not_activeIn_deactivateGroup _ _
    · next hzero =>
      rw [Decidable.not_not] at hzero
      rw [hzero]
      intro ⟨i, hi, _⟩
      cases hi

/-- `Transition_ActivateGroup` for a group of the table. -/
theorem activated_inLoop (hswap : w.self.ctrl.failOverType = .hotswap)
    (hhighest : w.self.ctrl.highestValidGroup ≤ n) :
    InLoop n ((activateHighest (w.mapCtrl activationTelemetry)).setPhase (.loop .groupActive)) := by
  have hhighest' := (activationTelemetry_highest w.self.ctrl).trans_le hhighest
  exact
    { hotswap := (activationTelemetry_keeps w.self.ctrl).2.trans hswap
      phase := ⟨_, rfl, by decide⟩
      current := hhighest'
      highest := hhighest'
      givenUp := fun h => nomatch h }

theorem Steady.activated_onBest (hsteady : Steady best limit delay n w.shared)
    (hhighest : w.self.ctrl.highestValidGroup = best) :
    OnBest best ((activateHighest (w.mapCtrl activationTelemetry)).setPhase (.loop .groupActive)) where
  phase := rfl
  current := (activationTelemetry_highest w.self.ctrl).trans hhighest
  active := by
    have husable := hsteady.usable
    unfold groupUsable Shared.selectedIface? at husable
    cases hsel : w.shared.selected? best with
    | none => simp [hsel] at husable
    | some i =>
      have hactive := activeIn_activateGroup hsel (hsteady.known _ _ hsel) (hsteady.ready i hsel)
      rw [← hhighest, ← activationTelemetry_highest w.self.ctrl] at hactive
      rw [← hhighest, ← activationTelemetry_highest w.self.ctrl]
      exact hactive

theorem Steady.tick_scanning (hsteady : Steady best limit delay n v.shared) (hloop : InLoop n v)
    (hphase : v.self.phase = .loop .scanningGroup) :
    InLoop n (failOverTick.run v).2 ∧
      (OnBest best (failOverTick.run v).2 ∨
        (failOverTick.run v).2.self.phase = .loop .scanningGroup ∧
          (failOverTick.run v).2.self.ctrl.groupSelectionTimer = v.self.ctrl.groupSelectionTimer ∧
          v.shared.now < v.self.ctrl.groupSelectionTimer + limit) := by
  have hswap : (takeConfig v).self.ctrl.failOverType = .hotswap := hloop.hotswap
  have hrun : stateScanningGroup.run (takeConfig v) =
      if (marked true (takeConfig v)).self.ctrl.highestValidGroup ≠ 0 then
        transitionActivateGroup.run (marked true (takeConfig v))
      else (.scanningGroup, marked true (takeConfig v)) := by
    unfold stateScanningGroup ctrl
    rw [Prog.run_bind, Prog.run_read, if_neg hsteady.enabled_takeConfig, Prog.run_bind,
      run_markHighPriorityGroup, Prog.run_bind, Prog.run_read]
    dsimp only
    rw [Prog.run_ite]
    rfl
  obtain ⟨b, rfl, hb⟩ := hsteady.best_pos
  rcases hsteady.afterConfig.marked_scan hswap with hbest | ⟨hzero, htime⟩
  · rw [hbest, highestValidGroup_marksHighest, if_pos (Nat.succ_ne_zero b),
      run_transitionActivateGroup (w := marksHighest (b + 1) (takeConfig v)) (Nat.succ_ne_zero b) hswap] at hrun
    rw [hsteady.run_failOverTick hphase (by decide) hrun]
    exact ⟨activated_inLoop hswap hb, .inl (Steady.activated_onBest hsteady.afterConfig rfl)⟩
  · rw [hzero, highestValidGroup_marksHighest, if_neg (fun h => h rfl)] at hrun
    rw [hsteady.run_failOverTick hphase (by decide) hrun]
    exact ⟨⟨hswap, ⟨_, rfl, by decide⟩, hloop.current, Nat.zero_le n, fun h => nomatch h⟩,
      .inr ⟨rfl, rfl, htime⟩⟩

/-- With a best group, `State_GroupActive` stays, gives the current group up or waits. -/
theorem run_compareGroups (hhighest : w.self.ctrl.highestValidGroup ≠ 0) :
    (w.self.ctrl.currentActiveGroup = w.self.ctrl.highestValidGroup ∧
        compareGroups.run w = (.groupActive, w)) ∨
      (w.self.ctrl.currentActiveGroup ≠ w.self.ctrl.highestValidGroup ∧
        ∃ w', compareGroups.run w = (.deactivateGroup, w') ∧
          w'.self.ctrl = { w.self.ctrl with failOverTimer := w.shared.now } ∧
          ¬ activeIn w'.shared w.self.ctrl.currentActiveGroup) ∨
      (w.self.ctrl.currentActiveGroup ≠ w.self.ctrl.highestValidGroup ∧
        ∃ w', compareGroups.run w = (.restorationWait, w') ∧
          w'.self.ctrl = { w.self.ctrl with
            failOverTimer := w.shared.now, groupSelectionTimer := w.shared.now }) := by
  have hgives : ∃ w', (startFailOverTimer >>= fun _ => transitionDeactivateGroup).run w =
      (.deactivateGroup, w') ∧ w'.self.ctrl = { w.self.ctrl with failOverTimer := w.shared.now } ∧
        ¬ activeIn w'.shared w.self.ctrl.currentActiveGroup := by
    rw [Prog.run_bind]
    exact run_transitionDeactivateGroup _
  have hrun : compareGroups.run w =
      if w.self.ctrl.currentActiveGroup < w.self.ctrl.highestValidGroup ∨
          (activationCount w = 0 ∧ w.self.ctrl.currentActiveGroup > w.self.ctrl.highestValidGroup) then
        (startFailOverTimer >>= fun _ => transitionDeactivateGroup).run w
      else if w.self.ctrl.currentActiveGroup > w.self.ctrl.highestValidGroup then
        (startFailOverTimer >>= fun _ => transitionRestoration).run w
      else (.groupActive, w) := by
    unfold compareGroups ctrl
    rw [Prog.run_bind, Prog.run_read, if_pos hhighest, Prog.run_bind, Prog.run_read]
    dsimp only
    rw [Prog.run_ite, Prog.run_ite]
    rfl
  rw [hrun]
  split
  · next hleave => exact .inr (.inl ⟨by omega, hgives⟩)
  · next hstay =>
    split
    · next hgreater => exact .inr (.inr ⟨by omega, _, rfl, rfl⟩)
    · next hle => exact .inl ⟨by omega, rfl⟩

theorem Steady.tick_groupActive (hsteady : Steady best limit delay n v.shared) (hloop : InLoop n v)
    (hphase : v.self.phase = .loop .groupActive) :
    InLoop n (failOverTick.run v).2 ∧
      (v.self.ctrl.currentActiveGroup = best ∧
        (failOverTick.run v).2.self.phase = .loop .groupActive ∧
          (failOverTick.run v).2.self.ctrl.currentActiveGroup = best ∧
          (activeIn (failOverTick.run v).2.shared best ↔ activeIn v.shared best) ∨
      v.self.ctrl.currentActiveGroup ≠ best ∧
        (failOverTick.run v).2.self.ctrl.highestValidGroup = best ∧
          ((failOverTick.run v).2.self.phase = .loop .restorationWait ∨
            (failOverTick.run v).2.self.phase = .loop .deactivateGroup)) := by
  have hswap : (takeConfig v).self.ctrl.failOverType = .hotswap := hloop.hotswap
  have hreset : ¬ (takeConfig v).self.ctrl.resetScan = true := by
    rw [show (takeConfig v).self.ctrl.resetScan = v.shared.config.resetFailOverScan from rfl,
      hsteady.noRequest]
    decide
  obtain ⟨b, rfl, hb⟩ := hsteady.best_pos
  have hrun : stateGroupActive.run (takeConfig v) =
      compareGroups.run (marksHighest (b + 1) (takeConfig v)) := by
    unfold stateGroupActive ctrl
    rw [Prog.run_bind, Prog.run_read, if_neg hsteady.enabled_takeConfig, if_neg hreset, Prog.run_bind,
      run_markHighPriorityGroup, hsteady.afterConfig.marked_active hswap]
  rcases run_compareGroups (w := marksHighest (b + 1) (takeConfig v)) (Nat.succ_ne_zero b) with
    ⟨hsame, hrest⟩ | ⟨hne, w', hgives, hctrl, hinactive⟩ | ⟨hne, w', hwaits, hctrl⟩
  · rw [hrest] at hrun
    rw [hsteady.run_failOverTick hphase (by decide) hrun]
    exact ⟨⟨hswap, ⟨_, rfl, by decide⟩, hloop.current, hb, fun h => nomatch h⟩,
      .inl ⟨hsame, rfl, hsame, Iff.rfl⟩⟩
  · rw [hgives] at hrun
    rw [hsteady.run_failOverTick hphase (by decide) hrun]
    have hctrl' : (w'.setPhase (.loop .deactivateGroup)).self.ctrl = _ := hctrl
    refine ⟨⟨?_, ⟨_, rfl, by decide⟩, ?_, ?_, fun _ => ?_⟩, .inr ⟨hne, ?_, .inr rfl⟩⟩ <;> rw [hctrl']
    · exact hswap
    · exact hloop.current
    · exact hb
    · exact hinactive
    · rfl
  · rw [hwaits] at hrun
    rw [hsteady.run_failOverTick hphase (by decide) hrun]
    have hctrl' : (w'.setPhase (.loop .restorationWait)).self.ctrl = _ := hctrl
    refine ⟨⟨?_, ⟨_, rfl, by decide⟩, ?_, ?_, fun h => nomatch h⟩, .inr ⟨hne, ?_, .inl rfl⟩⟩ <;>
      rw [hctrl']
    · exact hswap
    · exact hloop.current
    · exact hb
    · rfl

theorem Steady.highest_not_down (hsteady : Steady best limit delay n w.shared)
    (hbest : w.self.ctrl.highestValidGroup = best) : highestValidGroupDown w = false := by
  have husable := hsteady.usable
  unfold groupUsable at husable
  unfold highestValidGroupDown
  rw [hbest]
  cases hd : w.shared.selectedIface? best with
  | none => rfl
  | some d =>
    simp only [hd, ifaceUsable, Bool.and_eq_true, Bool.or_eq_true, beq_iff_eq] at husable
    rcases husable.1.1 with hs | hs <;> simp [hs]

/-- What `State_RestorationWait` does after its test. -/
def afterRestorationTest (r : RestorationView) : FailOverProg FailOverState :=
  if r = .down then transitionRestorationFail
  else if r = .wait then return .restorationWait
  else trace (.restorationExpired (r == .expired true)) >>= fun _ => transitionDeactivateGroup

theorem Steady.run_stateRestorationWait (hsteady : Steady best limit delay n v.shared) :
    stateRestorationWait.run (takeConfig v) =
      (afterRestorationTest (restorationTest (takeConfig v))).run (takeConfig v) := by
  unfold stateRestorationWait ctrl
  rw [Prog.run_bind, Prog.run_read, if_neg hsteady.enabled_takeConfig, Prog.run_bind, Prog.run_read]
  dsimp only
  cases restorationTest (takeConfig v) with
  | down => rfl
  | expired valid => cases valid <;> rfl
  | wait => rfl

theorem Steady.tick_restorationWait (hsteady : Steady best limit delay n v.shared)
    (hloop : InLoop n v) (hphase : v.self.phase = .loop .restorationWait) :
    InLoop n (failOverTick.run v).2 ∧
      ((failOverTick.run v).2.self.phase = .loop .groupActive ∧
          v.self.ctrl.highestValidGroup ≠ best ∨
        (failOverTick.run v).2.self.ctrl.highestValidGroup = v.self.ctrl.highestValidGroup ∧
          ((failOverTick.run v).2.self.phase = .loop .deactivateGroup ∨
            (failOverTick.run v).2.self.phase = .loop .restorationWait ∧
              (failOverTick.run v).2.self.ctrl.groupSelectionTimer = v.self.ctrl.groupSelectionTimer ∧
              v.shared.now ≤ v.self.ctrl.groupSelectionTimer + delay)) := by
  have hswap : (takeConfig v).self.ctrl.failOverType = .hotswap := hloop.hotswap
  cases htest : restorationTest (takeConfig v) with
  | down =>
    have hrun : stateRestorationWait.run (takeConfig v) = transitionRestorationFail.run (takeConfig v) := by
      rw [hsteady.run_stateRestorationWait, htest]
      rfl
    rw [hsteady.run_failOverTick hphase (by decide) hrun]
    refine ⟨⟨hswap, ⟨_, rfl, by decide⟩, hloop.current, hloop.highest, fun h => nomatch h⟩,
      .inl ⟨rfl, ?_⟩⟩
    intro hbest
    have hdown : highestValidGroupDown (takeConfig v) = true := by
      by_contra hup
      unfold restorationTest at htest
      rw [if_neg hup] at htest
      split at htest <;> cases htest
    have hup := hsteady.afterConfig.highest_not_down hbest
    rw [hdown] at hup
    cases hup
  | expired valid =>
    have hrun : stateRestorationWait.run (takeConfig v) = transitionDeactivateGroup.run
        ((trace (.restorationExpired valid)).run (takeConfig v)).2 := by
      rw [hsteady.run_stateRestorationWait, htest]
      cases valid <;> rfl
    obtain ⟨w', hgives, hctrl, hinactive⟩ := run_transitionDeactivateGroup
      ((trace (.restorationExpired valid)).run (takeConfig v)).2
    rw [hgives] at hrun
    rw [hsteady.run_failOverTick hphase (by decide) hrun]
    have hctrl' : (w'.setPhase (.loop .deactivateGroup)).self.ctrl = (takeConfig v).self.ctrl := hctrl
    refine ⟨⟨?_, ⟨_, rfl, by decide⟩, ?_, ?_, fun _ => ?_⟩, .inr ⟨?_, .inl rfl⟩⟩ <;> rw [hctrl']
    · exact hswap
    · exact hloop.current
    · exact hloop.highest
    · exact hinactive
    · rfl
  | wait =>
    have hrun : stateRestorationWait.run (takeConfig v) = (.restorationWait, takeConfig v) := by
      rw [hsteady.run_stateRestorationWait, htest]
      rfl
    rw [hsteady.run_failOverTick hphase (by decide) hrun]
    refine ⟨⟨hswap, ⟨_, rfl, by decide⟩, hloop.current, hloop.highest, fun h => nomatch h⟩,
      .inr ⟨rfl, .inr ⟨rfl, rfl, ?_⟩⟩⟩
    have hearly : ¬ restorationExpired (takeConfig v) = true := by
      intro hexpired
      unfold restorationTest at htest
      rw [if_pos hexpired] at htest
      split at htest <;> cases htest
    have hdelay := hsteady.restorationDelay
    simp only [restorationExpired, decide_eq_true_eq, Nat.not_lt] at hearly
    exact hearly.trans (Nat.add_le_add_left hdelay _)

theorem Steady.tick_deactivateGroup (hsteady : Steady best limit delay n v.shared)
    (hloop : InLoop n v) (hphase : v.self.phase = .loop .deactivateGroup) :
    InLoop n (failOverTick.run v).2 ∧
      ((failOverTick.run v).2.self.phase = .loop .groupActive ∧
          (v.self.ctrl.highestValidGroup = best → OnBest best (failOverTick.run v).2) ∨
        (failOverTick.run v).2.self.phase = .loop .deactivateGroup ∧
          (failOverTick.run v).2.self.ctrl.highestValidGroup = v.self.ctrl.highestValidGroup ∧
          (failOverTick.run v).2.self.ctrl.currentActiveGroup = v.self.ctrl.currentActiveGroup ∧
          (∀ g, (failOverTick.run v).2.shared.selected? g = v.shared.selected? g) ∧
          currentActiveGroupDeactivated v = false) := by
  have hswap : (takeConfig v).self.ctrl.failOverType = .hotswap := hloop.hotswap
  have hrun : stateDeactivateGroup.run (takeConfig v) =
      if currentActiveGroupDeactivated (takeConfig v) then transitionActivateGroup.run (takeConfig v)
      else (.deactivateGroup, takeConfig v) := by
    unfold stateDeactivateGroup ctrl
    rw [Prog.run_bind, Prog.run_read]
    dsimp only
    rw [Prog.run_ite, Prog.run_bind, Prog.run_read, if_neg hsteady.enabled_takeConfig]
    rfl
  cases htest : currentActiveGroupDeactivated (takeConfig v) with
  | false =>
    rw [htest] at hrun
    rw [hsteady.run_failOverTick hphase (by decide) hrun]
    exact ⟨⟨hswap, ⟨_, rfl, by decide⟩, hloop.current, hloop.highest, fun _ => hloop.givenUp hphase⟩,
      .inr ⟨rfl, rfl, rfl, fun _ => rfl, htest⟩⟩
  | true =>
    rw [htest, if_pos rfl] at hrun
    by_cases hnothing : v.self.ctrl.highestValidGroup = 0
    · have hactivate : transitionActivateGroup.run (takeConfig v) =
          (.groupActive, activateNothing (takeConfig v)) := by
        unfold transitionActivateGroup ctrl
        rw [Prog.run_bind, Prog.run_read, if_neg (fun h => h hnothing)]
        rfl
      rw [hactivate] at hrun
      rw [hsteady.run_failOverTick hphase (by decide) hrun]
      obtain ⟨b, rfl, hb⟩ := hsteady.best_pos
      exact ⟨⟨hswap, ⟨_, rfl, by decide⟩, hloop.current, hloop.highest, fun h => nomatch h⟩,
        .inl ⟨rfl, fun h => absurd (hnothing.symm.trans h).symm (Nat.succ_ne_zero b)⟩⟩
    · rw [run_transitionActivateGroup (w := takeConfig v) hnothing hswap] at hrun
      rw [hsteady.run_failOverTick hphase (by decide) hrun]
      exact ⟨activated_inLoop hswap hloop.highest,
        .inl ⟨rfl, fun h => Steady.activated_onBest hsteady.afterConfig h⟩⟩

end Tick

/-! ## Runs -/

section Run

variable {best limit delay n : Nat} {r : Nat → FailOverView}

theorem SteadyRun.inLoop (hrun : SteadyRun best limit delay n r) (hstart : InLoop n (r 0)) (k : Nat) :
    InLoop n (r k) := by
  induction k with
  | zero => exact hstart
  | succ k ih =>
    have hsteady := hrun.steady k
    obtain ⟨st, hphase, hexit, herror⟩ := ih.phase
    have hnext : InLoop n (failOverTick.run (r k)).2 := by
      cases st with
      | exit => exact absurd rfl hexit
      | error => exact absurd rfl herror
      | scanningGroup => exact (hsteady.tick_scanning ih hphase).1
      | groupActive => exact (hsteady.tick_groupActive ih hphase).1
      | restorationWait => exact (hsteady.tick_restorationWait ih hphase).1
      | deactivateGroup => exact (hsteady.tick_deactivateGroup ih hphase).1
    exact hnext.between (hrun.tick k)

theorem up_of_not_deactivated {v : FailOverView} {i : Nat}
    (htest : currentActiveGroupDeactivated v = false)
    (hsel : v.shared.selected? v.self.ctrl.currentActiveGroup = some i)
    (hi : i < v.shared.ifaces.length) : ∃ d, v.shared.ifaces[i]? = some d ∧ d.virtIf.status = .up := by
  unfold currentActiveGroupDeactivated at htest
  unfold Shared.selected? at hsel
  cases hc : v.self.ctrl.currentActiveGroup with
  | zero => simp [hc] at htest
  | succ c =>
    simp only [hc, Shared.group?] at hsel htest
    cases hg : v.shared.groups[c]? with
    | none => simp [hg] at hsel
    | some g =>
      simp only [hg, Option.map_some] at hsel htest
      cases hs : g.selectedInterface with
      | zero => simp [hs] at htest
      | succ j =>
        simp only [hs, Option.some.injEq] at hsel htest
        subst hsel
        have hd := List.getElem?_eq_getElem hi
        rw [hd] at htest
        exact ⟨_, hd, by simpa using htest⟩

theorem selected_of_not_deactivated {v : FailOverView}
    (htest : currentActiveGroupDeactivated v = false)
    (hcurrent : v.self.ctrl.currentActiveGroup ≤ v.shared.groups.length) :
    ∃ i, v.shared.selected? v.self.ctrl.currentActiveGroup = some i := by
  unfold currentActiveGroupDeactivated at htest
  unfold Shared.selected?
  cases hc : v.self.ctrl.currentActiveGroup with
  | zero => simp [hc] at htest
  | succ c =>
    rw [hc] at hcurrent
    have hg := List.getElem?_eq_getElem (Nat.lt_of_succ_le hcurrent)
    simp only [hc, hg] at htest
    simp only [Shared.group?, hg, Option.map_some]
    cases hs : v.shared.groups[c].selectedInterface with
    | zero => simp [hs] at htest
    | succ j => exact ⟨j, rfl⟩

/-- The thread waits for the interface `i` of group `c` to go down, to activate group `h`. -/
structure GivingUp (h c : Nat) (i : Option Nat) (v : FailOverView) : Prop where
  phase : v.self.phase = .loop .deactivateGroup
  highest : v.self.ctrl.highestValidGroup = h
  current : v.self.ctrl.currentActiveGroup = c
  selected : v.shared.selected? c = i

theorem SteadyRun.deactivates (hrun : SteadyRun best limit delay n r) (hstart : InLoop n (r 0))
    (h c : Nat) (i : Option Nat) : LeadsTo r (GivingUp h c i) fun v =>
      v.self.phase = .loop .groupActive ∧ (h = best → OnBest best v) := by
  have hleaves (k : Nat) (hk : GivingUp h c i (r k)) :
      GivingUp h c i (r (k + 1)) ∧ currentActiveGroupDeactivated (r k) = false ∨
        (r (k + 1)).self.phase = .loop .groupActive ∧ (h = best → OnBest best (r (k + 1))) := by
    have hbetween := hrun.tick k
    rcases ((hrun.steady k).tick_deactivateGroup (hrun.inLoop hstart k) hk.phase).2 with
      ⟨hphase, hbest⟩ | ⟨hphase, hhighest, hcurrent, hselected, htest⟩
    · refine .inr ⟨?_, fun h => (hbest (hk.highest.trans h)).between hbetween⟩
      rw [hbetween.self, hphase]
    · refine .inl ⟨⟨?_, ?_, ?_, ?_⟩, htest⟩
      · rw [hbetween.self, hphase]
      · rw [hbetween.self, hhighest, hk.highest]
      · rw [hbetween.self, hcurrent, hk.current]
      · rw [hbetween.selected, hselected, hk.selected]
  refine LeadsTo.waiting (fun k hk => (hleaves k hk).imp_left And.left) fun k hstays => ?_
  -- an interface that stays given up goes down, and then the wait is over
  by_contra hnever
  rw [not_exists] at hnever
  have hup (j : Nat) (hj : k ≤ j) : currentActiveGroupDeactivated (r j) = false :=
    match hleaves j (hstays j hj) with
    | .inl hstay => hstay.2
    | .inr hover => absurd ⟨hj, hover⟩ (hnever j)
  have hcurrent := (hrun.inLoop hstart k).current
  rw [← (hrun.steady k).length] at hcurrent
  obtain ⟨i', hi'⟩ := selected_of_not_deactivated (hup k (Nat.le_refl k)) hcurrent
  rw [(hstays k (Nat.le_refl k)).current, (hstays k (Nat.le_refl k)).selected] at hi'
  have hsel (j : Nat) (hj : k ≤ j) : (r j).shared.selected? (r j).self.ctrl.currentActiveGroup = some i' := by
    rw [(hstays j hj).current, (hstays j hj).selected, hi']
  obtain ⟨j, hj, hdown⟩ := hrun.goesDown k i' fun j hj hactive =>
    (hrun.inLoop hstart j).givenUp (hstays j hj).phase ⟨i', hsel j hj, hactive⟩
  obtain ⟨d, hd, hstatus⟩ := up_of_not_deactivated (hup j hj) (hsel j hj)
    ((hrun.steady j).known _ _ (hsel j hj))
  exact hdown d hd hstatus

/-- The thread waits for the restoration delay since `t`, to move to group `h`. -/
structure Restoring (h t : Nat) (v : FailOverView) : Prop where
  phase : v.self.phase = .loop .restorationWait
  highest : v.self.ctrl.highestValidGroup = h
  timer : v.self.ctrl.groupSelectionTimer = t

theorem SteadyRun.restores (hrun : SteadyRun best limit delay n r) (hstart : InLoop n (r 0))
    (h t : Nat) : LeadsTo r (Restoring h t) fun v =>
      v.self.phase = .loop .groupActive ∧ h ≠ best ∨
        v.self.phase = .loop .deactivateGroup ∧ v.self.ctrl.highestValidGroup = h := by
  have hleaves (k : Nat) (hk : Restoring h t (r k)) :
      Restoring h t (r (k + 1)) ∧ (r k).shared.now ≤ t + delay ∨
        ((r (k + 1)).self.phase = .loop .groupActive ∧ h ≠ best ∨
          (r (k + 1)).self.phase = .loop .deactivateGroup ∧
            (r (k + 1)).self.ctrl.highestValidGroup = h) := by
    have hself := (hrun.tick k).self
    have htick := ((hrun.steady k).tick_restorationWait (hrun.inLoop hstart k) hk.phase).2
    rw [hk.highest, hk.timer, ← hself] at htick
    rcases htick with hactive | ⟨hhighest, hgives | ⟨hphase, htimer, htime⟩⟩
    · exact .inr (.inl hactive)
    · exact .inr (.inr ⟨hgives, hhighest⟩)
    · exact .inl ⟨⟨hphase, hhighest, htimer⟩, htime⟩
  refine LeadsTo.waiting (fun k hk => (hleaves k hk).imp_left And.left) fun k hstays => ?_
  obtain ⟨j, hj, hlate⟩ := hrun.clock (t + delay) k
  rcases hleaves j (hstays j hj) with ⟨-, hearly⟩ | hover
  · exact absurd hlate (Nat.not_lt.mpr hearly)
  · exact ⟨j, hj, hover⟩

/-- The thread scans the groups, and began to at `t`. -/
structure Scanning (t : Nat) (v : FailOverView) : Prop where
  phase : v.self.phase = .loop .scanningGroup
  timer : v.self.ctrl.groupSelectionTimer = t

theorem SteadyRun.scans (hrun : SteadyRun best limit delay n r) (hstart : InLoop n (r 0)) (t : Nat) :
    LeadsTo r (Scanning t) (OnBest best) := by
  have hleaves (k : Nat) (hk : Scanning t (r k)) :
      Scanning t (r (k + 1)) ∧ (r k).shared.now < t + limit ∨ OnBest best (r (k + 1)) := by
    have hself := (hrun.tick k).self
    have htick := ((hrun.steady k).tick_scanning (hrun.inLoop hstart k) hk.phase).2
    rcases htick with hbest | hwaits
    · exact .inr (hbest.between (hrun.tick k))
    · rw [hk.timer, ← hself] at hwaits
      exact .inl ⟨⟨hwaits.1, hwaits.2.1⟩, hwaits.2.2⟩
  refine LeadsTo.waiting (fun k hk => (hleaves k hk).imp_left And.left) fun k hstays => ?_
  obtain ⟨j, hj, hlate⟩ := hrun.clock (t + limit) k
  rcases hleaves j (hstays j hj) with ⟨-, hearly⟩ | hover
  · omega
  · exact ⟨j, hj, hover⟩

end Run

/-! The second group is active when the interface of the first one is found again: it is given up,
goes down, and the first group is active from then on. -/

namespace Example

/-- The controller after it moved from the second group to the first. -/
def restored : FailOverThread where
  phase := .loop .groupActive
  ctrl := { wanEnable := true, currentActiveGroup := 1, highestValidGroup := 1,
            telemetryEvent := .restoreSuccess }
  trace := [.deactivateGroup, .activated 1 false]

end Example

end Failover
end WanManager
