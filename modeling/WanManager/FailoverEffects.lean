import WanManager.FailoverPool

/-! # What a section of the failover thread can do

Each section of the failover thread is one of the steps of `Effect`. Which of them can
activate an interface depends on what the thread knows: it only activates a group, or
forgets the current one, while nothing is active. What "nothing is active" means is left to
the user (`quiet`); the thread must be able to conclude it where it deactivates its
current group, and where it has none. -/

namespace WanManager
open Concurrency

namespace Failover

/-- What a section may do to the thread's own record. -/
structure OwnStep (quiet : List WanIface → Prop) (v : FailOverView) (t : FailOverThread) : Prop where
  group : t.ctrl.currentActiveGroup = v.self.ctrl.currentActiveGroup ∨
    t.ctrl.currentActiveGroup = 0 ∧ quiet v.shared.ifaces
  swap : t.ctrl.failOverType = v.self.ctrl.failOverType ∨ t.ctrl.failOverType = .hotswap ∨
    v.shared.outside.psmFailOverType = some t.ctrl.failOverType

inductive Effect (quiet : List WanIface → Prop) : Site → FailOverView → FailOverView → Prop
  | own {l v t} : OwnStep quiet v t → Effect quiet l v { v with self := t }
  | config {v} : Effect quiet .updateFOControllerData v (takeConfig v)
  | available {i v} : Effect quiet (.failOverCtrlInit i) v (addInterfaceAvailable i v)
  | deactivated {i v} : v.self.ctrl.failOverType = .coldswap →
      Effect quiet (.transitionStart i) v (deactivateState i v)
  | monitor {i v} : Effect quiet (.ifaceGroupMonitor i) v (monitorGroup i v)
  | mark {w i v} : Effect quiet (.markHighPriorityGroup i) v (markGroup w i v).2
  | activate {v} : quiet v.shared.ifaces → Effect quiet .activateGroup v (activateHighest v)
  | stop {i v} : Effect quiet (.coldswapStop i) v (stopGroup i v)
  | deactivate {v} : Effect quiet .deactivateGroup v
      { v with shared := deactivateGroup v.self.ctrl.currentActiveGroup v.shared }

theorem OwnStep.refl (quiet : List WanIface → Prop) (v : FailOverView) : OwnStep quiet v v.self :=
  ⟨.inl rfl, .inl rfl⟩

theorem Effect.refl (quiet : List WanIface → Prop) (l : Site) (v : FailOverView) :
    Effect quiet l v v := .own (OwnStep.refl quiet v)

/-- The contract of the failover thread: it relies on its record and, while nothing is
active, on nobody else activating anything. -/
def effects (inv : FailOverView → Prop) (quiet : List WanIface → Prop) : Contract Site FailOverView where
  inv := inv
  rely v v' := v'.self = v.self ∧ (quiet v.shared.ifaces → quiet v'.shared.ifaces)
  step := Effect quiet
  refl _ := ⟨rfl, id⟩
  trans h h' := ⟨h'.1.trans h.1, h'.2 ∘ h.2⟩
  idle l v _ := Effect.refl quiet l v

/-- Where the thread can conclude that nothing is active. -/
structure Deactivates (inv : FailOverView → Prop) (quiet : List WanIface → Prop) : Prop where
  current : ∀ v, inv v → quiet (deactivateGroup v.self.ctrl.currentActiveGroup v.shared).ifaces
  none : ∀ v, inv v → v.self.ctrl.currentActiveGroup = 0 → quiet v.shared.ifaces

section Sections

variable {inv : FailOverView → Prop} {quiet : List WanIface → Prop}
  {A c : FailOverThread → Prop} {α : Type}

/-- What the thread knows: `A` of its own record and, if the record says `c`, that nothing
is active. -/
def Knows (quiet : List WanIface → Prop) (A c : FailOverThread → Prop) (v : FailOverView) : Prop :=
  A v.self ∧ (c v.self → quiet v.shared.ifaces)

theorem stable_knows (A c : FailOverThread → Prop) :
    (effects inv quiet).Stable (Knows quiet A c) := by
  intro v v' hk hr _
  obtain ⟨hself, hquiet⟩ := hr
  rw [Knows, hself]
  exact ⟨hk.1, fun h => hquiet (hk.2 h)⟩

theorem section_effect {l : Site} {m : FailOverView → α × FailOverView}
    {B d : α → FailOverThread → Prop}
    (h : ∀ v, inv v → Knows quiet A c v →
      Effect quiet l v (m v).2 ∧ Knows quiet (B (m v).1) (d (m v).1) (m v).2) :
    Triple (effects inv quiet) (Knows quiet A c) (.critical l m) fun a => Knows quiet (B a) (d a) :=
  Triple.critical (stable_knows A c) (fun a => stable_knows (B a) (d a)) fun v hi _ hk =>
    ⟨(h v hi hk).1, fun _ => (h v hi hk).2⟩

theorem modify_effect {l : Site} {f : FailOverView → FailOverView} {B d : FailOverThread → Prop}
    (h : ∀ v, inv v → Knows quiet A c v → Effect quiet l v (f v) ∧ Knows quiet B d (f v)) :
    Triple (effects inv quiet) (Knows quiet A c) (.modify l f) fun _ => Knows quiet B d :=
  section_effect h

theorem read_effect {l : Site} {g : FailOverView → α} {B d : α → FailOverThread → Prop}
    (h : ∀ v, inv v → Knows quiet A c v → Knows quiet (B (g v)) (d (g v)) v) :
    Triple (effects inv quiet) (Knows quiet A c) (.read l g) fun a => Knows quiet (B a) (d a) :=
  section_effect fun v hi hk => ⟨Effect.refl quiet l v, h v hi hk⟩

theorem ret_effect {a : α} {B d : α → FailOverThread → Prop}
    (h : ∀ v, Knows quiet A c v → Knows quiet (B a) (d a) v) :
    Triple (effects inv quiet) (Knows quiet A c) (.ret a) fun a => Knows quiet (B a) (d a) :=
  Triple.ret (stable_knows _ _) fun v _ hk => h v hk

theorem ctrl_effect : Triple (effects inv quiet) (Knows quiet A c) ctrl
    fun r => Knows quiet (fun t => A t ∧ t.ctrl = r) c :=
  read_effect fun _ _ hk => ⟨⟨hk.1, rfl⟩, hk.2⟩

/-- A section that changes the record, and neither the current group nor the kind of swap. -/
theorem record_effect {l : Site} {f : FailOverView → FailOverView} {B d : FailOverThread → Prop}
    (hf : ∀ v, f v = { v with self := (f v).self })
    (hgroup : ∀ v, (f v).self.ctrl.currentActiveGroup = v.self.ctrl.currentActiveGroup)
    (hswap : ∀ v, (f v).self.ctrl.failOverType = v.self.ctrl.failOverType)
    (hB : ∀ v, A v.self → B (f v).self) (hd : ∀ v, A v.self → d (f v).self → c v.self) :
    Triple (effects inv quiet) (Knows quiet A c) (.modify l f) fun _ => Knows quiet B d := by
  refine modify_effect fun v _ hk => ⟨?_, hB v hk.1, fun h => ?_⟩
  · rw [hf v]
    exact .own ⟨.inl (hgroup v), .inl (hswap v)⟩
  · rw [hf v]
    exact hk.2 (hd v hk.1 h)

end Sections

/-! ## Marking a group -/

/-- `MarkHighPriorityGroup` has found no valid group yet, and does not find group `i + 1`. -/
def findsNoGroup (i : Nat) (v : FailOverView) : Bool :=
  v.self.ctrl.highestValidGroup == 0 &&
    match v.shared.selectedIface? (i + 1) with
    | none => true
    | some d => !ifaceUsable d && !(v.self.ctrl.currentActiveGroup == i + 1 && d.virtIf.reset)

/-- The cold-swap branch of `MarkHighPriorityGroup`: a deactivated group may be used again. -/
def stopsGroup (i : Nat) (v : FailOverView) : Bool :=
  v.self.ctrl.failOverType == .coldswap && findsNoGroup i v &&
    (v.shared.groups[i]?).any (·.state == .deactivated)

def setHighest (h : Nat) (v : FailOverView) : FailOverView :=
  v.mapCtrl fun c => { c with highestValidGroup := h }

def stopGroupState (i : Nat) (s : Shared) : Shared :=
  s.modifyGroup (i + 1) fun g => { g with state := .stopped }

theorem findsNoGroup_of_highestAt {i : Nat} {v : FailOverView} (h : highestAt i v = 0) :
    findsNoGroup i v = true := by
  by_cases hz : v.self.ctrl.highestValidGroup = 0
  · cases hd : v.shared.selectedIface? (i + 1) with
    | none => simp [findsNoGroup, hz, hd]
    | some d =>
      simp only [highestAt, hz, hd, ne_eq, not_true_eq_false, if_false] at h
      split at h
      · omega
      · split at h
        · omega
        · simp_all [findsNoGroup, imp_iff_not_or]
  · simp [highestAt, hz] at h

/-- One group of the loop changes `HighestValidGroup`, and stops a group in that branch. -/
theorem markGroup_cases (w : Bool) (i : Nat) (v : FailOverView) :
    ∃ h, (markGroup w i v).2 = setHighest h v ∨
      stopsGroup i v = true ∧
        (markGroup w i v).2 = setHighest h { v with shared := stopGroupState i v.shared } := by
  unfold markGroup
  cases hg : v.shared.groups[i]? with
  | none => exact ⟨v.self.ctrl.highestValidGroup, .inl rfl⟩
  | some g =>
    by_cases hstop : v.self.ctrl.failOverType = .coldswap ∧ highestAt i v = 0 ∧ g.state = .deactivated
    · have hfinds := findsNoGroup_of_highestAt hstop.2.1
      have hs : stopsGroup i v = true := by simp [stopsGroup, hstop.1, hfinds, hg, hstop.2.2]
      cases hc : g.configChanged
      · exact ⟨highestAt i v, .inr ⟨hs, by
          simp [hstop, hc, setHighest, stopGroupState, FailOverView.mapCtrl]⟩⟩
      · exact ⟨v.self.ctrl.currentActiveGroup, .inr ⟨hs, by
          simp [hstop, hc, setHighest, stopGroupState, FailOverView.mapCtrl]⟩⟩
    · cases hc : g.configChanged
      · exact ⟨highestAt i v, .inl (by simp [hstop, hc, setHighest, FailOverView.mapCtrl])⟩
      · exact ⟨v.self.ctrl.currentActiveGroup, .inl (by simp [hstop, hc, setHighest, FailOverView.mapCtrl])⟩

/-! ## The functions of the machine -/

section Functions

variable {inv : FailOverView → Prop} {quiet : List WanIface → Prop} {c : Prop}

/-- The states the thread only is in while nothing is active. -/
def calmIn : FailOverState → Prop
  | .groupActive | .restorationWait => False
  | .scanningGroup | .deactivateGroup | .exit | .error => True

/-- If `c`, nothing is active. -/
abbrev Calm (quiet : List WanIface → Prop) (c : Prop) : FailOverView → Prop :=
  Knows quiet (fun _ => True) fun _ => c

/-- A section that leaves the interfaces and the thread's record alone. -/
theorem frame_effect {A c : FailOverThread → Prop} {l : Site} {f : FailOverView → FailOverView}
    (hstep : ∀ v, A v.self → Effect quiet l v (f v)) (hself : ∀ v, (f v).self = v.self)
    (hifaces : ∀ v, (f v).shared.ifaces = v.shared.ifaces) :
    Triple (effects inv quiet) (Knows quiet A c) (.modify l f) fun _ => Knows quiet A c := by
  refine modify_effect fun v _ hk => ⟨hstep v hk.1, ?_⟩
  rw [Knows, hself v, hifaces v]
  exact hk

theorem totalNoOfGroups_effect {A c : FailOverThread → Prop} :
    Triple (effects inv quiet) (Knows quiet A c) totalNoOfGroups fun _ => Knows quiet A c :=
  read_effect fun _ _ hk => hk

@[simp] theorem monitorGroup_ifaces (i : Nat) (v : FailOverView) :
    (monitorGroup i v).shared.ifaces = v.shared.ifaces := by
  unfold monitorGroup
  split
  · rfl
  · split
    · split <;> simp
    · rfl

@[simp] theorem addInterfaceAvailable_ifaces (i : Nat) (v : FailOverView) :
    (addInterfaceAvailable i v).shared.ifaces = v.shared.ifaces := by
  unfold addInterfaceAvailable
  split <;> simp

@[simp] theorem markGroup_ifaces (w : Bool) (i : Nat) (v : FailOverView) :
    (markGroup w i v).2.shared.ifaces = v.shared.ifaces := by
  obtain ⟨h, hkeep | ⟨-, hstop⟩⟩ := markGroup_cases w i v
  · rw [hkeep]
    rfl
  · rw [hstop]
    exact Shared.ifaces_modifyGroup _ _ _

theorem ifaceGroupMonitor_effect :
    Triple (effects inv quiet) (Calm quiet c) ifaceGroupMonitor fun _ => Calm quiet c := by
  refine Triple.bind totalNoOfGroups_effect fun n => ?_
  exact Triple.forEach (stable_knows _ _) fun i _ =>
    frame_effect (fun _ _ => .monitor) (monitorGroup_self i) (monitorGroup_ifaces i)

theorem markHighPriorityGroup_effect (w : Bool) :
    Triple (effects inv quiet) (Calm quiet c) (markHighPriorityGroup w) fun _ => Calm quiet c := by
  refine Triple.bind (Q := fun _ => Calm quiet c) (record_effect (fun _ => rfl) (fun _ => rfl)
    (fun _ => rfl) (fun _ h => h) fun _ _ h => h) fun _ => ?_
  refine Triple.bind totalNoOfGroups_effect fun n => ?_
  refine Triple.forUntil (stable_knows _ _) fun i _ => section_effect fun v _ hk => ?_
  refine ⟨.mark, trivial, fun h => ?_⟩
  rw [markGroup_ifaces]
  exact hk.2 h

theorem stopLowerGroups_effect :
    Triple (effects inv quiet) (Calm quiet c) stopLowerGroups fun _ => Calm quiet c := by
  refine Triple.bind ctrl_effect fun r => Triple.ite (fun _ => ?_) fun _ => ret_effect fun _ hk =>
    ⟨trivial, hk.2⟩
  refine Triple.bind totalNoOfGroups_effect fun n => ?_
  have hloop : Triple (effects inv quiet) (Calm quiet c)
      (Prog.forEach ((List.range n).drop r.currentActiveGroup) fun i =>
        Prog.modify (.coldswapStop i) (stopGroup i)) fun _ => Calm quiet c :=
    Triple.forEach (stable_knows _ _) fun i _ =>
      frame_effect (fun _ _ => .stop) (fun _ => rfl) fun _ => by simp [stopGroup]
  exact hloop.pre fun _ _ hk => ⟨trivial, hk.2⟩

/-- A transition to a state in which an interface may be active. -/
theorem ret_active {A c : FailOverThread → Prop} {st : FailOverState} (h : ¬ calmIn st) :
    Triple (effects inv quiet) (Knows quiet A c) (.ret st) fun r => Calm quiet (calmIn r) :=
  ret_effect fun _ _ => ⟨trivial, fun hc => absurd hc h⟩

theorem activationTelemetry_keeps (c : FailOverController) :
    (activationTelemetry c).currentActiveGroup = c.currentActiveGroup ∧
      (activationTelemetry c).failOverType = c.failOverType := by
  unfold activationTelemetry
  split <;> (try exact ⟨rfl, rfl⟩)
  split <;> (try exact ⟨rfl, rfl⟩)
  split <;> exact ⟨rfl, rfl⟩

/-- With nothing active, the best group may be activated. -/
theorem transitionActivateGroup_effect :
    Triple (effects inv quiet) (Calm quiet True) transitionActivateGroup fun r =>
      Calm quiet (calmIn r) := by
  refine Triple.bind ctrl_effect fun r => Triple.ite (fun _ => ?_) fun _ => ?_
  · refine Triple.bind (Q := fun _ => Calm quiet True) ?_ fun _ => ?_
    · refine record_effect (fun _ => rfl) (fun v => ?_) (fun v => ?_) (fun _ _ => trivial) fun _ _ h => h
      · exact (activationTelemetry_keeps v.self.ctrl).1
      · exact (activationTelemetry_keeps v.self.ctrl).2
    refine Triple.bind (Q := fun _ => Calm quiet False)
      (modify_effect fun v _ hk => ⟨.activate (hk.2 trivial), trivial, False.elim⟩) fun _ => ?_
    exact Triple.bind stopLowerGroups_effect fun _ => ret_active id
  · exact Triple.bind (Q := fun _ => Calm quiet False) (record_effect (fun _ => rfl)
      (fun _ => rfl) (fun _ => rfl) (fun _ _ => trivial) fun _ _ => False.elim) fun _ => ret_active id

theorem stateScanningGroup_effect :
    Triple (effects inv quiet) (Calm quiet True) stateScanningGroup fun r =>
      Calm quiet (calmIn r) := by
  refine Triple.bind ctrl_effect fun r => Triple.ite
    (fun _ => ret_effect fun _ hk => ⟨trivial, fun _ => hk.2 trivial⟩) fun _ => ?_
  refine Triple.bind (Q := fun _ => Calm quiet True) ?_ fun _ => ?_
  · exact (markHighPriorityGroup_effect true).pre fun _ _ hk => ⟨trivial, hk.2⟩
  refine Triple.bind ctrl_effect fun r => Triple.ite (fun _ => ?_) fun _ =>
    ret_effect fun _ hk => ⟨trivial, fun _ => hk.2 trivial⟩
  exact transitionActivateGroup_effect.pre fun _ _ hk => ⟨trivial, hk.2⟩

theorem stateDeactivateGroup_effect :
    Triple (effects inv quiet) (Calm quiet True) stateDeactivateGroup fun r =>
      Calm quiet (calmIn r) := by
  refine Triple.bind (Q := fun _ => Calm quiet True) (read_effect fun _ _ hk => hk) fun b =>
    Triple.ite (fun _ => ?_) fun _ => ret_effect fun _ hk => ⟨trivial, fun _ => hk.2 trivial⟩
  refine Triple.bind ctrl_effect fun r => Triple.ite
    (fun _ => ret_effect fun _ hk => ⟨trivial, fun _ => hk.2 trivial⟩) fun _ => ?_
  exact transitionActivateGroup_effect.pre fun _ _ hk => ⟨trivial, hk.2⟩

variable (hd : Deactivates inv quiet)

include hd

/-- Deactivating the current group leaves nothing active. -/
theorem deactivateCurrent_effect {c : Prop} :
    Triple (effects inv quiet) (Calm quiet c) deactivateCurrent fun _ => Calm quiet True := by
  refine Triple.bind ctrl_effect fun r => Triple.ite (fun _ => ?_) fun hr => ?_
  · exact modify_effect fun v hi _ => ⟨.deactivate, trivial, fun _ => hd.current v hi⟩
  · have hnone : r.currentActiveGroup = 0 := by simpa using hr
    refine Triple.ret (stable_knows _ _) fun v hi hk => ⟨trivial, fun _ => ?_⟩
    exact hd.none v hi (hk.1.2 ▸ hnone)

theorem transitionDeactivateGroup_effect {c : Prop} :
    Triple (effects inv quiet) (Calm quiet c) transitionDeactivateGroup fun r =>
      Calm quiet (calmIn r) := by
  refine Triple.bind (deactivateCurrent_effect hd) fun _ => ?_
  refine Triple.bind (Q := fun _ => Calm quiet True) ?_ fun _ => ret_effect fun _ hk => hk
  exact record_effect (fun _ => rfl) (fun _ => rfl) (fun _ => rfl) (fun _ h => h) fun _ _ h => h

theorem transitionResetScan_effect {c : Prop} :
    Triple (effects inv quiet) (Calm quiet c) transitionResetScan fun r =>
      Calm quiet (calmIn r) := by
  refine Triple.bind (deactivateCurrent_effect hd) fun _ => ?_
  refine Triple.bind (Q := fun _ => Calm quiet True) (modify_effect fun v _ hk => ?_) fun _ =>
    ret_effect fun _ hk => hk
  exact ⟨.own ⟨.inr ⟨rfl, hk.2 trivial⟩, .inl rfl⟩, hk⟩

theorem compareGroups_effect :
    Triple (effects inv quiet) (Calm quiet False) compareGroups fun r => Calm quiet (calmIn r) := by
  have htimer : Triple (effects inv quiet) (Calm quiet False) startFailOverTimer
      fun _ => Calm quiet False :=
    record_effect (fun _ => rfl) (fun _ => rfl) (fun _ => rfl) (fun _ h => h) fun _ _ h => h
  refine Triple.bind ctrl_effect fun r => Triple.ite (fun _ => ?_) fun _ => ?_
  · refine Triple.bind (Q := fun _ => Calm quiet False)
      (read_effect fun _ _ _ => ⟨trivial, False.elim⟩) fun count => ?_
    refine Triple.ite (fun _ => ?_) fun _ => Triple.ite (fun _ => ?_) fun _ => ret_active id
    · exact Triple.bind htimer fun _ => transitionDeactivateGroup_effect hd
    · refine Triple.bind htimer fun _ => ?_
      refine Triple.bind (Q := fun _ => Calm quiet False)
        (record_effect (fun _ => rfl) (fun _ => rfl) (fun _ => rfl) (fun _ h => h) fun _ _ h => h)
        fun _ => ?_
      exact Triple.bind (Q := fun _ => Calm quiet False)
        (record_effect (fun _ => rfl) (fun _ => rfl) (fun _ => rfl) (fun _ h => h) fun _ _ h => h)
        fun _ => ret_active id
  · refine Triple.bind (Q := fun _ => Calm quiet False) ?_ fun _ => ret_active id
    refine record_effect (fun _ => rfl) (fun v => ?_) (fun v => ?_) (fun _ _ => trivial) fun _ _ h => h
    · simp only [FailOverView.mapCtrl]
      split <;> rfl
    · simp only [FailOverView.mapCtrl]
      split <;> rfl

theorem stateGroupActive_effect :
    Triple (effects inv quiet) (Calm quiet False) stateGroupActive fun r =>
      Calm quiet (calmIn r) := by
  have hweak : ∀ r v, inv v → Knows quiet (fun t => True ∧ t.ctrl = r) (fun _ => False) v →
      Calm quiet False v := fun _ _ _ hk => ⟨trivial, hk.2⟩
  refine Triple.bind ctrl_effect fun r => Triple.ite (fun _ => ?_) fun _ => Triple.ite (fun _ => ?_)
    fun _ => ?_
  · exact (transitionDeactivateGroup_effect hd).pre (hweak r)
  · exact (transitionResetScan_effect hd).pre (hweak r)
  · exact Triple.bind ((markHighPriorityGroup_effect false).pre (hweak r)) fun _ =>
      compareGroups_effect hd

theorem stateRestorationWait_effect :
    Triple (effects inv quiet) (Calm quiet False) stateRestorationWait fun r =>
      Calm quiet (calmIn r) := by
  have hrecord : ∀ (l : Site) (f : FailOverView → FailOverView),
      (∀ v, f v = { v with self := (f v).self }) →
      (∀ v, (f v).self.ctrl.currentActiveGroup = v.self.ctrl.currentActiveGroup) →
      (∀ v, (f v).self.ctrl.failOverType = v.self.ctrl.failOverType) →
      Triple (effects inv quiet) (Calm quiet False) (.modify l f) fun _ => Calm quiet False :=
    fun _ _ hf hgroup hswap => record_effect hf hgroup hswap (fun _ h => h) fun _ _ h => h
  refine Triple.bind ctrl_effect fun r => Triple.ite (fun _ => ?_) fun _ => ?_
  · exact (transitionDeactivateGroup_effect hd).pre fun _ _ hk => ⟨trivial, hk.2⟩
  refine Triple.bind (Q := fun _ => Calm quiet False)
    (read_effect fun _ _ _ => ⟨trivial, False.elim⟩) fun answer => ?_
  cases answer with
  | down =>
    refine Triple.bind (hrecord _ _ (fun _ => rfl) (fun _ => rfl) fun _ => rfl) fun _ => ?_
    exact Triple.bind (hrecord _ _ (fun _ => rfl) (fun _ => rfl) fun _ => rfl) fun _ => ret_active id
  | expired valid =>
    exact Triple.bind (hrecord _ _ (fun _ => rfl) (fun _ => rfl) fun _ => rfl) fun _ =>
      transitionDeactivateGroup_effect hd
  | wait => exact ret_active id

omit hd

/-! ## A tick -/

/-- Nothing is active, unless the machine is in a state in which something may be. -/
def calmPhase : FailOverPhase → Prop
  | .loop st => calmIn st
  | .idle | .waitExit => True

def Rests (quiet : List WanIface → Prop) : FailOverView → Prop :=
  Knows quiet (fun _ => True) fun t => calmPhase t.phase

/-- The thread arrives in a phase. -/
theorem setPhase_effect {A : FailOverThread → Prop} {c : Prop} (p : FailOverPhase)
    (h : calmPhase p → c) :
    Triple (effects inv quiet) (Knows quiet A fun _ => c) (setPhase p) fun _ => Rests quiet :=
  record_effect (fun _ => rfl) (fun _ => rfl) (fun _ => rfl) (fun _ _ => trivial) fun _ _ => h

theorem updateFOControllerData_effect {c : Prop} :
    Triple (effects inv quiet) (Calm quiet c) updateFOControllerData fun _ => Calm quiet c :=
  modify_effect fun _ _ hk => ⟨.config, hk⟩

include hd in
theorem failOverLoop_effect (st : FailOverState) :
    Triple (effects inv quiet) (Calm quiet (calmIn st)) (failOverLoop st) fun _ => Rests quiet := by
  have harrive : ∀ st, Triple (effects inv quiet) (Calm quiet (calmIn st))
      (setPhase (.loop st)) fun _ => Rests quiet := fun st => setPhase_effect (.loop st) id
  refine Triple.bind updateFOControllerData_effect fun _ => ?_
  refine Triple.bind ifaceGroupMonitor_effect fun _ => ?_
  cases st with
  | scanningGroup => exact Triple.bind stateScanningGroup_effect harrive
  | groupActive => exact Triple.bind (stateGroupActive_effect hd) harrive
  | restorationWait => exact Triple.bind (stateRestorationWait_effect hd) harrive
  | deactivateGroup => exact Triple.bind stateDeactivateGroup_effect harrive
  | exit | error => exact setPhase_effect .waitExit fun _ => trivial

theorem startDeactivated_effect :
    Triple (effects inv quiet) (Calm quiet True) startDeactivated fun _ => Calm quiet True := by
  refine Triple.bind ctrl_effect fun r => Triple.ite (fun hr => ?_) fun _ =>
    ret_effect fun _ hk => ⟨trivial, hk.2⟩
  refine Triple.bind totalNoOfGroups_effect fun n => ?_
  have hloop : Triple (effects inv quiet)
      (Knows quiet (fun t => True ∧ t.ctrl = r) fun _ => True)
      (Prog.forEach (List.range n) fun i => Prog.modify (.transitionStart i) (deactivateState i))
      fun _ => Knows quiet (fun t => True ∧ t.ctrl = r) fun _ => True := by
    refine Triple.forEach (stable_knows _ _) fun i _ => frame_effect (fun v hv => ?_) (fun _ => rfl)
      fun _ => by simp [deactivateState]
    exact .deactivated (hv.2 ▸ hr)
  exact hloop.mono (fun _ _ hk => hk) fun _ _ _ hk => ⟨trivial, hk.2⟩

theorem failOverCtrlInit_effect :
    Triple (effects inv quiet) (Calm quiet True) failOverCtrlInit fun _ => Calm quiet True := by
  refine Triple.bind (Q := fun _ => Calm quiet True) (modify_effect fun v _ hk => ?_) fun _ => ?_
  · exact ⟨.own ⟨.inr ⟨rfl, hk.2 trivial⟩, .inr (.inl rfl)⟩, hk⟩
  refine Triple.bind (Q := fun _ => Calm quiet True) (read_effect fun _ _ hk => hk) fun n => ?_
  refine Triple.bind (Q := fun _ => Calm quiet True) ?_ fun _ => ?_
  · exact Triple.forEach (stable_knows _ _) fun i _ =>
      frame_effect (fun _ _ => .available) (addInterfaceAvailable_self i) (addInterfaceAvailable_ifaces i)
  refine modify_effect fun v _ hk => ⟨.own ⟨.inl rfl, ?_⟩, hk⟩
  cases hp : v.shared.outside.psmFailOverType with
  | none => exact .inl (by simp)
  | some ty => exact .inr (.inr (by simp))

theorem failOverStart_effect :
    Triple (effects inv quiet) (Calm quiet True) failOverStart fun _ => Rests quiet := by
  refine Triple.bind failOverCtrlInit_effect fun _ => ?_
  refine Triple.bind updateFOControllerData_effect fun _ => ?_
  refine Triple.bind (Q := fun _ => Calm quiet True) ?_ fun st => ?_
  · refine Triple.bind (Q := fun _ => Calm quiet True) (modify_effect fun v _ hk => ?_) fun _ => ?_
    · exact ⟨.own ⟨.inr ⟨rfl, hk.2 trivial⟩, .inl rfl⟩, hk⟩
    · exact Triple.bind startDeactivated_effect fun _ => ret_effect fun _ hk => hk
  · refine Triple.bind ifaceGroupMonitor_effect fun _ => ?_
    exact setPhase_effect (.loop st) fun _ => trivial

theorem selectionThreadRunning_effect {c : Prop} (is : List Nat) :
    Triple (effects inv quiet) (Calm quiet c) (selectionThreadRunning is) fun _ => Calm quiet c := by
  induction is with
  | nil => exact ret_effect fun _ hk => hk
  | cons i is ih =>
    refine Triple.bind (Q := fun _ => Calm quiet c) (read_effect fun _ _ hk => hk) fun b => ?_
    exact Triple.bind ih fun b' => ret_effect fun _ hk => hk

include hd in
/-- Every section of a tick of the failover thread is one of the steps of `Effect`. -/
theorem failOverTick_effect :
    Triple (effects inv quiet) (Rests quiet) failOverTick fun _ => Rests quiet := by
  refine Triple.bind (Q := fun p => Knows quiet (fun t => t.phase = p) fun _ => calmPhase p)
    (read_effect fun v _ hk => ⟨rfl, hk.2⟩) fun p => ?_
  cases p with
  | idle =>
    refine Triple.bind (Q := fun _ => Knows quiet (fun t => t.phase = .idle) fun _ => True)
      (read_effect fun _ _ hk => hk) fun en => Triple.ite (fun _ => ?_) fun _ => ?_
    · exact failOverStart_effect.pre fun _ _ hk => ⟨trivial, hk.2⟩
    · exact ret_effect fun v hk => ⟨trivial, fun _ => hk.2 trivial⟩
  | loop st => exact (failOverLoop_effect hd st).pre fun _ _ hk => ⟨trivial, hk.2⟩
  | waitExit =>
    refine Triple.bind (Q := fun _ => Knows quiet (fun _ => True) fun _ => True)
      (read_effect fun _ _ hk => ⟨trivial, hk.2⟩) fun n => ?_
    refine Triple.bind (selectionThreadRunning_effect _) fun b => Triple.ite (fun _ => ?_) fun _ => ?_
    · exact ret_effect fun v hk => ⟨trivial, fun _ => hk.2 trivial⟩
    · exact setPhase_effect .idle fun _ => trivial

end Functions
end Failover
end WanManager
