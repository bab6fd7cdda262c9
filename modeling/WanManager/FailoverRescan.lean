import WanManager.FailoverPool

/-! # Rescan requests

`WanMgr_UpdateFOControllerData` copies `ResetFailOverScan` into the controller and clears
it in every tick, but only `State_GroupActive` looks at the copy, and only with WAN
enabled. A request taken in any other state of an activated machine is overwritten by the
next tick, unless another one was made in between.
-/

namespace WanManager
open Concurrency

namespace Failover

/-- A request was made since the last rescan, and since the last tick that scans anyway. -/
def RescanOwed (v : FailOverView) : Prop := v.self.rescanServed < v.shared.rescanRequests

/-- The law: what is owed is still recorded, in the global flag or in the controller. -/
def RescanRecorded (v : FailOverView) : Prop :=
  RescanOwed v → v.shared.config.resetFailOverScan = true ∨ v.self.ctrl.resetScan = true

/-- The last tick took a request and could not serve it. -/
def tookLate (t : FailOverThread) : Bool :=
  match t.tookRequestIn with
  | some (.restorationWait, _) | some (.deactivateGroup, _) | some (.groupActive, false) => true
  | _ => false

/-- After a request that could not be served, the next tick finds another one, or ends
the machine. -/
def RequestRepeated (l : Site) (v : FailOverView) : Prop :=
  l = .updateFOControllerData → tookLate v.self = true →
    v.shared.config.resetFailOverScan = true ∨ scansAnyway v.self.phase = true

instance (l : Site) (v : FailOverView) : Decidable (RequestRepeated l v) :=
  inferInstanceAs (Decidable (_ → _ → _))

/-! ## The invariant -/

/-- The last tick took its request in a state that is neither a scan nor the end. -/
def TookActive (t : FailOverThread) : Prop :=
  ∃ st en, t.tookRequestIn = some (st, en) ∧ scansAnyway (.loop st) = false

/-- What is owed is in the flag, or in the controller since the last tick. -/
def Kept (v : FailOverView) : Prop :=
  RescanOwed v → v.shared.config.resetFailOverScan = true ∨
    (v.self.ctrl.resetScan = true ∧ TookActive v.self)

theorem Kept.recorded {v : FailOverView} (h : Kept v) : RescanRecorded v :=
  fun ho => (h ho).imp_right And.left

/-- Nothing was taken by an enabled `GROUP_ACTIVE` that is still in the controller. -/
def TakenServed (t : FailOverThread) : Prop :=
  t.tookRequestIn = some (.groupActive, true) → t.ctrl.resetScan = false

/-- Between two ticks: a request taken by an enabled `GROUP_ACTIVE` was served, and a
machine that is not running holds none. -/
structure Settled (t : FailOverThread) : Prop where
  served : TakenServed t
  stopped : t.phase = .idle ∨ t.phase = .waitExit → ¬ TookActive t

abbrev rescanProtocol : Protocol Site Unit FailOverView := ownProtocol Kept Settled RequestRepeated

abbrev rescanContract : Contract Site FailOverView := rescanProtocol.contract ()

/-- The invariant only reads the flag, the counters and the controller's copy. -/
theorem Kept.transfer {v v' : FailOverView} (h : Kept v)
    (hreq : v'.shared.rescanRequests = v.shared.rescanRequests)
    (hflag : v'.shared.config.resetFailOverScan = v.shared.config.resetFailOverScan)
    (hserved : v'.self.rescanServed = v.self.rescanServed)
    (hscan : v'.self.ctrl.resetScan = v.self.ctrl.resetScan)
    (htook : v'.self.tookRequestIn = v.self.tookRequestIn) : Kept v' := by
  intro ho
  rw [RescanOwed, hreq, hserved] at ho
  obtain hf | ⟨hs, st, en, ht, hst⟩ := h ho
  · exact .inl (hflag ▸ hf)
  · exact .inr ⟨hscan ▸ hs, st, en, htook ▸ ht, hst⟩

theorem Kept.env {v v' : FailOverView} (h : Kept v) (he : Environment v v') : Kept v' := by
  obtain ⟨hself, hcount, hflag⟩ := he
  intro ho
  by_cases hlt : v.shared.rescanRequests < v'.shared.rescanRequests
  · exact .inl (by simp [hflag, hlt])
  · have heq : v'.shared.rescanRequests = v.shared.rescanRequests := by omega
    rw [RescanOwed, heq, hself] at ho
    obtain hf | hs := h ho
    · exact .inl (by simp [hflag, hf])
    · exact .inr (hself ▸ hs)

/-- The section that takes the configuration. What was owed is in the flag, which is
taken, or in the controller, where only a late request can still be. -/
theorem Kept.takeConfig {v : FailOverView} (h : Kept v) (hset : Settled v.self)
    (hg : RequestRepeated .updateFOControllerData v) : Kept (takeConfig v) := by
  intro ho
  cases hactive : scansAnyway v.self.phase with
  | true => simp [RescanOwed, Failover.takeConfig, hactive] at ho
  | false =>
    have howed : RescanOwed v := by simpa [RescanOwed, Failover.takeConfig, hactive] using ho
    have hflag : v.shared.config.resetFailOverScan = true := by
      obtain hf | ⟨hs, st, en, ht, hst⟩ := h howed
      · exact hf
      · have hlate : tookLate v.self = true := by
          have hne : (st, en) ≠ (.groupActive, true) := by
            intro he
            rw [he] at ht
            rw [hset.served ht] at hs
            cases hs
          cases st <;> cases en <;> simp_all [tookLate, scansAnyway]
        simpa [hactive] using hg rfl hlate
    cases hp : v.self.phase with
    | loop st =>
      refine .inr ⟨by simp [Failover.takeConfig, hflag], st, v.shared.config.enable, ?_, by
        simpa [hp] using hactive⟩
      simp [Failover.takeConfig, hp, hflag]
    | idle | waitExit => simp [hp, scansAnyway] at hactive

/-! ## Functions that leave the request alone -/

/-- What the assertions below read of the thread's record. -/
structure RequestKey where
  phase : FailOverPhase
  took : Option (FailOverState × Bool)
  wanEnable : Bool
  resetScan : Bool

def requestKey (t : FailOverThread) : RequestKey where
  phase := t.phase
  took := t.tookRequestIn
  wanEnable := t.ctrl.wanEnable
  resetScan := t.ctrl.resetScan

section Functions

variable {A : FailOverThread → Prop} {B : RequestKey → Prop}

/-- A section that only changes the parts of the record no assertion reads. -/
theorem modify_rescan {l : Site} {f : FailOverView → FailOverView}
    (hA : ∀ t, A t → B (requestKey t))
    (hreq : ∀ v, (f v).shared.rescanRequests = v.shared.rescanRequests)
    (hflag : ∀ v, (f v).shared.config.resetFailOverScan = v.shared.config.resetFailOverScan)
    (hserved : ∀ v, (f v).self.rescanServed = v.self.rescanServed)
    (hkey : ∀ v, requestKey (f v).self = requestKey v.self) :
    Triple rescanContract (Own A) (.modify l f) fun _ => Own fun t => B (requestKey t) := by
  refine modify_own fun v hi _ h => ⟨?_, by rw [hkey]; exact hA _ h⟩
  have hk := hkey v
  simp only [requestKey, RequestKey.mk.injEq] at hk
  obtain ⟨-, htook, -, hscan⟩ := hk
  exact hi.transfer (hreq v) (hflag v) (hserved v) hscan htook

/-- A section that only changes the controller, and there none of the flags. -/
theorem setCtrl_rescan {f : FailOverController → FailOverController}
    (hA : ∀ t, A t → B (requestKey t))
    (hf : ∀ c, (f c).wanEnable = c.wanEnable ∧ (f c).resetScan = c.resetScan) :
    Triple rescanContract (Own A) (setCtrl f) fun _ => Own fun t => B (requestKey t) :=
  modify_rescan hA (fun _ => rfl) (fun _ => rfl) (fun _ => rfl) fun v => by
    simp [requestKey, FailOverView.mapCtrl, hf]

theorem trace_rescan {e : FailOverEvent} (hA : ∀ t, A t → B (requestKey t)) :
    Triple rescanContract (Own A) (trace e) fun _ => Own fun t => B (requestKey t) :=
  modify_rescan hA (fun _ => rfl) (fun _ => rfl) (fun _ => rfl) fun _ => rfl

theorem kept_monitorGroup (i : Nat) (v : FailOverView) (h : Kept v) : Kept (monitorGroup i v) := by
  refine h.transfer ?_ ?_ (by simp) (by simp) (by simp) <;>
    · unfold monitorGroup
      split
      · rfl
      · split
        · split <;> simp
        · rfl

/-- Marking a group can only change a group's state. -/
theorem markGroup_shared (w : Bool) (i : Nat) (v : FailOverView) :
    (markGroup w i v).2.shared = v.shared ∨
      ∃ f, (markGroup w i v).2.shared = v.shared.modifyGroup (i + 1) f := by
  cases hg : v.shared.groups[i]? with
  | none => exact .inl (by simp [markGroup, hg])
  | some g =>
    have hshared : ∀ (c : Prop) [Decidable c] (a b : Shared), (if c then a else b) = b ∨
        (if c then a else b) = a := by
      intro c _ a b
      by_cases hc : c <;> simp [hc]
    simp only [markGroup, hg, FailOverView.mapCtrl]
    split <;> exact (hshared _ _ _).imp_right fun h => ⟨_, h⟩

theorem kept_markGroup (w : Bool) (i : Nat) (v : FailOverView) (h : Kept v) :
    Kept (markGroup w i v).2 := by
  obtain ⟨g, hself⟩ := markGroup_self w i v
  obtain hs | ⟨f, hs⟩ := markGroup_shared w i v <;>
    exact h.transfer (by simp [hs]) (by simp [hs]) (by rw [hself]) (by rw [hself])
      (by rw [hself])

theorem kept_deactivateGroup {v : FailOverView} (g : Nat) (h : Kept v) :
    Kept { v with shared := deactivateGroup g v.shared } := by
  refine h.transfer ?_ ?_ rfl rfl rfl <;>
    · simp only [deactivateGroup]
      split
      · rfl
      · split <;> rfl

theorem kept_stopGroup (i : Nat) (v : FailOverView) (h : Kept v) : Kept (stopGroup i v) :=
  h.transfer (by simp [stopGroup]) (by simp [stopGroup]) rfl rfl rfl

theorem markHighPriorityGroup_rescan {w : Bool} :
    Triple rescanContract (Own fun t => B (requestKey t)) (markHighPriorityGroup w)
      fun _ => Own fun t => B (requestKey t) :=
  markHighPriorityGroup_own (fun _ _ h => h) (fun _ hi => hi.transfer rfl rfl rfl rfl rfl)
    fun i _ hi _ => kept_markGroup w i _ hi

theorem activateGroup_flags (g : Nat) (s : Shared) :
    (activateGroup g s).rescanRequests = s.rescanRequests ∧
      (activateGroup g s).config = s.config := by
  unfold activateGroup
  split
  · exact ⟨rfl, rfl⟩
  · split
    · simp [Shared.setSelectionStatus, Shared.modifyIface]
    · exact ⟨rfl, rfl⟩

theorem activationTelemetry_flags (c : FailOverController) :
    (activationTelemetry c).wanEnable = c.wanEnable ∧
      (activationTelemetry c).resetScan = c.resetScan := by
  unfold activationTelemetry
  split
  · exact ⟨rfl, rfl⟩
  · split
    · exact ⟨rfl, rfl⟩
    · split <;> exact ⟨rfl, rfl⟩

theorem transitionActivateGroup_rescan :
    Triple rescanContract (Own fun t => B (requestKey t)) transitionActivateGroup
      fun _ => Own fun t => B (requestKey t) := by
  refine Triple.bind ctrl_own fun c => Triple.ite (fun _ => ?_) fun _ => ?_
  · refine Triple.bind (setCtrl_rescan (fun t h => h.1) activationTelemetry_flags) fun _ => ?_
    refine Triple.bind (modify_rescan (fun t h => h) (fun _ => (activateGroup_flags _ _).1)
      (fun v => ?_) (fun _ => rfl) fun v => rfl) fun _ => ?_
    · have hcfg := (activateGroup_flags v.self.ctrl.highestValidGroup v.shared).2
      simp [activateHighest, FailOverView.mapCtrl, FailOverView.traceEvent, hcfg]
    exact Triple.bind (stopLowerGroups_own fun i v hi => kept_stopGroup i v hi) fun _ =>
      ret_own fun _ h => h
  · exact Triple.bind (modify_rescan (fun t h => h.1) (fun _ => rfl) (fun _ => rfl) (fun _ => rfl)
      fun v => rfl) fun _ => ret_own fun _ h => h

theorem transitionDeactivateGroup_rescan :
    Triple rescanContract (Own fun t => B (requestKey t)) transitionDeactivateGroup
      fun _ => Own fun t => B (requestKey t) := by
  refine Triple.bind (deactivateCurrent_own fun _ g hi => kept_deactivateGroup g hi) fun _ => ?_
  exact Triple.bind (trace_rescan fun _ h => h) fun _ => ret_own fun _ h => h

theorem transitionRestoration_rescan :
    Triple rescanContract (Own fun t => B (requestKey t)) transitionRestoration
      fun _ => Own fun t => B (requestKey t) := by
  refine Triple.bind (modify_rescan (fun _ h => h) (fun _ => rfl) (fun _ => rfl) (fun _ => rfl)
    fun _ => rfl) fun _ => ?_
  exact Triple.bind (trace_rescan fun _ h => h) fun _ => ret_own fun _ h => h

theorem stateScanningGroup_rescan :
    Triple rescanContract (Own fun t => B (requestKey t)) stateScanningGroup
      fun _ => Own fun t => B (requestKey t) := by
  refine Triple.bind ctrl_own fun c => Triple.ite (fun _ => ret_own fun _ h => h.1) fun _ => ?_
  refine (Triple.bind markHighPriorityGroup_rescan fun _ => ?_).pre fun _ _ h => h.1
  refine Triple.bind ctrl_own fun c => Triple.ite (fun _ => ?_) fun _ => ret_own fun _ h => h.1
  exact transitionActivateGroup_rescan.pre fun _ _ h => h.1

theorem compareGroups_rescan :
    Triple rescanContract (Own fun t => B (requestKey t)) compareGroups
      fun _ => Own fun t => B (requestKey t) := by
  refine Triple.bind ctrl_own fun c => Triple.ite (fun _ => ?_) fun _ => ?_
  · refine Triple.bind (Q := fun _ => Own fun t => B (requestKey t))
      (read_own fun _ _ _ h => h.1) fun count => ?_
    have htimer : Triple rescanContract (Own fun t => B (requestKey t)) startFailOverTimer
        fun _ => Own fun t => B (requestKey t) :=
      modify_rescan (fun _ h => h) (fun _ => rfl) (fun _ => rfl) (fun _ => rfl) fun _ => rfl
    refine Triple.ite (fun _ => ?_) fun _ => Triple.ite (fun _ => ?_) fun _ => ret_own fun _ h => h
    · exact Triple.bind htimer fun _ => transitionDeactivateGroup_rescan
    · exact Triple.bind htimer fun _ => transitionRestoration_rescan
  · refine Triple.bind (setCtrl_rescan (fun t h => h.1) fun c => ?_) fun _ => ret_own fun _ h => h
    split <;> exact ⟨rfl, rfl⟩

theorem stateRestorationWait_rescan :
    Triple rescanContract (Own fun t => B (requestKey t)) stateRestorationWait
      fun _ => Own fun t => B (requestKey t) := by
  refine Triple.bind ctrl_own fun c => Triple.ite (fun _ => ?_) fun _ => ?_
  · exact transitionDeactivateGroup_rescan.pre fun _ _ h => h.1
  refine Triple.bind (Q := fun _ => Own fun t => B (requestKey t))
    (read_own fun _ _ _ h => h.1) fun r => ?_
  cases r with
  | down =>
    refine Triple.bind (setCtrl_rescan (fun _ h => h) fun _ => ⟨rfl, rfl⟩) fun _ => ?_
    exact Triple.bind (trace_rescan fun _ h => h) fun _ => ret_own fun _ h => h
  | expired valid => exact Triple.bind (trace_rescan fun _ h => h) fun _ =>
      transitionDeactivateGroup_rescan
  | wait => exact ret_own fun _ h => h

theorem stateDeactivateGroup_rescan :
    Triple rescanContract (Own fun t => B (requestKey t)) stateDeactivateGroup
      fun _ => Own fun t => B (requestKey t) := by
  refine Triple.bind (Q := fun _ => Own fun t => B (requestKey t))
    (read_own fun _ _ _ h => h) fun b => Triple.ite (fun _ => ?_) fun _ => ret_own fun _ h => h
  refine Triple.bind ctrl_own fun c => Triple.ite (fun _ => ret_own fun _ h => h.1) fun _ => ?_
  exact transitionActivateGroup_rescan.pre fun _ _ h => h.1

end Functions

/-! ## The loop -/

/-- What a tick has taken, in a machine that is in `st`. -/
def Took (st : FailOverState) (k : RequestKey) : Prop :=
  k.took = none ∨ k.took = some (st, k.wanEnable)

theorem updateFOControllerData_rescan {p : FailOverPhase} :
    Triple rescanContract (Own fun t => Settled t ∧ t.phase = p) updateFOControllerData
      fun _ => Own fun t => t.phase = p ∧
        match p with
        | .loop st => Took st (requestKey t)
        | _ => t.tookRequestIn = none := by
  refine modify_own fun v hi hg ⟨hset, hp⟩ => ⟨hi.takeConfig hset hg, hp, ?_⟩
  cases p with
  | loop st =>
    by_cases hflag : v.shared.config.resetFailOverScan = true <;>
      simp [Took, requestKey, takeConfig, hp, hflag]
  | idle | waitExit => simp [takeConfig, hp]

/-- The rescan: the request is no longer owed. -/
theorem transitionResetScan_rescan {A : FailOverThread → Prop} :
    Triple rescanContract (Own A) transitionResetScan
      fun _ => Own fun t => t.ctrl.resetScan = false := by
  refine Triple.bind (deactivateCurrent_own fun _ g hi => kept_deactivateGroup g hi) fun _ => ?_
  refine Triple.bind (modify_own fun v _ _ _ => ⟨fun ho => ?_, rfl⟩) fun _ => ret_own fun _ h => h
  exact absurd ho (Nat.lt_irrefl _)

/-- With WAN enabled, a request taken by `State_GroupActive` is served in the same tick. -/
theorem stateGroupActive_rescan :
    Triple rescanContract (Own fun t => Took .groupActive (requestKey t)) stateGroupActive
      fun _ => Own TakenServed := by
  refine Triple.bind ctrl_own fun c => Triple.ite (fun hen => ?_) fun _ => ?_
  · refine (transitionDeactivateGroup_rescan (B := fun k =>
      k.took ≠ some (.groupActive, true))).mono (fun v _ h => ?_) fun _ v _ hne ht => ?_
    · obtain ⟨ht, rfl⟩ := h
      show v.self.tookRequestIn ≠ _
      obtain ht | ht := ht
      · rw [show v.self.tookRequestIn = none from ht]
        simp
      · rw [show v.self.tookRequestIn = some (.groupActive, v.self.ctrl.wanEnable) from ht, hen]
        simp
    · exact absurd ht hne
  refine Triple.ite (fun _ => ?_) fun hscan => ?_
  · exact transitionResetScan_rescan.mono (fun _ _ h => h) fun _ _ _ h _ => h
  · have hclear : ∀ t : FailOverThread, Took .groupActive (requestKey t) ∧ t.ctrl = c →
        t.ctrl.resetScan = false := by
      rintro t ⟨-, rfl⟩
      simpa using hscan
    refine (Triple.bind (markHighPriorityGroup_rescan (B := fun k => k.resetScan = false)) fun _ =>
      (compareGroups_rescan (B := fun k => k.resetScan = false))).mono
        (fun v _ h => hclear v.self h) fun _ _ _ h _ => h

/-- The tick of a state that is not `GROUP_ACTIVE` cannot have taken its request there. -/
theorem Took.served {st : FailOverState} {t : FailOverThread} (h : Took st (requestKey t))
    (hst : st ≠ .groupActive) : TakenServed t := by
  intro ht
  obtain hnone | hsome := h
  · rw [show t.tookRequestIn = none from hnone] at ht
    cases ht
  · rw [show t.tookRequestIn = some (st, t.ctrl.wanEnable) from hsome] at ht
    simp only [Option.some.injEq, Prod.mk.injEq] at ht
    exact absurd ht.1 hst

/-- The end of an iteration that goes on. -/
theorem setPhase_rescan {A : FailOverThread → Prop} {st : FailOverState}
    (hA : ∀ t, A t → TakenServed t) :
    Triple rescanContract (Own A) (setPhase (.loop st)) fun _ => Own Settled :=
  modify_own fun v hi _ h => ⟨hi.transfer rfl rfl rfl rfl rfl,
    ⟨hA v.self h, fun hp => by simp [FailOverView.setPhase] at hp⟩⟩

/-- A state function that keeps what was taken ends its iteration. -/
theorem stateTick_rescan {st : FailOverState} {p : FailOverProg FailOverState}
    (hst : st ≠ .groupActive)
    (hp : Triple rescanContract (Own fun t => Took st (requestKey t)) p
      fun _ => Own fun t => Took st (requestKey t)) :
    Triple rescanContract (Own fun t => Took st (requestKey t))
      (p >>= fun st' => setPhase (.loop st')) fun _ => Own Settled :=
  Triple.bind hp fun _ => setPhase_rescan fun _ h => h.served hst

theorem waitExit_rescan {st : FailOverState} (hst : scansAnyway (.loop st) = true) :
    Triple rescanContract (Own fun t => Took st (requestKey t)) (setPhase .waitExit)
      fun _ => Own Settled := by
  refine modify_own fun v hi _ h => ⟨hi.transfer rfl rfl rfl rfl rfl, ?_, ?_⟩
  · exact Took.served h fun he => by simp [he, scansAnyway] at hst
  · rintro - ⟨st', en, ht, hact⟩
    have ht' : v.self.tookRequestIn = some (st', en) := ht
    obtain h | h := h
    · rw [show v.self.tookRequestIn = none from h] at ht'
      cases ht'
    · rw [show v.self.tookRequestIn = some (st, v.self.ctrl.wanEnable) from h] at ht'
      simp only [Option.some.injEq, Prod.mk.injEq] at ht'
      rw [← ht'.1, hst] at hact
      cases hact

theorem failOverLoop_rescan (st : FailOverState) :
    Triple rescanContract (Own fun t => Settled t ∧ t.phase = .loop st) (failOverLoop st)
      fun _ => Own Settled := by
  refine Triple.bind updateFOControllerData_rescan fun _ => ?_
  refine (Triple.bind (Q := fun _ => Own fun t => Took st (requestKey t))
    (ifaceGroupMonitor_own kept_monitorGroup) fun _ => ?_).pre fun _ _ h => h.2
  cases st with
  | scanningGroup => exact stateTick_rescan (by simp) stateScanningGroup_rescan
  | groupActive => exact Triple.bind stateGroupActive_rescan fun _ => setPhase_rescan fun _ h => h
  | restorationWait => exact stateTick_rescan (by simp) stateRestorationWait_rescan
  | deactivateGroup => exact stateTick_rescan (by simp) stateDeactivateGroup_rescan
  | exit | error => exact waitExit_rescan rfl

/-! ## The thread -/

theorem failOverStart_rescan :
    Triple rescanContract (Own fun t => Settled t ∧ t.phase = .idle) failOverStart
      fun _ => Own Settled := by
  have hstopped : ∀ t : FailOverThread, Settled t ∧ t.phase = .idle →
      ¬ TookActive t ∧ t.phase = .idle := fun t h => ⟨h.1.stopped (.inl h.2), h.2⟩
  refine (Triple.bind (failOverCtrlInit_own (A := fun t => ¬ TookActive t ∧ t.phase = .idle)
    (fun i v hi => ?_) (fun v c hi h => ?_) fun t c h => h) fun _ => ?_).pre
      fun v _ h => hstopped v.self h
  · refine hi.transfer ?_ ?_ (by simp) (by simp) (by simp) <;>
      · unfold addInterfaceAvailable
        split <;> simp
  · exact fun ho => .inl ((hi ho).resolve_right fun hr => h.1 hr.2)
  refine Triple.bind (Q := fun _ => Own fun t => t.tookRequestIn = none)
    (updateFOControllerData_rescan.mono (fun v _ h => ⟨⟨fun ht => ?_, fun _ => h.1⟩, h.2⟩)
      fun _ _ _ h => h.2) fun _ => ?_
  · exact absurd ⟨_, _, ht, rfl⟩ h.1
  refine Triple.bind (Q := fun _ => Own fun t => t.tookRequestIn = none) ?_ fun st => ?_
  · refine Triple.bind (modify_rescan (B := fun k => k.took = none) (fun _ h => h) (fun _ => rfl)
      (fun _ => rfl) (fun _ => rfl) fun _ => rfl) fun _ => ?_
    exact Triple.bind (startDeactivated_own fun i v hi => hi.transfer (by simp [deactivateState])
      (by simp [deactivateState]) rfl rfl rfl) fun _ => ret_own fun _ h => h
  · refine Triple.bind (ifaceGroupMonitor_own kept_monitorGroup) fun _ => ?_
    exact setPhase_rescan fun t h ht => by rw [h] at ht; cases ht

theorem failOverWaitExit_rescan :
    Triple rescanContract (Own fun t => Settled t ∧ t.phase = .waitExit) failOverWaitExit
      fun _ => Own Settled := by
  refine Triple.bind (Q := fun _ => Own fun t => Settled t ∧ t.phase = .waitExit)
    (read_own fun _ _ _ h => h) fun n => ?_
  refine Triple.bind (selectionThreadRunning_own _) fun b =>
    Triple.ite (fun _ => ret_own fun _ h => h.1) fun _ => ?_
  exact modify_own fun v hi _ h => ⟨hi.transfer rfl rfl rfl rfl rfl,
    ⟨h.1.served, fun _ => h.1.stopped (.inr h.2)⟩⟩

theorem failOverTick_rescan :
    Triple rescanContract (Own Settled) failOverTick fun _ => Own Settled := by
  refine Triple.bind (Q := fun p => Own fun t => Settled t ∧ t.phase = p)
    (read_own fun _ _ _ h => ⟨h, rfl⟩) fun p => ?_
  cases p with
  | idle =>
    refine Triple.bind (Q := fun _ => Own fun t => Settled t ∧ t.phase = .idle)
      (read_own fun _ _ _ h => h) fun b => ?_
    exact Triple.ite (fun _ => failOverStart_rescan) fun _ => ret_own fun _ h => h.1
  | loop st => exact failOverLoop_rescan st
  | waitExit => exact failOverWaitExit_rescan

theorem rescan_sound : pool.Sound rescanProtocol Initial where
  start v h := by
    obtain ⟨hself, hflag, hreq⟩ := h
    refine ⟨fun ho => ?_, fun _ => ⟨fun ht => ?_, fun _ ⟨st, en, ht, _⟩ => ?_⟩⟩
    · simp [RescanOwed, hreq] at ho
    · simp [hself] at ht
    · simp [hself] at ht
  stable _ := stable_own _
  body _ := failOverTick_rescan.pre fun _ _ h => h.1
  env v v' hi he := ⟨hi.env he, fun _ => he.self⟩

/-- In every run in which a request that came too late is repeated before the next tick,
no request is lost. -/
theorem rescan_request_recorded {c : Config Site Unit FailOverView}
    (h : pool.Reach RequestRepeated Initial c) : RescanRecorded c.store :=
  (rescan_sound.reach h).recorded

/-! The machine waits for the restoration delay when a selection thread asks for a rescan. -/

namespace Example

def rescan : pool.Move := after Shared.requestRescan RescanFlow.requestRescan

def waiting : List pool.Move :=
  [enable true, found, found₂, virtIfStatus .validating, enable true, virtIfStatus .standby]

/-- A rescan is asked for while the first group is active, and served. -/
def rescanned : List pool.Move := [enable true, found, rescan]

/-- A request taken in `RESTORATION_WAIT`, and one more tick. -/
def overwritten : List pool.Move := waiting ++ [rescan, virtIfStatus .standby]

end Example

open Example in
theorem rescan_request_recorded_run :
    RescanRecorded (pool.play rescanned start) ∧
      .resetScan ∈ (pool.play rescanned start).self.trace :=
  ⟨rescan_request_recorded (c := Pool.idle (pool.play rescanned start))
    (Pool.Reach.play (.start ⟨rfl, rfl, rfl⟩) (by decide +kernel)), by decide +kernel⟩

open Example in
/-- A request made during the restoration delay is gone after two ticks. -/
theorem rescan_request_lost :
    ¬ ∀ c, pool.Reach (fun _ _ => True) Initial c → RescanRecorded c.store := by
  intro h
  have hrun := h _ (Pool.Reach.play (m := overwritten) (.start (s := start₂) ⟨rfl, rfl, rfl⟩)
    (by decide +kernel))
  have howed : (pool.play overwritten start₂).self.rescanServed <
      (pool.play overwritten start₂).shared.rescanRequests := by decide +kernel
  obtain hflag | hscan := hrun howed
  · exact absurd hflag (by decide +kernel)
  · exact absurd hscan (by decide +kernel)

end Failover
end WanManager
