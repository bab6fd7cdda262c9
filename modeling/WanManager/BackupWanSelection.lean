import WanManager.BackupWanFrame
import Mathlib.Logic.Function.Iterate

/-! # What the selection status tells of the backup machine

`Selection.Status` of the remote interfaces is written by the backup machine alone. In every run it
says where the machine is: an interface is `ACTIVE` exactly while it is the chosen one and the
machine is in `STATE_BACKUP_WAN_INTERFACE_ACTIVE`. -/

namespace WanManager

namespace BackupWan

/-! ## The remote interfaces -/

/-- The selection status of an interface of this type. -/
def Iface.statusAs (t : IfaceType) (d : Iface) : Option SelectionStatus :=
  if d.ifaceType = t then some d.selection.status else none

/-- The selection status of each interface of this type; another one has none here. -/
def statuses (t : IfaceType) (ifaces : List Iface) : List (Option SelectionStatus) :=
  ifaces.map (Iface.statusAs t)

def Machine.remotes (m : Machine) : List (Option SelectionStatus) := statuses .remote m.ifaces

/-- Nothing is active, except maybe the interface `i`. -/
def OnlyActive (i : Nat) (rs : List (Option SelectionStatus)) : Prop :=
  ∀ j : Nat, rs[j]? = some (some SelectionStatus.active) → j = i

def NoneActive (rs : List (Option SelectionStatus)) : Prop :=
  ∀ j : Nat, rs[j]? ≠ some (some SelectionStatus.active)

/-- What the selection status says in each state. -/
def Shows : State → Option Nat → List (Option SelectionStatus) → Prop
  | .selectingInterface, _, rs => NoneActive rs
  | .interfaceDown, idx, rs | .validatingInterface, idx, rs =>
    NoneActive rs ∧ ∃ i s, idx = some i ∧ rs[i]? = some (some s)
  | .available, idx, rs | .interfaceUp, idx, rs | .interfaceInactive, idx, rs =>
    NoneActive rs ∧ ∃ i, idx = some i ∧ rs[i]? = some (some .selected)
  | .waiting, idx, rs => NoneActive rs ∧ ∃ i, idx = some i ∧ rs[i]? = some (some .notSelected)
  | .interfaceActive, idx, rs => ∃ i, idx = some i ∧ rs[i]? = some (some .active) ∧ OnlyActive i rs

/-- The statuses after the interface `i` was given one. -/
def assign (i : Nat) (s : SelectionStatus) (rs : List (Option SelectionStatus)) :
    List (Option SelectionStatus) := rs.modify i (Option.map fun _ => s)

section Lists

variable {i j : Nat} {s s' : SelectionStatus} {rs : List (Option SelectionStatus)}

theorem assign_self (h : rs[i]? = some (some s')) : (assign i s rs)[i]? = some (some s) := by
  simp [assign, h]

theorem assign_ne (h : j ≠ i) : (assign i s rs)[j]? = rs[j]? := by
  simp [assign, Ne.symm h]

theorem OnlyActive.assign (h : OnlyActive i rs) : OnlyActive i (assign i s rs) := by
  intro j hj
  by_contra hne
  rw [assign_ne hne] at hj
  exact hne (h j hj)

theorem OnlyActive.none (h : OnlyActive i rs) (hi : rs[i]? ≠ some (some .active)) : NoneActive rs := by
  intro j hj
  rw [h j hj] at hj
  exact hi hj

theorem NoneActive.assign (h : NoneActive rs) (hs : s ≠ .active) : NoneActive (assign i s rs) := by
  intro j hj
  by_cases hji : j = i
  · subst hji
    rw [BackupWan.assign, List.getElem?_modify_eq] at hj
    cases hr : rs[j]? with
    | none => simp [hr] at hj
    | some r => cases r <;> simp [hr, hs] at hj
  · rw [assign_ne hji] at hj
    exact h j hj

theorem assign_remote (h : rs[j]? = some (some s')) : ∃ s'', (assign i s rs)[j]? = some (some s'') := by
  by_cases hji : j = i
  · subst hji
    exact ⟨s, assign_self h⟩
  · exact ⟨s', (assign_ne hji).trans h⟩

theorem NoneActive.only (h : NoneActive rs) : OnlyActive i rs := fun j hj => absurd hj (h j)

end Lists

/-! ## Writing the fixed interface -/

section Write

variable {m : Machine} {i : Nat} {f : Iface → Iface} {s : SelectionStatus}

theorem statuses_keep (htype : ∀ d, (f d).ifaceType = d.ifaceType)
    (hstatus : ∀ d, (f d).selection.status = d.selection.status) (t : IfaceType) (ifaces : List Iface)
    (i : Nat) : statuses t (ifaces.modify i f) = statuses t ifaces := by
  unfold statuses
  apply List.ext_getElem?
  intro j
  rw [List.getElem?_map, List.getElem?_map, List.getElem?_modify]
  split
  · cases ifaces[j]? <;> simp [Iface.statusAs, htype, hstatus]
  · simp

theorem statuses_assign (htype : ∀ d, (f d).ifaceType = d.ifaceType)
    (hstatus : ∀ d, (f d).selection.status = s) (t : IfaceType) (ifaces : List Iface) (i : Nat) :
    statuses t (ifaces.modify i f) = assign i s (statuses t ifaces) := by
  unfold statuses assign
  apply List.ext_getElem?
  intro j
  rw [List.getElem?_map, List.getElem?_modify, List.getElem?_modify, List.getElem?_map]
  cases ifaces[j]? with
  | none => simp
  | some d => by_cases hr : d.ifaceType = t <;> by_cases hij : i = j <;>
      simp [Iface.statusAs, htype, hstatus, hr, hij]

theorem remotes_keep (htype : ∀ d, (f d).ifaceType = d.ifaceType)
    (hstatus : ∀ d, (f d).selection.status = d.selection.status) (m : Machine) (i : Nat) :
    (m.modifyIface i f).remotes = m.remotes := statuses_keep htype hstatus .remote m.ifaces i

theorem remotes_assign (htype : ∀ d, (f d).ifaceType = d.ifaceType)
    (hstatus : ∀ d, (f d).selection.status = s) (m : Machine) (i : Nat) :
    (m.modifyIface i f).remotes = assign i s m.remotes := statuses_assign htype hstatus .remote m.ifaces i

/-- The machine works on the interface it chose, and no other remote one is active. -/
structure Chosen (i : Nat) (m : Machine) : Prop where
  locked : m.locked = some i
  idx : m.activeInterfaceIdx = some i
  only : OnlyActive i m.remotes
  remote : ∃ s, m.remotes[i]? = some (some s)

theorem Chosen.fixed (h : Chosen i m) : ∃ d, m.fixed? = some d ∧ d.ifaceType = .remote := by
  obtain ⟨s, hs⟩ := h.remote
  unfold Machine.remotes statuses at hs
  rw [List.getElem?_map] at hs
  cases hd : m.ifaces[i]? with
  | none => simp [hd] at hs
  | some d =>
    refine ⟨d, ?_, ?_⟩
    · rw [Machine.fixed?, h.locked, Option.bind_some, hd]
    · by_contra hlocal
      simp [hd, Iface.statusAs, hlocal] at hs

theorem Chosen.remotes_keep (h : Chosen i m) (htype : ∀ d, (f d).ifaceType = d.ifaceType)
    (hstatus : ∀ d, (f d).selection.status = d.selection.status) :
    (m.modifyFixed f).remotes = m.remotes := by
  rw [modifyFixed_eq h.locked]
  exact BackupWan.remotes_keep htype hstatus m i

theorem Chosen.keep (h : Chosen i m) (htype : ∀ d, (f d).ifaceType = d.ifaceType)
    (hstatus : ∀ d, (f d).selection.status = d.selection.status) : Chosen i (m.modifyFixed f) := by
  have hsame := h.remotes_keep htype hstatus
  rw [modifyFixed_eq h.locked] at hsame ⊢
  exact ⟨h.locked, h.idx, hsame ▸ h.only, hsame ▸ h.remote⟩

/-- The chosen interface has this selection status. -/
structure ChosenWith (s : SelectionStatus) (i : Nat) (m : Machine) : Prop extends Chosen i m where
  status : m.remotes[i]? = some (some s)

theorem Chosen.set (h : Chosen i m) (htype : ∀ d, (f d).ifaceType = d.ifaceType)
    (hstatus : ∀ d, (f d).selection.status = s) : ChosenWith s i (m.modifyFixed f) := by
  rw [modifyFixed_eq h.locked]
  obtain ⟨s', hs'⟩ := h.remote
  have hsame := remotes_assign htype hstatus m i
  have hi := assign_self (s := s) hs'
  rw [← hsame] at hi
  exact ⟨⟨h.locked, h.idx, hsame ▸ h.only.assign, s, hi⟩, hi⟩

theorem ChosenWith.keep (h : ChosenWith s i m) (htype : ∀ d, (f d).ifaceType = d.ifaceType)
    (hstatus : ∀ d, (f d).selection.status = d.selection.status) :
    ChosenWith s i (m.modifyFixed f) :=
  ⟨h.toChosen.keep htype hstatus, (h.remotes_keep htype hstatus).symm ▸ h.status⟩

theorem ChosenWith.none (h : ChosenWith s i m) (hs : s ≠ .active) : NoneActive m.remotes := by
  apply h.only.none
  rw [h.status]
  intro heq
  exact hs (Option.some.inj (Option.some.inj heq))

end Write

/-! ## Transitions -/

section Transitions

variable {m : Machine} {i : Nat}

def ShowsIn (r : State × Machine) : Prop := Shows r.1 r.2.activeInterfaceIdx r.2.remotes

theorem Chosen.takeBackRules (h : Chosen i m) (name : String) : Chosen i (takeBackRules name m) := by
  unfold BackupWan.takeBackRules firewallRuleConfig delBackUpIpv6Route
  dsimp only
  split <;> split <;> (try split) <;> exact ⟨h.locked, h.idx, h.only, h.remote⟩

theorem Chosen.switchOverFailed (h : Chosen i m) : Chosen i (switchOverFailed m) := by
  unfold BackupWan.switchOverFailed
  split
  · exact ⟨h.locked, h.idx, h.only, h.remote⟩
  · exact h

theorem Chosen.tearDown (h : Chosen i m) (d : Iface) :
    ShowsIn (.interfaceDown, tearDown d m) := by
  have hset {m : Machine} (h : Chosen i m) : ShowsIn (.interfaceDown, m.modifyFixed Iface.reset) := by
    have hchosen := h.set (s := .notSelected) (f := Iface.reset) (fun _ => rfl) fun _ => rfl
    exact ⟨hchosen.none (by decide), i, _, hchosen.idx, hchosen.status⟩
  unfold BackupWan.tearDown
  dsimp only
  split
  · exact hset (h.keep (fun _ => rfl) fun _ => rfl)
  · exact hset h

theorem Chosen.shows_down (h : Chosen i m) : ShowsIn (transitionBackupWanInterfaceDown m) := by
  obtain ⟨d, hd, -⟩ := h.fixed
  unfold transitionBackupWanInterfaceDown
  rw [hd]
  dsimp only
  split
  · split
    · have hchosen := h.set (s := .notSelected) (f := (·.setSelection .notSelected)) (fun _ => rfl)
        fun _ => rfl
      exact ⟨hchosen.none (by decide), i, hchosen.idx, hchosen.status⟩
    · exact (h.takeBackRules d.name).tearDown d
  · exact h.tearDown d

theorem Chosen.shows_available (h : Chosen i m) : ShowsIn (transitionBackupWanAvailable m) := by
  obtain ⟨d, hd, -⟩ := h.fixed
  unfold transitionBackupWanAvailable
  rw [hd]
  dsimp only
  have hchosen := h.set (s := .selected)
    (f := fun d => ((d.setActiveLink true).setSelection .selected).setStatus .disabled) (fun _ => rfl)
    fun _ => rfl
  split
  · have hstart (started : Bool) := hchosen.keep (f := fun d => startTad d started)
      (fun d => by unfold startTad; split <;> rfl) fun d => by unfold startTad; split <;> rfl
    exact ⟨(hstart _).none (by decide), i, (hstart _).idx, (hstart _).status⟩
  · exact ⟨hchosen.none (by decide), i, hchosen.idx, hchosen.status⟩

theorem ChosenWith.shows_up (h : ChosenWith .selected i m) :
    ShowsIn (transitionBackupWanInterfaceUp m) := by
  obtain ⟨d, hd, -⟩ := h.fixed
  unfold transitionBackupWanInterfaceUp
  rw [hd]
  dsimp only
  split
  · exact ⟨h.none (by decide), i, _, h.idx, h.status⟩
  · have hup := h.keep (f := fun d => (d.setVlanStatus .up).setStatus .up) (fun _ => rfl) fun _ => rfl
    exact ⟨hup.none (by decide), i, hup.idx, hup.status⟩

theorem Chosen.shows_active (h : Chosen i m) : ShowsIn (transitionBackupWanInterfaceActive m) := by
  obtain ⟨d, hd, -⟩ := h.fixed
  unfold transitionBackupWanInterfaceActive
  rw [hd]
  dsimp only
  split
  · exact h.switchOverFailed.shows_down
  · have hactive := h.set (s := .active) (f := fun d => (d.setSelection .active).setStatus .up)
      (fun _ => rfl) fun _ => rfl
    rw [firewallRuleConfig_configure, if_neg Bool.false_ne_true.symm]
    split
    · exact Chosen.shows_down ⟨hactive.locked, hactive.idx, hactive.only, hactive.remote⟩
    · split <;> exact ⟨i, hactive.idx, hactive.status, hactive.only⟩

theorem Chosen.shows_inactive (h : Chosen i m) : ShowsIn (transitionBackupWanInterfaceInActive m) := by
  obtain ⟨d, hd, -⟩ := h.fixed
  unfold transitionBackupWanInterfaceInActive
  rw [hd]
  have hchosen := (h.takeBackRules d.name).set (s := .selected) (f := (·.setSelection .selected))
    (fun _ => rfl) fun _ => rfl
  exact ⟨hchosen.none (by decide), i, hchosen.idx, hchosen.status⟩

theorem ChosenWith.setIp {s : SelectionStatus} {m' : Machine} (h : ChosenWith s i m)
    (heq : ∃ g, m' = m.modifyFixed (·.setIp g)) : ChosenWith s i m' := by
  obtain ⟨g, rfl⟩ := heq
  exact h.keep (fun _ => rfl) fun _ => rfl

/-- A local interface that fails its validation is not one of the remote ones. -/
theorem remotes_retriggerPrimaryValidation (m : Machine) :
    (retriggerPrimaryValidation m).2.remotes = m.remotes := by
  unfold retriggerPrimaryValidation
  split
  · rfl
  · next j hj =>
    split
    · rfl
    · obtain ⟨hlt, hlocal, -⟩ := List.findIdx?_eq_some_iff_getElem.mp hj
      simp only [Iface.enabledLocal, Bool.and_eq_true, beq_iff_eq] at hlocal
      unfold Machine.remotes statuses Machine.modifyIface
      apply List.ext_getElem?
      intro k
      rw [List.getElem?_map, List.getElem?_map, List.getElem?_modify]
      split
      · next hjk =>
        subst hjk
        simp [List.getElem?_eq_getElem hlt, Iface.statusAs, Iface.setSelection, hlocal.1.1]
      · simp

theorem ChosenWith.retrigger {s : SelectionStatus} (h : ChosenWith s i m) :
    ChosenWith s i (retriggerPrimaryValidation m).2 := by
  have hsame := remotes_retriggerPrimaryValidation m
  have hkeeps : (retriggerPrimaryValidation m).2.locked = m.locked ∧
      (retriggerPrimaryValidation m).2.activeInterfaceIdx = m.activeInterfaceIdx := by
    unfold retriggerPrimaryValidation
    split
    · exact ⟨rfl, rfl⟩
    · split <;> exact ⟨rfl, rfl⟩
  exact ⟨⟨hkeeps.1.trans h.locked, hkeeps.2.trans h.idx, hsame ▸ h.only, hsame ▸ h.remote⟩,
    hsame ▸ h.status⟩

end Transitions

/-! ## One tick -/

section Tick

variable {m : Machine} {i : Nat} {s : SelectionStatus}

theorem remotes_noLocalWan (m : Machine) : (noLocalWan m).remotes = m.remotes ∧
    (noLocalWan m).activeInterfaceIdx = m.activeInterfaceIdx := by
  unfold noLocalWan switchOverFailed
  split
  · exact ⟨rfl, rfl⟩
  · split <;> exact ⟨rfl, rfl⟩

theorem ChosenWith.shows_stateDown (h : ChosenWith s i m) (hs : s ≠ .active) :
    ShowsIn (stateBackupWanInterfaceDown m) := by
  obtain ⟨d, hd, -⟩ := h.fixed
  have hstays : ShowsIn (.interfaceDown, noLocalWan m) := by
    obtain ⟨hremotes, hidx⟩ := remotes_noLocalWan m
    unfold ShowsIn
    rw [hremotes, hidx]
    exact ⟨h.none hs, i, s, h.idx, h.status⟩
  unfold stateBackupWanInterfaceDown
  rw [hd]
  dsimp only
  split
  · exact h.none hs
  · split
    · unfold transitionValidatingBackupWanInterface
      rw [hd]
      dsimp only
      split
      · rw [if_neg (fun h => h rfl)]
        exact hstays
      · show ShowsIn (.validatingInterface, m)
        exact ⟨h.none hs, i, s, h.idx, h.status⟩
    · exact hstays

theorem ChosenWith.shows_stateValidating (h : ChosenWith s i m) (hs : s ≠ .active) :
    ShowsIn (stateValidatingBackupWanInterface m) := by
  obtain ⟨d, hd, -⟩ := h.fixed
  unfold stateValidatingBackupWanInterface
  rw [hd]
  dsimp only
  split
  · exact h.none hs
  · split
    · exact h.shows_down
    · split
      · exact h.shows_available
      · obtain ⟨hremotes, hidx⟩ := remotes_noLocalWan m
        unfold ShowsIn
        rw [hremotes, hidx]
        exact ⟨h.none hs, i, s, h.idx, h.status⟩

theorem ChosenWith.shows_stateAvailable (h : ChosenWith .selected i m) :
    ShowsIn (stateBackupWanAvailable m) := by
  obtain ⟨d, hd, -⟩ := h.fixed
  have hnext := h.setIp (updateTad_eq d m)
  unfold stateBackupWanAvailable
  rw [hd]
  dsimp only
  split
  · exact h.shows_down
  · split
    · exact hnext.shows_up
    · exact ⟨hnext.none (by decide), i, hnext.idx, hnext.status⟩

theorem ChosenWith.shows_stateUp (h : ChosenWith .selected i m) :
    ShowsIn (stateBackupWanInterfaceUp m) := by
  obtain ⟨d, hd, -⟩ := h.fixed
  have hnext := h.setIp (updateTad_eq d m)
  unfold stateBackupWanInterfaceUp
  rw [hd]
  dsimp only
  split
  · exact h.shows_down
  · split
    · exact hnext.shows_active
    · exact ⟨hnext.none (by decide), i, hnext.idx, hnext.status⟩

theorem ChosenWith.shows_stateInActive (h : ChosenWith .selected i m) :
    ShowsIn (stateBackupWanInterfaceInActive m) := by
  obtain ⟨d, hd, -⟩ := h.fixed
  have hnext := h.setIp (updateTad_eq d m)
  unfold stateBackupWanInterfaceInActive
  rw [hd]
  dsimp only
  split
  · exact h.shows_down
  · split
    · exact hnext.shows_active
    · exact ⟨hnext.none (by decide), i, hnext.idx, hnext.status⟩

theorem ChosenWith.stopTimer (h : ChosenWith s i m) : ChosenWith s i (stopTimer m) :=
  ⟨⟨h.locked, h.idx, h.only, h.remote⟩, h.status⟩

theorem ChosenWith.shows_restorationDelay (h : ChosenWith .active i m) (d : Iface) :
    ShowsIn (restorationDelay d m) := by
  have hstays {m : Machine} (h : ChosenWith .active i m) : ShowsIn (.interfaceActive, m) :=
    ⟨i, h.idx, h.status, h.only⟩
  unfold restorationDelay
  split
  · split
    · exact ⟨i, h.idx, h.status, h.only⟩
    · split
      · dsimp only
        split
        · exact h.stopTimer.shows_inactive
        · split
          · exact h.stopTimer.retrigger.shows_inactive
          · exact hstays h.stopTimer.retrigger
      · exact hstays h
  · split
    · exact hstays h.stopTimer
    · exact hstays h

theorem ChosenWith.shows_stateActive (h : ChosenWith .active i m) :
    ShowsIn (stateBackupWanInterfaceActive m) := by
  obtain ⟨d, hd, -⟩ := h.fixed
  unfold stateBackupWanInterfaceActive
  rw [hd]
  dsimp only
  split
  · exact h.shows_down
  · split
    · exact h.stopTimer.shows_inactive
    · exact (h.setIp (updateActiveTad_eq d m)).shows_restorationDelay d

theorem ChosenWith.shows_stateWaiting (h : ChosenWith .notSelected i m) :
    ShowsIn (stateBackupWanInterfaceWaitingPrimaryUp m) := by
  obtain ⟨d, hd, -⟩ := h.fixed
  have hnext := h.setIp (updateTad_eq d m)
  rw [waiting_eq hd]
  split
  · exact h.none (by decide)
  · split
    · exact h.shows_down
    · split
      · exact hnext.shows_active
      · exact ⟨hnext.none (by decide), i, hnext.idx, hnext.status⟩

theorem remote_of_currentIndex {ifaces : List Iface} {i : Nat}
    (h : currentBackupWanInterfaceIndex ifaces = some i) :
    ∃ d, ifaces[i]? = some d ∧ d.ifaceType = .remote := by
  obtain ⟨hlt, hremote, -⟩ := List.findIdx?_eq_some_iff_getElem.mp h
  rw [Bool.and_eq_true, beq_iff_eq] at hremote
  exact ⟨_, List.getElem?_eq_getElem hlt, hremote.2⟩

theorem remotes_of_remote {m : Machine} {i : Nat} {d : Iface} (hd : m.ifaces[i]? = some d)
    (hremote : d.ifaceType = .remote) : m.remotes[i]? = some (some d.selection.status) := by
  unfold Machine.remotes statuses
  rw [List.getElem?_map, hd, Option.map_some, Iface.statusAs, if_pos hremote]

/-- The interface that is reset need not be the one that was just chosen. -/
theorem shows_selected (h : NoneActive m.remotes) (hidx : m.activeInterfaceIdx = some i)
    (hremote : ∃ s, m.remotes[i]? = some (some s)) :
    ShowsIn (transitionBackupWanInterfaceSelected m) := by
  unfold transitionBackupWanInterfaceSelected
  cases hl : m.locked with
  | none =>
    rw [Machine.fixed?, hl]
    exact h
  | some l =>
    split
    · exact h
    · unfold ShowsIn
      dsimp only
      rw [modifyFixed_eq hl, remotes_assign (s := .notSelected)]
      · obtain ⟨s, hs⟩ := hremote
        obtain ⟨s', hs'⟩ := assign_remote (i := l) (s := .notSelected) hs
        exact ⟨h.assign (by decide), i, s', hidx, hs'⟩
      · intro d
        unfold Iface.renameRemote
        split <;> rfl
      · intro d
        unfold Iface.renameRemote
        split <;> rfl

theorem shows_stateSelecting (h : NoneActive m.remotes) :
    ShowsIn (stateSelectingBackupWanInterface m) := by
  unfold stateSelectingBackupWanInterface
  split
  · exact h
  · dsimp only
    split
    · next hfound =>
      obtain ⟨i, hi⟩ := Option.ne_none_iff_exists'.mp hfound
      obtain ⟨d', hd', hremote'⟩ := remote_of_currentIndex hi
      exact shows_selected (m := { m with activeInterfaceIdx := _ }) h hi
        ⟨_, remotes_of_remote hd' hremote'⟩
    · unfold ShowsIn
      rw [(remotes_noLocalWan _).1]
      exact h

theorem shows_stateFunction {st : State} (h : Shows st m.activeInterfaceIdx m.remotes)
    (hlocked : m.locked = m.activeInterfaceIdx) : ShowsIn (stateFunction st m) := by
  cases st with
  | selectingInterface => exact shows_stateSelecting h
  | interfaceDown =>
    obtain ⟨hnone, i, s, hidx, hi⟩ := h
    exact ChosenWith.shows_stateDown (i := i) (s := s)
      ⟨⟨hlocked.trans hidx, hidx, hnone.only, s, hi⟩, hi⟩ fun hs => hnone i (hs ▸ hi)
  | validatingInterface =>
    obtain ⟨hnone, i, s, hidx, hi⟩ := h
    exact ChosenWith.shows_stateValidating (i := i) (s := s)
      ⟨⟨hlocked.trans hidx, hidx, hnone.only, s, hi⟩, hi⟩ fun hs => hnone i (hs ▸ hi)
  | available =>
    obtain ⟨hnone, i, hidx, hi⟩ := h
    exact ChosenWith.shows_stateAvailable (i := i) ⟨⟨hlocked.trans hidx, hidx, hnone.only, _, hi⟩, hi⟩
  | interfaceUp =>
    obtain ⟨hnone, i, hidx, hi⟩ := h
    exact ChosenWith.shows_stateUp (i := i) ⟨⟨hlocked.trans hidx, hidx, hnone.only, _, hi⟩, hi⟩
  | interfaceInactive =>
    obtain ⟨hnone, i, hidx, hi⟩ := h
    exact ChosenWith.shows_stateInActive (i := i) ⟨⟨hlocked.trans hidx, hidx, hnone.only, _, hi⟩, hi⟩
  | waiting =>
    obtain ⟨hnone, i, hidx, hi⟩ := h
    exact ChosenWith.shows_stateWaiting (i := i) ⟨⟨hlocked.trans hidx, hidx, hnone.only, _, hi⟩, hi⟩
  | interfaceActive =>
    obtain ⟨i, hidx, hi, honly⟩ := h
    exact ChosenWith.shows_stateActive (i := i) ⟨⟨hlocked.trans hidx, hidx, honly, _, hi⟩, hi⟩

end Tick

/-! ## Runs -/

/-- What others do between two ticks: they leave the machine and the selection statuses of the remote
interfaces alone, and add remote interfaces that are not active. -/
structure Others (m m' : Machine) : Prop where
  st : m'.st = m.st
  idx : m'.activeInterfaceIdx = m.activeInterfaceIdx
  timerStart : m'.restorationDelayTimerStart = m.restorationDelayTimerStart
  timer : m'.restorationDelayTimer = m.restorationDelayTimer
  timeout : m'.restorationDelayTimeout = m.restorationDelayTimeout
  scripts : m'.scripts = m.scripts
  now : m.now ≤ m'.now
  remotes : ∃ added, m'.remotes = m.remotes ++ added ∧ ∀ r ∈ added, r ≠ some .active

/-- The machine at the start of its ticks, in a run from its start. -/
structure Run (r : Nat → Machine) : Prop where
  start : (r 0).st = .selectingInterface ∧ (r 0).activeInterfaceIdx = none ∧
    (r 0).restorationDelayTimerStart = false ∧ (r 0).scripts = [] ∧ NoneActive (r 0).remotes
  step : ∀ k, Others (tick (r k)) (r (k + 1))

section Run

variable {m m' : Machine} {r : Nat → Machine}

theorem getElem?_of_others (h : Others m m') {i : Nat} {s : Option SelectionStatus}
    (hi : m.remotes[i]? = some s) : m'.remotes[i]? = some s := by
  obtain ⟨added, happ, -⟩ := h.remotes
  rw [happ, List.getElem?_append_left]
  · exact hi
  · exact (List.getElem?_eq_some_iff.mp hi).1

theorem active_of_others (h : Others m m') {j : Nat} (hj : m'.remotes[j]? = some (some .active)) :
    m.remotes[j]? = some (some .active) := by
  obtain ⟨added, happ, hnone⟩ := h.remotes
  rw [happ, List.getElem?_append] at hj
  split at hj
  · exact hj
  · exact absurd rfl (hnone _ (List.mem_of_getElem? hj))

theorem Shows.others {st : State} (h : Others m m') (hm : Shows st m.activeInterfaceIdx m.remotes) :
    Shows st m'.activeInterfaceIdx m'.remotes := by
  have hnone (hm : NoneActive m.remotes) : NoneActive m'.remotes :=
    fun j hj => hm j (active_of_others h hj)
  rw [h.idx]
  cases st with
  | selectingInterface => exact hnone hm
  | interfaceDown | validatingInterface =>
    obtain ⟨hm, i, s, hidx, hi⟩ := hm
    exact ⟨hnone hm, i, s, hidx, getElem?_of_others h hi⟩
  | available | interfaceUp | interfaceInactive | waiting =>
    obtain ⟨hm, i, hidx, hi⟩ := hm
    exact ⟨hnone hm, i, hidx, getElem?_of_others h hi⟩
  | interfaceActive =>
    obtain ⟨i, hidx, hi, honly⟩ := hm
    exact ⟨i, hidx, getElem?_of_others h hi, fun j hj => honly j (active_of_others h hj)⟩

theorem Run.shows (hrun : Run r) (k : Nat) :
    Shows (r k).st (r k).activeInterfaceIdx (r k).remotes := by
  induction k with
  | zero =>
    obtain ⟨hst, -, -, -, hnone⟩ := hrun.start
    rw [hst]
    exact hnone
  | succ k ih =>
    have hnext : ShowsIn (stateFunction (r k).st (updateConfig (r k))) := shows_stateFunction ih rfl
    have hothers := hrun.step k
    rw [hothers.st]
    exact Shows.others hothers hnext

/-- An interface other than a local one is `ACTIVE` exactly while it is the chosen one and the
machine is in `STATE_BACKUP_WAN_INTERFACE_ACTIVE`; it is `SELECTED` while it is available, up or
inactive, and `NOT_SELECTED` while the machine waits for a local one. -/
theorem selection_shows_state (hrun : Run r) (k : Nat) :
    (∀ i d, (r k).ifaces[i]? = some d → d.ifaceType = .remote → (d.selection.status = .active ↔
      (r k).activeInterfaceIdx = some i ∧ (r k).st = .interfaceActive)) ∧
    (∀ i d, (r k).activeInterfaceIdx = some i → (r k).ifaces[i]? = some d →
      ((r k).st ∈ [.available, .interfaceUp, .interfaceInactive] → d.selection.status = .selected) ∧
      ((r k).st = .waiting → d.selection.status = .notSelected)) := by
  have hshows := hrun.shows k
  generalize (r k).st = st at hshows ⊢
  have hentry {i : Nat} {d : Iface} (hd : (r k).ifaces[i]? = some d) (hremote : d.ifaceType = .remote) :=
    remotes_of_remote hd hremote
  have hof {i : Nat} {d : Iface} {s : SelectionStatus} (hd : (r k).ifaces[i]? = some d) (hi : (r k).remotes[i]? = some (some s)) :
      d.selection.status = s := by
    unfold Machine.remotes statuses at hi
    rw [List.getElem?_map, hd, Option.map_some, Option.some.injEq, Iface.statusAs] at hi
    split at hi
    · exact Option.some.inj hi
    · cases hi
  refine ⟨fun i d hd hremote => ⟨fun hactive => ?_, fun ⟨hidx, hst⟩ => ?_⟩, fun i d hidx hd => ?_⟩
  · have hi := hentry hd hremote
    rw [hactive] at hi
    cases st with
    | selectingInterface => exact absurd hi (hshows i)
    | interfaceDown | validatingInterface | available | interfaceUp | interfaceInactive | waiting =>
      exact absurd hi (hshows.1 i)
    | interfaceActive =>
      obtain ⟨i', hidx, -, honly⟩ := hshows
      rw [honly i hi]
      exact ⟨hidx, rfl⟩
  · subst hst
    obtain ⟨i', hidx', hi', -⟩ := hshows
    rw [hidx] at hidx'
    cases hidx'
    exact hof hd hi'
  · refine ⟨fun hst => ?_, fun hst => ?_⟩
    · simp only [List.mem_cons, List.not_mem_nil, or_false] at hst
      rcases hst with rfl | rfl | rfl <;> obtain ⟨-, i', hidx', hi'⟩ := hshows <;>
        rw [hidx] at hidx' <;> cases hidx' <;> exact hof hd hi'
    · subst hst
      obtain ⟨-, i', hidx', hi'⟩ := hshows
      rw [hidx] at hidx'
      cases hidx'
      exact hof hd hi'

end Run

/-! A remote interface is connected and the local one is not: left alone, the machine makes the
remote one active in six ticks. -/

namespace Example

theorem others_refl (m : Machine) : Others m m :=
  ⟨rfl, rfl, rfl, rfl, rfl, rfl, Nat.le_refl _, [], (List.append_nil _).symm, by simp⟩

def backup : Iface :=
  { ifaceType := .remote, baseInterfaceStatus := .up, virtIf := { remoteStatus := .up } }

def start : Machine :=
  { config := { allowRemoteInterfaces := true }, ifaces := [{ scanned := true }, backup] }

def takeover (k : Nat) : Machine := tick^[k] start

/-- A machine that is left alone. -/
theorem run_iterate {m : Machine} (hst : m.st = .selectingInterface) (hidx : m.activeInterfaceIdx = none)
    (hstart : m.restorationDelayTimerStart = false) (hscripts : m.scripts = [])
    (hnone : NoneActive m.remotes) : Run fun k => tick^[k] m where
  start := ⟨hst, hidx, hstart, hscripts, hnone⟩
  step k := by
    show Others (tick (tick^[k] m)) (tick^[k + 1] m)
    rw [Function.iterate_succ_apply']
    exact others_refl _

theorem takeover_run : Run takeover :=
  run_iterate rfl rfl rfl rfl fun j hj => by
    rcases j with _ | _ | j
    · cases hj
    · cases hj
    · cases hj

end Example

open Example in
theorem selection_shows_state_run :
    (takeover 6).ifaces[1]?.map (·.selection.status) = some .active := by
  obtain ⟨d, hd, hremote⟩ : ∃ d, (takeover 6).ifaces[1]? = some d ∧ d.ifaceType = .remote :=
    ⟨_, rfl, rfl⟩
  rw [hd, Option.map_some, ((selection_shows_state takeover_run 6).1 1 d hd hremote).mpr ⟨rfl, rfl⟩]

end BackupWan

end WanManager
