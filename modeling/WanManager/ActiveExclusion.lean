import WanManager.PolicyThreads
import WanManager.PolicyTurns

/-! # At most one active WAN interface

In hot swap with AutoWAN groups at most one interface is `ACTIVE`, and it is the one the
failover machine's current group has selected. The failover thread deactivates its current
group before it activates another, so the law only needs the group to keep the interface:
the group's thread must not let go of an interface that is still selected. It does so in
one place, where `State_WaitForInterface` gives up an interface whose link was lost after
it had been found. -/

namespace WanManager
open Concurrency

def NoneActive (l : List WanIface) : Prop := ∀ d ∈ l, d.selection.status ≠ .active

theorem noneActive_iff {s : Shared} : NoneActive s.ifaces ↔ ∀ i, s.selectionStatus i ≠ .active := by
  constructor
  · intro h i hi
    unfold Shared.selectionStatus at hi
    cases hd : s.ifaces[i]? with
    | none => rw [hd] at hi; cases hi
    | some d =>
      rw [hd] at hi
      exact h d (List.mem_of_getElem? hd) hi
  · intro h d hd hactive
    obtain ⟨i, hi⟩ := List.mem_iff_getElem?.mp hd
    exact h i (by simp [Shared.selectionStatus, hi, hactive])

namespace Shared

/-- Interface `i` belongs to a group. -/
def Member (s : Shared) (i g : Nat) : Prop := s.members[i]? = some g

instance (s : Shared) (i g : Nat) : Decidable (s.Member i g) := inferInstanceAs (Decidable (_ = _))

theorem member_iff {s : Shared} {i g : Nat} :
    s.Member i g ↔ ∃ d, s.ifaces[i]? = some d ∧ d.selection.group = g := by
  simp [Member, members]

end Shared

/-! ## The failover thread -/

/-- No group scans its interfaces in parallel. -/
def Shared.SerialGroups (s : Shared) : Prop := ∀ p ∈ s.policies, p ≠ .parallelScan

theorem Shared.SerialGroups.modifyGroup {s : Shared} (h : s.SerialGroups)
    {f : IfaceGroup → IfaceGroup} (hf : ∀ g, g.policy ≠ .parallelScan → (f g).policy ≠ .parallelScan)
    (inst : Nat) : (s.modifyGroup inst f).SerialGroups := by
  cases inst with
  | zero => exact h
  | succ n =>
    intro p hp
    obtain ⟨x, hx, rfl⟩ := List.mem_map.mp hp
    obtain ⟨k, hk⟩ := List.mem_iff_getElem?.mp hx
    rw [Shared.modifyGroup, List.getElem?_modify] at hk
    cases hg : s.groups[k]? with
    | none => simp [hg] at hk
    | some g =>
      have hserial : g.policy ≠ .parallelScan :=
        h g.policy (List.mem_map.mpr ⟨g, List.mem_of_getElem? hg, rfl⟩)
      by_cases hnk : n = k
      · have hfg : f g = x := by simpa [hg, hnk] using hk
        rw [← hfg]
        exact hf g hserial
      · have hgx : g = x := by simpa [hg, hnk] using hk
        rw [← hgx]
        exact hserial

namespace Failover
open Shared

/-- What a section of the failover thread does to the selection. -/
inductive SelectionStep (v v' : FailOverView) : Prop
  | same : Shared.SameSelection v.shared v'.shared →
      (v'.self.ctrl.currentActiveGroup = v.self.ctrl.currentActiveGroup ∨
        NoneActive v.shared.ifaces) → SelectionStep v v'
  | activate (g : Nat) : NoneActive v.shared.ifaces → v'.shared = activateGroup g v.shared →
      v'.self.ctrl.currentActiveGroup = g → SelectionStep v v'
  | deactivate : v'.shared = deactivateGroup v.self.ctrl.currentActiveGroup v.shared →
      v'.self.ctrl.currentActiveGroup = v.self.ctrl.currentActiveGroup → SelectionStep v v'

/-- A group of the table is changed, and not the interface it has selected. -/
theorem same_modify {f : IfaceGroup → IfaceGroup}
    (hf : ∀ g, (f g).selectedInterface = g.selectedInterface) (s : Shared) (i : Nat) :
    Shared.SameSelection s { s with groups := s.groups.modify i f } :=
  .modifyGroup hf s (i + 1)

theorem same_monitorGroup (i : Nat) (v : FailOverView) :
    Shared.SameSelection v.shared (monitorGroup i v).shared := by
  unfold monitorGroup
  split
  · exact .refl _
  split
  · split
    · exact same_modify (by intro; rfl) v.shared i
    · exact same_modify (by intro; rfl) v.shared i
  · exact .refl _

theorem same_addInterfaceAvailable (i : Nat) (v : FailOverView) :
    Shared.SameSelection v.shared (addInterfaceAvailable i v).shared := by
  unfold addInterfaceAvailable
  split
  · exact .refl _
  · exact Shared.SameSelection.modifyGroup (by intro; rfl) v.shared _

theorem Effect.selection {l : Site} {v v' : FailOverView} (h : Effect NoneActive l v v') :
    SelectionStep v v' := by
  cases h with
  | own ho => exact .same (.refl _) (ho.group.imp_right fun h => h.2)
  | config => exact .same ⟨fun _ => rfl, fun _ => rfl⟩ (.inl rfl)
  | @available i _ =>
    exact .same (same_addInterfaceAvailable i v) (.inl (by rw [addInterfaceAvailable_self]))
  | deactivated _ => exact .same (same_modify (by intro; rfl) v.shared _) (.inl rfl)
  | @monitor i _ => exact .same (same_monitorGroup i v) (.inl (by rw [monitorGroup_self]))
  | @mark w i _ =>
    obtain ⟨h, hkeep | ⟨-, hstop⟩⟩ := markGroup_cases w i v
    · rw [hkeep]
      exact .same (.refl _) (.inl rfl)
    · rw [hstop]
      exact .same (same_modify (by intro; rfl) v.shared _) (.inl rfl)
  | activate hquiet => exact .activate _ hquiet rfl rfl
  | stop =>
    refine .same (same_modify (fun g => ?_) v.shared _) (.inl rfl)
    split <;> rfl
  | deactivate => exact .deactivate rfl rfl

theorem members_activateGroup (g : Nat) (s : Shared) : (activateGroup g s).members = s.members := by
  unfold activateGroup
  split
  · rfl
  · split
    · exact (Shared.Keeps.modifyGroup (by intro; rfl) (by intro; rfl) (by intro; rfl) _ _).members.trans
        (Shared.Keeps.setSelectionStatus _ _ _).members
    · rfl

theorem members_deactivateGroup (g : Nat) (s : Shared) :
    (deactivateGroup g s).members = s.members := by
  unfold deactivateGroup
  split
  · rfl
  · split
    · exact (Shared.Keeps.setSelectionStatus _ _ _).members
    · rfl

theorem members_of_ifaces {s s' : Shared} (h : s'.ifaces = s.ifaces) : s'.members = s.members :=
  congrArg (List.map fun d : WanIface => d.selection.group) h

/-- The failover thread moves no interface to another group. -/
theorem Effect.members {quiet : List WanIface → Prop} {l : Site} {v v' : FailOverView}
    (h : Effect quiet l v v') : v'.shared.members = v.shared.members := by
  cases h with
  | own _ => rfl
  | config => rfl
  | @available i _ => exact members_of_ifaces (addInterfaceAvailable_ifaces i v)
  | deactivated _ => exact members_of_ifaces (Shared.ifaces_modifyGroup _ _ _)
  | @monitor i _ => exact members_of_ifaces (monitorGroup_ifaces i v)
  | @mark w i _ => exact members_of_ifaces (markGroup_ifaces w i v)
  | activate _ => exact members_activateGroup _ _
  | stop => exact members_of_ifaces (Shared.ifaces_modifyGroup _ _ _)
  | deactivate => exact members_deactivateGroup _ _

/-- Activation and deactivation leave what is selected, and who is selected at all. -/
theorem activateGroup_selection (g : Nat) (s : Shared) :
    (∀ h, (activateGroup g s).selected? h = s.selected? h) ∧
      ∀ i, (activateGroup g s).selectionStatus i = s.selectionStatus i ∨
        s.selected? g = some i ∧ s.selectionStatus i ≠ .notSelected ∧
          (activateGroup g s).selectionStatus i = .active := by
  unfold activateGroup
  cases hs : s.selected? g with
  | none => exact ⟨fun _ => rfl, fun _ => .inl rfl⟩
  | some i =>
    simp only
    split
    · rename_i hsel
      refine ⟨fun h => ?_, fun j => ?_⟩
      · rw [Shared.selected?_modifyGroup (by intro; rfl), Shared.selected?_setSelectionStatus]
      · rw [Shared.selectionStatus_modifyGroup]
        by_cases hj : j = i
        · subst hj
          have hlt := s.lt_length_of_selectionStatus (i := j) (by simp [hsel])
          exact .inr ⟨rfl, by simp [hsel], Shared.selectionStatus_set_self _ hlt⟩
        · exact .inl (Shared.selectionStatus_set_ne _ hj)
    · exact ⟨fun _ => rfl, fun _ => .inl rfl⟩

theorem deactivateGroup_selection (g : Nat) (s : Shared) :
    (∀ h, (deactivateGroup g s).selected? h = s.selected? h) ∧
      (∀ i, (deactivateGroup g s).selectionStatus i = s.selectionStatus i ∨
        s.selectionStatus i ≠ .notSelected ∧
          (deactivateGroup g s).selectionStatus i = .selected) ∧
      ∀ i, s.selected? g = some i → (deactivateGroup g s).selectionStatus i ≠ .active := by
  unfold deactivateGroup
  cases hs : s.selected? g with
  | none => exact ⟨fun _ => rfl, fun _ => .inl rfl, nofun⟩
  | some i =>
    simp only
    split
    · rename_i hact
      have hlt := s.lt_length_of_selectionStatus (i := i) (by simp [hact])
      have hset := Shared.selectionStatus_set_self .selected hlt
      refine ⟨Shared.selected?_setSelectionStatus s i _, fun j => ?_, fun j hj => ?_⟩
      · by_cases hj : j = i
        · subst hj
          exact .inr ⟨by simp [hact], hset⟩
        · exact .inl (Shared.selectionStatus_set_ne _ hj)
      · obtain rfl : i = j := by simpa using hj
        simp [hset]
    · rename_i hact
      refine ⟨fun _ => rfl, fun _ => .inl rfl, fun j hj => ?_⟩
      obtain rfl : i = j := by simpa using hj
      exact hact

/-- `SelectedInterface` is not the failover thread's to change, it selects nothing that was not
selected, and what is active afterwards is what its current group has selected. -/
theorem SelectionStep.keeps {v v' : FailOverView} (h : SelectionStep v v')
    (hactive : ∀ i, v.shared.selectionStatus i = .active →
      v.shared.selected? v.self.ctrl.currentActiveGroup = some i) :
    (∀ g, v'.shared.selected? g = v.shared.selected? g) ∧
      (∀ i, v'.shared.selectionStatus i ≠ .notSelected → v.shared.selectionStatus i ≠ .notSelected) ∧
      ∀ i, v'.shared.selectionStatus i = .active →
        v'.shared.selected? v'.self.ctrl.currentActiveGroup = some i := by
  cases h with
  | same hsame hgroup =>
    refine ⟨hsame.selected, fun i hi => by rwa [hsame.status i] at hi, fun i hi => ?_⟩
    rw [hsame.status i] at hi
    rcases hgroup with hgroup | hquiet
    · rw [hsame.selected, hgroup]
      exact hactive i hi
    · exact absurd hi (noneActive_iff.mp hquiet i)
  | activate g hquiet hshared hgroup =>
    obtain ⟨hselected, hstatus⟩ := activateGroup_selection g v.shared
    rw [hshared, hgroup]
    refine ⟨hselected, fun i hi => ?_, fun i hi => ?_⟩
    · rcases hstatus i with hsame | ⟨-, hne, -⟩
      · rwa [hsame] at hi
      · exact hne
    · rw [hselected]
      rcases hstatus i with hsame | ⟨hsel, -, -⟩
      · rw [hsame] at hi
        exact absurd hi (noneActive_iff.mp hquiet i)
      · exact hsel
  | deactivate hshared hgroup =>
    obtain ⟨hselected, hstatus, hcurrent⟩ :=
      deactivateGroup_selection v.self.ctrl.currentActiveGroup v.shared
    rw [hshared, hgroup]
    refine ⟨hselected, fun i hi => ?_, fun i hi => ?_⟩
    · rcases hstatus i with hsame | ⟨hne, -⟩
      · rwa [hsame] at hi
      · exact hne
    · rcases hstatus i with hsame | ⟨-, hsel⟩
      · rw [hsame] at hi
        exact absurd (hsame.trans hi) (hcurrent i (hactive i hi))
      · rw [hsel] at hi
        cases hi

/-- The kind of swap is the one so far, hot swap, or what PSM says. -/
theorem Effect.swap {quiet : List WanIface → Prop} {l : Site} {v v' : FailOverView}
    (h : Effect quiet l v v') :
    v'.self.ctrl.failOverType = v.self.ctrl.failOverType ∨ v'.self.ctrl.failOverType = .hotswap ∨
      v.shared.outside.psmFailOverType = some v'.self.ctrl.failOverType := by
  cases h with
  | own ho => exact ho.swap
  | @available i _ => exact .inl (by rw [addInterfaceAvailable_self])
  | @monitor i _ => exact .inl (by rw [monitorGroup_self])
  | @mark w i _ =>
    obtain ⟨h, hself⟩ := markGroup_self w i v
    exact .inl (by rw [hself])
  | config | deactivated | activate | stop | deactivate => exact .inl rfl

/-- A group that does not scan in parallel gets a thread that does not. -/
theorem selectionPolicy_serial {g : IfaceGroup} (h : g.policy ≠ .parallelScan) :
    selectionPolicy g = .autowan := if_neg h

theorem serial_activateGroup {s : Shared} (h : s.SerialGroups) (g : Nat) :
    (activateGroup g s).SerialGroups := by
  unfold activateGroup
  split
  · exact h
  split
  · exact SerialGroups.modifyGroup (s := s.setSelectionStatus _ _) h (by intro _ h; exact h) g
  · exact h

theorem serial_deactivateGroup {s : Shared} (h : s.SerialGroups) (g : Nat) :
    (deactivateGroup g s).SerialGroups := by
  unfold deactivateGroup
  split
  · exact h
  · split <;> exact h

/-- The threads the failover thread creates, and the groups it creates them for, stay serial;
a new thread has no interface yet. -/
theorem Effect.serial {quiet : List WanIface → Prop} {l : Site} {v v' : FailOverView}
    (h : Effect quiet l v v') (hgroups : v.shared.SerialGroups) :
    v'.shared.SerialGroups ∧ ∀ t, v'.policies t = v.policies t ∨
      (v'.policies t).phase.parallel = false ∧ (v'.policies t).ctrl.activeInterfaceIdx = none := by
  cases h with
  | own _ => exact ⟨hgroups, fun _ => .inl rfl⟩
  | config => exact ⟨hgroups, fun _ => .inl rfl⟩
  | @available i _ =>
    unfold addInterfaceAvailable
    split
    · exact ⟨hgroups, fun _ => .inl rfl⟩
    · exact ⟨hgroups.modifyGroup (by intro _ h; exact h) _, fun _ => .inl rfl⟩
  | deactivated _ => exact ⟨hgroups.modifyGroup (by intro _ h; exact h) _, fun _ => .inl rfl⟩
  | @monitor i _ =>
    have hrestart : ∀ x : IfaceGroup, x.policy ≠ .parallelScan →
        (restartGroup v.shared i x).policy ≠ .parallelScan := by
      intro x hx
      show selectionPolicy x ≠ _
      rw [selectionPolicy_serial hx]
      nofun
    unfold monitorGroup
    cases hg : v.shared.groups[i]? with
    | none => exact ⟨hgroups, fun _ => .inl rfl⟩
    | some g =>
      have hserial : g.policy ≠ .parallelScan :=
        hgroups g.policy (List.mem_map.mpr ⟨g, List.mem_of_getElem? hg, rfl⟩)
      simp only
      split
      · split
        · refine ⟨hgroups.modifyGroup (by intro x hx; exact hrestart x hx) _, fun t => ?_⟩
          by_cases ht : t = v.policyCount
          · subst ht
            rw [selectionPolicy_serial hserial]
            simp [PolicyPhase.parallel]
          · exact .inl (Function.update_of_ne ht _ _)
        · exact ⟨hgroups.modifyGroup hrestart _, fun _ => .inl rfl⟩
      · exact ⟨hgroups, fun _ => .inl rfl⟩
  | @mark w i _ =>
    obtain ⟨h, hkeep | ⟨-, hstop⟩⟩ := markGroup_cases w i v
    · rw [hkeep]
      exact ⟨hgroups, fun _ => .inl rfl⟩
    · rw [hstop]
      exact ⟨SerialGroups.modifyGroup (s := v.shared) hgroups (by intro _ h; exact h) _, fun _ => .inl rfl⟩
  | activate _ => exact ⟨serial_activateGroup hgroups _, fun _ => .inl rfl⟩
  | stop =>
    refine ⟨hgroups.modifyGroup (fun x h => ?_) _, fun _ => .inl rfl⟩
    split <;> exact h
  | deactivate => exact ⟨serial_deactivateGroup hgroups _, fun _ => .inl rfl⟩

end Failover

/-! ## A selection thread -/

namespace Policy
open Shared

/-- The interface was found in the thread's group. -/
def Chosen (x : PolicyView) (i : Nat) : Prop := x.shared.Member i x.self.ctrl.groupInst

/-- The interface is not in the table. -/
def Missing (x : PolicyView) (i : Nat) : Prop := x.shared.members[i]? = none

theorem finds : Finds Chosen Missing where
  chosen x i d hd hgroup := by simp [Chosen, Member, members, hd, hgroup]
  missing x i hi := by simpa [Missing, members] using hi

theorem selectionStatus_missing {x : PolicyView} {i : Nat} (h : Missing x i) :
    x.shared.selectionStatus i = .notSelected := by
  have hnone : x.shared.ifaces[i]? = none := by simpa [Missing, members] using h
  simp [selectionStatus, hnone]

/-- What a section of an AutoWAN thread does to the selection. -/
structure SelectionStep (x x' : PolicyView) : Prop where
  activates : ∀ i, x'.shared.selectionStatus i = .active → x.shared.selectionStatus i = .active
  others : ∀ g, g ≠ x.self.ctrl.groupInst → x'.shared.selected? g = x.shared.selected? g
  own : ∀ i, x'.shared.selected? x.self.ctrl.groupInst = some i →
    x.shared.selected? x.self.ctrl.groupInst = some i ∨ x'.self.Holds i
  selects : ∀ i, x'.shared.selectionStatus i ≠ .notSelected →
    x.shared.selectionStatus i ≠ .notSelected ∨ x'.self.Holds i
  holds : ∀ i, x.self.Holds i → x'.shared.selected? x.self.ctrl.groupInst = some i →
    x'.shared.selectionStatus i ≠ .notSelected → x'.self.Holds i
  keeps : x'.shared.selected? x.self.ctrl.groupInst = x.shared.selected? x.self.ctrl.groupInst ∨
    x.self.Live ∧ ∀ i, x.self.Holds i → x.shared.selected? x.self.ctrl.groupInst = some i →
      x'.shared.selected? x.self.ctrl.groupInst = some i

theorem SelectionStep.of_same {x x' : PolicyView} (h : SameSelection x.shared x'.shared)
    (hholds : ∀ i, x.self.Holds i → x.shared.selectionStatus i ≠ .notSelected → x'.self.Holds i) :
    SelectionStep x x' where
  activates i hi := by rwa [h.status i] at hi
  others g _ := h.selected g
  own i hi := .inl (by rwa [h.selected] at hi)
  selects i hi := .inl (by rwa [h.status i] at hi)
  holds i hi _ hst := hholds i hi (by rwa [h.status i] at hst)
  keeps := .inl (h.selected _)

theorem adoptGroup_eq {d : WanIface} {x : PolicyView} (h : x.self.ctrl.groupInst ≠ 0) :
    AutoWan.adoptGroup d x = x := by
  simp [AutoWan.adoptGroup, PolicyView.mapCtrl, h]

/-- A turn, if an interface that is still selected is not given up. -/
theorem SelectionStep.of_turn {st : AutoWanState} {i : Nat} {d : WanIface} {x : PolicyView}
    {r : AutoWanState × PolicyView} (h : AutoWan.Turn st i d x r.1 r.2)
    (hst : x.self.phase = .autoWan st) (hidx : x.self.ctrl.activeInterfaceIdx = some i)
    (hkeep : st = .waiting → AutoWan.givesUp i d x = true →
      x.shared.selected? x.self.ctrl.groupInst = some i →
      x.shared.selectionStatus i = .notSelected) :
    SelectionStep x (AutoWan.enterState r) := by
  refine ⟨fun j hj => ?_, h.groups, fun j hj => ?_, fun j hj => h.selects hj,
    fun j hj hsel hne => ?_, ?_⟩
  · by_cases hji : j = i
    · subst hji
      rcases h.status with hsame | hnot | ⟨-, -, hsel⟩
      · exact hsame ▸ hj
      · exact absurd (hnot.symm.trans hj) (by decide)
      · exact absurd (hsel.symm.trans hj) (by decide)
    · rw [← h.others j hji]
      exact hj
  · rcases h.own with hsame | ⟨hset, hr, -⟩ | ⟨hnone, -⟩
    · exact .inl (hsame.symm.trans hj)
    · obtain rfl : i = j := Option.some.inj (hset.symm.trans hj)
      exact .inr (h.holds hr)
    · exact absurd (hnone.symm.trans hj) (Option.some_ne_none j).symm
  · rcases h.retains hst hidx hj hne with hholds | ⟨rfl, rfl, hfree, hgives, hsel'⟩
    · exact hholds
    · -- the group has the interface selected, as before
      have hgroup : x.shared.selected? x.self.ctrl.groupInst = some j := by
        rcases h.own with hsame | ⟨-, hr, -⟩ | ⟨-, hwait⟩
        · exact hsame.symm.trans hsel
        · rw [hfree] at hr
          cases hr
        · cases hwait
      exact absurd (hkeep rfl hgives hgroup) hsel'
  · refine .inr ⟨PolicyThread.live_autoWan hst, ?_⟩
    rintro j ⟨hj, st', hst', hhold⟩ hsel
    obtain rfl : i = j := Option.some.inj (hidx.symm.trans hj)
    rw [hst] at hst'
    cases hst'
    rcases h.own with hsame | ⟨hset, -, -⟩ | ⟨-, hfree⟩
    · exact hsame.trans hsel
    · exact hset
    · rw [hhold] at hfree
      cases hfree

/-- The interface a thread waits for is not given up while its group has it selected and it
is not deselected. -/
def KeepsWaiting (x : PolicyView) : Prop :=
  x.self.phase = .autoWan .waiting → ∀ a ∈ x.activeIface?, AutoWan.givesUp a.1 a.2 x = true →
    x.shared.selected? x.self.ctrl.groupInst = some a.1 → a.2.selection.status = .notSelected

instance (x : PolicyView) : Decidable (KeepsWaiting x) := inferInstanceAs (Decidable (_ → _))

theorem selectionStatus_of_some {s : Shared} {i : Nat} {d : WanIface} (h : s.ifaces[i]? = some d) :
    s.selectionStatus i = d.selection.status := by simp [selectionStatus, h]

theorem Effect.selectionStep {l : Site} {x x' : PolicyView} (h : Effect Chosen Missing l x x')
    (hserial : x.self.phase.parallel = false) (hinst : x.self.Live → x.self.ctrl.groupInst ≠ 0)
    (hkeep : l = .policyState → KeepsWaiting x) : SelectionStep x x' := by
  cases h with
  | same => exact .of_same (.refl _) fun _ hi _ => hi
  | own ho =>
    refine .of_same (.refl _) fun i hi hne => ?_
    rcases ho.holds i hi with hholds | hmissing
    · exact hholds
    · exact absurd (selectionStatus_missing hmissing) hne
  | iface _ hf _ => exact .of_same (.modifyIface hf.selection _ _) fun _ hi _ => hi
  | group hf => exact .of_same (.modifyGroup hf.selected _ _) fun _ hi _ => hi
  | rescan => exact .of_same (.requestRescan _) fun _ hi _ => hi
  | @autoWan st i d _ hst ha =>
    obtain ⟨hidx, hd⟩ := activeIface_some ha
    rw [adoptGroup_eq (hinst (PolicyThread.live_autoWan hst))]
    refine .of_turn (AutoWan.turn_lockedState hidx hd st) hst hidx fun hwait hgives hsel => ?_
    rw [selectionStatus_of_some hd]
    exact hkeep rfl (hwait ▸ hst) (i, d) ha hgives hsel
  | parallelScan hst _ =>
    rw [hst] at hserial
    cases hserial
  | selectIface hp | selectGroup hp | connected hp =>
    rw [hserial] at hp
    cases hp
  | leave hlive hfree =>
    have hstatus : ∀ i, (leaveGroup x).shared.selectionStatus i = x.shared.selectionStatus i :=
      fun i => selectionStatus_modifyGroup _ _ _ i
    have hnone : (leaveGroup x).shared.selected? x.self.ctrl.groupInst = none := by
      show (x.shared.modifyGroup _ _).selected? _ = none
      cases hg : x.shared.group? x.self.ctrl.groupInst <;> simp [selected?, hg]
    refine ⟨fun i hi => (hstatus i) ▸ hi, fun g hg => ?_, fun i hi => ?_, fun i hi => ?_,
      fun i hi => absurd hi (hfree i), .inr ⟨hlive, fun i hi => absurd hi (hfree i)⟩⟩
    · show (x.shared.modifyGroup _ _).selected? g = _
      simp [selected?, group?_modifyGroup_ne _ hg]
    · rw [hnone] at hi
      cases hi
    · rw [hstatus i] at hi
      exact .inl hi

/-- What a section of an AutoWAN thread keeps of the groups, and of its own record. -/
theorem Effect.autoKeeps {chosen missing : PolicyView → Nat → Prop} {l : Site} {x x' : PolicyView}
    (h : Effect chosen missing l x x')
    (hserial : x.self.phase.parallel = false) (hinst : x.self.Live → x.self.ctrl.groupInst ≠ 0) :
    x'.shared.members = x.shared.members ∧ x'.shared.policies = x.shared.policies ∧
      x'.self.phase.parallel = false ∧ x'.self.ctrl.groupInst = x.self.ctrl.groupInst ∧
      ∀ i, x'.self.ctrl.activeInterfaceIdx = some i →
        x.self.ctrl.activeInterfaceIdx = some i ∨ chosen x i := by
  have hshared : x'.shared.members = x.shared.members ∧ x'.shared.policies = x.shared.policies := by
    rcases h.keeps with ⟨hkeep, -⟩ | ⟨-, hleave⟩
    · exact ⟨hkeep.members, hkeep.policies⟩
    · subst hleave
      refine ⟨congrArg (List.map _) (Shared.ifaces_modifyGroup _ _ _), ?_⟩
      show (x.shared.modifyGroup _ _).policies = _
      cases x.self.ctrl.groupInst with
      | zero => rfl
      | succ n => exact Shared.Keeps.map_modify (by intro; rfl) x.shared.groups n
  refine ⟨hshared.1, hshared.2, ?_⟩
  have hsame : x'.self.ctrl.groupInst = x.self.ctrl.groupInst := by
    by_cases hlive : x.self.Live
    · exact h.inst (hinst hlive)
    · rcases h.keeps with ⟨-, hself | ⟨hlive', -⟩⟩ | ⟨hlive', -⟩
      · rw [hself]
      · exact absurd hlive' hlive
      · exact absurd hlive' hlive
  cases h with
  | same | iface | group | rescan => exact ⟨hserial, hsame, fun _ hi => .inl hi⟩
  | own ho =>
    have hserial' : _ = false := ho.parallel.trans hserial
    exact ⟨hserial', hsame, fun i hi => (ho.idx hserial' i hi).imp_right And.right⟩
  | @autoWan st i d _ hst ha =>
    obtain ⟨hidx, hd⟩ := activeIface_some ha
    refine ⟨rfl, hsame, fun j hj => .inl ?_⟩
    rw [adoptGroup_eq (hinst (PolicyThread.live_autoWan hst))] at hj
    rcases (AutoWan.turn_lockedState hidx hd st).idx with hsome | ⟨hnone, -⟩
    · exact hidx.trans (hsome.symm.trans hj)
    · exact absurd (hnone.symm.trans hj) nofun
  | parallelScan hst _ =>
    rw [hst] at hserial
    cases hserial
  | selectIface hp | selectGroup hp | connected hp =>
    rw [hserial] at hp
    cases hp
  | leave _ _ => exact ⟨rfl, hsame, fun _ hi => .inl hi⟩

end Policy

/-! ## The invariant -/

namespace System

structure ActiveInv (w : World) : Prop where
  threads : PolicyThreads w
  hot : w.failOver.ctrl.failOverType ≠ .coldswap
  serial : ∀ t, (w.policies t).phase.parallel = false
  groups : w.shared.SerialGroups
  /-- what is active is what the current group has selected -/
  active : ∀ i, w.shared.selectionStatus i = .active →
    w.shared.selected? w.failOver.ctrl.currentActiveGroup = some i
  /-- the thread of a group keeps an interface that the group has selected -/
  held : ∀ g i, w.shared.selected? g = some i → w.shared.selectionStatus i ≠ .notSelected →
    ∃ t, (w.policies t).ctrl.groupInst = g ∧ (w.policies t).Holds i
  member : ∀ g i, w.shared.selected? g = some i → w.shared.Member i g
  chosen : ∀ t i, (w.policies t).Live → (w.policies t).ctrl.activeInterfaceIdx = some i →
    w.shared.Member i (w.policies t).ctrl.groupInst

theorem live_of_holds {t : PolicyThread} {i : Nat} (h : t.Holds i) : t.Live := by
  obtain ⟨-, st, hst, -⟩ := h
  exact PolicyThread.live_autoWan hst

/-- In hot swap no deactivated group is stopped. -/
theorem ActiveInv.oldThreadEnded {w : World} (h : ActiveInv w) (l : Section) : OldThreadEnded l w := by
  unfold OldThreadEnded
  split
  · intro hstop
    have hcold : w.failOver.ctrl.failOverType = .coldswap := by
      simp only [Failover.stopsGroup, Bool.and_eq_true, beq_iff_eq] at hstop
      exact hstop.1.1
    exact absurd hcold h.hot
  · trivial

/-- `PSM_WANMANAGER_FAILOVER_TYPE` does not say cold swap. -/
def HotSwap (_ : Section) (w : World) : Prop := w.shared.outside.psmFailOverType ≠ some .coldswap

instance (l : Section) (w : World) : Decidable (HotSwap l w) := inferInstanceAs (Decidable (¬ _))

/-- Hot swap, in which a thread that gives up waiting for the link of an interface has not
got it selected any more. -/
def NotGivenUp (l : Section) (w : World) : Prop :=
  HotSwap l w ∧
    match l with
    | (.policy t, .policyState) => Policy.KeepsWaiting ((World.policyView t).get w)
    | _ => True

instance (l : Section) (w : World) : Decidable (NotGivenUp l w) := by
  unfold NotGivenUp
  split <;> infer_instance

theorem failOver_active {l : Site} {w : World} {v : FailOverView} (h : ActiveInv w)
    (hhot : HotSwap (.failOver, l) w)
    (hstep : Failover.Effect NoneActive l (World.failOverView.get w) v) :
    ActiveInv (World.failOverView.put v w) := by
  obtain ⟨hthreads, hguar⟩ := failOver_step h.threads (h.oldThreadEnded (.failOver, l)) hstep.threadStep
  obtain ⟨hgroups, hnew⟩ := hstep.serial h.groups
  have hswap := hstep.swap
  have hmembers : v.shared.members = w.shared.members := hstep.members
  have hpolicies : ∀ t, (w.policies t).Live → v.policies t = w.policies t :=
    fun t ht => hguar (.policy t) nofun ht
  obtain ⟨hselected, hstatus, hactive⟩ := hstep.selection.keeps h.active
  refine ⟨hthreads, ?_, fun t => ?_, hgroups, hactive, fun g i hg hi => ?_, fun g i hg => ?_,
    fun t i ht hi => ?_⟩
  · intro hcold
    have hcold' : v.self.ctrl.failOverType = .coldswap := hcold
    rw [hcold'] at hswap
    rcases hswap with hsame | hhot | hpsm
    · exact h.hot hsame.symm
    · cases hhot
    · exact hhot hpsm
  · rcases hnew t with hold | ⟨hserial, -⟩
    · show (v.policies t).phase.parallel = false
      rw [hold]
      exact h.serial t
    · exact hserial
  · obtain ⟨t, hinst, hholds⟩ := h.held g i ((hselected g).symm.trans hg) (hstatus i hi)
    have hsame : v.policies t = w.policies t := hpolicies t (live_of_holds hholds)
    refine ⟨t, ?_, ?_⟩
    · show (v.policies t).ctrl.groupInst = g
      rw [hsame, hinst]
    · show (v.policies t).Holds i
      rw [hsame]
      exact hholds
  · have hold := h.member g i ((hselected g).symm.trans hg)
    show v.shared.members[i]? = some g
    rw [hmembers]
    exact hold
  · show v.shared.members[i]? = some (v.policies t).ctrl.groupInst
    rcases hnew t with hold | ⟨-, hnone⟩
    · have ht' : (v.policies t).Live := ht
      have hi' : (v.policies t).ctrl.activeInterfaceIdx = some i := hi
      rw [hold] at ht' hi' ⊢
      rw [hmembers]
      exact h.chosen t i ht' hi'
    · have hi' : (v.policies t).ctrl.activeInterfaceIdx = some i := hi
      rw [hnone] at hi'
      cases hi'

theorem ActiveInv.inst {w : World} (h : ActiveInv w) (t : Nat) :
    (w.policies t).Live → (w.policies t).ctrl.groupInst ≠ 0 := occupied_inst h.threads

/-- What a thread holds after a section is of its group. -/
theorem ActiveInv.member_of_holds {l : Site} {t i : Nat} {w : World} {x : PolicyView} (h : ActiveInv w)
    (hstep : Policy.Effect Policy.Chosen Policy.Missing l ((World.policyView t).get w) x)
    (hi : x.self.Holds i) : w.shared.Member i (w.policies t).ctrl.groupInst := by
  obtain ⟨-, -, -, -, hidx⟩ := hstep.autoKeeps (h.serial t) (h.inst t)
  rcases hidx i hi.1 with hold | hnew
  · exact h.chosen t i (hstep.live (live_of_holds hi)) hold
  · exact hnew

theorem policy_active {l : Site} {t : Nat} {w : World} {x : PolicyView} (h : ActiveInv w)
    (hkeep : l = .policyState → Policy.KeepsWaiting ((World.policyView t).get w))
    (hstep : Policy.Effect Policy.Chosen Policy.Missing l ((World.policyView t).get w) x) :
    ActiveInv ((World.policyView t).put x w) := by
  have hsel := hstep.selectionStep (h.serial t) (h.inst t) hkeep
  obtain ⟨hmembers, hpolicies, hserial, hinst, hidx⟩ := hstep.autoKeeps (h.serial t) (h.inst t)
  have hself : ((World.policyView t).put x w).policies t = x.self := Function.update_self ..
  have hother : ∀ u, u ≠ t → ((World.policyView t).put x w).policies u = w.policies u :=
    fun u hu => Function.update_of_ne hu _ _
  have hmember : ∀ i g, w.shared.Member i g → x.shared.Member i g := fun i g hi => by
    rw [Shared.Member, hmembers]
    exact hi
  have hchosen : ∀ i, x.self.Holds i → w.shared.Member i (w.policies t).ctrl.groupInst :=
    fun i => h.member_of_holds hstep
  have hselected : ∀ g i, x.shared.selected? g = some i → w.shared.selected? g = some i ∨
      g = (w.policies t).ctrl.groupInst ∧ x.self.Holds i := by
    intro g i hg
    by_cases hgt : g = (w.policies t).ctrl.groupInst
    · subst hgt
      exact (hsel.own i hg).imp_right fun hi => ⟨rfl, hi⟩
    · exact .inl ((hsel.others g hgt).symm.trans hg)
  refine ⟨(policy_step h.threads hstep).1, h.hot, fun u => ?_, ?_, fun i hi => ?_, fun g i hg hi => ?_,
    fun g i hg => ?_, fun u i hu hi => ?_⟩
  · by_cases hut : u = t
    · rw [hut, hself]
      exact hserial
    · rw [hother u hut]
      exact h.serial u
  · show x.shared.SerialGroups
    rw [Shared.SerialGroups, hpolicies]
    exact h.groups
  · -- an interface that is still active is still selected by the current group
    have hactive := hsel.activates i hi
    have hcurrent := h.active i hactive
    show x.shared.selected? w.failOver.ctrl.currentActiveGroup = some i
    by_cases hgt : w.failOver.ctrl.currentActiveGroup = (w.policies t).ctrl.groupInst
    · rw [hgt] at hcurrent ⊢
      rcases hsel.keeps with hsame | ⟨hlive, hkeeps⟩
      · exact hsame.trans hcurrent
      · have hne : w.shared.selectionStatus i ≠ .notSelected := fun hnot => by
          exact absurd (hnot.symm.trans hactive) nofun
        obtain ⟨u, hu, hholds⟩ := h.held _ i hcurrent hne
        obtain rfl := h.threads.unique u t (live_of_holds hholds) hlive hu
        exact hkeeps i hholds hcurrent
    · exact (hsel.others _ hgt).trans hcurrent
  · by_cases hholds : x.self.Holds i
    · refine ⟨t, ?_, by rw [hself]; exact hholds⟩
      rw [hself, hinst]
      have hit := hchosen i hholds
      rcases hselected g i hg with hold | ⟨hgt, -⟩
      · exact Option.some.inj (hit.symm.trans (h.member g i hold))
      · exact hgt.symm
    · have hold : w.shared.selected? g = some i :=
        (hselected g i hg).resolve_right fun hnew => hholds hnew.2
      have hne := (hsel.selects i hi).resolve_right hholds
      obtain ⟨u, hu, huholds⟩ := h.held g i hold hne
      have hut : u ≠ t := by
        rintro rfl
        subst hu
        exact hholds (hsel.holds i huholds hg hi)
      exact ⟨u, by rw [hother u hut, hu], by rw [hother u hut]; exact huholds⟩
  · refine hmember i g ?_
    rcases hselected g i hg with hold | ⟨hgt, hholds⟩
    · exact h.member g i hold
    · rw [hgt]
      exact hchosen i hholds
  · refine hmember i _ ?_
    by_cases hut : u = t
    · subst hut
      rw [hself] at hu hi ⊢
      rw [hinst]
      rcases hidx i hi with hold | hnew
      · exact h.chosen u i (hstep.live hu) hold
      · exact hnew
    · rw [hother u hut] at hu hi ⊢
      exact h.chosen u i hu hi

/-! ## Interface state machines -/

@[simp] theorem selection_modifyVirtIf (d : WanIface) (v : Nat) (f : VirtualIface → VirtualIface) :
    (d.modifyVirtIf v f).selection = d.selection := by cases v <;> rfl

/-- An interface state machine changes neither the selection nor the groups. -/
theorem vismSection_selection (x : VismView) :
    Shared.SameSelection x.shared (InterfaceSm.vismSection x).shared ∧
      (InterfaceSm.vismSection x).shared.members = x.shared.members := by
  have hstore : ∀ m : Vism, Shared.SameSelection x.shared (VismView.store m x).shared ∧
      (VismView.store m x).shared.members = x.shared.members := by
    intro m
    have hsame := Shared.SameSelection.modifyIface
      (f := fun d => d.modifyVirtIf x.self.virIfIdx fun _ => m.virtIf) (by simp) x.shared
      x.self.interfaceIdx
    exact ⟨⟨hsame.status, hsame.selected⟩, Shared.Keeps.map_modify (by simp) x.shared.ifaces _⟩
  unfold InterfaceSm.vismSection
  split
  · split <;> exact ⟨.refl _, rfl⟩
  · split
    · exact ⟨.refl _, rfl⟩
    · exact hstore _

/-- A change of the data base that is not about the selection. -/
theorem ActiveInv.transfer {w w' : World} (h : ActiveInv w) (hthreads : PolicyThreads w')
    (hfo : w'.failOver = w.failOver) (hpolicies : w'.policies = w.policies)
    (hsame : Shared.SameSelection w.shared w'.shared)
    (hmembers : w'.shared.members = w.shared.members)
    (hgroups : w'.shared.policies = w.shared.policies) : ActiveInv w' where
  threads := hthreads
  hot := by rw [hfo]; exact h.hot
  serial := by rw [hpolicies]; exact h.serial
  groups := by rw [Shared.SerialGroups, hgroups]; exact h.groups
  active i hi := by
    rw [hsame.status i] at hi
    rw [hsame.selected, hfo]
    exact h.active i hi
  held g i hg hi := by
    rw [hsame.selected] at hg
    rw [hsame.status] at hi
    rw [hpolicies]
    exact h.held g i hg hi
  member g i hg := by
    rw [hsame.selected] at hg
    rw [Shared.Member, hmembers]
    exact h.member g i hg
  chosen t i ht hi := by
    rw [hpolicies] at ht hi ⊢
    rw [Shared.Member, hmembers]
    exact h.chosen t i ht hi

/-! ## The protocol -/

def activeRely : Thread → World → World → Prop
  | .failOver, w, w' =>
    w'.failOver = w.failOver ∧ (NoneActive w.shared.ifaces → NoneActive w'.shared.ifaces)
  | .policy t, w, w' =>
    ((w.policies t).Live → w'.policies t = w.policies t) ∧ w'.shared.members = w.shared.members
  | .vism _, _, _ => True

def activeProtocol : Protocol Section Thread World where
  inv := ActiveInv
  rely := activeRely
  rest t w := t = .failOver → Failover.Rests NoneActive (World.failOverView.get w)
  guard := NotGivenUp
  refl t w := by
    cases t with
    | failOver => exact ⟨rfl, id⟩
    | policy t => exact ⟨fun _ => rfl, rfl⟩
    | vism t => trivial
  trans := by
    intro t a b c h h'
    cases t with
    | failOver => exact ⟨h'.1.trans h.1, h'.2 ∘ h.2⟩
    | policy t =>
      refine ⟨fun hlive => ?_, h'.2.trans h.2⟩
      have hb : b.policies t = a.policies t := h.1 hlive
      exact (h'.1 (by rwa [hb])).trans hb
    | vism t => trivial

/-- What the rest of the program must leave alone: the threads, the states and policies of the
groups, the group of every interface, and what is selected. -/
structure KeepsSelection (w w' : World) : Prop extends KeepsPolicyThreads w w' where
  groupPolicies : w'.shared.policies = w.shared.policies
  members : w'.shared.members = w.shared.members
  selection : Shared.SameSelection w.shared w'.shared

/-- No thread runs, nothing is selected, and every group selects by AutoWAN. -/
structure NothingSelected (w : World) : Prop extends NoThreads w where
  status : ∀ i, w.shared.selectionStatus i = .notSelected
  selected : ∀ g, w.shared.selected? g = none
  groups : w.shared.SerialGroups

theorem NothingSelected.inv {w : World} (h : NothingSelected w) : ActiveInv w := by
  have hdead : ∀ t, ¬ (w.policies t).Live := fun t ht => ht.1 (h.policies t)
  refine ⟨(policyThreads_sound.start w h.toNoThreads).1, ?_, fun t => ?_, h.groups, fun i hi => ?_,
    fun g i hg => ?_, fun g i hg => ?_, fun t _ ht => absurd ht (hdead t)⟩
  · rw [h.failOver]
    nofun
  · rw [h.policies t]
    rfl
  · rw [h.status i] at hi
    cases hi
  · rw [h.selected g] at hg
    cases hg
  · rw [h.selected g] at hg
    cases hg

/-- The failover thread can tell that nothing is active where it deactivates its group. -/
theorem deactivates : Failover.Deactivates
    (fun v => ∀ i, v.shared.selectionStatus i = .active →
      v.shared.selected? v.self.ctrl.currentActiveGroup = some i) NoneActive where
  current v h := by
    obtain ⟨-, hstatus, hcurrent⟩ :=
      Failover.deactivateGroup_selection v.self.ctrl.currentActiveGroup v.shared
    refine noneActive_iff.mpr fun i hi => ?_
    rcases hstatus i with hsame | ⟨-, hsel⟩
    · exact hcurrent i (h i (hsame.symm.trans hi)) hi
    · exact absurd (hsel.symm.trans hi) nofun
  none v h hzero := by
    refine noneActive_iff.mpr fun i hi => ?_
    have hsel := h i hi
    rw [hzero] at hsel
    cases hsel

/-- Where no interface becomes active, there is none afterwards either. -/
theorem noneActive_of_status {s s' : Shared}
    (hstatus : ∀ i, s'.selectionStatus i = .active → s.selectionStatus i = .active)
    (h : NoneActive s.ifaces) : NoneActive s'.ifaces :=
  noneActive_iff.mpr fun i hi => noneActive_iff.mp h i (hstatus i hi)

theorem failOver_activeBody : Triple (activeProtocol.contract .failOver)
    (fun w => Failover.Rests NoneActive (World.failOverView.get w)) (body .failOver)
    fun _ w => Failover.Rests NoneActive (World.failOverView.get w) := by
  have hrefines : (activeProtocol.contract .failOver).Refines World.failOverView
      (Prod.mk Thread.failOver) (Failover.effects (fun v =>
        ∀ i, v.shared.selectionStatus i = .active →
          v.shared.selected? v.self.ctrl.currentActiveGroup = some i) NoneActive) :=
    { inv := fun w h => h.active
      guard := fun _ _ _ => trivial
      rely := fun _ _ h => h
      step := fun l w v h hg hstep => by
        refine ⟨failOver_active h hg.1 hstep, fun u hu => ?_⟩
        have hguar := (failOver_step h.threads (h.oldThreadEnded (.failOver, l)) hstep.threadStep).2
        cases u with
        | failOver => exact absurd rfl hu
        | policy u => exact ⟨hguar (.policy u) nofun, hstep.members⟩
        | vism u => trivial }
  exact (Failover.failOverTick_effect deactivates).lift hrefines

theorem policy_activeBody (t : Nat) : Triple (activeProtocol.contract (.policy t))
    (fun w => (w.policies t).Live) (body (.policy t)) fun _ _ => True := by
  have hrefines : (activeProtocol.contract (.policy t)).Refines (World.policyView t)
      (Prod.mk (Thread.policy t)) (Policy.effects (fun _ => True) Policy.Chosen Policy.Missing) :=
    { inv := fun _ _ => trivial
      guard := fun _ _ _ => trivial
      rely := fun w w' h hlive => by
        obtain ⟨hself, hmembers⟩ := h
        have hself' := hself hlive
        refine ⟨hself', fun i => ⟨fun hi => ?_, fun hi => ?_⟩⟩
        · show w'.shared.members[i]? = some (w'.policies t).ctrl.groupInst
          rw [hmembers, hself']
          exact hi
        · show w'.shared.members[i]? = none
          rw [hmembers]
          exact hi
      step := fun l w x h hg hstep => by
        have hkeep : l = .policyState → Policy.KeepsWaiting ((World.policyView t).get w) := by
          rintro rfl
          exact hg.2
        refine ⟨policy_active h hkeep hstep, fun u hu => ?_⟩
        cases u with
        | failOver =>
          have hactive := (hstep.selectionStep (h.serial t) (h.inst t) hkeep).activates
          exact ⟨rfl, noneActive_of_status hactive⟩
        | policy u =>
          have hne : u ≠ t := fun heq => hu (heq ▸ rfl)
          exact ⟨fun _ => Function.update_of_ne hne _ _, (hstep.autoKeeps (h.serial t) (h.inst t)).1⟩
        | vism u => trivial }
  exact ((Policy.tick_effect Policy.finds).lift hrefines).mono (fun _ _ h => Policy.own_iff.mpr h)
    fun _ _ _ _ => trivial

theorem vism_activeBody (t : Nat) : Triple (activeProtocol.contract (.vism t)) (fun _ => True)
    (body (.vism t)) fun _ _ => True := by
  refine vism_steps fun w h => ?_
  obtain ⟨hthreads, -⟩ := vism_step (t := t) h.threads
  obtain ⟨hsame, hmembers⟩ := vismSection_selection ((World.vismView t).get w)
  have hgroups := groups_vismSection ((World.vismView t).get w)
  refine ⟨h.transfer hthreads rfl rfl hsame hmembers (congrArg (List.map _) hgroups), fun u _ => ?_⟩
  cases u with
  | failOver => exact ⟨rfl, noneActive_of_status fun i hi => (hsame.status i).symm.trans hi⟩
  | policy u => exact ⟨fun _ => rfl, hmembers⟩
  | vism u => trivial

theorem active_sound : (pool KeepsSelection).Sound activeProtocol NothingSelected where
  start w hw := by
    refine ⟨hw.inv, fun t ht => ⟨trivial, fun _ => noneActive_iff.mpr fun i hi => ?_⟩⟩
    have hnot := hw.status i
    exact absurd (hnot.symm.trans hi) nofun
  stable t w w' h hr _ ht := by
    subst ht
    have hstable : (Failover.effects (fun _ => True) NoneActive).Stable (Failover.Rests NoneActive) :=
      Failover.stable_knows (fun _ => True) fun t => Failover.calmPhase t.phase
    exact hstable _ _ (h rfl) hr trivial
  body t := by
    cases t with
    | failOver => exact failOver_activeBody.mono (fun _ _ h => h.1 rfl) fun _ _ _ h _ => h
    | policy t => exact (policy_activeBody t).mono (fun _ _ h => h.2) fun _ _ _ _ => nofun
    | vism t => exact (vism_activeBody t).mono (fun _ _ _ => trivial) fun _ _ _ _ => nofun
  env w w' h henv := by
    obtain ⟨hthreads, -⟩ := policyThreads_sound.env w w' h.threads henv.toKeepsPolicyThreads
    refine ⟨h.transfer hthreads henv.failOver henv.policies henv.selection henv.members
      henv.groupPolicies, fun t => ?_⟩
    cases t with
    | failOver =>
      exact ⟨henv.failOver, noneActive_of_status fun i hi => (henv.selection.status i).symm.trans hi⟩
    | policy t => exact ⟨fun _ => congrFun henv.policies t, henv.members⟩
    | vism t => trivial

/-- At most one interface is `ACTIVE`, and it is what the current group has selected. -/
structure ActiveExclusive (w : World) : Prop where
  unique : ∀ i j, w.shared.selectionStatus i = .active → w.shared.selectionStatus j = .active → i = j
  current : ∀ i, w.shared.selectionStatus i = .active →
    w.shared.selected? w.failOver.ctrl.currentActiveGroup = some i

/-- In every hot-swap run of AutoWAN groups in which no thread gives up an interface that is
still selected, at most one interface is active, and it is the current group's. -/
theorem active_wan_exclusive {c : Config Section Thread World}
    (h : (pool KeepsSelection).Reach NotGivenUp NothingSelected c) : ActiveExclusive c.store := by
  have hcurrent := (active_sound.reach h).active
  refine ⟨fun i j hi hj => ?_, hcurrent⟩
  have hij := (hcurrent i hi).symm.trans (hcurrent j hj)
  exact Option.some.inj hij

/-! One group with two interfaces, of which the second never has a link. The first is
selected, loses its selection when WAN is switched off, and is found again; the group still
has it selected then, so it is activated while it is being scanned. When its link is lost,
the thread waits for it, and ends when WAN is switched off once more. -/

namespace ActiveExample

/-- A tick after a change that is not about the selection. -/
def edit (f : Shared → Shared) (hstates : ∀ s, (f s).states = s.states)
    (hpolicies : ∀ s, (f s).policies = s.policies) (hmembers : ∀ s, (f s).members = s.members)
    (hsame : ∀ s, Shared.SameSelection s (f s)) (t : Thread) : (pool KeepsSelection).Move :=
  after f (fun w => ⟨⟨rfl, rfl, rfl, hstates w.shared⟩, hpolicies w.shared, hmembers w.shared,
    hsame w.shared⟩) t

def tick (t : Thread) : (pool KeepsSelection).Move :=
  edit id (fun _ => rfl) (fun _ => rfl) (fun _ => rfl) Shared.SameSelection.refl t

/-- A tick after an interface was changed. -/
def withIface (i : Nat) (f : WanIface → WanIface) (hf : ∀ d, (f d).selection.status = d.selection.status)
    (hgroup : ∀ d, (f d).selection.group = d.selection.group) (t : Thread) :
    (pool KeepsSelection).Move :=
  edit (fun s => s.modifyIface i f) (fun _ => rfl) (fun _ => rfl)
    (fun s => Shared.Keeps.map_modify hgroup s.ifaces i) (fun s => .modifyIface hf s i) t

/-- A tick after the link of the first interface went up or down. -/
def link (st : PhyStatus) : Thread → (pool KeepsSelection).Move :=
  withIface 0 (fun d => { d with baseInterfaceStatus := st }) (fun _ => rfl) fun _ => rfl

/-- A tick after the second interface was switched on or off. -/
def second (enable : Bool) : Thread → (pool KeepsSelection).Move :=
  withIface 1 (fun d => { d with selection := { d.selection with enable } }) (fun _ => rfl) fun _ => rfl

def lease : Thread → (pool KeepsSelection).Move :=
  withIface 0 (fun d => { d with virtIf := { d.virtIf with ip := { d.virtIf.ip with ipv4Status := .up } } })
    (fun _ => rfl) fun _ => rfl

def wan (enable : Bool) (t : Thread) : (pool KeepsSelection).Move :=
  edit (fun s => { s with config := { s.config with enable } }) (fun _ => rfl) (fun _ => rfl)
    (fun _ => rfl) (fun _ => ⟨fun _ => rfl, fun _ => rfl⟩) t

def start : World := { shared := { ifaces := [{}, {}], groups := [{}] } }

/-- The first interface is selected and stands by. -/
def selection : List (pool KeepsSelection).Move :=
  [tick .failOver, link .up (.policy 0), tick (.policy 0), tick (.policy 0)] ++
    List.replicate 5 (tick (.vism 0)) ++ [lease (.vism 0), tick (.policy 0), tick (.policy 0)]

def activation : List (pool KeepsSelection).Move := selection ++ [tick .failOver]

/-- It is given up, and found again. -/
def reselection : List (pool KeepsSelection).Move :=
  selection ++ [wan false (.policy 0)] ++ List.replicate 3 (tick (.vism 0)) ++
    [wan true (.policy 0), second false (.policy 0), tick (.policy 0), second true (.policy 0),
      tick (.policy 0)] ++
    List.replicate 5 (tick (.vism 1)) ++ [lease (.vism 1)]

def desertion : List (pool KeepsSelection).Move :=
  reselection ++ [tick .failOver, link .down (.vism 1), tick (.vism 1), tick (.vism 1),
    tick (.policy 0), wan false (.policy 0), tick (.policy 0)]

theorem nothingSelected : NothingSelected start where
  failOver := rfl
  policies _ := rfl
  visms _ := rfl
  status i := by
    rcases i with _ | _ | _ <;> rfl
  selected g := by
    rcases g with _ | _ | _ <;> rfl
  groups p hp := by
    obtain rfl : p = .autowan := by simpa [start, Shared.policies] using hp
    nofun

end ActiveExample

open ActiveExample in
theorem active_wan_exclusive_run :
    ActiveExclusive ((pool KeepsSelection).play activation start) ∧
      ((pool KeepsSelection).play activation start).shared.selectionStatus 0 = .active := by
  have hplays : (pool KeepsSelection).Plays NotGivenUp activation start := by decide +kernel
  have hrun := Pool.Reach.play (.start nothingSelected) hplays
  have hone := active_wan_exclusive hrun
  rw [Pool.idle_store] at hone
  exact ⟨hone, by decide +kernel⟩

open ActiveExample in
/-- An interface stays active after its group's thread has ended. -/
theorem active_wan_deserted :
    ¬ ∀ c, (pool KeepsSelection).Reach HotSwap NothingSelected c → ActiveExclusive c.store := by
  intro h
  have hplays : (pool KeepsSelection).Plays HotSwap desertion start := by decide +kernel
  have hone := h _ (Pool.Reach.play (.start nothingSelected) hplays)
  rw [Pool.idle_store] at hone
  have hcurrent := hone.current 0 (by decide +kernel)
  exact absurd hcurrent (by decide +kernel)

end System
end WanManager
