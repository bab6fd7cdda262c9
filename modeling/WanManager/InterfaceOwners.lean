import WanManager.ActiveExclusion
import WanManager.PolicyWindUp
import WanManager.GroupConfiguration

/-! # An interface has one owner

A selection thread owns the interface of its index. It chooses among the interfaces of its
group, so as long as none moves to another group, no two threads own the same one. `Group`
may be written at any time though: the new group's thread may choose an interface that the
old group's thread has not let go of, or is about to choose. -/

namespace WanManager
open Concurrency

/-! ## What a section of a selection thread leaves alone -/

namespace Shared

/-- Of the interfaces only `i` and those of group `g` are changed. -/
def Touches (i g : Nat) (s s' : Shared) : Prop :=
  ∀ j d, j ≠ i → s.ifaces[j]? = some d → d.selection.group ≠ g → s'.ifaces[j]? = some d

namespace Touches

variable {i g : Nat}

theorem refl (s : Shared) : Touches i g s s := fun _ _ _ hd _ => hd

theorem trans {s s' s'' : Shared} (h : Touches i g s s') (h' : Touches i g s' s'') :
    Touches i g s s'' := fun j d hj hd hg => h' j d hj (h j d hj hd hg) hg

theorem of_ifaces {s s' : Shared} (h : s'.ifaces = s.ifaces) : Touches i g s s' :=
  fun _ _ _ hd _ => by rw [h]; exact hd

theorem modifyIface {j : Nat} {f : WanIface → WanIface}
    (hf : j = i ∨ ∀ d, d.selection.group ≠ g → f d = d) (s : Shared) :
    Touches i g s (s.modifyIface j f) := by
  intro k d hk hd hg
  rw [Shared.modifyIface, List.getElem?_modify, hd]
  by_cases hjk : j = k
  · rcases hf with rfl | hf
    · exact absurd hjk.symm hk
    · simp [hjk, hf d hg]
  · simp [hjk]

theorem modifyGroup (inst : Nat) (f : IfaceGroup → IfaceGroup) (s : Shared) :
    Touches i g s (s.modifyGroup inst f) := of_ifaces (ifaces_modifyGroup _ _ _)

theorem foldl {α : Type} {f : Shared → α → Shared} (h : ∀ s a, Touches i g s (f s a)) (l : List α)
    (s : Shared) : Touches i g s (l.foldl f s) := by
  induction l generalizing s with
  | nil => exact refl s
  | cons a l ih => exact (h s a).trans (ih (f s a))

end Touches
end Shared

namespace AutoWan
open Policy

section Touches

variable {i : Nat} {d : WanIface} {x : PolicyView}

/-- The section changes its own interface, and those of its group. -/
abbrev TouchesOwn (i : Nat) (x : PolicyView) (r : AutoWanState × PolicyView) : Prop :=
  Shared.Touches i x.self.ctrl.groupInst x.shared r.2.shared

theorem touches_startIfaceStateMachine (g : Nat) (d : WanIface) (y : PolicyView) :
    Shared.Touches i g y.shared (startIfaceStateMachine i d y).2.shared := by
  rcases startIfaceStateMachine_eq i d y with h | h <;> rw [h]
  · exact .of_ifaces (by rw [startVirtIfs_shared])
  · have hstart : Shared.Touches i g y.shared (startVirtIfs i (virtIfRange d) y).2.shared :=
      .of_ifaces (by rw [startVirtIfs_shared])
    exact hstart.trans (.modifyIface (.inl rfl) _)

theorem touches_resetActiveLinks (g : Nat) (is : List Nat) (s : Shared) :
    Shared.Touches i g s (resetActiveLinks g is s).2 := by
  induction is generalizing s with
  | nil => exact .refl s
  | cons j is ih =>
    unfold resetActiveLinks
    cases hd : s.ifaces[j]? with
    | none => exact ih s
    | some d =>
      simp only
      split
      · rename_i hgroup
        have hlink : Shared.Touches i g s (setActiveLink j false s) := by
          intro k d' hk hd' hg
          rw [setActiveLink, Shared.modifyIface, List.getElem?_modify_ne]
          · exact hd'
          · rintro rfl
            obtain rfl : d = d' := Option.some.inj (hd.symm.trans hd')
            exact hg hgroup
        split
        · exact hlink.trans (ih _)
        · exact hlink
      · exact ih s

theorem touches_resetActiveLinkOnAllIface (y : PolicyView) :
    Shared.Touches i y.self.ctrl.groupInst y.shared (resetActiveLinkOnAllIface y).2.shared := by
  unfold resetActiveLinkOnAllIface
  split
  · exact .refl _
  · exact touches_resetActiveLinks _ _ _

theorem touches_resetIfaceTable (y : PolicyView) :
    Shared.Touches i y.self.ctrl.groupInst y.shared (resetIfaceTable y).shared :=
  .foldl (fun s _ => .modifyIface (.inr fun _ hgroup => if_neg fun h => hgroup h.1) s) _ _

theorem touches_resetGroupSelectedIface (g : Nat) (y : PolicyView) :
    Shared.Touches i g y.shared (resetGroupSelectedIface y).2.shared := by
  rcases resetGroupSelectedIface_cases y with h | h <;> rw [h]
  · exact .refl _
  · exact .modifyGroup _ _ _

theorem touches_restartSelection : TouchesOwn i x (transitionRestartSelectionInterface x) := by
  have hlinks := touches_resetActiveLinkOnAllIface (i := i) x
  have hself := self_resetActiveLinkOnAllIface x
  unfold TouchesOwn transitionRestartSelectionInterface
  cases hx : resetActiveLinkOnAllIface x with
  | mk ok y =>
    rw [hx] at hlinks hself
    cases ok with
    | false => exact hlinks
    | true =>
      have hclear : Shared.Touches i x.self.ctrl.groupInst y.shared (clearResetSelected y).shared :=
        (Shared.Touches.modifyGroup y.self.ctrl.groupInst _ y.shared).trans (.of_ifaces rfl)
      have htable := touches_resetIfaceTable (i := i) (clearResetSelected y)
      have hinst : (clearResetSelected y).self.ctrl.groupInst = x.self.ctrl.groupInst := by
        have hy : y.self = x.self := hself
        rw [← hy]
        rfl
      rw [hinst] at htable
      have hforget := touches_resetGroupSelectedIface (i := i) x.self.ctrl.groupInst
        (resetIfaceTable (clearResetSelected y))
      have hall := ((hlinks.trans hclear).trans htable).trans hforget
      simp only
      cases hz : resetGroupSelectedIface (resetIfaceTable (clearResetSelected y)) with
      | mk ok z =>
        rw [hz] at hall
        cases ok <;> exact hall

theorem touches_invalid : TouchesOwn i x (transitionInterfaceInvalid i x) :=
  (Shared.Touches.modifyIface (.inl rfl) x.shared).trans (.modifyIface (.inl rfl) _)

theorem touches_deselect : TouchesOwn i x (transitionInterfaceDeselect i x) :=
  .modifyIface (.inl rfl) _

theorem touches_validated : TouchesOwn i x (transitionInterfaceValidated i x) :=
  (Shared.Touches.modifyIface (.inl rfl) x.shared).trans (.modifyGroup _ _ _)

theorem touches_waiting : TouchesOwn i x (stateWaitForInterface i d x) := by
  unfold TouchesOwn stateWaitForInterface
  split
  · exact .refl _
  split
  · exact touches_invalid
  split
  · have hselect : Shared.Touches i x.self.ctrl.groupInst x.shared (setSelection i .selected x).shared :=
      .modifyIface (.inl rfl) _
    exact hselect.trans (touches_startIfaceStateMachine _ d _)
  split
  · exact touches_invalid
  simp only
  split
  · exact .modifyGroup _ _ _
  · exact .refl _

theorem touches_scanning : TouchesOwn i x (stateScanningInterface i d x) := by
  unfold TouchesOwn stateScanningInterface
  split
  · exact touches_deselect
  split
  · exact touches_validated
  split
  · exact touches_deselect
  split
  · exact .refl _
  split
  · exact touches_validated
  split
  · exact touches_deselect
  · exact .refl _

theorem touches_teardown : TouchesOwn i x (stateWaitingForIfaceTearDown i x) := by
  unfold TouchesOwn stateWaitingForIfaceTearDown
  split
  · exact .refl _
  split
  · exact .refl _
  split
  · exact touches_restartSelection
  · exact touches_invalid

theorem touches_reconfiguration : TouchesOwn i x (stateInterfaceReconfiguration i x) := by
  unfold TouchesOwn stateInterfaceReconfiguration
  split
  · exact (Shared.Touches.modifyIface (.inl rfl) x.shared).trans (.modifyIface (.inl rfl) _)
  split
  · exact .refl _
  · exact .refl _

theorem touches_active : TouchesOwn i x (stateWanInterfaceActive i d x) := by
  unfold TouchesOwn stateWanInterfaceActive
  split
  · exact .modifyIface (.inl rfl) _
  split
  · exact .modifyGroup _ _ _
  · unfold startChangedVirtIfs
    split
    · have hstart : Shared.Touches i x.self.ctrl.groupInst x.shared
          ((virtIfRange d).foldl (startVirtIfNotRunning i) x).shared :=
        .of_ifaces (by rw [startNotRunning_shared])
      exact hstart.trans (.modifyIface (.inl rfl) _)
    · exact .refl _

theorem touches_down : TouchesOwn i x (stateWanInterfaceDown i d x) := by
  unfold TouchesOwn stateWanInterfaceDown
  split
  · exact .modifyIface (.inl rfl) _
  split
  · have hgroup : Shared.Touches i x.self.ctrl.groupInst x.shared (setGroupSelected (i + 1) x).shared :=
      .modifyGroup _ _ _
    unfold transitionWanInterfaceUp
    split
    · exact hgroup
    · exact hgroup.trans (touches_startIfaceStateMachine _ d _)
  · exact .refl _

theorem touches_tearingDown : TouchesOwn i x (stateWaitingForInterfaceSMExit i x) := by
  have hselect : Shared.Touches i x.self.ctrl.groupInst x.shared (setSelection i .notSelected x).shared :=
    .modifyIface (.inl rfl) _
  unfold TouchesOwn
  simp only [stateWaitingForInterfaceSMExit]
  split
  · exact hselect
  have htable := touches_resetIfaceTable (i := i) (setSelection i .notSelected x)
  have hforget := touches_resetGroupSelectedIface (i := i) x.self.ctrl.groupInst
    (resetIfaceTable (setSelection i .notSelected x))
  have hall := (hselect.trans htable).trans hforget
  have hself : (resetGroupSelectedIface (resetIfaceTable (setSelection i .notSelected x))).2.self =
      x.self := by
    rcases resetGroupSelectedIface_cases (resetIfaceTable (setSelection i .notSelected x)) with h | h
    · rw [h]
      rfl
    · rw [h]
      rfl
  simp only
  split
  · have hlinks := touches_resetActiveLinkOnAllIface (i := i)
      (resetGroupSelectedIface (resetIfaceTable (setSelection i .notSelected x))).2
    rw [hself] at hlinks
    exact hall.trans hlinks
  · exact hall

/-- A state with a selected interface changes it, and interfaces of the thread's group. -/
theorem touches_lockedState (st : AutoWanState) : TouchesOwn i x (lockedState st i d x) := by
  cases st with
  | selecting =>
    show TouchesOwn i x (stateSelectingInterface d x)
    unfold TouchesOwn stateSelectingInterface
    split
    · exact .refl _
    · exact .refl _
  | waiting => exact touches_waiting
  | scanning => exact touches_scanning
  | teardown => exact touches_teardown
  | reconfiguration => exact touches_reconfiguration
  | rebootPlatform =>
    show TouchesOwn i x (stateRebootingPlatform i x)
    unfold TouchesOwn stateRebootingPlatform
    split
    · exact .refl _
    · exact .refl _
  | active => exact touches_active
  | down => exact touches_down
  | tearingDown => exact touches_tearingDown
  | smExit | error => exact .refl _

end Touches
end AutoWan

namespace Policy

/-- Interfaces of other groups are left as they are, except for the thread's own. -/
theorem Effect.spares {chosen missing : PolicyView → Nat → Prop} {l : Site} {x x' : PolicyView}
    (h : Effect chosen missing l x x') (hserial : x.self.phase.parallel = false)
    (hinst : x.self.Live → x.self.ctrl.groupInst ≠ 0) {j : Nat} {d : WanIface}
    (hd : x.shared.ifaces[j]? = some d)
    (hj : x.self.Live → x.self.ctrl.activeInterfaceIdx ≠ some j ∧
      d.selection.group ≠ x.self.ctrl.groupInst) : x'.shared.ifaces[j]? = some d := by
  cases h with
  | same | own | rescan => exact hd
  | @iface _ i _ f hlive hf hlocal =>
    show (x.shared.ifaces.modify i f)[j]? = some d
    rw [List.getElem?_modify, hd]
    by_cases hij : i = j
    · subst hij
      simp [hlocal d hd (hj hlive).2]
    · simp [hij]
  | group hf =>
    show (x.shared.modifyGroup _ _).ifaces[j]? = some d
    rw [Shared.ifaces_modifyGroup]
    exact hd
  | autoWan hst ha =>
    obtain ⟨hidx, -⟩ := activeIface_some ha
    obtain ⟨hne, hgroup⟩ := hj (PolicyThread.live_autoWan hst)
    rw [adoptGroup_eq (hinst (PolicyThread.live_autoWan hst))]
    exact AutoWan.touches_lockedState _ j d (fun hji => hne (hji ▸ hidx)) hd hgroup
  | parallelScan hst _ =>
    rw [hst] at hserial
    cases hserial
  | selectIface hp | selectGroup hp | connected hp =>
    rw [hserial] at hp
    cases hp
  | leave _ _ =>
    show (x.shared.modifyGroup _ _).ifaces[j]? = some d
    rw [Shared.ifaces_modifyGroup]
    exact hd

/-- While the thread is choosing, the interface is in its group. -/
def Chooses (x : PolicyView) (i : Nat) : Prop :=
  x.self.phase.picking = true → x.shared.Member i x.self.ctrl.groupInst

theorem finds_chooses : Finds Chooses fun _ _ => True where
  chosen x i d hd hgroup _ := by simp [Shared.Member, Shared.members, hd, hgroup]
  missing _ _ _ := trivial

/-- A thread that takes an interface has found it in its group. -/
theorem Effect.takes {l : Site} {x x' : PolicyView} (h : Effect Chooses (fun _ _ => True) l x x')
    (hserial : x.self.phase.parallel = false) (hinst : x.self.Live → x.self.ctrl.groupInst ≠ 0)
    {i : Nat} (hi : x'.self.ctrl.activeInterfaceIdx = some i) :
    x.self.ctrl.activeInterfaceIdx = some i ∨ x.shared.Member i x.self.ctrl.groupInst := by
  cases h with
  | own ho =>
    have hserial' : _ = false := ho.parallel.trans hserial
    exact (ho.idx hserial' i hi).imp_right fun h => h.2 h.1
  | same | iface | group | rescan => exact .inl hi
  | @autoWan st j d _ hst ha =>
    obtain ⟨hidx, hd⟩ := activeIface_some ha
    rw [adoptGroup_eq (hinst (PolicyThread.live_autoWan hst))] at hi
    rcases (AutoWan.turn_lockedState hidx hd st).idx with hsome | ⟨hnone, -⟩
    · exact .inl (hidx.trans (hsome.symm.trans hi))
    · exact absurd (hnone.symm.trans hi) nofun
  | parallelScan hst _ =>
    rw [hst] at hserial
    cases hserial
  | selectIface hp | selectGroup hp | connected hp =>
    rw [hserial] at hp
    cases hp
  | leave _ _ => exact .inl hi

end Policy

/-! ## Writing the group of an interface -/

namespace Shared

/-- Only the interface that was moved has left its group. -/
theorem member_setSelectionGroup {s : Shared} {j g : Nat} (i uValue : Nat) (h : s.Member j g) :
    (setSelectionGroup i uValue s).Member j g ∨
      j = i ∧ ∃ d, s.Moves i uValue d ∧ d.selection.group = g := by
  unfold setSelectionGroup
  cases hd : s.ifaces[i]? with
  | none => exact .inl h
  | some d =>
    simp only
    split
    · exact .inl h
    rename_i hle
    split
    · exact .inl h
    rename_i hne
    obtain ⟨d', hd', hgroup⟩ := member_iff.mp h
    by_cases hj : j = i
    · subst hj
      obtain rfl : d = d' := Option.some.inj (hd.symm.trans hd')
      exact .inr ⟨rfl, d, ⟨hd, Nat.not_lt.mp hle, hne⟩, hgroup⟩
    · refine .inl (member_iff.mpr ⟨d', ?_, hgroup⟩)
      have hifaces : ((s.modifyGroup uValue (joinGroup i)).modifyGroup d.selection.group
          (quitGroup i)).ifaces = s.ifaces := by rw [ifaces_modifyGroup, ifaces_modifyGroup]
      have hne : i ≠ j := fun h => hj h.symm
      simpa [Shared.modifyIface, hifaces, List.getElem?_modify, hne] using hd'

theorem map_groups_modifyGroup {α : Type} {p : IfaceGroup → α} {f : IfaceGroup → IfaceGroup}
    (h : ∀ g, p (f g) = p g) (s : Shared) (inst : Nat) :
    (s.modifyGroup inst f).groups.map p = s.groups.map p := by
  cases inst with
  | zero => rfl
  | succ n => exact Shared.Keeps.map_modify h s.groups n

/-- The groups keep their states and policies. -/
theorem groups_setSelectionGroup (i uValue : Nat) (s : Shared) :
    (setSelectionGroup i uValue s).states = s.states ∧
      (setSelectionGroup i uValue s).policies = s.policies := by
  have hkeeps : ∀ {α : Type} (p : IfaceGroup → α), (∀ g, p (joinGroup i g) = p g) →
      (∀ g, p (quitGroup i g) = p g) →
      (setSelectionGroup i uValue s).groups.map p = s.groups.map p := by
    intro α p hjoin hquit
    unfold setSelectionGroup
    split
    · rfl
    split
    · rfl
    split
    · rfl
    · exact (map_groups_modifyGroup hquit _ _).trans (map_groups_modifyGroup hjoin _ _)
  exact ⟨hkeeps _ (fun _ => rfl) fun _ => rfl, hkeeps _ (fun _ => rfl) fun _ => rfl⟩

end Shared

namespace PolicyThread

/-- The thread is alive and has the interface as its `activeInterfaceIdx`. -/
def Owns (t : PolicyThread) (i : Nat) : Prop := t.Live ∧ t.ctrl.activeInterfaceIdx = some i

instance (t : PolicyThread) (i : Nat) : Decidable (t.Owns i) := inferInstanceAs (Decidable (_ ∧ _))

end PolicyThread

namespace System

/-- Everything else leaves the threads and the states of the groups alone, gives no group
another policy than AutoWAN, and moves no interface to another group. -/
structure KeepsOwners (w w' : World) : Prop extends KeepsPolicyThreads w w' where
  serial : w.shared.SerialGroups → w'.shared.SerialGroups
  members : ∀ i g, w.shared.Member i g → w'.shared.Member i g

/-- The environment writes `Group` where `admits` lets it. -/
inductive GroupWrite (admits : World → Nat → Nat → Prop) : World → World → Prop
  | setGroup {w i uValue} : admits w i uValue →
      GroupWrite admits w { w with shared := w.shared.setSelectionGroup i uValue }
  | other {w w'} : KeepsOwners w w' → GroupWrite admits w w'

/-- An interface is moved only while no thread owns it, and while the thread of the group it
leaves is not choosing one. -/
def Unowned (w : World) (i uValue : Nat) : Prop :=
  ∀ d, w.shared.Moves i uValue d → ∀ t < w.policyCount, (w.policies t).Live →
    (w.policies t).ctrl.activeInterfaceIdx ≠ some i ∧
      ((w.policies t).ctrl.groupInst = d.selection.group → (w.policies t).phase.picking = false)

/-! ## The invariant -/

structure OwnersInv (w : World) : Prop where
  threads : PolicyThreads w
  serial : ∀ t, (w.policies t).phase.parallel = false
  groups : w.shared.SerialGroups
  /-- what a thread owns is of its group -/
  owned : ∀ t i, (w.policies t).Owns i → w.shared.Member i (w.policies t).ctrl.groupInst

theorem OwnersInv.inst {w : World} (h : OwnersInv w) (t : Nat) :
    (w.policies t).Live → (w.policies t).ctrl.groupInst ≠ 0 := occupied_inst h.threads

/-- The members of the groups are the same, and the threads that own something as before. -/
theorem OwnersInv.failOver {l : Site} {w : World} {v : FailOverView} (h : OwnersInv w)
    (hg : OldThreadEnded (.failOver, l) w)
    (hstep : Failover.Effect (fun _ => True) l (World.failOverView.get w) v) :
    OwnersInv (World.failOverView.put v w) := by
  obtain ⟨hthreads, -⟩ := failOver_step h.threads hg hstep.threadStep
  obtain ⟨hgroups, hnew⟩ := hstep.serial h.groups
  have hmembers : v.shared.members = w.shared.members := hstep.members
  refine ⟨hthreads, fun t => ?_, hgroups, fun t i hi => ?_⟩
  · show (v.policies t).phase.parallel = false
    rcases hnew t with hold | ⟨hserial, -⟩
    · rw [hold]
      exact h.serial t
    · exact hserial
  · have hi' : (v.policies t).Owns i := hi
    show v.shared.members[i]? = some (v.policies t).ctrl.groupInst
    rw [hmembers]
    rcases hnew t with hold | ⟨-, hnone⟩
    · rw [hold] at hi' ⊢
      exact h.owned t i hi'
    · exact absurd (hnone.symm.trans hi'.2) nofun

theorem OwnersInv.policy {l : Site} {t : Nat} {w : World} {x : PolicyView} (h : OwnersInv w)
    (hstep : Policy.Effect Policy.Chooses (fun _ _ => True) l ((World.policyView t).get w) x) :
    OwnersInv ((World.policyView t).put x w) := by
  obtain ⟨hmembers, hpolicies, hserial, hinst, -⟩ := hstep.autoKeeps (h.serial t) (h.inst t)
  have hself : ((World.policyView t).put x w).policies t = x.self := Function.update_self ..
  have hother : ∀ u, u ≠ t → ((World.policyView t).put x w).policies u = w.policies u :=
    fun u hu => Function.update_of_ne hu _ _
  refine ⟨(policy_step h.threads hstep).1, fun u => ?_, ?_, fun u i hi => ?_⟩
  · by_cases hut : u = t
    · rw [hut, hself]
      exact hserial
    · rw [hother u hut]
      exact h.serial u
  · show x.shared.SerialGroups
    rw [Shared.SerialGroups, hpolicies]
    exact h.groups
  · show x.shared.members[i]? = _
    rw [hmembers]
    by_cases hut : u = t
    · subst hut
      rw [hself] at hi ⊢
      rw [hinst]
      obtain ⟨hlive, hidx⟩ := hi
      rcases hstep.takes (h.serial u) (h.inst u) hidx with hold | hnew
      · obtain ⟨hlive', -, -⟩ := hstep.goes hlive
        exact h.owned u i ⟨hlive', hold⟩
      · exact hnew
    · rw [hother u hut] at hi ⊢
      exact h.owned u i hi

/-- A change of the data base that moves no interface which is owned. -/
theorem OwnersInv.transfer {w w' : World} (h : OwnersInv w) (hthreads : PolicyThreads w')
    (hpolicies : w'.policies = w.policies) (hgroups : w'.shared.SerialGroups)
    (hmembers : ∀ t i, (w.policies t).Owns i → w.shared.Member i (w.policies t).ctrl.groupInst →
      w'.shared.Member i (w.policies t).ctrl.groupInst) : OwnersInv w' where
  threads := hthreads
  serial := by rw [hpolicies]; exact h.serial
  groups := hgroups
  owned t i hi := by
    rw [hpolicies] at hi ⊢
    exact hmembers t i hi (h.owned t i hi)

/-! ## The protocol -/

/-- A thread relies on its record, and while it is choosing on the members of its group. -/
def ownersRely : Thread → World → World → Prop
  | .failOver, w, w' => w'.failOver = w.failOver
  | .policy t, w, w' => (w.policies t).Live → w'.policies t = w.policies t ∧
      ((w.policies t).phase.picking = true → ∀ i, w.shared.Member i (w.policies t).ctrl.groupInst →
        w'.shared.Member i (w.policies t).ctrl.groupInst)
  | .vism _, _, _ => True

def ownersProtocol : Protocol Section Thread World where
  inv := OwnersInv
  rely := ownersRely
  guard := OldThreadEnded
  refl t w := by
    cases t with
    | failOver => rfl
    | policy t => exact fun _ => ⟨rfl, fun _ _ h => h⟩
    | vism t => trivial
  trans := by
    intro t a b c h h'
    cases t with
    | failOver =>
      have hab : b.failOver = a.failOver := h
      exact Eq.trans h' hab
    | policy t =>
      intro hlive
      obtain ⟨hb, hmembers⟩ := h hlive
      obtain ⟨hc, hmembers'⟩ := h' (by rwa [hb])
      rw [hb] at hc hmembers'
      exact ⟨hc, fun hpick i hi => hmembers' hpick i (hmembers hpick i hi)⟩
    | vism t => trivial

/-- A section of the thread leaves alone the interfaces that other threads own. -/
def Spares (t : Nat) (w w' : World) : Prop :=
  ∀ u i, u ≠ t → (w.policies u).Owns i → w'.shared.ifaces[i]? = w.shared.ifaces[i]?

theorem OwnersInv.one {w : World} (h : OwnersInv w) {t u i : Nat} (ht : (w.policies t).Owns i)
    (hu : (w.policies u).Owns i) : t = u := by
  have hgroup := h.owned t i ht
  have hgroup' := h.owned u i hu
  exact h.threads.unique t u ht.1 hu.1 (Option.some.inj (hgroup.symm.trans hgroup'))

theorem OwnersInv.spares {l : Site} {t : Nat} {w : World} {x : PolicyView} (h : OwnersInv w)
    (hstep : Policy.Effect Policy.Chooses (fun _ _ => True) l ((World.policyView t).get w) x) :
    Spares t w ((World.policyView t).put x w) := by
  intro u i hut hi
  obtain ⟨d, hd, hgroup⟩ := Shared.member_iff.mp (h.owned u i hi)
  show x.shared.ifaces[i]? = w.shared.ifaces[i]?
  rw [hd]
  refine hstep.spares (h.serial t) (h.inst t) hd fun hlive => ⟨fun hidx => ?_, ?_⟩
  · exact hut (h.one hi ⟨hlive, hidx⟩)
  · rw [hgroup]
    exact fun heq => hut (h.threads.unique u t hi.1 hlive heq)

theorem spares_refl (t : Nat) (w : World) : Spares t w w := fun _ _ _ _ => rfl

/-- A selection thread keeps the invariant, and spares what others own. -/
theorem policy_spares (t : Nat) :
    Triple (ownersProtocol.narrow (.policy t) (Spares t) (spares_refl t))
      (fun w => True ∧ (w.policies t).Live) (body (.policy t)) fun _ _ => True := by
  have hrefines : (ownersProtocol.narrow (.policy t) (Spares t) (spares_refl t)).Refines
      (World.policyView t) (Prod.mk (Thread.policy t))
      (Policy.effects (fun _ => True) Policy.Chooses fun _ _ => True) :=
    { inv := fun _ _ => trivial
      guard := fun _ _ _ => trivial
      rely := fun w w' h hlive => by
        obtain ⟨hself, hmembers⟩ := h hlive
        refine ⟨hself, fun i => ⟨fun hi hpick => ?_, id⟩⟩
        show w'.shared.Member i (w'.policies t).ctrl.groupInst
        rw [hself]
        have hpick' : (w'.policies t).phase.picking = true := hpick
        rw [hself] at hpick'
        exact hmembers hpick' i (hi hpick')
      step := fun l w x h _ hstep => by
        refine ⟨⟨h.policy hstep, fun u hu => ?_⟩, h.spares hstep⟩
        cases u with
        | failOver => rfl
        | vism u => trivial
        | policy u =>
          have hne : u ≠ t := fun heq => hu (heq ▸ rfl)
          refine fun _ => ⟨Function.update_of_ne hne _ _, fun _ i hi => ?_⟩
          show x.shared.members[i]? = _
          rw [(hstep.autoKeeps (h.serial t) (h.inst t)).1]
          exact hi }
  exact ((Policy.tick_effect Policy.finds_chooses).lift hrefines).mono
    (fun _ _ h => Policy.own_iff.mpr h.2) fun _ _ _ _ => trivial

theorem failOver_owners : Triple (ownersProtocol.contract .failOver) (fun _ => True)
    (body .failOver) fun _ _ => True := by
  refine failOver_steps (fun _ _ h => h) fun l w v h hg hstep => ⟨h.failOver hg hstep, fun u hu => ?_⟩
  obtain ⟨-, hguar⟩ := failOver_step h.threads hg hstep.threadStep
  cases u with
  | failOver => exact absurd rfl hu
  | vism u => trivial
  | policy u =>
    refine fun hlive => ⟨hguar (.policy u) nofun hlive, fun _ i hi => ?_⟩
    show v.shared.members[i]? = _
    rw [hstep.members]
    exact hi

theorem OwnersInv.vism {t : Nat} {w : World} (h : OwnersInv w) :
    OwnersInv ((World.vismView t).amend InterfaceSm.vismSection w) := by
  obtain ⟨-, hmembers⟩ := vismSection_selection ((World.vismView t).get w)
  have hgroups := groups_vismSection ((World.vismView t).get w)
  refine h.transfer (vism_step h.threads).1 rfl ?_ fun u i _ hi => ?_
  · show ∀ p ∈ ((InterfaceSm.vismSection _).shared.groups.map IfaceGroup.policy), _
    rw [hgroups]
    exact h.groups
  · show (InterfaceSm.vismSection _).shared.members[i]? = _
    rw [hmembers]
    exact hi

/-- Nobody owns an interface that is moved. -/
theorem OwnersInv.write {w w' : World} (h : OwnersInv w) (henv : GroupWrite Unowned w w') :
    OwnersInv w' := by
  cases henv with
  | @setGroup i uValue hfree =>
    obtain ⟨hstates, hpolicies⟩ := Shared.groups_setSelectionGroup i uValue w.shared
    refine h.transfer (h.threads.transfer rfl rfl fun t _ => Shared.occupied_of_states hstates) rfl ?_
      fun t j hj hmember => ?_
    · show (w.shared.setSelectionGroup i uValue).SerialGroups
      rw [Shared.SerialGroups, hpolicies]
      exact h.groups
    · rcases Shared.member_setSelectionGroup i uValue hmember with hkept | ⟨rfl, d, hmoves, -⟩
      · exact hkept
      · exact absurd hj.2 (hfree d hmoves t (h.threads.lt_count hj.1) hj.1).1
  | other hkeeps =>
    refine h.transfer ?_ hkeeps.policies (hkeeps.serial h.groups) fun t j _ => hkeeps.members j _
    exact h.threads.transfer hkeeps.policies hkeeps.policyCount fun t _ =>
      Shared.occupied_of_states hkeeps.states

/-- No thread runs, and every group selects by AutoWAN. -/
structure AutoWanGroups (w : World) : Prop extends NoThreads w where
  groups : w.shared.SerialGroups

theorem AutoWanGroups.inv {w : World} (h : AutoWanGroups w) : OwnersInv w := by
  have hdead : ∀ t, ¬ (w.policies t).Live := fun t ht => ht.1 (h.policies t)
  refine ⟨(policyThreads_sound.start w h.toNoThreads).1, fun t => ?_, h.groups, fun t i hi => ?_⟩
  · rw [h.policies t]
    rfl
  · exact absurd hi.1 (hdead t)

theorem owners_sound : (pool (GroupWrite Unowned)).Sound ownersProtocol AutoWanGroups where
  start w hw := ⟨hw.inv, fun _ => trivial⟩
  stable _ _ _ _ _ _ := trivial
  body t := by
    cases t with
    | failOver => exact failOver_owners.pre fun _ _ _ => trivial
    | policy t => exact (policy_spares t).under (ownersProtocol.narrow_meets _ _)
    | vism t =>
      have hsection : Triple (ownersProtocol.contract (.vism t)) (fun _ => True) (body (.vism t))
          fun _ _ => True := by
        refine vism_steps fun w h => ⟨h.vism, fun u _ => ?_⟩
        cases u with
        | failOver => rfl
        | vism u => trivial
        | policy u =>
          refine fun _ => ⟨rfl, fun _ i hi => ?_⟩
          show (InterfaceSm.vismSection _).shared.members[i]? = _
          rw [(vismSection_selection ((World.vismView t).get w)).2]
          exact hi
      exact hsection.pre fun _ _ _ => trivial
  env w w' h henv := by
    refine ⟨h.write henv, fun t => ?_⟩
    cases henv with
    | @setGroup i uValue hfree =>
      cases t with
      | failOver => rfl
      | vism t => trivial
      | policy t =>
        refine fun hlive => ⟨rfl, fun hpick j hj => ?_⟩
        rcases Shared.member_setSelectionGroup i uValue hj with hkept | ⟨rfl, d, hmoves, hgroup⟩
        · exact hkept
        · obtain ⟨-, hchoosing⟩ := hfree d hmoves t (h.threads.lt_count hlive) hlive
          exact absurd (hpick.symm.trans (hchoosing hgroup.symm)) nofun
    | other hkeeps =>
      cases t with
      | failOver => exact hkeeps.failOver
      | vism t => trivial
      | policy t => exact fun _ => ⟨congrFun hkeeps.policies t, fun _ j hj => hkeeps.members j _ hj⟩

/-- No two threads own an interface, and the next section of a thread leaves alone the interfaces
that others own. -/
structure SingleOwners (c : Config Section Thread World) : Prop where
  one : ∀ t u i, (c.store.policies t).Owns i → (c.store.policies u).Owns i → t = u
  spared : ∀ t l f k, c.pc (.policy t) = .atomic l f k → OldThreadEnded l c.store →
    Spares t c.store (f c.store)

/-- In every run in which an interface is moved only while no thread owns it or may be choosing
it, and in which a deactivated group is stopped only after its thread has ended, no interface has
two owners, and no thread touches the interface of another. -/
theorem one_owner_per_iface {c : Config Section Thread World}
    (h : (pool (GroupWrite Unowned)).Reach OldThreadEnded AutoWanGroups c) : SingleOwners c := by
  have hinv : OwnersInv c.store := owners_sound.reach h
  refine ⟨fun t u i ht hu => hinv.one ht hu, fun t l f k hpc hg => ?_⟩
  exact owners_sound.respects (policy_spares t) h hpc hg

/-! Two interfaces in the first group, whose thread takes the first one and waits for its link.
Then an interface is moved to the second group, which gets its thread too. -/

namespace OwnersExample

def tick (admits : World → Nat → Nat → Prop) (t : Thread) : (pool (GroupWrite admits)).Move :=
  after id (fun _ => .other ⟨⟨rfl, rfl, rfl, rfl⟩, id, fun _ _ h => h⟩) t

def start : World := { shared := { ifaces := [{}, {}], groups := [{}, {}] } }

theorem autoWanGroups : AutoWanGroups start where
  failOver := rfl
  policies _ := rfl
  visms _ := rfl
  groups p hp := by
    obtain rfl : p = .autowan := by simpa [start, Shared.policies] using hp
    decide

/-- The first group's thread waits for the first interface. -/
def takes (admits : World → Nat → Nat → Prop) : List (pool (GroupWrite admits)).Move :=
  [tick admits .failOver, tick admits (.policy 0), tick admits (.policy 0)]

/-- The second group's thread is created, and chooses. -/
def follows (admits : World → Nat → Nat → Prop) : List (pool (GroupWrite admits)).Move :=
  [tick admits .failOver, tick admits (.policy 1)]

def taken : World := (pool (GroupWrite Unowned)).play (takes Unowned) start

/-- Interface `i` is moved to the second group. -/
def moved (i : Nat) : World := { taken with shared := taken.shared.setSelectionGroup i 2 }

end OwnersExample

open OwnersExample in
theorem one_owner_per_iface_run :
    SingleOwners (Pool.idle ((pool (GroupWrite Unowned)).play (follows Unowned) (moved 1))) ∧
      (((pool (GroupWrite Unowned)).play (follows Unowned) (moved 1)).policies 1).Owns 1 := by
  have htakes : (pool (GroupWrite Unowned)).Plays OldThreadEnded (takes Unowned) start := by
    decide +kernel
  have hfree : Unowned taken 1 2 := by
    have hthreads : ∀ t < taken.policyCount, (taken.policies t).ctrl.activeInterfaceIdx ≠ some 1 ∧
        (taken.policies t).phase.picking = false := by decide +kernel
    intro d _ t ht _
    obtain ⟨hidx, hpick⟩ := hthreads t ht
    exact ⟨hidx, fun _ => hpick⟩
  have hfollows : (pool (GroupWrite Unowned)).Plays OldThreadEnded (follows Unowned) (moved 1) := by
    decide +kernel
  have hrun := (Pool.Reach.play (.start autoWanGroups) htakes).disturb (.setGroup hfree)
  exact ⟨one_owner_per_iface (hrun.play hfollows), by decide +kernel⟩

open OwnersExample in
/-- The second group's thread chooses the interface that the first group's thread waits for. -/
theorem two_owners : ¬ ∀ c, (pool (GroupWrite fun _ _ _ => True)).Reach (fun _ _ => True) AutoWanGroups c →
    SingleOwners c := by
  intro h
  have htakes : (pool (GroupWrite fun _ _ _ => True)).Plays (fun _ _ => True)
      (takes fun _ _ _ => True) start := by decide +kernel
  have hfollows : (pool (GroupWrite fun _ _ _ => True)).Plays (fun _ _ => True)
      (follows fun _ _ _ => True) (moved 0) := by decide +kernel
  have hmove : GroupWrite (fun _ _ _ => True) taken (moved 0) := .setGroup trivial
  have hrun := (Pool.Reach.play (.start autoWanGroups) htakes).disturb hmove
  have hone := h _ (hrun.play hfollows)
  have hboth : ∀ t < 2, (((pool (GroupWrite fun _ _ _ => True)).play (follows fun _ _ _ => True)
      (moved 0)).policies t).Owns 0 := by decide +kernel
  have heq := hone.one 0 1 0 (hboth 0 (by omega)) (hboth 1 (by omega))
  omega

end System
end WanManager
