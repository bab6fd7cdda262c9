import WanManager.PolicyFrame

/-! # What a state of AutoWAN does to the selection

`Turn` says once what the state functions with a selected interface may do to
`Selection.Status`, to `SelectedInterface` and to the thread's own index. The thread only
writes the status of its own interface, and never `ACTIVE`; it lets go of an interface in
three ways: it deselects it, it never had it selected, or it gives up waiting for its link. -/

namespace WanManager
open Concurrency

namespace Shared

/-- Nothing changes in what is selected. -/
structure SameSelection (s s' : Shared) : Prop where
  status : ∀ i, s'.selectionStatus i = s.selectionStatus i
  selected : ∀ g, s'.selected? g = s.selected? g

theorem selectionStatus_modifyIface {f : WanIface → WanIface}
    (hf : ∀ d, (f d).selection.status = d.selection.status) (s : Shared) (j i : Nat) :
    (s.modifyIface j f).selectionStatus i = s.selectionStatus i := by
  unfold selectionStatus modifyIface
  rw [List.getElem?_modify]
  cases s.ifaces[i]? with
  | none => rfl
  | some d =>
    by_cases hij : j = i
    · simp [hij, hf]
    · simp [hij]

namespace SameSelection

theorem refl (s : Shared) : SameSelection s s := ⟨fun _ => rfl, fun _ => rfl⟩

theorem trans {s s' s'' : Shared} (h : SameSelection s s') (h' : SameSelection s' s'') :
    SameSelection s s'' :=
  ⟨fun i => (h'.status i).trans (h.status i), fun g => (h'.selected g).trans (h.selected g)⟩

theorem modifyIface {f : WanIface → WanIface}
    (hf : ∀ d, (f d).selection.status = d.selection.status) (s : Shared) (i : Nat) :
    SameSelection s (s.modifyIface i f) :=
  ⟨selectionStatus_modifyIface hf s i, selected?_modifyIface s i f⟩

theorem modifyGroup {f : IfaceGroup → IfaceGroup}
    (hf : ∀ g, (f g).selectedInterface = g.selectedInterface) (s : Shared) (inst : Nat) :
    SameSelection s (s.modifyGroup inst f) :=
  ⟨selectionStatus_modifyGroup s inst f, fun _ => selected?_modifyGroup hf⟩

theorem requestRescan (s : Shared) : SameSelection s s.requestRescan :=
  ⟨fun _ => rfl, fun _ => rfl⟩

theorem setActiveLink (i : Nat) (b : Bool) (s : Shared) :
    SameSelection s (Policy.setActiveLink i b s) := modifyIface (by intro; rfl) s i

theorem clearVirtIfChanged (i : Nat) (s : Shared) :
    SameSelection s (Policy.clearVirtIfChanged i s) := modifyIface (by intro; rfl) s i

theorem foldl {α : Type} {f : Shared → α → Shared} (h : ∀ s a, SameSelection s (f s a)) (l : List α)
    (s : Shared) : SameSelection s (l.foldl f s) := by
  induction l generalizing s with
  | nil => exact refl s
  | cons a l ih => exact (h s a).trans (ih (f s a))

end SameSelection

theorem selected?_setGroupSelectedIface_ne {s : Shared} {g h : Nat} (n : Nat) (hne : h ≠ g) :
    (s.setGroupSelectedIface g n).selected? h = s.selected? h := by
  simp [selected?, setGroupSelectedIface, group?_modifyGroup_ne _ hne]

theorem selected?_setGroupSelectedIface_zero (s : Shared) (g : Nat) :
    (s.setGroupSelectedIface g 0).selected? g = none := by
  cases hg : s.group? g <;> simp [selected?, setGroupSelectedIface, hg]

/-- The interface is selected, if there is such a group. -/
theorem selected?_setGroupSelectedIface_succ (s : Shared) (g i : Nat) :
    (s.setGroupSelectedIface g (i + 1)).selected? g = some i ∨
      (s.setGroupSelectedIface g (i + 1)).selected? g = s.selected? g := by
  cases hg : s.group? g with
  | none => exact .inr (by simp [selected?, setGroupSelectedIface, hg])
  | some x => exact .inl (by simp [selected?, setGroupSelectedIface, hg])

theorem SameSelection.reset {s s' : Shared} (h : SameSelection s s') (g : Nat) :
    SameSelection (s.setGroupSelectedIface g 0) (s'.setGroupSelectedIface g 0) where
  status i := by
    simpa only [setGroupSelectedIface, selectionStatus_modifyGroup] using h.status i
  selected k := by
    by_cases hk : k = g
    · subst hk
      rw [selected?_setGroupSelectedIface_zero, selected?_setGroupSelectedIface_zero]
    · rw [selected?_setGroupSelectedIface_ne 0 hk, selected?_setGroupSelectedIface_ne 0 hk]
      exact h.selected k

end Shared

namespace AutoWan
open Policy

/-- `State_WaitForInterface` gives its interface up. -/
def givesUp (i : Nat) (d : WanIface) (x : PolicyView) : Bool :=
  stops x.self.ctrl || !d.selection.enable ||
    (d.baseInterfaceStatus != .up && timerExpired x && !onlyPossible i d x)

structure Turn (st : AutoWanState) (i : Nat) (d : WanIface) (x : PolicyView) (st' : AutoWanState)
    (x' : PolicyView) : Prop where
  inst : x'.self.ctrl.groupInst = x.self.ctrl.groupInst
  others : ∀ j, j ≠ i → x'.shared.selectionStatus j = x.shared.selectionStatus j
  status : x'.shared.selectionStatus i = x.shared.selectionStatus i ∨
    x'.shared.selectionStatus i = .notSelected ∨
    st = .waiting ∧ st' = .scanning ∧ x'.shared.selectionStatus i = .selected
  groups : ∀ g, g ≠ x.self.ctrl.groupInst → x'.shared.selected? g = x.shared.selected? g
  own : x'.shared.selected? x.self.ctrl.groupInst = x.shared.selected? x.self.ctrl.groupInst ∨
    x'.shared.selected? x.self.ctrl.groupInst = some i ∧ holding st' = true ∧
      x'.self.ctrl.activeInterfaceIdx = some i ∨
    x'.shared.selected? x.self.ctrl.groupInst = none ∧ holding st = false
  idx : x'.self.ctrl.activeInterfaceIdx = some i ∨
    x'.self.ctrl.activeInterfaceIdx = none ∧ holding st' = false
  leaves : holding st = true → holding st' = false →
    x'.shared.selectionStatus i = .notSelected ∨ st = .waiting ∧ givesUp i d x = true

section Turn

variable {st st' : AutoWanState} {i : Nat} {d : WanIface} {x x' : PolicyView}

/-- The selection stays as it is, and so does the index. -/
theorem Turn.keep (hself : x'.self = x.self) (hidx : x.self.ctrl.activeInterfaceIdx = some i)
    (hsame : Shared.SameSelection x.shared x'.shared)
    (hleaves : holding st = true → holding st' = false → st = .waiting ∧ givesUp i d x = true) :
    Turn st i d x st' x' where
  inst := by rw [hself]
  others j _ := hsame.status j
  status := .inl (hsame.status i)
  groups g _ := hsame.selected g
  own := .inl (hsame.selected _)
  idx := .inl (by rw [hself, hidx])
  leaves h h' := .inr (hleaves h h')

/-- The interface is dropped as it is. -/
theorem Turn.drop (hst' : holding st' = false)
    (hinst : x'.self.ctrl.groupInst = x.self.ctrl.groupInst)
    (hidx : x'.self.ctrl.activeInterfaceIdx = none)
    (hsame : Shared.SameSelection x.shared x'.shared)
    (hleaves : holding st = true → st = .waiting ∧ givesUp i d x = true) :
    Turn st i d x st' x' where
  inst := hinst
  others j _ := hsame.status j
  status := .inl (hsame.status i)
  groups g _ := hsame.selected g
  own := .inl (hsame.selected _)
  idx := .inr ⟨hidx, hst'⟩
  leaves h _ := .inr (hleaves h)

/-- The status of the interface is written, and nothing else of the selection. -/
theorem Turn.select {new : SelectionStatus} (hd : x.shared.ifaces[i]? = some d)
    (hself : x'.self = x.self) (hidx : x.self.ctrl.activeInterfaceIdx = some i)
    (hsame : Shared.SameSelection (x.shared.setSelectionStatus i new) x'.shared)
    (hnew : new = .notSelected ∨ st = .waiting ∧ st' = .scanning ∧ new = .selected) :
    Turn st i d x st' x' where
  inst := by rw [hself]
  others j hj := (hsame.status j).trans (Shared.selectionStatus_set_ne new hj)
  status := by
    have hlt : i < x.shared.ifaces.length := (List.getElem?_eq_some_iff.mp hd).1
    have hset := (hsame.status i).trans (Shared.selectionStatus_set_self new hlt)
    rcases hnew with rfl | ⟨hst, hst', rfl⟩
    · exact .inr (.inl hset)
    · exact .inr (.inr ⟨hst, hst', hset⟩)
  groups g _ := (hsame.selected g).trans (Shared.selected?_setSelectionStatus _ i new g)
  own := .inl ((hsame.selected _).trans (Shared.selected?_setSelectionStatus _ i new _))
  idx := .inl (by rw [hself, hidx])
  leaves h h' := by
    have hlt : i < x.shared.ifaces.length := (List.getElem?_eq_some_iff.mp hd).1
    rcases hnew with rfl | ⟨-, rfl, -⟩
    · exact .inl ((hsame.status i).trans (Shared.selectionStatus_set_self _ hlt))
    · cases h'

/-- The group is given the interface. -/
theorem Turn.settle (hst' : holding st' = true)
    (hinst : x'.self.ctrl.groupInst = x.self.ctrl.groupInst)
    (hidx : x'.self.ctrl.activeInterfaceIdx = some i)
    (hsame : Shared.SameSelection
      (x.shared.setGroupSelectedIface x.self.ctrl.groupInst (i + 1)) x'.shared) :
    Turn st i d x st' x' where
  inst := hinst
  others j _ := (hsame.status j).trans (Shared.selectionStatus_modifyGroup _ _ _ j)
  status := .inl ((hsame.status i).trans (Shared.selectionStatus_modifyGroup _ _ _ i))
  groups g hg := (hsame.selected g).trans (Shared.selected?_setGroupSelectedIface_ne _ hg)
  own := by
    rcases x.shared.selected?_setGroupSelectedIface_succ x.self.ctrl.groupInst i with h | h
    · exact .inr (.inl ⟨(hsame.selected _).trans h, hst', hidx⟩)
    · exact .inl ((hsame.selected _).trans h)
  idx := .inl hidx
  leaves _ h' := by rw [hst'] at h'; cases h'

end Turn

/-! ## The transitions -/

section States

variable {i : Nat} {d : WanIface} {x : PolicyView}

theorem same_resetIfaceTable (x : PolicyView) :
    Shared.SameSelection x.shared (resetIfaceTable x).shared := by
  refine .foldl (fun s j => .modifyIface (fun d => ?_) s j) _ _
  split <;> rfl

theorem same_resetActiveLinks (group : Nat) (is : List Nat) (s : Shared) :
    Shared.SameSelection s (resetActiveLinks group is s).2 := by
  induction is generalizing s with
  | nil => exact .refl s
  | cons j is ih =>
    unfold resetActiveLinks
    cases s.ifaces[j]? with
    | none => exact ih s
    | some d =>
      simp only
      split
      · split
        · exact (Shared.SameSelection.setActiveLink j false s).trans (ih _)
        · exact Shared.SameSelection.setActiveLink j false s
      · exact ih s

theorem same_resetActiveLinkOnAllIface (x : PolicyView) :
    Shared.SameSelection x.shared (resetActiveLinkOnAllIface x).2.shared := by
  unfold resetActiveLinkOnAllIface
  split
  · exact .refl _
  · exact same_resetActiveLinks _ _ _

theorem self_resetActiveLinkOnAllIface (x : PolicyView) :
    (resetActiveLinkOnAllIface x).2.self = x.self := by
  unfold resetActiveLinkOnAllIface
  split <;> rfl

theorem same_startIfaceStateMachine (i : Nat) (d : WanIface) (x : PolicyView) :
    Shared.SameSelection x.shared (startIfaceStateMachine i d x).2.shared := by
  rcases startIfaceStateMachine_eq i d x with h | h <;> rw [h]
  · rw [startVirtIfs_shared]
    exact .refl _
  · have hshared := startVirtIfs_shared i (virtIfRange d) x
    have hclear := Shared.SameSelection.clearVirtIfChanged i x.shared
    simpa only [PolicyView.mapShared, hshared] using hclear

theorem same_startChangedVirtIfs (i : Nat) (d : WanIface) (x : PolicyView) :
    Shared.SameSelection x.shared (startChangedVirtIfs i d x).shared := by
  unfold startChangedVirtIfs
  split
  · have hshared := startNotRunning_shared i (virtIfRange d) x
    have hclear := Shared.SameSelection.clearVirtIfChanged i x.shared
    simpa only [PolicyView.mapShared, hshared] using hclear
  · exact .refl _

theorem same_transitionInterfaceInvalid (i : Nat) (x : PolicyView) :
    Shared.SameSelection x.shared (transitionInterfaceInvalid i x).2.shared :=
  (Shared.SameSelection.modifyIface (by intro; rfl) x.shared i).trans (.setActiveLink i false _)

theorem setGroupSelectedIface_setActiveLink (i : Nat) (b : Bool) (s : Shared) (g n : Nat) :
    (setActiveLink i b s).setGroupSelectedIface g n = setActiveLink i b (s.setGroupSelectedIface g n) := by
  cases g <;> rfl

/-- `SelectedInterface` is reset, or left alone if the table is empty. -/
theorem resetGroupSelectedIface_cases (x : PolicyView) :
    (resetGroupSelectedIface x).2 = x ∨ (resetGroupSelectedIface x).2 = setGroupSelected 0 x := by
  unfold resetGroupSelectedIface
  split
  · exact .inl rfl
  · exact .inr rfl

/-- A thread that holds nothing lets its group forget the interface. -/
theorem Turn.release {st st' : AutoWanState} {x' : PolicyView} (hst : holding st = false)
    (hst' : holding st' = false) (hinst : x'.self.ctrl.groupInst = x.self.ctrl.groupInst)
    (hidx : x'.self.ctrl.activeInterfaceIdx = some i ∨ x'.self.ctrl.activeInterfaceIdx = none)
    {s : Shared} (hstatus : ∀ j, j ≠ i → s.selectionStatus j = x.shared.selectionStatus j)
    (hown : s.selectionStatus i = x.shared.selectionStatus i ∨ s.selectionStatus i = .notSelected)
    (hselected : ∀ g, s.selected? g = x.shared.selected? g)
    (hsame : Shared.SameSelection s x'.shared ∨
      Shared.SameSelection (s.setGroupSelectedIface x.self.ctrl.groupInst 0) x'.shared) :
    Turn st i d x st' x' := by
  have hstatus' : ∀ j, x'.shared.selectionStatus j = s.selectionStatus j := by
    intro j
    rcases hsame with h | h
    · exact h.status j
    · exact (h.status j).trans (Shared.selectionStatus_modifyGroup _ _ _ j)
  have hgroups : ∀ g, x'.shared.selected? g = s.selected? g ∨
      g = x.self.ctrl.groupInst ∧ x'.shared.selected? g = none := by
    intro g
    rcases hsame with h | h
    · exact .inl (h.selected g)
    · by_cases hg : g = x.self.ctrl.groupInst
      · subst hg
        exact .inr ⟨rfl, (h.selected _).trans (Shared.selected?_setGroupSelectedIface_zero _ _)⟩
      · exact .inl ((h.selected g).trans (Shared.selected?_setGroupSelectedIface_ne 0 hg))
  refine ⟨hinst, fun j hj => (hstatus' j).trans (hstatus j hj), ?_, fun g hg => ?_, ?_, ?_, ?_⟩
  · rw [hstatus' i]
    rcases hown with h | h
    · exact .inl h
    · exact .inr (.inl h)
  · rcases hgroups g with h | ⟨h, -⟩
    · exact h.trans (hselected g)
    · exact absurd h hg
  · rcases hgroups x.self.ctrl.groupInst with h | ⟨-, h⟩
    · exact .inl (h.trans (hselected _))
    · exact .inr (.inr ⟨h, hst⟩)
  · rcases hidx with h | h
    · exact .inl h
    · exact .inr ⟨h, hst'⟩
  · intro h
    rw [hst] at h
    cases h

/-! ## The state functions -/

variable (hidx : x.self.ctrl.activeInterfaceIdx = some i) (hd : x.shared.ifaces[i]? = some d)

include hidx

theorem turn_selecting (r : AutoWanState × PolicyView) (hr : stateSelectingInterface d x = r) :
    Turn .selecting i d x r.1 r.2 := by
  subst hr
  unfold stateSelectingInterface
  split
  · exact .keep rfl hidx (.refl _) nofun
  · exact
      { inst := rfl
        others := fun _ _ => rfl
        status := .inl rfl
        groups := fun _ _ => rfl
        own := .inl rfl
        idx := .inl hidx
        leaves := nofun }

theorem turn_hold {st st' : AutoWanState} {x' : PolicyView} (hst' : holding st' = true)
    (hself : x'.self = x.self) (hsame : Shared.SameSelection x.shared x'.shared) :
    Turn st i d x st' x' :=
  .keep hself hidx hsame fun _ h => by rw [hst'] at h; cases h

theorem turn_restartSelection :
    Turn .teardown i d x (transitionRestartSelectionInterface x).1
      (transitionRestartSelectionInterface x).2 := by
  unfold transitionRestartSelectionInterface
  have hsame := same_resetActiveLinkOnAllIface x
  have hself := self_resetActiveLinkOnAllIface x
  cases hx : resetActiveLinkOnAllIface x with
  | mk ok y =>
    rw [hx] at hsame hself
    have hyself : y.self = x.self := hself
    cases ok with
    | false => exact .keep hself hidx hsame nofun
    | true =>
      have hclear : Shared.SameSelection x.shared
          (resetIfaceTable (clearResetSelected y)).shared := by
        have hgroup : Shared.SameSelection y.shared (clearResetSelected y).shared :=
          (Shared.SameSelection.modifyGroup (by intro; rfl) y.shared _).trans (.requestRescan _)
        exact (hsame.trans hgroup).trans (same_resetIfaceTable _)
      have hinst : (clearResetSelected y).self.ctrl.groupInst = x.self.ctrl.groupInst := by
        rw [← hyself]
        rfl
      have hturn : ∀ st' z, holding st' = false →
          (resetGroupSelectedIface (resetIfaceTable (clearResetSelected y))).2 = z →
          Turn .teardown i d x st' z := by
        intro st' z hst' hz
        subst hz
        rcases resetGroupSelectedIface_cases (resetIfaceTable (clearResetSelected y)) with h | h
        · rw [h]
          exact .release rfl hst' hinst (.inr rfl) (fun j _ => hclear.status j)
            (.inl (hclear.status i)) hclear.selected (.inl (.refl _))
        · rw [h]
          refine .release rfl hst' hinst (.inr rfl) (fun j _ => hclear.status j)
            (.inl (hclear.status i)) hclear.selected (.inr ?_)
          rw [← hinst]
          exact .refl _
      simp only
      cases hz : resetGroupSelectedIface (resetIfaceTable (clearResetSelected y)) with
      | mk ok z =>
        have hz' := congrArg Prod.snd hz
        cases ok with
        | true => exact hturn .selecting z rfl hz'
        | false => exact hturn .error z rfl hz'

theorem turn_teardown : Turn .teardown i d x (stateWaitingForIfaceTearDown i x).1
    (stateWaitingForIfaceTearDown i x).2 := by
  unfold stateWaitingForIfaceTearDown
  split
  · exact .keep rfl hidx (.refl _) nofun
  · split
    · exact .keep rfl hidx (.refl _) nofun
    · split
      · exact turn_restartSelection hidx
      · exact .drop rfl rfl rfl (same_transitionInterfaceInvalid i x) nofun

include hd

theorem turn_waiting : Turn .waiting i d x (stateWaitForInterface i d x).1
    (stateWaitForInterface i d x).2 := by
  unfold stateWaitForInterface
  split
  · rename_i hstops
    exact .keep rfl hidx (.refl _) fun _ _ => ⟨rfl, by simp [givesUp, hstops]⟩
  split
  · rename_i hen
    exact .drop rfl rfl rfl (same_transitionInterfaceInvalid i x) fun _ =>
      ⟨rfl, by simp only [givesUp, hen]; simp⟩
  split
  · exact .select hd (startIfaceStateMachine_self i d _) hidx
      (same_startIfaceStateMachine i d (setSelection i .selected x)) (.inr ⟨rfl, rfl, rfl⟩)
  rename_i hdown
  split
  · rename_i hexpired
    exact .drop rfl rfl rfl (same_transitionInterfaceInvalid i x) fun _ =>
      ⟨rfl, by simp_all [givesUp]⟩
  · refine .keep ?_ hidx ?_ nofun
    · simp only
      split <;> rfl
    · simp only
      split
      · exact .modifyGroup (by intro; rfl) _ _
      · exact .refl _

theorem turn_deselect (st : AutoWanState) :
    Turn st i d x (transitionInterfaceDeselect i x).1 (transitionInterfaceDeselect i x).2 :=
  .select hd rfl hidx (.refl _) (.inl rfl)

theorem turn_scanning : Turn .scanning i d x (stateScanningInterface i d x).1
    (stateScanningInterface i d x).2 := by
  have hvalidated : Turn .scanning i d x (transitionInterfaceValidated i x).1
      (transitionInterfaceValidated i x).2 := by
    refine .settle rfl rfl hidx ?_
    have hswap := setGroupSelectedIface_setActiveLink i true x.shared x.self.ctrl.groupInst (i + 1)
    have hsame := Shared.SameSelection.setActiveLink i true
      (x.shared.setGroupSelectedIface x.self.ctrl.groupInst (i + 1))
    rw [← hswap] at hsame
    exact hsame
  unfold stateScanningInterface
  split
  · exact turn_deselect hidx hd _
  split
  · exact hvalidated
  split
  · exact turn_deselect hidx hd _
  split
  · exact .keep rfl hidx (.refl _) nofun
  split
  · exact hvalidated
  split
  · exact turn_deselect hidx hd _
  · exact .keep rfl hidx (.refl _) nofun

theorem turn_reconfiguration : Turn .reconfiguration i d x (stateInterfaceReconfiguration i x).1
    (stateInterfaceReconfiguration i x).2 := by
  unfold stateInterfaceReconfiguration
  split
  · exact .select hd rfl hidx (.modifyIface (by intro; rfl) _ i) (.inl rfl)
  split
  · exact turn_hold hidx rfl rfl (.refl _)
  · exact turn_hold hidx rfl rfl (.refl _)

theorem turn_active : Turn .active i d x (stateWanInterfaceActive i d x).1
    (stateWanInterfaceActive i d x).2 := by
  unfold stateWanInterfaceActive
  split
  · exact turn_deselect hidx hd _
  split
  · exact .settle rfl rfl hidx (.refl _)
  · exact turn_hold hidx rfl (startChangedVirtIfs_self i d x) (same_startChangedVirtIfs i d x)

theorem turn_down : Turn .down i d x (stateWanInterfaceDown i d x).1
    (stateWanInterfaceDown i d x).2 := by
  unfold stateWanInterfaceDown
  split
  · exact turn_deselect hidx hd _
  split
  · unfold transitionWanInterfaceUp
    split
    · exact .settle rfl rfl hidx (.refl _)
    · have hself := startIfaceStateMachine_self i d (setGroupSelected (i + 1) x)
      refine .settle rfl ?_ ?_ (same_startIfaceStateMachine i d (setGroupSelected (i + 1) x))
      · rw [hself]
        rfl
      · rw [hself]
        exact hidx
  · exact turn_hold hidx rfl rfl (.refl _)

theorem turn_tearingDown : Turn .tearingDown i d x (stateWaitingForInterfaceSMExit i x).1
    (stateWaitingForInterfaceSMExit i x).2 := by
  have hlt : i < x.shared.ifaces.length := (List.getElem?_eq_some_iff.mp hd).1
  have hrelease : ∀ z : PolicyView, z.self = x.self →
      (Shared.SameSelection (setSelection i .notSelected x).shared z.shared ∨
        Shared.SameSelection ((setSelection i .notSelected x).shared.setGroupSelectedIface
          x.self.ctrl.groupInst 0) z.shared) → Turn .tearingDown i d x .smExit z := by
    intro z hself hsame
    exact .release rfl rfl (by rw [hself]) (.inl (by rw [hself, hidx]))
      (fun j hj => Shared.selectionStatus_set_ne _ hj)
      (.inr (Shared.selectionStatus_set_self _ hlt))
      (fun g => Shared.selected?_setSelectionStatus _ i _ g) hsame
  have htable := same_resetIfaceTable (setSelection i .notSelected x)
  simp only [stateWaitingForInterfaceSMExit]
  split
  · exact .select hd rfl hidx (.refl _) (.inl rfl)
  simp only
  have hreset : ∀ z : PolicyView,
      z = (resetGroupSelectedIface (resetIfaceTable (setSelection i .notSelected x))).2 →
      z.self = x.self ∧ (Shared.SameSelection (setSelection i .notSelected x).shared z.shared ∨
        Shared.SameSelection ((setSelection i .notSelected x).shared.setGroupSelectedIface
          x.self.ctrl.groupInst 0) z.shared) := by
    rintro z rfl
    rcases resetGroupSelectedIface_cases (resetIfaceTable (setSelection i .notSelected x)) with h | h
    · rw [h]
      exact ⟨rfl, .inl htable⟩
    · rw [h]
      exact ⟨rfl, .inr (htable.reset _)⟩
  obtain ⟨hself, hsame⟩ := hreset _ rfl
  split
  · have hlinks := same_resetActiveLinkOnAllIface
      (resetGroupSelectedIface (resetIfaceTable (setSelection i .notSelected x))).2
    refine hrelease _ ((self_resetActiveLinkOnAllIface _).trans hself) ?_
    exact hsame.imp (·.trans hlinks) (·.trans hlinks)
  · exact hrelease _ hself hsame

/-- Every state function with a selected interface takes a turn. -/
theorem turn_lockedState (st : AutoWanState) :
    Turn st i d x (lockedState st i d x).1 (lockedState st i d x).2 := by
  cases st with
  | selecting => exact turn_selecting hidx _ rfl
  | waiting => exact turn_waiting hidx hd
  | scanning => exact turn_scanning hidx hd
  | teardown => exact turn_teardown hidx
  | reconfiguration => exact turn_reconfiguration hidx hd
  | rebootPlatform =>
    show Turn _ i d x (stateRebootingPlatform i x).1 (stateRebootingPlatform i x).2
    unfold stateRebootingPlatform
    split
    · exact .keep rfl hidx (.refl _) nofun
    · exact .keep rfl hidx (.refl _) nofun
  | active => exact turn_active hidx hd
  | down => exact turn_down hidx hd
  | tearingDown => exact turn_tearingDown hidx hd
  | smExit => exact .keep rfl hidx (.refl _) nofun
  | error => exact .keep rfl hidx (.refl _) nofun

end States

/-! ## The interface the thread holds -/

section Holds

variable {st : AutoWanState} {i j : Nat} {d : WanIface} {x : PolicyView}
  {r : AutoWanState × PolicyView}

/-- A state that still holds an interface has the thread's index. -/
theorem Turn.holds (h : Turn st i d x r.1 r.2) (hr : holding r.1 = true) :
    (enterState r).self.Holds i := by
  rcases h.idx with hsome | ⟨-, hfree⟩
  · exact ⟨hsome, r.1, rfl, hr⟩
  · rw [hr] at hfree
    cases hfree

/-- What is selected after a turn was selected before, or is what the thread holds. -/
theorem Turn.selects (h : Turn st i d x r.1 r.2) (hj : r.2.shared.selectionStatus j ≠ .notSelected) :
    x.shared.selectionStatus j ≠ .notSelected ∨ (enterState r).self.Holds j := by
  by_cases hji : j = i
  · subst hji
    rcases h.status with hsame | hnot | ⟨-, hscan, -⟩
    · exact .inl (hsame ▸ hj)
    · exact absurd hnot hj
    · exact .inr (h.holds (by rw [hscan]; rfl))
  · exact .inl (by rw [← h.others j hji]; exact hj)

/-- A selected interface is kept, unless the thread gives up waiting for it. -/
theorem Turn.retains (h : Turn st i d x r.1 r.2) (hst : x.self.phase = .autoWan st)
    (hidx : x.self.ctrl.activeInterfaceIdx = some i) (hj : x.self.Holds j)
    (hne : r.2.shared.selectionStatus j ≠ .notSelected) :
    (enterState r).self.Holds j ∨ j = i ∧ st = .waiting ∧ holding r.1 = false ∧
      givesUp i d x = true ∧ x.shared.selectionStatus i ≠ .notSelected := by
  obtain ⟨hji, st', hst', hhold⟩ := hj
  obtain rfl : st = st' := by
    rw [hst] at hst'
    exact PolicyPhase.autoWan.inj hst'
  obtain rfl : i = j := Option.some.inj (hidx.symm.trans hji)
  cases hr : holding r.1 with
  | true => exact .inl (h.holds hr)
  | false =>
    rcases h.leaves hhold hr with hnot | ⟨hwait, hgives⟩
    · exact absurd hnot hne
    · refine .inr ⟨rfl, hwait, rfl, hgives, ?_⟩
      rcases h.status with hsame | hnot | ⟨-, hscan, -⟩
      · rwa [hsame] at hne
      · exact absurd hnot hne
      · rw [hscan] at hr
        cases hr

end Holds

end AutoWan
end WanManager
