import WanManager.ActiveExclusion

/-! # What a state of the parallel scan does

`Round` says once what the state functions with a selected interface may do to
`Selection.Status`, to the thread's own index and to the table of state machines: machines
are only started for the selected interface, and the thread winds up by deselecting all the
interfaces of its group at once. -/

namespace WanManager
open Concurrency

namespace ParallelScan
open Policy

/-! ## Starting state machines -/

/-- The state machines, by interface and virtual interface, that a section started. -/
def newMachines (x x' : PolicyView) : List (Nat × Nat) :=
  (List.range (x'.vismCount - x.vismCount)).map fun k =>
    ((x'.visms (x.vismCount + k)).interfaceIdx, (x'.visms (x.vismCount + k)).virIfIdx)

/-- The state machines added are those of one interface. -/
structure Starts (i : Nat) (x x' : PolicyView) : Prop where
  count : x.vismCount ≤ x'.vismCount
  old : ∀ k, k < x.vismCount → x'.visms k = x.visms k
  new : ∀ k, x.vismCount ≤ k → k < x'.vismCount → (x'.visms k).interfaceIdx = i

namespace Starts

variable {i : Nat} {x x' x'' : PolicyView}

theorem of_same (hcount : x'.vismCount = x.vismCount) (hvisms : x'.visms = x.visms) : Starts i x x' :=
  ⟨by omega, fun k _ => by rw [hvisms], fun k _ _ => by omega⟩

theorem trans (h : Starts i x x') (h' : Starts i x' x'') : Starts i x x'' where
  count := Nat.le_trans h.count h'.count
  old k hk := (h'.old k (Nat.lt_of_lt_of_le hk h.count)).trans (h.old k hk)
  new k hk hk' := by
    by_cases hlt : k < x'.vismCount
    · rw [h'.old k hlt]
      exact h.new k hk hlt
    · exact h'.new k (by omega) hk'

theorem start (i v : Nat) (x : PolicyView) : Starts i x (startInterfaceStateMachine i v x).2 := by
  unfold startInterfaceStateMachine
  split
  · refine ⟨Nat.le_succ _, fun k hk => Function.update_of_ne (by omega) _ _, fun k hk hk' => ?_⟩
    obtain rfl : k = x.vismCount := by
      simp only at hk'
      omega
    simp
  · exact of_same rfl rfl

theorem startVirtIfs (i : Nat) (vs : List Nat) (x : PolicyView) :
    Starts i x (startVirtIfs i vs x).2 :=
  startVirtIfs_induct (R := Starts i x) (fun v _ y hy _ => hy.trans (start i v y)) (of_same rfl rfl)

theorem startIfaceStateMachine (i : Nat) (d : WanIface) (x : PolicyView) :
    Starts i x (startIfaceStateMachine i d x).2 := by
  have hstart := startVirtIfs i (virtIfRange d) x
  rcases startIfaceStateMachine_eq i d x with h | h <;> rw [h]
  · exact hstart
  · exact hstart.trans (of_same rfl rfl)

theorem startChangedVirtIfs (i : Nat) (d : WanIface) (x : PolicyView) :
    Starts i x (startChangedVirtIfs i d x) := by
  unfold Policy.startChangedVirtIfs
  split
  · have hstart : Starts i x ((virtIfRange d).foldl (startVirtIfNotRunning i) x) :=
      startNotRunning_induct (R := Starts i x) (fun v _ y _ hy _ _ _ => hy.trans (start i v y))
        (of_same rfl rfl)
    exact hstart.trans (of_same rfl rfl)
  · exact of_same rfl rfl

theorem mem_newMachines (h : Starts i x x') {m : Nat × Nat} (hm : m ∈ newMachines x x') : m.1 = i := by
  obtain ⟨k, hk, rfl⟩ := List.mem_map.mp hm
  have hk' : k < x'.vismCount - x.vismCount := List.mem_range.mp hk
  exact h.new _ (Nat.le_add_right _ _) (by omega)

end Starts

theorem no_newMachines {x x' : PolicyView} (h : x'.vismCount = x.vismCount) (m : Nat × Nat) :
    m ∉ newMachines x x' := by simp [newMachines, h]

/-! ## States with a selected interface -/

/-- The states that wait for the end: nothing is selected any more. -/
def winding : ParallelScanState → Bool
  | .interfaceTearDown | .policyExit | .policyError => true
  | .scanningInterface | .checkReconfiguration | .reconfigurePlatform | .reboot
  | .selectedInterfaceUp | .selectedInterfaceDown => false

/-- What a state function does to the selection and to the table of state machines. -/
structure Round (st : ParallelScanState) (i : Nat) (x : PolicyView) (st' : ParallelScanState)
    (x' : PolicyView) : Prop where
  keeps : Keeps x x'
  total : x'.self.ctrl.totalIfaces = x.self.ctrl.totalIfaces
  idx : x'.self.ctrl.activeInterfaceIdx = some i ∨
    x'.self.ctrl.activeInterfaceIdx = none ∧ st' = .scanningInterface
  others : ∀ j, j ≠ i → x.self.ctrl.totalIfaces ≤ j →
    x'.shared.selectionStatus j = x.shared.selectionStatus j
  refused : st' = .policyError → st = .policyError
  winds : winding st' = true →
    (winding st = true ∧ ∀ j, x'.shared.selectionStatus j = x.shared.selectionStatus j) ∨
      ∀ j, j < x.self.ctrl.totalIfaces → x.shared.Member j x.self.ctrl.groupInst →
        x'.shared.selectionStatus j = .notSelected
  ends : st' = .policyExit → st = .policyExit ∨
    st = .interfaceTearDown ∧ x' = x ∧ x.ifaceRange.any (notDisabled x) = false
  starts : Starts i x x'
  idle : winding st = true → x'.vismCount = x.vismCount

section Round

variable {st st' : ParallelScanState} {i : Nat} {d : WanIface} {x x' : PolicyView}

/-- The selection and the index stay, and the thread does not wind up. -/
theorem Round.go (hkeeps : Keeps x x') (hself : x'.self.ctrl.totalIfaces = x.self.ctrl.totalIfaces)
    (hidx : x'.self.ctrl.activeInterfaceIdx = some i)
    (hstatus : ∀ j, x'.shared.selectionStatus j = x.shared.selectionStatus j)
    (hstarts : Starts i x x') (hst : winding st = false) (hst' : winding st' = false) :
    Round st i x st' x' where
  keeps := hkeeps
  total := hself
  idx := .inl hidx
  others j _ _ := hstatus j
  refused h := by rw [h] at hst'; cases hst'
  winds h := by rw [h] at hst'; cases hst'
  ends h := by rw [h] at hst'; cases hst'
  starts := hstarts
  idle h := by rw [h] at hst; cases hst

theorem Round.stay (hidx : x.self.ctrl.activeInterfaceIdx = some i) : Round st i x st x where
  keeps := .refl x
  total := rfl
  idx := .inl hidx
  others _ _ _ := rfl
  refused := id
  winds h := .inl ⟨h, fun _ => rfl⟩
  ends h := .inl h
  starts := .of_same rfl rfl
  idle _ := rfl

theorem selectionStatus_tearDownIface (g : Nat) (b : Bool) (k j : Nat) (s : Shared) :
    (tearDownIface g b k s).selectionStatus j =
      if k = j ∧ s.Member j g then .notSelected else s.selectionStatus j := by
  by_cases hmember : s.Member j g
  · obtain ⟨d, hd, hgroup⟩ := Shared.member_iff.mp hmember
    unfold tearDownIface Shared.modifyIface Shared.selectionStatus
    rw [List.getElem?_modify, hd]
    by_cases hkj : k = j
    · simp [hkj, hgroup, hmember]
    · simp [hkj]
  · rw [if_neg fun h => hmember h.2]
    unfold tearDownIface Shared.modifyIface Shared.selectionStatus
    rw [List.getElem?_modify]
    cases hd : s.ifaces[j]? with
    | none => rfl
    | some d =>
      have hgroup : d.selection.group ≠ g := fun h => hmember (Shared.member_iff.mpr ⟨d, hd, h⟩)
      by_cases hkj : k = j
      · simp [hkj, hgroup]
      · simp [hkj]

/-- The loop of `Transition_TearingDown` deselects the interfaces of the group. -/
theorem selectionStatus_tearDown (g : Nat) (b : Bool) (is : List Nat) (j : Nat) (s : Shared) :
    (is.foldl (fun s k => tearDownIface g b k s) s).selectionStatus j =
      if j ∈ is ∧ s.Member j g then .notSelected else s.selectionStatus j := by
  induction is generalizing s with
  | nil => simp
  | cons k is ih =>
    have hmember : (tearDownIface g b k s).Member j g ↔ s.Member j g := by
      unfold Shared.Member
      rw [(keeps_tearDownIface g b k s).members]
    rw [List.foldl_cons, ih, selectionStatus_tearDownIface]
    by_cases hj : s.Member j g
    · by_cases hkj : k = j
      · simp [hj, hkj]
      · simp [hmember, hj, hkj, Ne.symm hkj]
    · simp [hmember, hj]

theorem round_tearingDown (hidx : x.self.ctrl.activeInterfaceIdx = some i) (hst : winding st = false) :
    Round st i x (transitionTearingDown x).1 (transitionTearingDown x).2 where
  keeps := keeps_transitionTearingDown x
  total := rfl
  idx := .inl hidx
  others j _ hj := by
    have hnot : j ∉ x.ifaceRange := fun h => by
      have hlt : j < x.self.ctrl.totalIfaces := List.mem_range.mp h
      omega
    refine (Shared.selectionStatus_modifyGroup _ _ _ j).trans ?_
    rw [PolicyView.mapShared, selectionStatus_tearDown]
    simp [hnot]
  refused h := by cases h
  winds _ := .inr fun j hj hmember => by
    have hin : j ∈ x.ifaceRange := List.mem_range.mpr hj
    refine (Shared.selectionStatus_modifyGroup _ _ _ j).trans ?_
    rw [PolicyView.mapShared, selectionStatus_tearDown]
    simp [hin, hmember]
  ends h := by cases h
  starts := .of_same rfl rfl
  idle h := by rw [h] at hst; cases hst

theorem selectionStatus_restartIfaces {j : Nat} (hj : j ≠ i) :
    (restartIfaces i x).shared.selectionStatus j = x.shared.selectionStatus j := by
  have hloop : ∀ (is : List Nat) (g : Nat) (r : Nat × Shared),
      (is.foldl (restartIface g) r).2.selectionStatus j = r.2.selectionStatus j := by
    intro is g
    induction is with
    | nil => exact fun _ => rfl
    | cons k is ih =>
      intro r
      rw [List.foldl_cons, ih]
      unfold restartIface
      split
      · rfl
      · split
        · exact (Shared.SameSelection.setActiveLink k false _).status j
        · rfl
  refine (hloop _ _ (0, _)).trans ?_
  refine (Shared.selectionStatus_modifyGroup _ _ _ j).trans ?_
  exact Shared.selectionStatus_set_ne _ hj

theorem clearResetSelected_self (x : PolicyView) :
    (clearResetSelected x).self.ctrl.totalIfaces = x.self.ctrl.totalIfaces ∧
      (clearResetSelected x).self.ctrl.activeInterfaceIdx = x.self.ctrl.activeInterfaceIdx ∧
      (clearResetSelected x).vismCount = x.vismCount ∧ (clearResetSelected x).visms = x.visms ∧
      ∀ j, (clearResetSelected x).shared.selectionStatus j = x.shared.selectionStatus j := by
  unfold clearResetSelected
  split
  · exact ⟨rfl, rfl, rfl, rfl, fun _ => rfl⟩
  · exact ⟨rfl, rfl, rfl, rfl, fun j => Shared.selectionStatus_modifyGroup _ _ _ j⟩

theorem round_restartScan (hst : winding st = false) :
    Round st i x (transitionRestartScan i x).1 (transitionRestartScan i x).2 := by
  obtain ⟨htotal, hnone, hcount, hvisms, hstatus⟩ := clearResetSelected_self (restartIfaces i x)
  exact
    { keeps := keeps_transitionRestartScan i x
      total := htotal
      idx := .inr ⟨hnone, rfl⟩
      others := fun j hj _ => (hstatus j).trans (selectionStatus_restartIfaces hj)
      refused := fun h => by cases h
      winds := fun h => by cases h
      ends := fun h => by cases h
      starts := .of_same hcount hvisms
      idle := fun h => by rw [h] at hst; cases hst }

theorem round_keepSelectedInterfaceUp (hidx : x.self.ctrl.activeInterfaceIdx = some i)
    (hst : winding st = false) :
    Round st i x (keepSelectedInterfaceUp i d x).1 (keepSelectedInterfaceUp i d x).2 := by
  unfold keepSelectedInterfaceUp
  split
  · exact .go (.refl x) rfl hidx (fun _ => rfl) (.of_same rfl rfl) hst rfl
  · have hself := startChangedVirtIfs_self i d x
    exact .go (.startChangedVirtIfs i d x) (by rw [hself]) (by rw [hself, hidx])
      (AutoWan.same_startChangedVirtIfs i d x).status (.startChangedVirtIfs i d x) hst rfl

theorem round_selectedInterfaceUp (hidx : x.self.ctrl.activeInterfaceIdx = some i) :
    Round .selectedInterfaceUp i x (stateSelectedInterfaceUp i d x).1
      (stateSelectedInterfaceUp i d x).2 := by
  unfold stateSelectedInterfaceUp
  split
  · exact round_tearingDown hidx rfl
  split
  · split
    · exact round_restartScan rfl
    · obtain ⟨htotal, hsame, hcount, hvisms, hstatus⟩ := clearResetSelected_self x
      have hround : Round .selectedInterfaceUp i (clearResetSelected x)
          (keepSelectedInterfaceUp i d (clearResetSelected x)).1
          (keepSelectedInterfaceUp i d (clearResetSelected x)).2 :=
        round_keepSelectedInterfaceUp (hsame.trans hidx) rfl
      have hkeeps := keeps_clearResetSelected x
      exact
        { keeps := hkeeps.trans hround.keeps
          total := hround.total.trans htotal
          idx := hround.idx
          others := fun j hj hle =>
            (hround.others j hj (by rw [htotal]; exact hle)).trans (hstatus j)
          refused := hround.refused
          winds := fun h => by
            rcases hround.winds h with ⟨hwind, -⟩ | hall
            · cases hwind
            · refine .inr fun j hj hmember => hall j (by rw [htotal]; exact hj) ?_
              rw [Shared.Member, hkeeps.shared.members, hkeeps.inst]
              exact hmember
          ends := fun h => by
            rcases hround.ends h with hst | ⟨hst, -⟩
            · cases hst
            · cases hst
          starts := (Starts.of_same hcount hvisms).trans hround.starts
          idle := fun h => by cases h }
  · exact round_keepSelectedInterfaceUp hidx rfl

theorem round_selectedInterfaceDown (hidx : x.self.ctrl.activeInterfaceIdx = some i) :
    Round .selectedInterfaceDown i x (stateSelectedInterfaceDown i d x).1
      (stateSelectedInterfaceDown i d x).2 := by
  unfold stateSelectedInterfaceDown
  split
  · exact round_tearingDown hidx rfl
  split
  · exact round_restartScan rfl
  split
  · exact .stay hidx
  split
  · have hself := startIfaceStateMachine_self i d x
    have hkeeps := Keeps.startIfaceStateMachine i d x
    have hstatus := (AutoWan.same_startIfaceStateMachine i d x).status
    have hstarts := Starts.startIfaceStateMachine i d x
    unfold transitionSelectedInterfaceUp
    cases hx : startIfaceStateMachine i d x with
    | mk ok y =>
      rw [hx] at hself hkeeps hstatus hstarts
      have htotal : y.self.ctrl.totalIfaces = x.self.ctrl.totalIfaces := congrArg (·.ctrl.totalIfaces) hself
      have hidx' : y.self.ctrl.activeInterfaceIdx = some i :=
        (congrArg (·.ctrl.activeInterfaceIdx) hself).trans hidx
      cases ok with
      | true => exact .go hkeeps htotal hidx' hstatus hstarts rfl rfl
      | false => exact .go hkeeps htotal hidx' hstatus hstarts rfl rfl
  · exact .stay hidx

theorem round_lockedState (hidx : x.self.ctrl.activeInterfaceIdx = some i) (st : ParallelScanState) :
    Round st i x (lockedState st i d x).1 (lockedState st i d x).2 := by
  cases st with
  | scanningInterface | reboot | policyExit | policyError => exact .stay hidx
  | checkReconfiguration =>
    show Round _ i x (stateCheckReconfiguration x).1 (stateCheckReconfiguration x).2
    unfold stateCheckReconfiguration
    split
    · exact round_tearingDown hidx rfl
    · split
      · exact .go (.refl x) rfl hidx (fun _ => rfl) (.of_same rfl rfl) rfl rfl
      · exact .go (.refl x) rfl hidx (fun _ => rfl) (.of_same rfl rfl) rfl rfl
  | reconfigurePlatform =>
    show Round _ i x (stateReconfigurePlatform d x).1 (stateReconfigurePlatform d x).2
    unfold stateReconfigurePlatform
    split
    · exact .go (.refl x) rfl hidx (fun _ => rfl) (.of_same rfl rfl) rfl rfl
    · exact .go (.refl x) rfl hidx (fun _ => rfl) (.of_same rfl rfl) rfl rfl
  | selectedInterfaceUp => exact round_selectedInterfaceUp hidx
  | selectedInterfaceDown => exact round_selectedInterfaceDown hidx
  | interfaceTearDown =>
    show Round _ i x (stateInterfaceTearDown x).1 (stateInterfaceTearDown x).2
    unfold stateInterfaceTearDown
    split
    · exact .stay hidx
    · rename_i hdown
      have hstay : Round .interfaceTearDown i x .interfaceTearDown x := .stay hidx
      exact
        { hstay with
          refused := fun h => by cases h
          winds := fun _ => .inl ⟨rfl, fun _ => rfl⟩
          ends := fun _ => .inr ⟨rfl, rfl, by simpa using hdown⟩
          idx := .inl hidx }

end Round

end ParallelScan
end WanManager
