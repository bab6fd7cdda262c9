import WanManager.Failover

/-! # What `MarkHighPriorityGroup` marks

A run that nobody interrupts, for every table of groups. The loop looks at groups until one whose
list is changing or that is waited for; the marks are those of the groups it has looked at. -/

namespace WanManager
open Concurrency

namespace Failover

/-! ## The marks -/

/-- A group whose interface can be used, or that is current while its interface is reset. -/
def qualifies (v : FailOverView) (i : Nat) : Bool :=
  match v.shared.selectedIface? (i + 1) with
  | none => false
  | some d => ifaceUsable d || (v.self.ctrl.currentActiveGroup == i + 1 && d.virtIf.reset)

/-- A group whose time is not over or whose first scan is not complete. -/
def waits (v : FailOverView) (g : IfaceGroup) : Bool :=
  decide (v.shared.now < v.self.ctrl.groupSelectionTimer + g.selectionTimeOut) ||
    !g.initialScanComplete

def cuts (waitForHigherGroup : Bool) (v : FailOverView) (g : IfaceGroup) : Bool :=
  g.configChanged || (waitForHigherGroup && waits v g)

/-- The group the loop ends with, if it does not come to its end. -/
def cut? (waitForHigherGroup : Bool) (v : FailOverView) : Option Nat :=
  v.shared.groups.findIdx? (cuts waitForHigherGroup v)

/-- The number of groups that are looked at. -/
def examined (waitForHigherGroup : Bool) (v : FailOverView) : Nat :=
  match cut? waitForHigherGroup v with
  | some i => i + 1
  | none => v.shared.groups.length

def cutByConfig (waitForHigherGroup : Bool) (v : FailOverView) : Bool :=
  match cut? waitForHigherGroup v with
  | some i => v.shared.groups[i]?.any (·.configChanged)
  | none => false

/-- What `MarkHighPriorityGroup` is for. -/
structure Marks (waitForHigherGroup : Bool) (v v' : FailOverView) : Prop where
  config : cutByConfig waitForHigherGroup v →
    v'.self.ctrl.highestValidGroup = v.self.ctrl.currentActiveGroup
  least : ¬ cutByConfig waitForHigherGroup v →
    (v'.self.ctrl.highestValidGroup = 0 ∧ ∀ i < examined waitForHigherGroup v, ¬ qualifies v i) ∨
      ∃ i < examined waitForHigherGroup v, v'.self.ctrl.highestValidGroup = i + 1 ∧
        qualifies v i ∧ ∀ j < i, ¬ qualifies v j
  waited : waitForHigherGroup → ¬ cutByConfig waitForHigherGroup v →
    ∀ i, v'.self.ctrl.highestValidGroup = i + 1 →
      ∀ j < i, ∀ g ∈ v.shared.groups[j]?, ¬ waits v g
  groups : ∀ i, v'.shared.groups[i]? = v.shared.groups[i]?.map fun g =>
    if v.self.ctrl.failOverType = .coldswap ∧ i < examined waitForHigherGroup v ∧
        g.state = .deactivated ∧ ∀ j ≤ i, ¬ qualifies v j then { g with state := .stopped }
    else g
  rest : v' =
    { v with
      shared := { v.shared with groups := v'.shared.groups }
      self := { v.self with
        ctrl := { v.self.ctrl with highestValidGroup := v'.self.ctrl.highestValidGroup } } }

/-! ## The marks of the first groups -/

/-- The first of `n` groups that qualifies, by its instance number. -/
def firstOf (v : FailOverView) (n : Nat) : Nat :=
  match (List.range n).find? (qualifies v) with
  | some i => i + 1
  | none => 0

def markedGroups (v : FailOverView) (n : Nat) : List IfaceGroup :=
  v.shared.groups.mapIdx fun i g =>
    if v.self.ctrl.failOverType = .coldswap ∧ i < n ∧ g.state = .deactivated ∧ firstOf v (i + 1) = 0
    then { g with state := .stopped }
    else g

/-- The view once `n` groups were looked at. -/
def markedUpTo (v : FailOverView) (n : Nat) : FailOverView :=
  { v with
    shared := { v.shared with groups := markedGroups v n }
    self := { v.self with ctrl := { v.self.ctrl with highestValidGroup := firstOf v n } } }

/-- `HighestValidGroup` stays with the current group while a list is changing. -/
def keepCurrent (v : FailOverView) : FailOverView :=
  v.mapCtrl fun c => { c with highestValidGroup := c.currentActiveGroup }

theorem firstOf_succ (v : FailOverView) (n : Nat) : firstOf v (n + 1) =
    if firstOf v n ≠ 0 then firstOf v n else if qualifies v n then n + 1 else 0 := by
  unfold firstOf
  rw [List.range_succ, List.find?_append]
  cases (List.range n).find? (qualifies v) with
  | some i => simp
  | none =>
    cases h : qualifies v n <;> simp [h]

theorem firstOf_eq_zero {v : FailOverView} {n : Nat} :
    firstOf v n = 0 ↔ ∀ i < n, ¬ qualifies v i := by
  unfold firstOf
  split
  · next i hi =>
    obtain ⟨hq, hmem, -⟩ := List.find?_range_eq_some.mp hi
    rw [List.mem_range] at hmem
    exact ⟨fun h => absurd h (Nat.succ_ne_zero i), fun h => absurd hq (h i hmem)⟩
  · next hnone => simpa using List.find?_range_eq_none.mp hnone

theorem firstOf_eq_succ {v : FailOverView} {n i : Nat} :
    firstOf v n = i + 1 ↔ qualifies v i ∧ i < n ∧ ∀ j < i, ¬ qualifies v j := by
  have hfind := List.find?_range_eq_some (n := n) (i := i) (p := qualifies v)
  unfold firstOf
  cases h : (List.range n).find? (qualifies v) with
  | none => simpa [h] using hfind
  | some k => simpa [h] using hfind

/-! ## The loop -/

theorem getElem?_markedGroups (v : FailOverView) (n i : Nat) :
    (markedGroups v n)[i]? = v.shared.groups[i]?.map fun g =>
      if v.self.ctrl.failOverType = .coldswap ∧ i < n ∧ g.state = .deactivated ∧
          firstOf v (i + 1) = 0 then { g with state := .stopped }
      else g := by
  simp [markedGroups]

@[simp] theorem selectedIface?_markedUpTo (v : FailOverView) (n inst : Nat) :
    (markedUpTo v n).shared.selectedIface? inst = v.shared.selectedIface? inst := by
  have hsel : (markedUpTo v n).shared.selected? inst = v.shared.selected? inst := by
    cases inst with
    | zero => rfl
    | succ i =>
      have hgroup : (markedUpTo v n).shared.group? (i + 1) = (markedGroups v n)[i]? := rfl
      have hgroup' : v.shared.group? (i + 1) = v.shared.groups[i]? := rfl
      unfold Shared.selected?
      rw [hgroup, hgroup', getElem?_markedGroups, Option.map_map]
      congr 2
      funext g
      show (if _ then _ else g).selectedInterface = _
      split <;> rfl
  unfold Shared.selectedIface?
  rw [hsel]
  rfl

theorem highestAt_markedUpTo (v : FailOverView) (i : Nat) :
    highestAt i (markedUpTo v i) = firstOf v (i + 1) := by
  rw [firstOf_succ]
  unfold highestAt qualifies
  rw [selectedIface?_markedUpTo]
  show (if firstOf v i ≠ 0 then firstOf v i else _) = _
  congr 1
  cases hd : v.shared.selectedIface? (i + 1) with
  | none => rfl
  | some d =>
    have hcurrent : (markedUpTo v i).self.ctrl.currentActiveGroup = v.self.ctrl.currentActiveGroup := rfl
    by_cases hu : ifaceUsable d
    · simp [hu]
    · by_cases hr : v.self.ctrl.currentActiveGroup = i + 1 ∧ d.virtIf.reset
      · simp [hu, hr, hcurrent]
      · simp [hu, hr, hcurrent]

theorem markedGroups_succ {v : FailOverView} {i : Nat} {g : IfaceGroup}
    (hg : v.shared.groups[i]? = some g) : markedGroups v (i + 1) =
      if v.self.ctrl.failOverType = .coldswap ∧ firstOf v (i + 1) = 0 ∧ g.state = .deactivated then
        (markedGroups v i).modify i fun g => { g with state := .stopped }
      else markedGroups v i := by
  apply List.ext_getElem?
  intro j
  by_cases hj : j = i
  · subst hj
    split
    · next h => simp [getElem?_markedGroups, hg, h]
    · next h =>
      have hno : ¬ (v.self.ctrl.failOverType = .coldswap ∧ j < j + 1 ∧ g.state = .deactivated ∧
          firstOf v (j + 1) = 0) := fun h' => h ⟨h'.1, h'.2.2.2, h'.2.2.1⟩
      rw [getElem?_markedGroups, getElem?_markedGroups, hg, Option.map_some, Option.map_some,
        if_neg hno, if_neg fun h => absurd h.2.1 (Nat.lt_irrefl j)]
  · have hlt : j < i + 1 ↔ j < i := by omega
    split
    · simp [getElem?_markedGroups, hlt, Ne.symm hj]
    · simp [getElem?_markedGroups, hlt]

/-- Looking at one more group. -/
theorem markGroup_markedUpTo {w : Bool} {v : FailOverView} {i : Nat} {g : IfaceGroup}
    (hg : v.shared.groups[i]? = some g) : markGroup w i (markedUpTo v i) =
      (cuts w v g, if g.configChanged then keepCurrent (markedUpTo v (i + 1))
        else markedUpTo v (i + 1)) := by
  have hg' : (markedUpTo v i).shared.groups[i]? = some g := by
    show (markedGroups v i)[i]? = some g
    simp [getElem?_markedGroups, hg]
  have hshared : (if (markedUpTo v i).self.ctrl.failOverType = .coldswap ∧ firstOf v (i + 1) = 0 ∧
      g.state = .deactivated then
        (markedUpTo v i).shared.modifyGroup (i + 1) fun g => { g with state := .stopped }
      else (markedUpTo v i).shared) = (markedUpTo v (i + 1)).shared := by
    show _ = { v.shared with groups := markedGroups v (i + 1) }
    rw [markedGroups_succ hg]
    show (if v.self.ctrl.failOverType = .coldswap ∧ firstOf v (i + 1) = 0 ∧ g.state = .deactivated
      then _ else _) = _
    split <;> rfl
  unfold markGroup
  rw [hg']
  simp only [highestAt_markedUpTo, hshared]
  cases hc : g.configChanged with
  | true =>
    rw [if_pos rfl, if_pos rfl, cuts, hc]
    rfl
  | false =>
    rw [if_neg Bool.false_ne_true, if_neg Bool.false_ne_true, cuts, hc]
    rfl

/-- The view once all groups that are to be looked at were. -/
def marked (waitForHigherGroup : Bool) (v : FailOverView) : FailOverView :=
  let v' := markedUpTo v (examined waitForHigherGroup v)
  if cutByConfig waitForHigherGroup v then keepCurrent v' else v'

/-- The loop from group `i` on, when none before it has ended the loop. -/
theorem run_from {w : Bool} {v : FailOverView} {i m : Nat} (hlen : i + m = v.shared.groups.length)
    (hbefore : ∀ j < i, ∀ g ∈ v.shared.groups[j]?, ¬ cuts w v g) :
    ((Prog.forUntil (List.range' i m) fun i =>
        Prog.critical (.markHighPriorityGroup i) (markGroup w i) : FailOverProg Unit).run
      (markedUpTo v i)).2 = marked w v := by
  induction m generalizing i with
  | zero =>
    have hnone : cut? w v = none := by
      rw [cut?, List.findIdx?_eq_none_iff]
      intro g hg
      obtain ⟨j, hj, rfl⟩ := List.mem_iff_getElem.mp hg
      simpa using hbefore j (by omega) _ (List.getElem?_eq_getElem hj)
    simp only [marked, examined, cutByConfig, hnone, Bool.false_eq_true, if_false, ← hlen]
    rfl
  | succ m ih =>
    have hi : i < v.shared.groups.length := by omega
    have hg := List.getElem?_eq_getElem hi
    rw [List.range'_succ, Prog.forUntil, Prog.run_bind, Prog.run_critical, markGroup_markedUpTo hg]
    cases hcut : cuts w v v.shared.groups[i] with
    | true =>
      have hsome : cut? w v = some i := by
        rw [cut?, List.findIdx?_eq_some_iff_getElem]
        refine ⟨hi, hcut, fun j hj => ?_⟩
        exact hbefore j hj _ (List.getElem?_eq_getElem (by omega))
      simp only [marked, examined, cutByConfig, hsome, hg, Option.any_some, if_true]
      rfl
    | false =>
      have hconfig : v.shared.groups[i].configChanged = false := by
        rw [cuts, Bool.or_eq_false_iff] at hcut
        exact hcut.1
      simp only [hconfig, Bool.false_eq_true, if_false]
      apply ih (by omega)
      intro j hj g hgj
      by_cases hji : j = i
      · subst hji
        rw [hg, Option.mem_some_iff] at hgj
        rw [← hgj, hcut]
        exact Bool.false_ne_true
      · exact hbefore j (by omega) g hgj

theorem markedGroups_zero (v : FailOverView) : markedGroups v 0 = v.shared.groups := by
  apply List.ext_getElem?
  intro i
  simp [getElem?_markedGroups]

theorem run_markHighPriorityGroup (w : Bool) (v : FailOverView) :
    ((markHighPriorityGroup w).run v).2 = marked w v := by
  have hstart : v.mapCtrl (fun c => { c with highestValidGroup := 0 }) = markedUpTo v 0 := by
    unfold markedUpTo
    rw [markedGroups_zero]
    rfl
  have htotal : (markedUpTo v 0).shared.groups.length = v.shared.groups.length := by
    show (markedGroups v 0).length = _
    rw [markedGroups_zero]
  unfold markHighPriorityGroup setCtrl totalNoOfGroups
  simp only [Prog.run_bind, Prog.run_modify, Prog.run_read, List.range_eq_range', hstart, htotal]
  exact run_from (Nat.zero_add _) fun j hj => absurd hj (Nat.not_lt_zero j)

/-! ## What the marks are -/

theorem not_cuts_of_lt_cut {w : Bool} {v : FailOverView} {j : Nat} {g : IfaceGroup}
    (hj : j + 1 < examined w v) (hg : v.shared.groups[j]? = some g) : ¬ cuts w v g := by
  obtain ⟨hlt, rfl⟩ := List.getElem?_eq_some_iff.mp hg
  unfold examined at hj
  cases hcut : cut? w v with
  | none =>
    rw [cut?, List.findIdx?_eq_none_iff] at hcut
    simpa using hcut _ (List.getElem_mem hlt)
  | some i =>
    simp only [hcut] at hj
    obtain ⟨_, _, hbefore⟩ := List.findIdx?_eq_some_iff_getElem.mp hcut
    exact hbefore j (Nat.lt_of_succ_lt_succ hj)

/-- `MarkHighPriorityGroup` chooses the first group it looks at that qualifies, and marks the
groups of higher priority in cold swap. -/
theorem markHighPriorityGroup_marks (w : Bool) (v : FailOverView) :
    Marks w v ((markHighPriorityGroup w).run v).2 := by
  rw [run_markHighPriorityGroup]
  have hgroups : (marked w v).shared.groups = markedGroups v (examined w v) := by
    unfold marked
    dsimp only
    split <;> rfl
  have hchosen (hconfig : ¬ cutByConfig w v) :
      (marked w v).self.ctrl.highestValidGroup = firstOf v (examined w v) := by
    unfold marked
    dsimp only
    rw [if_neg hconfig]
    rfl
  refine ⟨fun hconfig => ?_, fun hconfig => ?_, fun hw hconfig i hi j hj g hg => ?_, fun i => ?_, ?_⟩
  · unfold marked
    dsimp only
    rw [if_pos hconfig]
    rfl
  · rw [hchosen hconfig]
    cases hfirst : firstOf v (examined w v) with
    | zero => exact .inl ⟨rfl, firstOf_eq_zero.mp hfirst⟩
    | succ i =>
      obtain ⟨hq, hi, hbefore⟩ := firstOf_eq_succ.mp hfirst
      exact .inr ⟨i, hi, rfl, hq, hbefore⟩
  · rw [hchosen hconfig] at hi
    obtain ⟨-, hlt, -⟩ := firstOf_eq_succ.mp hi
    have hcut := not_cuts_of_lt_cut (w := w) (Nat.lt_of_le_of_lt hj hlt) hg
    intro hwaits
    apply hcut
    rw [cuts, hw, hwaits]
    simp
  · rw [hgroups, getElem?_markedGroups]
    simp only [firstOf_eq_zero, Nat.lt_succ_iff]
  · unfold marked
    dsimp only
    split <;> rfl

end Failover

end WanManager
