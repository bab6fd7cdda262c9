import WanManager.InterfaceSmMoves
import WanManager.PolicyThreads

/-! # One state machine for a virtual interface

A selection thread starts the state machines of an interface; each sets the running flag of its
virtual interface with its first transition, and takes it back one tick before it ends. In
every run whose starts respect both windows, no virtual interface has two of them. -/

namespace WanManager
open Concurrency

/-! ## The table of the state machines -/

/-- The thread works on the virtual interface `v` of the interface `i`. -/
def VismThread.Of (t : VismThread) (i v : Nat) : Prop := t.interfaceIdx = i ∧ t.virIfIdx = v

/-- The thread runs with the flag of its virtual interface taken back, or not yet set. -/
def VismThread.unflagged (t : VismThread) : Bool :=
  t.phase == .created || t.phase == .running .exit

/-- `Interface_SM_Running` -/
def Shared.smRunning (s : Shared) (i v : Nat) : Bool :=
  match s.virtualIface? i v with
  | some p => p.interfaceSmRunning
  | none => false

/-- The flag of a virtual interface in `Shared.flags`. -/
def flagAt (flags : List (List Bool)) (i v : Nat) : Option Bool := flags[i]?.bind fun l => l[v]?

theorem flagAt_flags (s : Shared) (i v : Nat) :
    flagAt s.flags i v = (s.virtualIface? i v).map (·.interfaceSmRunning) := by
  unfold flagAt Shared.flags Shared.virtualIface?
  rw [List.getElem?_map]
  cases s.ifaces[i]? with
  | none => rfl
  | some d => simp [WanIface.virtualIfaceById]

theorem smRunning_eq (s : Shared) (i v : Nat) : s.smRunning i v = (flagAt s.flags i v).getD false := by
  rw [flagAt_flags, Shared.smRunning]
  cases s.virtualIface? i v <;> rfl

/-- A table of state machine threads, and what they say about their flags. -/
structure VismTable (flags : List (List Bool)) (visms : Nat → VismThread) (count : Nat) : Prop where
  fresh : ∀ t, count ≤ t → (visms t).phase = .absent
  flag : ∀ t, (visms t).Live → (visms t).unflagged = false →
    flagAt flags (visms t).interfaceIdx (visms t).virIfIdx = some true
  unique : ∀ t u i v, (visms t).Live → (visms u).Live → (visms t).Of i v → (visms u).Of i v → t = u

namespace Policy

/-- The table as a selection thread sees it. -/
def Table (x : PolicyView) : Prop := VismTable x.shared.flags x.visms x.vismCount

/-- No state machine of the virtual interface is there. -/
def Vacant (x : PolicyView) (i v : Nat) : Prop := ∀ t, (x.visms t).Live → ¬ (x.visms t).Of i v

/-- No state machine of the virtual interface runs without its flag. -/
def flagTells (x : PolicyView) (i v : Nat) : Bool :=
  (List.range x.vismCount).all fun t =>
    !((x.visms t).interfaceIdx == i && (x.visms t).virIfIdx == v && (x.visms t).unflagged)

/-- `WanMgr_StartIfaceStateMachine` only starts machines that do not run. -/
def startsIdle (i : Nat) (d : WanIface) (x : PolicyView) : Bool :=
  (virtIfRange d).all fun v =>
    !virtIfEnabled x i v || (!x.shared.smRunning i v && flagTells x i v)

/-- The branch for `VirtIfChanged` can tell which machines run. -/
def restartsIdle (i : Nat) (d : WanIface) (x : PolicyView) : Bool :=
  (virtIfRange d).all fun v =>
    !(virtIfEnabled x i v && !x.shared.smRunning i v) || flagTells x i v

theorem vacant_of_flagTells {x : PolicyView} {i v : Nat} (h : Table x)
    (hrun : x.shared.smRunning i v = false) (htell : flagTells x i v = true) : Vacant x i v := by
  intro t hlive hof
  have hlt : t < x.vismCount := by
    by_contra hge
    exact hlive.1 (h.fresh t (by omega))
  simp only [flagTells, List.all_eq_true, List.mem_range] at htell
  have ht := htell t hlt
  cases hu : (x.visms t).unflagged with
  | true => simp [hof.1, hof.2, hu] at ht
  | false =>
    have hflag := h.flag t hlive hu
    rw [hof.1, hof.2] at hflag
    rw [smRunning_eq, hflag] at hrun
    cases hrun

/-- Where `WanMgr_Get_ISM_RunningStatus` has answered `FALSE`, no flag is set. -/
theorem startsIdle_of_notRunning {i : Nat} {d : WanIface} {x : PolicyView}
    (hrun : ismRunningStatus x.shared i = false) (h : restartsIdle i d x = true) :
    startsIdle i d x = true := by
  have hflag (v : Nat) : x.shared.smRunning i v = false := by
    unfold ismRunningStatus at hrun
    unfold Shared.smRunning Shared.virtualIface? WanIface.virtualIfaceById
    cases hd : x.shared.ifaces[i]? with
    | none => rfl
    | some d =>
      simp only [hd, List.any_eq_false] at hrun
      cases hp : d.virtIfs[v]? with
      | none => simp [hp]
      | some p => simpa [hp] using hrun p (List.mem_of_getElem? hp)
  simpa [startsIdle, restartsIdle, hflag] using h

/-- One more thread, for a virtual interface without one. -/
theorem table_start {i v : Nat} {x : PolicyView} (h : Table x) (hfree : Vacant x i v) :
    Table (startInterfaceStateMachine i v x).2 := by
  unfold startInterfaceStateMachine
  split
  · have hold : ∀ t, t ≠ x.vismCount → Function.update x.visms x.vismCount
        { interfaceIdx := i, virIfIdx := v, sm := {} } t = x.visms t :=
      fun t ht => Function.update_of_ne ht _ _
    refine ⟨fun t ht => ?_, fun t ht hu => ?_, fun t u j w ht hu htof huof => ?_⟩
    · simp only at ht ⊢
      rw [hold t (by omega)]
      exact h.fresh t (by omega)
    · simp only at ht hu ⊢
      by_cases hc : t = x.vismCount
      · subst hc
        rw [Function.update_self] at hu
        cases hu
      · rw [hold t hc] at ht hu ⊢
        exact h.flag t ht hu
    · simp only at ht hu htof huof
      by_cases htc : t = x.vismCount
      · by_cases huc : u = x.vismCount
        · rw [htc, huc]
        · rw [hold u huc] at hu huof
          subst htc
          rw [Function.update_self] at htof
          obtain ⟨rfl, rfl⟩ := htof
          exact absurd huof (hfree u hu)
      · rw [hold t htc] at ht htof
        by_cases huc : u = x.vismCount
        · subst huc
          rw [Function.update_self] at huof
          obtain ⟨rfl, rfl⟩ := huof
          exact absurd htof (hfree t ht)
        · rw [hold u huc] at hu huof
          exact h.unique t u j w ht hu htof huof
  · exact h

/-- Starting one virtual interface leaves the others as they are. -/
theorem vacant_start {i v w : Nat} {x : PolicyView} (hne : w ≠ v) (h : Vacant x i w) :
    Vacant (startInterfaceStateMachine i v x).2 i w := by
  unfold startInterfaceStateMachine
  split
  · intro t hlive hof
    simp only at hlive hof
    by_cases hc : t = x.vismCount
    · subst hc
      rw [Function.update_self] at hof
      exact hne hof.2.symm
    · rw [Function.update_of_ne hc] at hlive hof
      exact h t hlive hof
  · exact h

theorem virtIfEnabled_congr {x y : PolicyView} (h : y.shared = x.shared) (i v : Nat) :
    virtIfEnabled y i v = virtIfEnabled x i v := by
  rw [virtIfEnabled, virtIfEnabled, h]

theorem table_startVirtIfs {i : Nat} {vs : List Nat} {x : PolicyView} (hvs : vs.Nodup)
    (h : Table x) (hfree : ∀ v ∈ vs, virtIfEnabled x i v = true → Vacant x i v) :
    Table (startVirtIfs i vs x).2 := by
  induction vs generalizing x with
  | nil => exact h
  | cons v vs ih =>
    obtain ⟨hv, hvs⟩ := List.nodup_cons.mp hvs
    have hrest : ∀ w ∈ vs, virtIfEnabled x i w = true → Vacant x i w :=
      fun w hw => hfree w (List.mem_cons_of_mem v hw)
    unfold startVirtIfs
    split
    · rename_i hen
      have hnew := table_start h (hfree v List.mem_cons_self hen)
      have hothers : ∀ w ∈ vs, virtIfEnabled x i w = true →
          Vacant (startInterfaceStateMachine i v x).2 i w := by
        intro w hw hwen
        exact vacant_start (fun heq => hv (heq ▸ hw)) (hrest w hw hwen)
      have hshared := startInterfaceStateMachine_shared i v x
      cases hs : startInterfaceStateMachine i v x with
      | mk ok y =>
        rw [hs] at hnew hothers hshared
        cases ok with
        | true =>
          refine ih hvs hnew fun w hw hwen => hothers w hw ?_
          rwa [virtIfEnabled_congr hshared] at hwen
        | false => exact hnew
    · exact ih hvs h hrest

theorem table_startNotRunning {i : Nat} {vs : List Nat} {x : PolicyView} (hvs : vs.Nodup)
    (h : Table x) (hfree : ∀ v ∈ vs, virtIfEnabled x i v = true → x.shared.smRunning i v = false →
      Vacant x i v) : Table (vs.foldl (startVirtIfNotRunning i) x) := by
  induction vs generalizing x with
  | nil => exact h
  | cons v vs ih =>
    obtain ⟨hv, hvs⟩ := List.nodup_cons.mp hvs
    have hrest : ∀ w ∈ vs, virtIfEnabled x i w = true → x.shared.smRunning i w = false →
        Vacant x i w := fun w hw => hfree w (List.mem_cons_of_mem v hw)
    rw [List.foldl_cons]
    rcases startVirtIfNotRunning_eq i x v with heq | ⟨⟨d, hd, hen, hrun⟩, heq⟩
    · rw [heq]
      exact ih hvs h hrest
    · rw [heq]
      have hstart : Vacant x i v := hfree v List.mem_cons_self (by simp [virtIfEnabled, hd, hen])
        (by simp [Shared.smRunning, hd, hrun])
      have hshared := startInterfaceStateMachine_shared i v x
      refine ih hvs (table_start h hstart) fun w hw hwen hwrun => ?_
      rw [virtIfEnabled_congr hshared] at hwen
      rw [hshared] at hwrun
      exact vacant_start (fun heq => hv (heq ▸ hw)) (hrest w hw hwen hwrun)

/-- A view with the same threads and the same virtual interfaces at `i`. -/
structure SameStarts (i : Nat) (x y : PolicyView) : Prop where
  virtIf : ∀ v, y.shared.virtualIface? i v = x.shared.virtualIface? i v
  visms : y.visms = x.visms
  count : y.vismCount = x.vismCount

theorem SameStarts.startsIdle {i : Nat} {x y : PolicyView} (h : SameStarts i x y) (d : WanIface) :
    startsIdle i d y = startsIdle i d x := by
  simp only [Policy.startsIdle, virtIfEnabled, Shared.smRunning, flagTells, h.virtIf, h.visms, h.count]

theorem virtualIface?_modifyIface {f : WanIface → WanIface} (hf : ∀ d, (f d).virtIfs = d.virtIfs)
    (s : Shared) (j i v : Nat) : (s.modifyIface j f).virtualIface? i v = s.virtualIface? i v := by
  unfold Shared.virtualIface? Shared.modifyIface
  rw [List.getElem?_modify]
  cases s.ifaces[i]? with
  | none => rfl
  | some d =>
    by_cases hij : j = i
    · simp [hij, WanIface.virtualIfaceById, hf]
    · simp [hij]

theorem SameStarts.restartsIdle {i : Nat} {x y : PolicyView} (h : SameStarts i x y) (d : WanIface) :
    restartsIdle i d y = restartsIdle i d x := by
  simp only [Policy.restartsIdle, virtIfEnabled, Shared.smRunning, flagTells, h.virtIf, h.visms,
    h.count]

theorem SameStarts.setSelection (i j : Nat) (st : SelectionStatus) (x : PolicyView) :
    SameStarts i x (x.mapShared fun s => s.setSelectionStatus j st) :=
  ⟨fun v => virtualIface?_modifyIface (by intro; rfl) x.shared j i v, rfl, rfl⟩

theorem SameStarts.clearVirtIfChanged (i j : Nat) (x : PolicyView) :
    SameStarts i x (x.mapShared (clearVirtIfChanged j)) :=
  ⟨fun v => virtualIface?_modifyIface (by intro; rfl) x.shared j i v, rfl, rfl⟩

theorem SameStarts.setGroupSelected (i j : Nat) (x : PolicyView) :
    SameStarts i x (AutoWan.setGroupSelected j x) :=
  ⟨fun v => by
    have hifaces : (AutoWan.setGroupSelected j x).shared.ifaces = x.shared.ifaces :=
      Shared.ifaces_modifyGroup _ _ _
    rw [Shared.virtualIface?, Shared.virtualIface?, hifaces], rfl, rfl⟩

theorem SameStarts.trans {i : Nat} {x y z : PolicyView} (h : SameStarts i x y)
    (h' : SameStarts i y z) : SameStarts i x z :=
  ⟨fun v => (h'.virtIf v).trans (h.virtIf v), h'.visms.trans h.visms, h'.count.trans h.count⟩

/-- The table after a section that only changes the data base. -/
theorem table_of_flags {x y : PolicyView} (h : Table x) (hflags : y.shared.flags = x.shared.flags)
    (hvisms : y.visms = x.visms) (hcount : y.vismCount = x.vismCount) : Table y := by
  rw [Table, hflags, hvisms, hcount]
  exact h

theorem table_of_keeps {x y : PolicyView} (h : Table x) (hkeep : Keeps x y)
    (hvisms : y.visms = x.visms) (hcount : y.vismCount = x.vismCount) : Table y :=
  table_of_flags h hkeep.shared.flags hvisms hcount

theorem nodup_virtIfRange (d : WanIface) : (virtIfRange d).Nodup := List.nodup_range

theorem table_startRange {i : Nat} {d : WanIface} {x : PolicyView} (h : Table x)
    (hidle : startsIdle i d x = true) : Table (startVirtIfs i (virtIfRange d) x).2 := by
  refine table_startVirtIfs (nodup_virtIfRange d) h fun v hv hen => ?_
  simp only [startsIdle, List.all_eq_true] at hidle
  have hfree := hidle v hv
  simp only [hen, Bool.not_true, Bool.false_or, Bool.and_eq_true, Bool.not_eq_true'] at hfree
  exact vacant_of_flagTells h hfree.1 hfree.2

theorem table_startIfaceStateMachine {i : Nat} {d : WanIface} {x : PolicyView} (h : Table x)
    (hidle : startsIdle i d x = true) : Table (startIfaceStateMachine i d x).2 := by
  have hstarted := table_startRange h hidle
  rcases startIfaceStateMachine_eq i d x with heq | heq <;> rw [heq]
  · exact hstarted
  · exact table_of_keeps hstarted (.mapShared (.clearVirtIfChanged i _)) rfl rfl

theorem table_startChangedVirtIfs {i : Nat} {d : WanIface} {x : PolicyView} (h : Table x)
    (hidle : d.virtIfChanged = true → restartsIdle i d x = true) :
    Table (startChangedVirtIfs i d x) := by
  unfold startChangedVirtIfs
  split
  · rename_i hchanged
    have hstarted : Table ((virtIfRange d).foldl (startVirtIfNotRunning i) x) := by
      refine table_startNotRunning (nodup_virtIfRange d) h fun v hv hen hrun => ?_
      have hall := hidle hchanged
      simp only [restartsIdle, List.all_eq_true] at hall
      have hfree := hall v hv
      simp only [hen, hrun, Bool.not_false, Bool.and_true, Bool.not_true, Bool.false_or] at hfree
      exact vacant_of_flagTells h hrun hfree
    exact table_of_keeps hstarted (.mapShared (.clearVirtIfChanged i _)) rfl rfl
  · exact h

end Policy

/-! ## AutoWAN -/

namespace AutoWan
open Policy

/-- `WanMgr_StartIfaceStateMachine` is called. -/
def startsMachines (st : AutoWanState) (i : Nat) (d : WanIface) (x : PolicyView) : Bool :=
  match st with
  | .waiting => !stops x.self.ctrl && d.selection.enable && d.baseInterfaceStatus == .up
  | .down => !(stops x.self.ctrl || x.self.ctrl.resetSelectedInterface) &&
      d.baseInterfaceStatus == .up && d.selection.enable && !ismRunningStatus x.shared i
  | _ => false

/-- The state function has found no machine of the interface running before it starts one. -/
theorem notRunning_of_startsMachines {i : Nat} {d : WanIface} {x : PolicyView}
    (h : startsMachines .down i d x = true) : ismRunningStatus x.shared i = false := by
  simp only [startsMachines, Bool.and_eq_true, Bool.not_eq_true'] at h
  exact h.2

/-- The virtual interfaces have changed, and those without a machine get one. -/
def restartsMachines (st : AutoWanState) (i : Nat) (d : WanIface) (x : PolicyView) : Bool :=
  match st with
  | .active => !(stops x.self.ctrl || x.self.ctrl.resetSelectedInterface) &&
      d.baseInterfaceStatus == .up && d.selection.enable && ismRunningStatus x.shared i &&
      d.virtIfChanged
  | _ => false

theorem visms_resetActiveLinkOnAllIface (x : PolicyView) :
    (resetActiveLinkOnAllIface x).2.visms = x.visms ∧
      (resetActiveLinkOnAllIface x).2.vismCount = x.vismCount := by
  unfold resetActiveLinkOnAllIface
  split <;> exact ⟨rfl, rfl⟩

theorem visms_resetGroupSelectedIface (x : PolicyView) :
    (resetGroupSelectedIface x).2.visms = x.visms ∧
      (resetGroupSelectedIface x).2.vismCount = x.vismCount := by
  unfold resetGroupSelectedIface
  split <;> exact ⟨rfl, rfl⟩

theorem visms_transitionRestartSelectionInterface (x : PolicyView) :
    (transitionRestartSelectionInterface x).2.visms = x.visms ∧
      (transitionRestartSelectionInterface x).2.vismCount = x.vismCount := by
  have hlinks := visms_resetActiveLinkOnAllIface x
  unfold transitionRestartSelectionInterface
  cases hx : resetActiveLinkOnAllIface x with
  | mk ok y =>
    rw [hx] at hlinks
    cases ok with
    | false => exact hlinks
    | true =>
      have hselected := visms_resetGroupSelectedIface (resetIfaceTable (clearResetSelected y))
      simp only
      cases hz : resetGroupSelectedIface (resetIfaceTable (clearResetSelected y)) with
      | mk ok z =>
        rw [hz] at hselected
        obtain ⟨hvisms, hcount⟩ := hselected
        cases ok <;> exact ⟨hvisms.trans hlinks.1, hcount.trans hlinks.2⟩

theorem visms_stateWaitingForInterfaceSMExit (i : Nat) (x : PolicyView) :
    (stateWaitingForInterfaceSMExit i x).2.visms = x.visms ∧
      (stateWaitingForInterfaceSMExit i x).2.vismCount = x.vismCount := by
  simp only [stateWaitingForInterfaceSMExit]
  split
  · exact ⟨rfl, rfl⟩
  · obtain ⟨hvisms, hcount⟩ :=
      visms_resetGroupSelectedIface (resetIfaceTable (setSelection i .notSelected x))
    simp only
    split
    · obtain ⟨hvisms', hcount'⟩ := visms_resetActiveLinkOnAllIface
        (resetGroupSelectedIface (resetIfaceTable (setSelection i .notSelected x))).2
      exact ⟨hvisms'.trans hvisms, hcount'.trans hcount⟩
    · exact ⟨hvisms, hcount⟩

/-- Without one of the two branches no machine is started. -/
theorem visms_lockedState {st : AutoWanState} {i : Nat} {d : WanIface} {x : PolicyView}
    (hstart : startsMachines st i d x = false) (hrestart : restartsMachines st i d x = false) :
    (lockedState st i d x).2.visms = x.visms ∧ (lockedState st i d x).2.vismCount = x.vismCount := by
  cases st with
  | selecting =>
    simp only [lockedState, stateSelectingInterface]
    split <;> exact ⟨rfl, rfl⟩
  | waiting =>
    simp only [lockedState, stateWaitForInterface]
    split
    · exact ⟨rfl, rfl⟩
    · split
      · exact ⟨rfl, rfl⟩
      · split
        · simp_all [startsMachines]
        · split
          · exact ⟨rfl, rfl⟩
          · simp only
            split <;> exact ⟨rfl, rfl⟩
  | scanning =>
    simp only [lockedState, stateScanningInterface]
    repeat' split
    all_goals exact ⟨rfl, rfl⟩
  | teardown =>
    simp only [lockedState, stateWaitingForIfaceTearDown]
    repeat' split
    · exact ⟨rfl, rfl⟩
    · exact ⟨rfl, rfl⟩
    · exact visms_transitionRestartSelectionInterface x
    · exact ⟨rfl, rfl⟩
  | reconfiguration =>
    simp only [lockedState, stateInterfaceReconfiguration]
    repeat' split
    all_goals exact ⟨rfl, rfl⟩
  | rebootPlatform =>
    simp only [lockedState, stateRebootingPlatform]
    split <;> exact ⟨rfl, rfl⟩
  | active =>
    simp only [lockedState, stateWanInterfaceActive, startChangedVirtIfs]
    split
    · exact ⟨rfl, rfl⟩
    · split
      · exact ⟨rfl, rfl⟩
      · split
        · simp_all [restartsMachines]
        · exact ⟨rfl, rfl⟩
  | down =>
    simp only [lockedState, stateWanInterfaceDown, transitionWanInterfaceUp]
    split
    · exact ⟨rfl, rfl⟩
    · split
      · rename_i hstops hup
        have hrun : ismRunningStatus (setGroupSelected (i + 1) x).shared i =
            ismRunningStatus x.shared i := by
          simp [ismRunningStatus, setGroupSelected, PolicyView.mapShared, Shared.setGroupSelectedIface]
        rw [hrun]
        split
        · exact ⟨rfl, rfl⟩
        · simp_all [startsMachines]
      · exact ⟨rfl, rfl⟩
  | error | smExit => exact ⟨rfl, rfl⟩
  | tearingDown => exact visms_stateWaitingForInterfaceSMExit i x

/-- The two states that start the machines of the selected interface. -/
theorem lockedState_starts {st : AutoWanState} {i : Nat} {d : WanIface} {x : PolicyView}
    (h : startsMachines st i d x = true) :
    (lockedState st i d x).2 = (startIfaceStateMachine i d (setSelection i .selected x)).2 ∨
      (lockedState st i d x).2 = (startIfaceStateMachine i d (setGroupSelected (i + 1) x)).2 := by
  cases st with
  | waiting =>
    simp only [startsMachines, Bool.and_eq_true, Bool.not_eq_true', beq_iff_eq] at h
    obtain ⟨⟨hstops, hen⟩, hup⟩ := h
    exact .inl (by simp [lockedState, stateWaitForInterface, hstops, hen, hup, transitionInterfaceFound])
  | down =>
    simp only [startsMachines, Bool.and_eq_true, Bool.not_eq_true', beq_iff_eq] at h
    obtain ⟨⟨⟨hstops, hup⟩, hen⟩, hrun⟩ := h
    have hrun' : ismRunningStatus (setGroupSelected (i + 1) x).shared i = false := by
      simpa [ismRunningStatus, setGroupSelected, PolicyView.mapShared,
        Shared.setGroupSelectedIface] using hrun
    refine .inr ?_
    simp [lockedState, stateWanInterfaceDown, hstops, hen, hup, transitionWanInterfaceUp, hrun']
  | selecting | scanning | teardown | reconfiguration | rebootPlatform | active | error
  | tearingDown | smExit => cases h

theorem lockedState_restarts {st : AutoWanState} {i : Nat} {d : WanIface} {x : PolicyView}
    (h : restartsMachines st i d x = true) :
    (lockedState st i d x).2 = startChangedVirtIfs i d x := by
  cases st with
  | active =>
    simp only [restartsMachines, Bool.and_eq_true, Bool.not_eq_true', beq_iff_eq] at h
    obtain ⟨⟨⟨⟨hstops, hup⟩, hen⟩, hrun⟩, -⟩ := h
    simp [lockedState, stateWanInterfaceActive, hstops, hup, hen, hrun]
  | selecting | waiting | scanning | teardown | reconfiguration | rebootPlatform | down | error
  | tearingDown | smExit => cases h

/-- The state functions keep the table, if they only start machines that do not run. -/
theorem table_lockedState {st : AutoWanState} {i : Nat} {d : WanIface} {x : PolicyView} (h : Table x)
    (hstart : startsMachines st i d x = true → startsIdle i d x = true)
    (hrestart : restartsMachines st i d x = true → restartsIdle i d x = true) :
    Table (lockedState st i d x).2 := by
  cases hs : startsMachines st i d x with
  | true =>
    have hidle := hstart hs
    rcases lockedState_starts hs with heq | heq <;> rw [heq]
    · have hsame := SameStarts.setSelection i i .selected x
      refine table_startIfaceStateMachine ?_ ((hsame.startsIdle d).trans hidle)
      exact table_of_keeps h (keeps_setSelection i .selected x) rfl rfl
    · have hsame := SameStarts.setGroupSelected i (i + 1) x
      refine table_startIfaceStateMachine ?_ ((hsame.startsIdle d).trans hidle)
      exact table_of_keeps h (keeps_setGroupSelected (i + 1) x) rfl rfl
  | false =>
    cases hr : restartsMachines st i d x with
    | true =>
      rw [lockedState_restarts hr]
      exact table_startChangedVirtIfs h fun _ => hrestart hr
    | false =>
      obtain ⟨hvisms, hcount⟩ := visms_lockedState hs hr
      exact table_of_keeps h (keeps_lockedState st i d x) hvisms hcount

end AutoWan

/-! ## Parallel scan -/

namespace ParallelScan
open Policy

/-- `WanMgr_StartIfaceStateMachine` is called. -/
def startsMachines (st : ParallelScanState) (d : WanIface) (x : PolicyView) : Bool :=
  match st with
  | .selectedInterfaceDown => !stops x.self.ctrl && !x.self.ctrl.resetSelectedInterface &&
      d.virtIf.status == .disabled && d.baseInterfaceStatus == .up && d.selection.enable
  | _ => false

/-- The virtual interfaces have changed, and those without a machine get one. -/
def restartsMachines (st : ParallelScanState) (i : Nat) (d : WanIface) (x : PolicyView) : Bool :=
  match st with
  | .selectedInterfaceUp => !stops x.self.ctrl &&
      !(x.self.ctrl.resetSelectedInterface && rescanRequired i d x) &&
      d.baseInterfaceStatus == .up && d.selection.enable && d.virtIfChanged
  | _ => false

theorem visms_clearResetSelected (x : PolicyView) :
    (clearResetSelected x).visms = x.visms ∧ (clearResetSelected x).vismCount = x.vismCount := by
  unfold clearResetSelected
  split <;> exact ⟨rfl, rfl⟩

theorem visms_transitionRestartScan (i : Nat) (x : PolicyView) :
    (transitionRestartScan i x).2.visms = x.visms ∧
      (transitionRestartScan i x).2.vismCount = x.vismCount :=
  visms_clearResetSelected (restartIfaces i x)

/-- Without one of the two branches no machine is started. -/
theorem visms_lockedState {st : ParallelScanState} {i : Nat} {d : WanIface} {x : PolicyView}
    (hstart : startsMachines st d x = false) (hrestart : restartsMachines st i d x = false) :
    (lockedState st i d x).2.visms = x.visms ∧ (lockedState st i d x).2.vismCount = x.vismCount := by
  cases st with
  | scanningInterface | reboot | policyExit | policyError => exact ⟨rfl, rfl⟩
  | checkReconfiguration =>
    simp only [lockedState, stateCheckReconfiguration]
    repeat' split
    all_goals exact ⟨rfl, rfl⟩
  | reconfigurePlatform =>
    simp only [lockedState, stateReconfigurePlatform]
    split <;> exact ⟨rfl, rfl⟩
  | selectedInterfaceUp =>
    simp only [lockedState, stateSelectedInterfaceUp, keepSelectedInterfaceUp, startChangedVirtIfs]
    split
    · exact ⟨rfl, rfl⟩
    · split
      · split
        · exact visms_transitionRestartScan i x
        · split
          · exact visms_clearResetSelected x
          · split
            · simp_all [restartsMachines]
            · exact visms_clearResetSelected x
      · split
        · exact ⟨rfl, rfl⟩
        · split
          · simp_all [restartsMachines]
          · exact ⟨rfl, rfl⟩
  | selectedInterfaceDown =>
    simp only [lockedState, stateSelectedInterfaceDown]
    split
    · exact ⟨rfl, rfl⟩
    · split
      · exact visms_transitionRestartScan i x
      · split
        · exact ⟨rfl, rfl⟩
        · split
          · simp_all [startsMachines]
          · exact ⟨rfl, rfl⟩
  | interfaceTearDown =>
    simp only [lockedState, stateInterfaceTearDown]
    split <;> exact ⟨rfl, rfl⟩

theorem lockedState_starts {st : ParallelScanState} {i : Nat} {d : WanIface} {x : PolicyView}
    (h : startsMachines st d x = true) :
    (lockedState st i d x).2 = (startIfaceStateMachine i d x).2 := by
  cases st with
  | selectedInterfaceDown =>
    simp only [startsMachines, Bool.and_eq_true, Bool.not_eq_true', beq_iff_eq] at h
    obtain ⟨⟨⟨⟨hstops, hreset⟩, hst⟩, hup⟩, hen⟩ := h
    simp only [lockedState, stateSelectedInterfaceDown, hstops, hreset, hst, hup, hen]
    unfold transitionSelectedInterfaceUp
    cases startIfaceStateMachine i d x with
    | mk ok y => cases ok <;> rfl
  | scanningInterface | checkReconfiguration | reconfigurePlatform | reboot | selectedInterfaceUp
  | interfaceTearDown | policyExit | policyError => cases h

theorem lockedState_restarts {st : ParallelScanState} {i : Nat} {d : WanIface} {x : PolicyView}
    (h : restartsMachines st i d x = true) :
    (lockedState st i d x).2 = startChangedVirtIfs i d x ∨
      (lockedState st i d x).2 = startChangedVirtIfs i d (clearResetSelected x) := by
  cases st with
  | selectedInterfaceUp =>
    simp only [restartsMachines, Bool.and_eq_true, Bool.not_eq_true', beq_iff_eq] at h
    obtain ⟨⟨⟨⟨hstops, hscan⟩, hup⟩, hen⟩, -⟩ := h
    simp only [lockedState, stateSelectedInterfaceUp, hstops]
    cases hreset : x.self.ctrl.resetSelectedInterface with
    | false => exact .inl (by simp [keepSelectedInterfaceUp, hup, hen])
    | true =>
      have hnone : rescanRequired i d x = false := by simpa [hreset] using hscan
      exact .inr (by simp [hnone, keepSelectedInterfaceUp, hup, hen])
  | scanningInterface | checkReconfiguration | reconfigurePlatform | reboot | selectedInterfaceDown
  | interfaceTearDown | policyExit | policyError => cases h

theorem sameStarts_clearResetSelected (i : Nat) (x : PolicyView) :
    SameStarts i x (clearResetSelected x) := by
  obtain ⟨hvisms, hcount⟩ := visms_clearResetSelected x
  refine ⟨fun v => ?_, hvisms, hcount⟩
  have hifaces : (clearResetSelected x).shared.ifaces = x.shared.ifaces := by
    unfold clearResetSelected
    split
    · rfl
    · exact Shared.ifaces_modifyGroup _ _ _
  rw [Shared.virtualIface?, Shared.virtualIface?, hifaces]

/-- The state functions keep the table, if they only start machines that do not run. -/
theorem table_lockedState {st : ParallelScanState} {i : Nat} {d : WanIface} {x : PolicyView}
    (h : Table x) (hstart : startsMachines st d x = true → startsIdle i d x = true)
    (hrestart : restartsMachines st i d x = true → restartsIdle i d x = true) :
    Table (lockedState st i d x).2 := by
  cases hs : startsMachines st d x with
  | true =>
    rw [lockedState_starts hs]
    exact table_startIfaceStateMachine h (hstart hs)
  | false =>
    cases hr : restartsMachines st i d x with
    | true =>
      rcases lockedState_restarts hr with heq | heq <;> rw [heq]
      · exact table_startChangedVirtIfs h fun _ => hrestart hr
      · have hsame := sameStarts_clearResetSelected i x
        have hclear := table_of_keeps h (keeps_clearResetSelected x) hsame.visms hsame.count
        exact table_startChangedVirtIfs hclear fun _ => (hsame.restartsIdle d).trans (hrestart hr)
    | false =>
      obtain ⟨hvisms, hcount⟩ := visms_lockedState hs hr
      exact table_of_keeps h (keeps_lockedState st i d x) hvisms hcount

theorem table_transitionNewInterfaceConnected {i : Nat} {x : PolicyView} (h : Table x)
    (hidle : ∀ d, x.shared.ifaces[i]? = some d → startsIdle i d x = true) :
    Table (transitionNewInterfaceConnected i x) := by
  unfold transitionNewInterfaceConnected
  cases hd : x.shared.ifaces[i]? with
  | none => exact h
  | some d =>
    have hsame := (SameStarts.setSelection i i .validating x).trans (.clearVirtIfChanged i i _)
    have hkeep := (keeps_setSelection i .validating x).trans (.mapShared (.clearVirtIfChanged i _))
    exact table_startRange (table_of_keeps h hkeep rfl rfl) ((hsame.startsIdle d).trans (hidle d hd))

end ParallelScan

/-! ## A section -/

namespace Policy

/-- Where a section starts machines, they do not run without telling; and they do not run,
unless the section has tested this itself. -/
def StartsIdle (l : Site) (x : PolicyView) : Prop :=
  match l with
  | .policyState =>
    match x.activeIface?, x.self.phase with
    | some (i, d), .autoWan st =>
      (AutoWan.startsMachines st i d x = true →
        if st = .down then restartsIdle i d x = true else startsIdle i d x = true) ∧
        (AutoWan.restartsMachines st i d x = true → restartsIdle i d x = true)
    | some (i, d), .parallelScan st =>
      (ParallelScan.startsMachines st d x = true → startsIdle i d x = true) ∧
        (ParallelScan.restartsMachines st i d x = true → restartsIdle i d x = true)
    | _, _ => True
  | .newInterfaceConnected i =>
    match x.shared.ifaces[i]? with
    | some d => startsIdle i d x = true
    | none => True
  | _ => True

instance (l : Site) (x : PolicyView) : Decidable (StartsIdle l x) := by
  unfold StartsIdle
  repeat' split
  all_goals infer_instance

theorem Effect.table {chosen missing : PolicyView → Nat → Prop} {l : Site} {x x' : PolicyView}
    (h : Effect chosen missing l x x') (hg : StartsIdle l x) (ht : Table x) : Table x' := by
  cases h with
  | same | own => exact ht
  | iface _ hf => exact table_of_flags ht (Shared.Keeps.modifyIface hf.group hf.running _ _).flags rfl rfl
  | group hf =>
    exact table_of_flags ht (Shared.Keeps.modifyGroup hf.state hf.policy hf.marks _ _).flags rfl rfl
  | rescan => exact ht
  | @autoWan st i d _ hst ha =>
    simp only [StartsIdle, ha, hst] at hg
    refine AutoWan.table_lockedState (x := AutoWan.adoptGroup d x) ht (fun hs => ?_) hg.2
    have hstart := hg.1 hs
    split at hstart
    · rename_i hdown
      subst hdown
      exact startsIdle_of_notRunning (AutoWan.notRunning_of_startsMachines hs) hstart
    · exact hstart
  | @parallelScan st i d _ hst ha =>
    simp only [StartsIdle, ha, hst] at hg
    exact ParallelScan.table_lockedState ht hg.1 hg.2
  | selectIface _ => exact table_of_keeps ht (ParallelScan.keeps_selectIface _ x) rfl rfl
  | selectGroup _ => exact table_of_keeps ht (ParallelScan.keeps_setGroupSelected _ x) rfl rfl
  | @connected i _ _ =>
    refine ParallelScan.table_transitionNewInterfaceConnected ht fun d hd => ?_
    simpa only [StartsIdle, hd] using hg
  | leave _ _ =>
    refine table_of_flags ht ?_ rfl rfl
    unfold Shared.flags
    rw [show (leaveGroup x).shared.ifaces = x.shared.ifaces from Shared.ifaces_modifyGroup _ _ _]

end Policy

/-! ## The failover thread -/

namespace Failover

theorem flags_activateGroup (g : Nat) (s : Shared) : (activateGroup g s).flags = s.flags := by
  unfold activateGroup
  split
  · rfl
  · split
    · unfold Shared.flags
      rw [Shared.ifaces_modifyGroup]
      exact (Shared.Keeps.setSelectionStatus _ _ s).flags
    · rfl

theorem flags_deactivateGroup (g : Nat) (s : Shared) : (deactivateGroup g s).flags = s.flags := by
  unfold deactivateGroup
  split
  · rfl
  · split
    · exact (Shared.Keeps.setSelectionStatus _ _ s).flags
    · rfl

theorem Effect.flags {quiet : List WanIface → Prop} {l : Site} {v v' : FailOverView}
    (h : Effect quiet l v v') : v'.shared.flags = v.shared.flags := by
  cases h with
  | own | config | deactivated | stop => simp [Shared.flags, takeConfig, deactivateState, stopGroup]
  | available => simp [Shared.flags]
  | monitor => simp [Shared.flags]
  | mark => simp [Shared.flags]
  | activate _ => exact flags_activateGroup _ _
  | deactivate => exact flags_deactivateGroup _ _

end Failover

/-! ## State machines -/

namespace InterfaceSm

namespace Ledger

theorem smRunning_ifUp {f : Ledger → Ledger} (hf : ∀ b, (f b).smRunning = b.smRunning) (b : Ledger) :
    (ifUp f b).smRunning = b.smRunning := by
  unfold ifUp
  split
  · exact hf b
  · rfl

@[simp] theorem smRunning_ipv4Down (b : Ledger) : b.ipv4Down.2.smRunning = b.smRunning := by
  simp only [ipv4Down]
  split <;> exact smRunning_ifUp (f := tearDown4) (fun _ => rfl) { b with ipv4 := .down }

@[simp] theorem smRunning_ipv6Down (b : Ledger) : b.ipv6Down.2.smRunning = b.smRunning := by
  simp only [ipv6Down]
  split <;> exact smRunning_ifUp (f := tearDown6) (fun _ => rfl)
    { b with ipv6 := .down, mapt := .down, conn6 := false }

@[simp] theorem smRunning_maptDown (b : Ledger) : b.maptDown.smRunning = b.smRunning :=
  smRunning_ifUp (f := tearDownM) (fun _ => rfl) { b with mapt := .down }

@[simp] theorem smRunning_featureRefresh (b : Ledger) : b.featureRefresh.smRunning = b.smRunning :=
  smRunning_ipv6Down b

theorem smRunning_dualStackDown (b : Ledger) : b.dualStackDown.smRunning = b.smRunning := by
  simp [dualStackDown]

theorem smRunning_familiesDown (b : Ledger) : b.familiesDown.smRunning = b.smRunning := by
  simp only [familiesDown]
  repeat' split
  all_goals simp

@[simp] theorem smRunning_ipv4Up (b : Ledger) : b.ipv4Up.2.smRunning = b.smRunning := by
  simp only [ipv4Up]
  split <;> rfl

@[simp] theorem smRunning_ipv6Up (b : Ledger) : b.ipv6Up.2.smRunning = b.smRunning := by
  simp only [ipv6Up]
  split <;> rfl

theorem smRunning_standbyUp (ready : Bool) (b : Ledger) :
    (b.standbyUp ready).2.smRunning = b.smRunning := by
  simp only [standbyUp]
  repeat' split
  all_goals simp

theorem smRunning_standbyDeconfig (b : Ledger) : b.standbyDeconfig.smRunning = b.smRunning := by
  simp only [standbyDeconfig]
  repeat' split
  all_goals rfl

theorem smRunning_maptReplaces (changed : Bool) (b : Ledger) :
    (b.maptReplaces changed).smRunning = b.smRunning := by
  simp only [maptReplaces]
  repeat' split
  all_goals simp [setUpM]

/-- The flag is only taken back on the way to the exit. -/
theorem Move.smRunning {G : WanTransition → Ledger → Prop} {st st' : WanState} {b b' : Ledger}
    (h : Move G st b st' b') : b'.smRunning = b.smRunning ∨ st' = .exit := by
  cases h with
  | down | giveUp => exact .inl (smRunning_familiesDown b)
  | keep _ hstays => exact .inl hstays.smRunning
  | lost | pppConfigure | wanUp | expired | standby | maptRefused | refreshed => exact .inl rfl
  | validated _ _ hrun | exited _ _ hrun => exact .inl hrun
  | ipv4Up => exact .inl (smRunning_ipv4Up b)
  | ipv6Up => exact .inl (smRunning_ipv6Up b)
  | standbyUp => exact .inl (smRunning_standbyUp _ b)
  | refresh => exact .inl (smRunning_featureRefresh b)
  | ipv4Down => exact .inl (smRunning_ipv4Down b)
  | ipv6Down => exact .inl (smRunning_ipv6Down b)
  | dualStackDown => exact .inl (smRunning_dualStackDown b)
  | standbyDeconfig => exact .inl (smRunning_standbyDeconfig b)
  | maptUp | maptFails => exact .inl (smRunning_maptReplaces _ b)
  | maptDown => exact .inl (smRunning_maptDown b)
  | maptDownRefresh => exact .inl (by simp)
  | exit => exact .inr rfl

end Ledger

/-- What an iteration of a state machine thread says about its flag. -/
inductive FlagStep (s s' : Vism) : Prop
  | start : s.phase = .created → s'.phase = .running .vlanConfiguring →
      s'.virtIf.interfaceSmRunning = true → FlagStep s s'
  | run {st st'} : s.phase = .running st → st ≠ .exit → s'.phase = .running st' →
      s'.virtIf.interfaceSmRunning = s.virtIf.interfaceSmRunning ∨ st' = .exit → FlagStep s s'
  | exit : s.phase = .running .exit → s'.phase = .exited → FlagStep s s'
  | gone : s.phase = .absent ∨ s.phase = .exited → s' = s → FlagStep s s'

theorem Ticked.flagStep {G : WanTransition → Ledger → Prop} {s s' : Vism} (h : Ticked G s s') :
    FlagStep s s' := by
  cases h with
  | start hcreated hrunning hledger => exact .start hcreated hrunning (congrArg Ledger.smRunning hledger)
  | @move st st' b _ hst hmove hphase hledger =>
    have hrun := congrArg Ledger.smRunning hledger
    by_cases hexit : st = .exit
    · rw [if_pos hexit] at hphase
      exact .exit (hexit ▸ hst) hphase
    · rw [if_neg hexit] at hphase
      exact .run hst hexit hphase (hmove.smRunning.imp_left hrun.trans)
  | gone hgone => exact .gone hgone rfl

theorem vismTick_flagStep (s : Vism) : FlagStep s (vismTick.run s).2 := by
  have hadm := Prog.Admits.mono (fun l s (_ : True) => guardOf_true l s) (Prog.admits_true vismTick s)
  exact (vismTick_ticked (fun _ _ => True) s s rfl hadm).flagStep

end InterfaceSm

/-! ## A section of a state machine thread -/

theorem flagAt_modifyVirtIf {s : Shared} {i v : Nat} {p : VirtualIface} (p' : VirtualIface)
    (hp : s.virtualIface? i v = some p) (j w : Nat) :
    flagAt (s.modifyVirtIf i v fun _ => p').flags j w =
      if j = i ∧ w = v then some p'.interfaceSmRunning else flagAt s.flags j w := by
  rw [flagAt_flags, flagAt_flags, Shared.virtualIface?_modifyVirtIf]
  split
  · next hof => rw [hof.1, hof.2, hp]; rfl
  · rfl

/-- The thread `t` of a table takes a step, which may change the flag of its virtual interface. -/
theorem VismTable.update {flags flags' : List (List Bool)} {visms : Nat → VismThread}
    {count t : Nat} {r : VismThread} (h : VismTable flags visms count)
    (hof : r.Of (visms t).interfaceIdx (visms t).virIfIdx)
    (hlive : r.Live → (visms t).Live) (habsent : (visms t).phase = .absent → r.phase = .absent)
    (hflags : ∀ i v, (visms t).Live ∧ (visms t).Of i v ∨ flagAt flags' i v = flagAt flags i v)
    (hflag : r.Live → r.unflagged = false →
      flagAt flags' (visms t).interfaceIdx (visms t).virIfIdx = some true) :
    VismTable flags' (Function.update visms t r) count := by
  have hself : Function.update visms t r t = r := Function.update_self _ _ _
  have hold : ∀ u, u ≠ t → Function.update visms t r u = visms u := fun u hu => Function.update_of_ne hu _ _
  have hback : ∀ u, (Function.update visms t r u).Live → (visms u).Live := by
    intro u hu
    by_cases hut : u = t
    · subst hut
      rw [hself] at hu
      exact hlive hu
    · rwa [hold u hut] at hu
  have hbackOf : ∀ u i v, (Function.update visms t r u).Of i v → (visms u).Of i v := by
    intro u i v hu
    by_cases hut : u = t
    · subst hut
      rw [hself] at hu
      exact ⟨hof.1.symm.trans hu.1, hof.2.symm.trans hu.2⟩
    · rwa [hold u hut] at hu
  refine ⟨fun u hu => ?_, fun u hu hun => ?_, fun u w i v hu hw huof hwof => ?_⟩
  · by_cases hut : u = t
    · subst hut
      rw [hself]
      exact habsent (h.fresh u hu)
    · rw [hold u hut]
      exact h.fresh u hu
  · by_cases hut : u = t
    · subst hut
      rw [hself] at hu hun ⊢
      rw [hof.1, hof.2]
      exact hflag hu hun
    · rw [hold u hut] at hu hun ⊢
      rcases hflags (visms u).interfaceIdx (visms u).virIfIdx with ⟨htlive, htof⟩ | heq
      · exact absurd (h.unique u t _ _ hu htlive ⟨rfl, rfl⟩ htof) hut
      · rw [heq]
        exact h.flag u hu hun
  · exact h.unique u w i v (hback u hu) (hback w hw) (hbackOf u i v huof) (hbackOf w i v hwof)

namespace System

/-- A state machine thread stores what its iteration made of the virtual interface. -/
theorem vismTable_store {t : Nat} {w : World} {p : VirtualIface} {r m : Vism}
    (h : VismTable w.shared.flags w.visms w.vismCount)
    (hvirt : w.shared.virtualIface? (w.visms t).interfaceIdx (w.visms t).virIfIdx = some p)
    (hload : r.phase = (w.visms t).phase) (hloaded : r.virtIf = p)
    (hstep : InterfaceSm.FlagStep r m) :
    VismTable (((World.vismView t).get w).store m).shared.flags
      (Function.update w.visms t (((World.vismView t).get w).store m).self) w.vismCount := by
  have hflagged : flagAt w.shared.flags (w.visms t).interfaceIdx (w.visms t).virIfIdx =
      some p.interfaceSmRunning := by
    rw [flagAt_flags, hvirt]
    rfl
  have hafter : ∀ i v, flagAt (((World.vismView t).get w).store m).shared.flags i v =
      if i = (w.visms t).interfaceIdx ∧ v = (w.visms t).virIfIdx then
        some m.virtIf.interfaceSmRunning
      else flagAt w.shared.flags i v := fun i v => flagAt_modifyVirtIf m.virtIf hvirt i v
  have hothers : (w.visms t).Live → ∀ i v, (w.visms t).Live ∧ (w.visms t).Of i v ∨
      flagAt (((World.vismView t).get w).store m).shared.flags i v =
        flagAt w.shared.flags i v := by
    intro hlive i v
    by_cases hiv : i = (w.visms t).interfaceIdx ∧ v = (w.visms t).virIfIdx
    · exact .inl ⟨hlive, hiv.1.symm, hiv.2.symm⟩
    · exact .inr ((hafter i v).trans (if_neg hiv))
  have hown : flagAt (((World.vismView t).get w).store m).shared.flags (w.visms t).interfaceIdx
      (w.visms t).virIfIdx = some m.virtIf.interfaceSmRunning :=
    (hafter _ _).trans (if_pos ⟨rfl, rfl⟩)
  cases hstep with
  | start hcreated hrunning hflag =>
    have hlive : (w.visms t).Live := by
      rw [VismThread.Live, ← hload, hcreated]
      exact ⟨nofun, nofun⟩
    refine h.update ⟨rfl, rfl⟩ (fun _ => hlive) (fun habsent => absurd habsent hlive.1)
      (hothers hlive) fun _ _ => ?_
    rw [hown, hflag]
  | @run st st' hst hne hst' hflag =>
    have hlive : (w.visms t).Live := by
      rw [VismThread.Live, ← hload, hst]
      exact ⟨nofun, nofun⟩
    refine h.update ⟨rfl, rfl⟩ (fun _ => hlive) (fun habsent => absurd habsent hlive.1)
      (hothers hlive) fun _ hun => ?_
    rcases hflag with hflag | hexit
    · have hset : some p.interfaceSmRunning = some true := by
        rw [← hflagged]
        refine h.flag t hlive ?_
        rw [VismThread.unflagged, ← hload, hst]
        simpa using hne
      rw [hown, hflag, hloaded]
      exact hset
    · simp [VismThread.unflagged, VismView.store, VismThread.phase, hst', hexit] at hun
  | exit hexit hexited =>
    have hlive : (w.visms t).Live := by
      rw [VismThread.Live, ← hload, hexit]
      exact ⟨nofun, nofun⟩
    exact h.update ⟨rfl, rfl⟩ (fun _ => hlive) (fun habsent => absurd habsent hlive.1)
      (hothers hlive) fun hdead => absurd hexited hdead.2
  | gone hgone hm =>
    have hdead : ¬ m.phase ≠ .absent ∨ ¬ m.phase ≠ .exited := by
      rw [hm]
      exact hgone.imp not_not.mpr not_not.mpr
    have hnot : ∀ r : VismThread, r.sm = m → ¬ r.Live := by
      rintro r rfl hlive
      exact hdead.elim (absurd hlive.1) (absurd hlive.2)
    refine h.update ⟨rfl, rfl⟩ (fun hlive => absurd hlive (hnot _ rfl)) (fun habsent => ?_)
      (fun i v => .inr ?_) fun hlive => absurd hlive (hnot _ rfl)
    · show m.phase = .absent
      rw [hm, hload]
      exact habsent
    · by_cases hiv : i = (w.visms t).interfaceIdx ∧ v = (w.visms t).virIfIdx
      · obtain ⟨rfl, rfl⟩ := hiv
        rw [hown, hflagged, hm, hloaded]
      · exact (hafter i v).trans (if_neg hiv)

/-- A section of a state machine thread keeps the table. -/
theorem vismTable_section {t : Nat} {w : World} (h : VismTable w.shared.flags w.visms w.vismCount) :
    VismTable (InterfaceSm.vismSection ((World.vismView t).get w)).shared.flags
      (Function.update w.visms t (InterfaceSm.vismSection ((World.vismView t).get w)).self)
      w.vismCount := by
  have hsame : VismTable w.shared.flags (Function.update w.visms t (w.visms t)) w.vismCount := by
    rw [Function.update_eq_self]
    exact h
  unfold InterfaceSm.vismSection
  split
  · split
    · rename_i hcreated
      have hphase : (w.visms t).phase = .created := hcreated
      refine h.update ⟨rfl, rfl⟩ (fun hlive => absurd rfl hlive.2) (fun habsent => ?_)
        (fun _ _ => .inr rfl) fun hlive => absurd rfl hlive.2
      rw [hphase] at habsent
      cases habsent
    · exact hsame
  · rename_i d hd
    split
    · exact hsame
    · rename_i p hp
      have hstep := InterfaceSm.vismTick_flagStep (((World.vismView t).get w).load d p)
      refine vismTable_store (r := ((World.vismView t).get w).load d p) (p := p) h ?_ rfl rfl hstep
      rw [Shared.virtualIface?, show w.shared.ifaces[(w.visms t).interfaceIdx]? = some d from hd]
      exact hp

/-! ## The protocol -/

/-- No virtual interface has two state machines. -/
def OneMachinePerVirtualIface (w : World) : Prop :=
  ∀ t u i v, (w.visms t).Live → (w.visms u).Live → (w.visms t).Of i v → (w.visms u).Of i v → t = u

structure VismThreads (w : World) : Prop where
  fresh : ∀ t, w.policyCount ≤ t → (w.policies t).phase = .absent
  table : VismTable w.shared.flags w.visms w.vismCount

/-- Where a selection thread starts state machines, none runs without telling, and none runs if
the section has not tested this itself. -/
def MachinesIdle : Section → World → Prop
  | (.policy t, l), w => Policy.StartsIdle l ((World.policyView t).get w)
  | _, _ => True

instance (l : Section) (w : World) : Decidable (MachinesIdle l w) := by
  unfold MachinesIdle
  split <;> infer_instance

def vismProtocol : Protocol Section Thread World where
  inv := VismThreads
  rely := recordRely
  guard := MachinesIdle
  refl := recordRely_refl
  trans := recordRely_trans

/-- What the rest of the program must leave alone: the threads, and the running flags that are
set. Interfaces may be added. -/
structure KeepsVismThreads (w w' : World) : Prop where
  failOver : w'.failOver = w.failOver
  policies : w'.policies = w.policies
  policyCount : w'.policyCount = w.policyCount
  phases : ∀ t, (w'.visms t).phase = (w.visms t).phase
  indices : ∀ t, (w'.visms t).interfaceIdx = (w.visms t).interfaceIdx ∧
    (w'.visms t).virIfIdx = (w.visms t).virIfIdx
  vismCount : w'.vismCount = w.vismCount
  flags : ∀ i v, flagAt w.shared.flags i v = some true → flagAt w'.shared.flags i v = some true

theorem VismThreads.env {w w' : World} (h : VismThreads w) (henv : KeepsVismThreads w w') :
    VismThreads w' := by
  have hlive : ∀ t, (w'.visms t).Live → (w.visms t).Live := by
    intro t ht
    rwa [VismThread.Live, henv.phases t] at ht
  have hof : ∀ t i v, (w'.visms t).Of i v → (w.visms t).Of i v := by
    intro t i v ht
    obtain ⟨hi, hv⟩ := henv.indices t
    exact ⟨hi.symm.trans ht.1, hv.symm.trans ht.2⟩
  refine ⟨fun t ht => ?_, fun t ht => ?_, fun t ht hu => ?_, fun t u i v ht hu htof huof => ?_⟩
  · rw [henv.policyCount] at ht
    rw [henv.policies]
    exact h.fresh t ht
  · rw [henv.vismCount] at ht
    rw [henv.phases t]
    exact h.table.fresh t ht
  · obtain ⟨hi, hv⟩ := henv.indices t
    rw [hi, hv]
    rw [VismThread.unflagged, henv.phases t] at hu
    exact henv.flags _ _ (h.table.flag t (hlive t ht) hu)
  · exact h.table.unique t u i v (hlive t ht) (hlive u hu) (hof t i v htof) (hof u i v huof)

theorem failOver_vismStep {l : Site} {w : World} {v : FailOverView} (h : VismThreads w)
    (hflags : v.shared.flags = w.shared.flags)
    (hstep : Failover.ThreadStep l (World.failOverView.get w) v) :
    VismThreads (World.failOverView.put v w) ∧
      vismProtocol.Guar .failOver w (World.failOverView.put v w) := by
  have htable : VismTable v.shared.flags w.visms w.vismCount := hflags ▸ h.table
  have hguar : (∀ t, (w.policies t).Live → v.policies t = w.policies t) →
      vismProtocol.Guar .failOver w (World.failOverView.put v w) := by
    intro hold u hu
    cases u with
    | failOver => exact absurd rfl hu
    | policy t => exact hold t
    | vism t => trivial
  have hkept : v.policies = w.policies → v.policyCount = w.policyCount →
      VismThreads (World.failOverView.put v w) ∧
        vismProtocol.Guar .failOver w (World.failOverView.put v w) := by
    intro hpolicies hcount
    refine ⟨⟨fun t ht => ?_, htable⟩, hguar fun t _ => by rw [hpolicies]⟩
    show (v.policies t).phase = .absent
    rw [hpolicies]
    exact h.fresh t (hcount ▸ ht)
  cases hstep with
  | keep hpolicies hcount _ => exact hkept hpolicies hcount
  | stop _ hpolicies hcount _ => exact hkept hpolicies hcount
  | create _ hpolicies hcount _ _ =>
    have hold : ∀ t, t ≠ w.policyCount → v.policies t = w.policies t := by
      intro t ht
      rw [hpolicies]
      exact Function.update_of_ne ht _ _
    have hcount' : v.policyCount = w.policyCount + 1 := hcount
    refine ⟨⟨fun t ht => ?_, htable⟩, hguar fun t ht => hold t fun heq => ?_⟩
    · have hle : v.policyCount ≤ t := ht
      show (v.policies t).phase = .absent
      rw [hold t (by omega)]
      exact h.fresh t (by omega)
    · exact ht.1 (h.fresh t (by omega))

theorem policy_vismStep {l : Site} {t : Nat} {w : World} {x : PolicyView} (h : VismThreads w)
    (hg : MachinesIdle (.policy t, l) w)
    (hstep : Policy.Effect (fun _ _ => True) (fun _ _ => True) l ((World.policyView t).get w) x) :
    VismThreads ((World.policyView t).put x w) ∧
      vismProtocol.Guar (.policy t) w ((World.policyView t).put x w) := by
  refine ⟨⟨fun u hu => ?_, hstep.table hg h.table⟩, fun u hu => ?_⟩
  · have hself : x.self = w.policies t ∨ (w.policies t).Live := hstep.self_or_live
    show (Function.update w.policies t x.self u).phase = .absent
    by_cases hut : u = t
    · subst hut
      rw [Function.update_self]
      rcases hself with hsame | hlive
      · rw [hsame]
        exact h.fresh u hu
      · exact absurd (h.fresh u hu) hlive.1
    · rw [Function.update_of_ne hut]
      exact h.fresh u hu
  · cases u with
    | failOver => rfl
    | policy u =>
      have hne : u ≠ t := fun h => hu (h ▸ rfl)
      exact fun _ => Function.update_of_ne hne _ _
    | vism u => trivial

theorem vismThreads_sound : (pool KeepsVismThreads).Sound vismProtocol NoThreads where
  start w hw := by
    have hdead : ∀ t, ¬ (w.visms t).Live := fun t ht => ht.1 (hw.visms t)
    exact ⟨⟨fun t _ => hw.policies t, fun t _ => hw.visms t, fun t ht => absurd ht (hdead t),
      fun t _ _ _ ht => absurd ht (hdead t)⟩, fun _ => trivial⟩
  stable _ _ _ _ _ _ := trivial
  body t := by
    cases t with
    | failOver =>
      have hfailOver : Triple (vismProtocol.contract .failOver) (fun _ => True) (body .failOver)
          fun _ _ => True :=
        failOver_steps (fun _ _ h => h) fun _ _ _ h _ hstep =>
          failOver_vismStep h hstep.flags hstep.threadStep
      exact hfailOver.pre fun _ _ _ => trivial
    | policy t =>
      have hpolicy : Triple (vismProtocol.contract (.policy t)) (fun w => (w.policies t).Live)
          (body (.policy t)) fun _ _ => True :=
        policy_steps (fun _ _ h => h) fun _ _ _ h hg hstep => policy_vismStep h hg hstep
      exact hpolicy.pre fun _ _ h => h.2
    | vism t =>
      have hsection : Triple (vismProtocol.contract (.vism t)) (fun _ => True) (body (.vism t))
          fun _ _ => True := by
        refine vism_steps fun w h => ⟨⟨h.fresh, vismTable_section h.table⟩, fun u _ => ?_⟩
        cases u with
        | failOver => rfl
        | policy u => exact fun _ => rfl
        | vism u => trivial
      exact hsection.pre fun _ _ _ => trivial
  env w w' h henv := by
    refine ⟨h.env henv, fun t => ?_⟩
    cases t with
    | failOver => exact henv.failOver
    | policy t => exact fun _ => congrFun henv.policies t
    | vism t => trivial

/-- In every run whose starts respect the windows of the running flag, no virtual interface
ever has two state machines. -/
theorem one_machine_per_virtual_iface {c : Config Section Thread World}
    (h : (pool KeepsVismThreads).Reach MachinesIdle NoThreads c) :
    OneMachinePerVirtualIface c.store :=
  (vismThreads_sound.reach h).table.unique

/-! One interface, the only one of its group. Its state machine is created and does not get
to its first transition before the next ticks of the selection thread. -/

namespace MachineExample

def move (f : Shared → Shared) (h : ∀ s, (f s).flags = s.flags) (t : Thread) :
    (pool KeepsVismThreads).Move :=
  after f (fun w => ⟨rfl, rfl, rfl, fun _ => rfl, fun _ => ⟨rfl, rfl⟩, rfl,
    fun i v hv => by rwa [h w.shared]⟩) t

def tick (t : Thread) : (pool KeepsVismThreads).Move := move id (fun _ => rfl) t

def start : World := { shared := { ifaces := [{ baseInterfaceStatus := .up }], groups := [{}] } }

/-- The interface is found, and gets its state machine. -/
def found : List (pool KeepsVismThreads).Move :=
  [tick .failOver, tick (.policy 0), tick (.policy 0), tick (.policy 0)]

/-- The state machine runs before the selection thread goes on. -/
def regular : List (pool KeepsVismThreads).Move :=
  found ++ [tick (.vism 0), tick (.policy 0), tick (.policy 0), tick (.policy 0)]

/-- The selection thread takes the machine that has not started for one that ended. -/
def hurried : List (pool KeepsVismThreads).Move :=
  found ++ [tick (.policy 0), tick (.policy 0), tick (.policy 0)]

end MachineExample

theorem MachineExample.noThreads : NoThreads MachineExample.start := ⟨rfl, fun _ => rfl, fun _ => rfl⟩

open MachineExample in
theorem one_machine_per_virtual_iface_run :
    OneMachinePerVirtualIface ((pool KeepsVismThreads).play regular start) ∧
      (((pool KeepsVismThreads).play regular start).visms 0).Live := by
  have hplays : (pool KeepsVismThreads).Plays MachinesIdle regular start := by decide +kernel
  have hrun := Pool.Reach.play (.start noThreads) hplays
  have hone := one_machine_per_virtual_iface hrun
  rw [Pool.idle_store] at hone
  exact ⟨hone, by decide +kernel⟩

open MachineExample in
/-- The virtual interface gets a second state machine. -/
theorem second_machine :
    ¬ ∀ c, (pool KeepsVismThreads).Reach (fun _ _ => True) NoThreads c →
      OneMachinePerVirtualIface c.store := by
  intro h
  have hplays : (pool KeepsVismThreads).Plays (fun _ _ => True) hurried start := by decide +kernel
  have hone := h _ (Pool.Reach.play (.start noThreads) hplays)
  have hsame := hone 0 1 0 0 (by decide +kernel) (by decide +kernel) ⟨by decide +kernel, by decide +kernel⟩
    ⟨by decide +kernel, by decide +kernel⟩
  omega

end System
end WanManager
