import WanManager.PolicySelection
import WanManager.ParallelRounds
import WanManager.Concurrency.History

/-! # The end of a parallel scan

A parallel scan starts the state machines of all the interfaces of its group. Told to stop,
it deselects them, waits until they are disabled and ends; a history notes which machines it
started and the data base as it decided to end. The law needs the thread to have selected an
interface when it is told to stop: `Transition_TearingDown` is refused without one, and the
thread ends at once. -/

namespace WanManager
open Concurrency

namespace ParallelScan
open Policy

/-- The thread is about to end. -/
def ending (p : PolicyPhase) : Bool := p == .parallelScan .policyExit || p == .parallelScan .policyError

structure Shutdown where
  /-- the state machines the thread started -/
  started : List (Nat × Nat) := []
  /-- what the thread found as it decided to end -/
  ended : Option PolicyView := none

def note (_ : Site) (x x' : PolicyView) (h : Shutdown) : Shutdown where
  started := h.started ++ newMachines x x'
  ended := if ending x'.self.phase && !ending x.self.phase then some x' else h.ended

/-- No interface of the group is selected, and the machines in `started` are disabled. -/
structure ShutDown (started : List (Nat × Nat)) (x : PolicyView) : Prop where
  selection : ∀ i, x.shared.Member i x.self.ctrl.groupInst → x.shared.selectionStatus i = .notSelected
  machines : ∀ m ∈ started, ∀ v ∈ x.shared.virtualIface? m.1 m.2, v.status = .disabled

/-- What others may do: nothing becomes selected in the thread's group, no interface leaves
it, and none is deleted. -/
structure ScanEvents (x x' : PolicyView) : Prop extends AutoWan.GroupEvents x x' where
  stays : ∀ i, x.shared.Member i x.self.ctrl.groupInst → x'.shared.Member i x.self.ctrl.groupInst
  grows : x.shared.ifaces.length ≤ x'.shared.ifaces.length

def pool : Pool Site Unit PolicyView where
  body _ := Policy.tick
  ready _ x := x.self.Live
  env := ScanEvents

instance : ∀ t x, Decidable (pool.ready t x) := fun _ x => inferInstanceAs (Decidable x.self.Live)

abbrev historyPool : Pool Site Unit (PolicyView × Shutdown) := pool.record note

instance : ∀ t y, Decidable (historyPool.ready t y) :=
  fun _ y => inferInstanceAs (Decidable y.1.self.Live)

/-- A thread that was just created, for a group in which nothing is selected. -/
structure Created (x : PolicyView) : Prop where
  self : x.self = { phase := .created .parallelScan, ctrl := { groupInst := x.self.ctrl.groupInst } }
  free : ∀ i, x.shared.Member i x.self.ctrl.groupInst → x.shared.selectionStatus i = .notSelected

/-- The thread has selected an interface when it is told to stop, and it finds the other
virtual interfaces of its group disabled when it finds the first ones so. -/
structure StopsSelected (l : Site) (x : PolicyView) : Prop where
  selected : l = .policyState → x.self.phase = .parallelScan .scanningInterface →
    stops x.self.ctrl = false
  disabled : l = .policyState → x.self.phase = .parallelScan .interfaceTearDown →
    x.ifaceRange.any (notDisabled x) = false →
    ∀ d ∈ x.shared.ifaces, d.selection.group = x.self.ctrl.groupInst →
      ∀ v ∈ d.moreVirtIfs, v.status = .disabled

instance (l : Site) (x : PolicyView) : Decidable (StopsSelected l x) :=
  decidable_of_iff
    ((l = .policyState → x.self.phase = .parallelScan .scanningInterface →
        stops x.self.ctrl = false) ∧
      (l = .policyState → x.self.phase = .parallelScan .interfaceTearDown →
        x.ifaceRange.any (notDisabled x) = false →
        ∀ d ∈ x.shared.ifaces, d.selection.group = x.self.ctrl.groupInst →
          ∀ v ∈ d.moreVirtIfs, v.status = .disabled))
    ⟨fun h => ⟨h.1, h.2⟩, fun h => ⟨h.selected, h.disabled⟩⟩

/-! ## The invariant of the thread -/

/-- Nothing is selected in the group yet, or any more. -/
def quiet : PolicyPhase → Bool
  | .created _ | .exited => true
  | .parallelScan st => winding st
  | .absent | .autoWan _ => false

theorem quiet_of_ending {p : PolicyPhase} (h : ending p = true) : quiet p = true := by
  rcases (Bool.or_eq_true _ _).mp h with h | h
  · rw [eq_of_beq h]
    rfl
  · rw [eq_of_beq h]
    rfl

structure ScanInv (x : PolicyView) : Prop where
  parallel : x.self.phase.parallel = true ∨ x.self.phase = .exited
  total : x.self.ctrl.totalIfaces ≤ x.shared.ifaces.length
  /-- what was added to the table since the thread looked is not selected -/
  beyond : ∀ i, x.shared.Member i x.self.ctrl.groupInst → x.self.ctrl.totalIfaces ≤ i →
    x.shared.selectionStatus i = .notSelected
  chosen : ∀ i, x.self.ctrl.activeInterfaceIdx = some i →
    x.shared.Member i x.self.ctrl.groupInst ∧ i < x.self.ctrl.totalIfaces
  located : ∀ st, x.self.phase = .parallelScan st → st ≠ .scanningInterface →
    x.self.ctrl.activeInterfaceIdx ≠ none ∧ st ≠ .policyError
  quiet : quiet x.self.phase = true → ∀ i, x.shared.Member i x.self.ctrl.groupInst →
    x.shared.selectionStatus i = .notSelected

/-- What a section of the thread does, as far as its shutdown is concerned. -/
structure ScanStep (x x' : PolicyView) : Prop where
  inv : ScanInv x'
  inst : x'.self.ctrl.groupInst = x.self.ctrl.groupInst
  members : x'.shared.members = x.shared.members
  total : x.self.ctrl.totalIfaces ≤ x'.self.ctrl.totalIfaces ∨ x.self.phase = .created .parallelScan
  created : x'.self.phase = .created .parallelScan → x.self.phase = .created .parallelScan
  machines : ∀ m ∈ newMachines x x', ParallelScan.quiet x.self.phase = false ∧
    x.shared.Member m.1 x.self.ctrl.groupInst ∧ m.1 < x.self.ctrl.totalIfaces
  ends : ending x'.self.phase = true → ending x.self.phase = true ∨
    ∀ i d, x'.shared.ifaces[i]? = some d → i < x'.self.ctrl.totalIfaces →
      d.selection.group = x'.self.ctrl.groupInst → ∀ v ∈ d.virtIfs, v.status = .disabled
  exits : x'.self.phase = .exited → x.self.phase = .exited ∨ ending x.self.phase = true

theorem ScanStep.idle {x : PolicyView} (h : ScanInv x) : ScanStep x x where
  inv := h
  inst := rfl
  members := rfl
  total := .inl (Nat.le_refl _)
  created := id
  machines m hm := absurd hm (no_newMachines rfl m)
  ends := .inl
  exits := .inl

def scanContract : Contract Site PolicyView where
  inv := ScanInv
  guard := StopsSelected
  rely x x' := x'.self = x.self ∧ ∀ i, x.shared.Member i x.self.ctrl.groupInst →
    x'.shared.Member i x.self.ctrl.groupInst
  step _ := ScanStep
  refl _ := ⟨rfl, fun _ => id⟩
  trans := by
    intro a b c h h'
    obtain ⟨hself, hab⟩ := h
    obtain ⟨hself', hbc⟩ := h'
    exact ⟨hself'.trans hself, fun i hi => by rw [← hself] at hi hab ⊢; exact hbc i (hab i hi)⟩
  idle _ _ h := .idle h

/-- What the thread knows: `A` of its own record, and interfaces of its group that it saw. -/
structure Sees (A : PolicyThread → Prop) (s : Nat → Prop) (x : PolicyView) : Prop where
  own : A x.self
  seen : ∀ i, s i → x.shared.Member i x.self.ctrl.groupInst ∧ i < x.self.ctrl.totalIfaces

section Sections

variable {A B : PolicyThread → Prop} {s : Nat → Prop} {α : Type}

abbrev Own (A : PolicyThread → Prop) : PolicyView → Prop := Sees A fun _ => False

theorem own_of {x : PolicyView} (h : A x.self) : Own A x := ⟨h, fun _ => False.elim⟩

theorem stable_sees (A : PolicyThread → Prop) (s : Nat → Prop) : scanContract.Stable (Sees A s) := by
  intro x x' h hr _
  obtain ⟨hself, hmember⟩ := hr
  refine ⟨by rw [hself]; exact h.own, fun i hi => ?_⟩
  obtain ⟨hin, hlt⟩ := h.seen i hi
  rw [hself]
  exact ⟨hmember i hin, hlt⟩

theorem modify_sees {l : Site} {f : PolicyView → PolicyView}
    (h : ∀ x, ScanInv x → StopsSelected l x → Sees A s x → ScanStep x (f x) ∧ B (f x).self) :
    Triple scanContract (Sees A s) (.modify l f) fun _ => Own B :=
  Triple.modify (stable_sees A s) (stable_sees B _) fun x hi hg hs =>
    ⟨(h x hi hg hs).1, fun _ => own_of (h x hi hg hs).2⟩

end Sections

/-! ## The sections -/

/-- A section that does not change the phase. -/
theorem ScanStep.within {x x' : PolicyView} (h : ScanInv x) (hphase : x'.self.phase = x.self.phase)
    (hinst : x'.self.ctrl.groupInst = x.self.ctrl.groupInst)
    (hmembers : x'.shared.members = x.shared.members)
    (htotal : x'.self.ctrl.totalIfaces = x.self.ctrl.totalIfaces)
    (hchosen : ∀ i, x'.self.ctrl.activeInterfaceIdx = some i →
      x.shared.Member i x.self.ctrl.groupInst ∧ i < x.self.ctrl.totalIfaces)
    (hnone : x.self.ctrl.activeInterfaceIdx ≠ none → x'.self.ctrl.activeInterfaceIdx ≠ none)
    (hstatus : ∀ j, ParallelScan.quiet x.self.phase = true ∨ x.self.ctrl.totalIfaces ≤ j →
      x'.shared.selectionStatus j = x.shared.selectionStatus j)
    (hmachines : ∀ m ∈ newMachines x x', ParallelScan.quiet x.self.phase = false ∧
      x.shared.Member m.1 x.self.ctrl.groupInst ∧ m.1 < x.self.ctrl.totalIfaces) : ScanStep x x' := by
  have hmember : ∀ i, x'.shared.Member i x'.self.ctrl.groupInst ↔
      x.shared.Member i x.self.ctrl.groupInst := fun i => by
    rw [Shared.Member, Shared.Member, hmembers, hinst]
  refine ⟨⟨by rw [hphase]; exact h.parallel, ?_, fun i hi hle => ?_, fun i hi => ?_,
    fun st hst hne => ?_, fun hq i hi => ?_⟩, hinst, hmembers, .inl (Nat.le_of_eq htotal.symm),
    fun hc => hphase ▸ hc, hmachines, fun he => .inl (hphase ▸ he), fun he => .inl (hphase ▸ he)⟩
  · rw [htotal, Shared.length_of_members hmembers]
    exact h.total
  · rw [htotal] at hle
    rw [hstatus i (.inr hle)]
    exact h.beyond i ((hmember i).mp hi) hle
  · rw [hmember, htotal]
    exact hchosen i hi
  · rw [hphase] at hst
    exact ⟨hnone (h.located st hst hne).1, (h.located st hst hne).2⟩
  · rw [hphase] at hq
    rw [hstatus i (.inl hq)]
    exact h.quiet hq i ((hmember i).mp hi)

/-- The controller is changed, but not what the shutdown depends on. -/
theorem ScanStep.ctrl {x : PolicyView} {c : PolicyController} (h : ScanInv x)
    (hinst : c.groupInst = x.self.ctrl.groupInst) (htotal : c.totalIfaces = x.self.ctrl.totalIfaces)
    (hidx : c.activeInterfaceIdx = x.self.ctrl.activeInterfaceIdx) :
    ScanStep x { x with self := { x.self with ctrl := c } } := by
  exact .within h rfl hinst rfl htotal (fun i hi => h.chosen i (hidx.symm.trans hi))
    (fun hne => by rw [hidx]; exact hne) (fun _ _ => rfl)
    fun m hm => absurd hm (no_newMachines (by rfl) m)

/-- The data base is changed, and no machine started. -/
theorem ScanStep.shared {x : PolicyView} {f : Shared → Shared} (h : ScanInv x)
    (hmembers : (f x.shared).members = x.shared.members)
    (hstatus : ∀ j, ParallelScan.quiet x.self.phase = true ∨ x.self.ctrl.totalIfaces ≤ j →
      (f x.shared).selectionStatus j = x.shared.selectionStatus j) : ScanStep x (x.mapShared f) := by
  exact .within h rfl rfl hmembers rfl h.chosen id hstatus
    fun m hm => absurd hm (no_newMachines (by rfl) m)

abbrev In (P : PolicyPhase → Prop) (t : PolicyThread) : Prop := P t.phase

section Sections

variable {P : PolicyPhase → Prop} {n i : Nat}

/-- A section that only changes the rest of the controller. -/
theorem ctrl_sees {A : PolicyThread → Prop} {l : Site} {f : PolicyView → PolicyView}
    (hf : ∀ x, f x = { x with self := { x.self with ctrl := (f x).self.ctrl } })
    (hinst : ∀ x, (f x).self.ctrl.groupInst = x.self.ctrl.groupInst)
    (htotal : ∀ x, (f x).self.ctrl.totalIfaces = x.self.ctrl.totalIfaces)
    (hidx : ∀ x, (f x).self.ctrl.activeInterfaceIdx = x.self.ctrl.activeInterfaceIdx)
    (hA : ∀ x, A x.self → A (f x).self) :
    Triple scanContract (Own A) (.modify l f) fun _ => Own A := by
  refine modify_sees fun x hi _ hs => ?_
  have hstep := ScanStep.ctrl hi (hinst x) (htotal x) (hidx x)
  rw [← hf x] at hstep
  exact ⟨hstep, hA x hs.own⟩

theorem copyTotalIfaces_step {x : PolicyView} (h : ScanInv x) : ScanStep x (copyTotalIfaces x) := by
  have hlt : ∀ i g, x.shared.Member i g → i < x.shared.ifaces.length := fun i g hi => by
    obtain ⟨d, hd, -⟩ := Shared.member_iff.mp hi
    exact (List.getElem?_eq_some_iff.mp hd).1
  refine ⟨⟨h.parallel, Nat.le_refl _, fun i hi hle => ?_, fun i hi => ?_, h.located, h.quiet⟩, rfl, rfl,
    .inl h.total, id, fun m hm => absurd hm (no_newMachines (by rfl) m), .inl, .inl⟩
  · exact absurd (hlt i _ hi) (Nat.not_lt.mpr hle)
  · exact ⟨(h.chosen i hi).1, hlt i _ (h.chosen i hi).1⟩

theorem updateControllerData_sees :
    Triple scanContract (Own (In P)) updateControllerData fun _ => Own (In P) := by
  refine Triple.bind (ctrl_sees (fun _ => rfl) (fun _ => rfl) (fun _ => rfl) (fun _ => rfl)
    fun _ h => h) fun _ => ?_
  refine Triple.bind (modify_sees (B := In P) fun x hi _ hs => ⟨copyTotalIfaces_step hi, hs.own⟩) fun _ => ?_
  refine ctrl_sees (fun x => ?_) (fun x => ?_) (fun x => ?_) (fun x => ?_) fun x h => ?_
  all_goals
    unfold copyGroup
    split
  all_goals first | rfl | exact h

end Sections

/-! ## Scanning -/

/-- The thread enters a state in which it does not wind up. -/
theorem setPhase_step {x : PolicyView} {st : ParallelScanState} (h : ScanInv x)
    (hst : winding st = false)
    (hidx : st ≠ .scanningInterface → x.self.ctrl.activeInterfaceIdx ≠ none) :
    ScanStep x (x.setPhase (.parallelScan st)) := by
  have hended : ending (.parallelScan st) = false := by cases st <;> first | rfl | cases hst
  refine ⟨⟨.inl rfl, h.total, h.beyond, h.chosen, fun st' hst' hne => ?_, fun hq => ?_⟩, rfl, rfl,
    .inl (Nat.le_refl _), nofun, fun m hm => absurd hm (no_newMachines (by rfl) m), fun he => ?_, nofun⟩
  · obtain rfl : st = st' := PolicyPhase.parallelScan.inj hst'
    refine ⟨hidx hne, ?_⟩
    rintro rfl
    cases hst
  · exact absurd (hst.symm.trans hq) nofun
  · exact absurd (hended.symm.trans he) nofun

theorem reset_step {x : PolicyView} (h : ScanInv x) (hphase : x.self.phase = .created .parallelScan) :
    ScanStep x (x.mapCtrl fun c => { ({} : PolicyController) with groupInst := c.groupInst }) := by
  have hquiet := h.quiet (by rw [hphase]; rfl)
  refine ⟨⟨h.parallel, Nat.zero_le _, fun i hi _ => hquiet i hi, nofun, fun st hst => ?_,
    fun _ => hquiet⟩, rfl, rfl, .inr hphase, fun _ => hphase,
    fun m hm => absurd hm (no_newMachines (by rfl) m), .inl, .inl⟩
  exact absurd (hphase.symm.trans hst) nofun

theorem start_sees :
    Triple scanContract (Own (In (· = .created .parallelScan))) start
      fun _ => Own (In (· = .parallelScan .scanningInterface)) := by
  have hstable := stable_sees (In (· = .created .parallelScan)) fun _ => False
  refine Triple.bind (modify_sees (B := In (· = .created .parallelScan)) fun x hi _ hs =>
    ⟨reset_step hi hs.own, hs.own⟩) fun _ => ?_
  refine Triple.bind updateControllerData_sees fun _ => ?_
  refine Triple.bind (Q := fun _ => Own (In (· = .created .parallelScan))) ?_ fun _ =>
    modify_sees fun x hi _ _ => ⟨setPhase_step hi rfl (absurd rfl), rfl⟩
  refine Triple.bind (Triple.read hstable (fun _ => hstable) fun _ _ _ hs => hs) fun is => ?_
  refine Triple.bind (Triple.forEach hstable fun i _ => ?_) fun _ => ?_
  · refine ctrl_sees (fun x => ?_) (fun x => ?_) (fun x => ?_) (fun x => ?_) fun x h => ?_
    all_goals
      unfold startIface
      split
    all_goals first | rfl | exact h | (split <;> first | rfl | exact h)
  refine Triple.bind (modify_sees (B := In (· = .created .parallelScan)) fun x hi _ hs =>
    ⟨.shared hi (congrArg (List.map _) (Shared.ifaces_modifyGroup _ _ _)) fun j _ =>
      Shared.selectionStatus_modifyGroup _ _ _ j, hs.own⟩) fun _ => ?_
  exact ctrl_sees (fun _ => rfl) (fun _ => rfl) (fun _ => rfl) (fun _ => rfl) fun _ h => h

/-- The thread scans the interfaces in `is`. -/
def Scans (is : List Nat) (t : PolicyThread) : Prop :=
  t.phase = .parallelScan .scanningInterface ∧ ∀ i ∈ is, i < t.ctrl.totalIfaces

/-- An interface that was not found before passed the test for the group. -/
theorem scanIface_found {i j : Nat} {c : Scan} {x : PolicyView}
    (h : (scanIface i c x).2.activeIface = some j) : c.activeIface = some j ∨
      j = i ∧ ∃ d, x.shared.ifaces[i]? = some d ∧ d.selection.group = x.self.ctrl.groupInst := by
  unfold scanIface at h
  cases hd : x.shared.ifaces[i]? with
  | none =>
    rw [hd] at h
    exact .inl h
  | some d =>
    rw [hd] at h
    by_cases hgroup : d.selection.group = x.self.ctrl.groupInst ∧ d.selection.enable
    · have hsame : j = i ∨ c.activeIface = some j := by grind
      rcases hsame with rfl | hold
      · exact .inr ⟨rfl, d, rfl, hgroup.1⟩
      · exact .inl hold
    · simp only [hgroup, if_false] at h
      exact .inl h

/-- What the loop has found is an interface of the group. -/
theorem scanIfaces_sees (c : Scan) (is : List Nat) :
    Triple scanContract (Sees (Scans is) fun i => c.activeIface = some i) (scanIfaces c is)
      fun c => Sees (Scans []) fun i => c.activeIface = some i := by
  induction is generalizing c with
  | nil => exact Triple.ret (stable_sees _ _) fun _ _ hs => hs
  | cons i is ih =>
    refine Triple.bind (Q := fun r => Sees (Scans is) fun j => r.2.activeIface = some j)
      (Triple.read (stable_sees _ _) (fun _ => stable_sees _ _) fun x _ _ hs => ?_) fun r => ?_
    · obtain ⟨hphase, hlt⟩ := hs.own
      refine ⟨⟨hphase, fun j hj => hlt j (by simp [hj])⟩, fun j hj => ?_⟩
      rcases scanIface_found hj with hold | ⟨rfl, hgroup⟩
      · exact hs.seen j hold
      · exact ⟨Shared.member_iff.mpr hgroup, hlt j (by simp)⟩
    · obtain ⟨found, c'⟩ := r
      cases found with
      | true =>
        refine Triple.ret (stable_sees _ _) fun _ _ hs => ⟨⟨hs.own.1, fun _ h => ?_⟩, hs.seen⟩
        cases h
      | false => exact ih c'

theorem connected_step {x : PolicyView} {i : Nat} (h : ScanInv x)
    (hphase : x.self.phase = .parallelScan .scanningInterface)
    (hi : x.shared.Member i x.self.ctrl.groupInst ∧ i < x.self.ctrl.totalIfaces) :
    ScanStep x (transitionNewInterfaceConnected i x) := by
  have hquiet : ParallelScan.quiet x.self.phase = false := by rw [hphase]; rfl
  have hself := transitionNewInterfaceConnected_self i x
  have hkeeps := keeps_transitionNewInterfaceConnected i x
  have hstarts : Starts i x (transitionNewInterfaceConnected i x) := by
    unfold transitionNewInterfaceConnected
    split
    · exact .of_same rfl rfl
    · have hsame : Starts i x ((setSelection i .validating x).mapShared (clearVirtIfChanged i)) :=
        .of_same rfl rfl
      exact hsame.trans (.startVirtIfs i _ _)
  refine .within h (by rw [hself]) hkeeps.inst hkeeps.shared.members (by rw [hself])
    (by rw [hself]; exact h.chosen) (by rw [hself]; exact id) (fun j hj => ?_) fun m hm => ?_
  · have hne : j ≠ i := by
      rcases hj with hj | hj
      · exact absurd (hquiet.symm.trans hj) nofun
      · omega
    unfold transitionNewInterfaceConnected
    split
    · rfl
    · rw [startVirtIfs_shared]
      exact ((Shared.SameSelection.clearVirtIfChanged i _).status j).trans
        (Shared.selectionStatus_set_ne _ hne)
  · rw [hstarts.mem_newMachines hm]
    exact ⟨hquiet, hi⟩

theorem findNewInterface_sees (last : Bool) (is : List Nat) :
    Triple scanContract (Own (Scans is)) (findNewInterface last is)
      fun _ => Own (In (· = .parallelScan .scanningInterface)) := by
  induction is with
  | nil => exact Triple.ret (stable_sees _ _) fun _ _ hs => own_of hs.own.1
  | cons i is ih =>
    refine Triple.bind (Q := fun r => Sees (Scans (i :: is)) fun j => r = true ∧ j = i)
      (Triple.read (stable_sees _ _) (fun _ => stable_sees _ _) fun x _ _ hs => ⟨hs.own, ?_⟩)
      fun r => Triple.ite (fun hr => ?_) fun _ => ?_
    · rintro j ⟨hnew, rfl⟩
      refine ⟨?_, hs.own.2 j (by simp)⟩
      unfold newlyConnected at hnew
      cases hd : x.shared.ifaces[j]? with
      | none => simp [hd] at hnew
      | some d =>
        simp only [hd, Bool.and_eq_true, decide_eq_true_eq] at hnew
        exact Shared.member_iff.mpr ⟨d, hd, hnew.1.1.1.1⟩
    · refine modify_sees fun x hi _ hs => ⟨connected_step hi hs.own.1 (hs.seen i ⟨hr, rfl⟩), ?_⟩
      rw [transitionNewInterfaceConnected_self]
      exact hs.own.1
    · exact ih.pre fun x _ hs => own_of ⟨hs.own.1, fun j hj => hs.own.2 j (by simp [hj])⟩

/-- The thread scans, and has chosen an interface. -/
def Chooses (is : List Nat) (t : PolicyThread) : Prop :=
  Scans is t ∧ t.ctrl.activeInterfaceIdx ≠ none

theorem selectIface_step {x : PolicyView} {j : Nat} (h : ScanInv x)
    (hphase : x.self.phase = .parallelScan .scanningInterface) (hj : j < x.self.ctrl.totalIfaces) :
    ScanStep x (selectIface j x) := by
  refine .shared h (keeps_selectIface j x).shared.members fun k hk => ?_
  rcases hk with hk | hk
  · rw [hphase] at hk
    cases hk
  · have hne : j ≠ k := by omega
    simp [Shared.selectionStatus, Shared.modifyIface, hne]

theorem transitionSelectingInterface_sees (i : Nat) :
    Triple scanContract (Sees (Scans []) (· = i)) (transitionSelectingInterface i)
      fun _ => Own (In (· = .parallelScan .checkReconfiguration)) := by
  refine Triple.bind (modify_sees (B := Chooses []) fun x hi _ hs =>
    ⟨?_, ⟨hs.own.1, nofun⟩, nofun⟩) fun _ => ?_
  · refine .within hi rfl rfl rfl rfl (fun j hj => ?_) (fun _ => nofun) (fun _ _ => rfl)
      fun m hm => absurd hm (no_newMachines (by rfl) m)
    obtain rfl : i = j := Option.some.inj hj
    exact hs.seen i rfl
  have hrange : Triple scanContract (Own (Chooses [])) (.read .thread PolicyView.ifaceRange)
      fun is => Own (Chooses is) :=
    Triple.read (stable_sees _ _) (fun _ => stable_sees _ _) fun _ _ _ hs =>
      own_of ⟨⟨hs.own.1.1, fun _ hj => List.mem_range.mp hj⟩, hs.own.2⟩
  refine Triple.bind hrange fun is => ?_
  refine Triple.bind (Triple.forEach (stable_sees (Chooses is) _) fun j hj =>
    modify_sees fun x hi _ hs => ⟨selectIface_step hi hs.own.1.1 (hs.own.1.2 j hj), hs.own⟩) fun _ => ?_
  refine Triple.bind (modify_sees (B := Chooses is) fun x hi _ hs => ⟨?_, hs.own⟩) fun _ => ?_
  · exact .shared hi (keeps_setGroupSelected (i + 1) x).shared.members fun j _ =>
      Shared.selectionStatus_modifyGroup _ _ _ j
  exact modify_sees fun x hi _ hs => ⟨setPhase_step hi rfl fun _ => hs.own.2, rfl⟩

/-- The states in which a thread that scanned may be. -/
def Scanned (t : PolicyThread) : Prop :=
  t.phase = .parallelScan .scanningInterface ∨ t.phase = .parallelScan .checkReconfiguration

theorem scanned_sees (c : Scan) :
    Triple scanContract (Sees (Scans []) fun i => c.activeIface = some i) (scanned c)
      fun _ => Own Scanned := by
  have hrange : ∀ {s : Nat → Prop}, Triple scanContract (Sees (Scans []) s)
      (.read .thread PolicyView.ifaceRange >>= findNewInterface c.lastSelectedFound)
      fun _ => Own Scanned := fun {s} => by
    refine Triple.bind (Q := fun is => Own (Scans is)) ?_ fun is => ?_
    · exact Triple.read (stable_sees _ _) (fun _ => stable_sees _ _) fun _ _ _ hs =>
        own_of ⟨hs.own.1, fun _ hj => List.mem_range.mp hj⟩
    · exact (findNewInterface_sees _ is).mono (fun _ _ h => h) fun _ _ _ h => own_of (.inl h.own)
  cases ha : c.activeIface with
  | none =>
    rw [scanned_none ha]
    exact hrange
  | some i =>
    rw [scanned_some ha]
    refine Triple.bind (Q := fun _ => Sees (Scans []) (· = i))
      (Triple.read (stable_sees _ _) (fun _ => stable_sees _ _) fun x _ _ hs =>
        ⟨hs.own, fun j hj => hs.seen j (hj ▸ rfl)⟩) fun _ => Triple.ite (fun _ => ?_) fun _ => hrange
    exact (transitionSelectingInterface_sees i).mono (fun _ _ h => h) fun _ _ _ h => own_of (.inr h.own)

/-- A thread that is not told to stop goes on scanning. -/
theorem stateScanningInterface_sees :
    Triple scanContract (Own fun t => t.phase = .parallelScan .scanningInterface ∧ stops t.ctrl = false)
      stateScanningInterface fun _ => Own Scanned := by
  refine Triple.bind (Q := fun c => Own fun t =>
      t.phase = .parallelScan .scanningInterface ∧ stops c = false)
    (Triple.read (stable_sees _ _) (fun _ => stable_sees _ _) fun _ _ _ hs => own_of hs.own) fun c => ?_
  refine Triple.ite (fun hstops x _ hs => ?_) fun _ => ?_
  · exact absurd (hs.own.2.symm.trans hstops) nofun
  refine Triple.bind (Q := fun is => Own (Scans is)) ?_ fun is => ?_
  · exact Triple.read (stable_sees _ _) (fun _ => stable_sees _ _) fun _ _ _ hs =>
      own_of ⟨hs.own.1, fun _ hj => List.mem_range.mp hj⟩
  · refine Triple.bind ((scanIfaces_sees {} is).pre fun x _ hs => ⟨hs.own, fun i hi => ?_⟩) scanned_sees
    cases hi

/-! ## The loop -/

/-- A state with a selected interface; in `State_InterfaceTearDown` all of them are disabled
before the thread goes on to its end. -/
theorem lockedState_step {st : ParallelScanState} {i : Nat} {d : WanIface} {x : PolicyView}
    (h : ScanInv x) (hg : StopsSelected .policyState x) (hst : x.self.phase = .parallelScan st)
    (hidx : x.self.ctrl.activeInterfaceIdx = some i) :
    ScanStep x (enterState (lockedState st i d x)) := by
  have hround : Round st i x (lockedState st i d x).1 (lockedState st i d x).2 := round_lockedState hidx st
  obtain ⟨hmember, hlt⟩ := h.chosen i hidx
  have hrefused : st ≠ .policyError := by
    rintro rfl
    exact (h.located _ hst nofun).2 rfl
  have hmembers := hround.keeps.shared.members
  have hinst := hround.keeps.inst
  have hin : ∀ j, (enterState (lockedState st i d x)).shared.Member j
      (enterState (lockedState st i d x)).self.ctrl.groupInst →
      x.shared.Member j x.self.ctrl.groupInst := fun j hj => by
    have hj' : (lockedState st i d x).2.shared.Member j (lockedState st i d x).2.self.ctrl.groupInst := hj
    rwa [Shared.Member, hmembers, hinst] at hj'
  have hbeyond : ∀ j, x.shared.Member j x.self.ctrl.groupInst → x.self.ctrl.totalIfaces ≤ j →
      (lockedState st i d x).2.shared.selectionStatus j = .notSelected := fun j hj hle => by
    rw [hround.others j (by omega) hle]
    exact h.beyond j hj hle
  refine ⟨⟨.inl rfl, ?_, fun j hj hle => ?_, fun j hj => ?_, fun st' hst' hne => ?_, fun hq j hj => ?_⟩,
    hinst, hmembers, .inl (Nat.le_of_eq hround.total.symm), nofun, fun m hm => ?_, fun he => ?_, nofun⟩
  · show (lockedState st i d x).2.self.ctrl.totalIfaces ≤ _
    rw [hround.total]
    exact Nat.le_trans h.total (Nat.le_of_eq (Shared.length_of_members hmembers).symm)
  · have hle' : (lockedState st i d x).2.self.ctrl.totalIfaces ≤ j := hle
    rw [hround.total] at hle'
    exact hbeyond j (hin j hj) hle'
  · have hj' : (lockedState st i d x).2.self.ctrl.activeInterfaceIdx = some j := hj
    show (lockedState st i d x).2.shared.Member j _ ∧ j < (lockedState st i d x).2.self.ctrl.totalIfaces
    rcases hround.idx with hsome | ⟨hnone, -⟩
    · obtain rfl : i = j := Option.some.inj (hsome.symm.trans hj')
      rw [Shared.Member, hmembers, hround.total]
      exact ⟨hinst ▸ hmember, hlt⟩
    · exact absurd (hnone.symm.trans hj') nofun
  · obtain rfl : (lockedState st i d x).1 = st' := PolicyPhase.parallelScan.inj hst'
    refine ⟨?_, fun herr => hrefused (hround.refused herr)⟩
    rcases hround.idx with hsome | ⟨-, hscan⟩
    · exact fun hnone => absurd (hsome.symm.trans hnone) nofun
    · exact absurd hscan hne
  · rcases hround.winds hq with ⟨hwind, hsame⟩ | hall
    · refine (hsame j).trans (h.quiet ?_ j (hin j hj))
      rw [hst]
      exact hwind
    · by_cases hlt' : j < x.self.ctrl.totalIfaces
      · exact hall j hlt' (hin j hj)
      · exact hbeyond j (hin j hj) (by omega)
  · have hm' : m ∈ newMachines x (lockedState st i d x).2 := hm
    rw [hround.starts.mem_newMachines hm']
    refine ⟨?_, hmember, hlt⟩
    rw [hst]
    cases hwind : winding st with
    | false => exact hwind
    | true => exact absurd hm' (no_newMachines (hround.idle hwind) m)
  · have hexit : (lockedState st i d x).1 = .policyExit := by
      rcases (Bool.or_eq_true _ _).mp he with he | he
      · exact PolicyPhase.parallelScan.inj (eq_of_beq he)
      · have herr : (lockedState st i d x).1 = .policyError :=
          PolicyPhase.parallelScan.inj (eq_of_beq he)
        exact absurd (hround.refused herr) hrefused
    rcases hround.ends hexit with hst' | ⟨hst', hsame, hdown⟩
    · refine .inl ?_
      rw [hst, hst']
      rfl
    · refine .inr fun j e he hj hgroup v hv => ?_
      have he' : x.shared.ifaces[j]? = some e := hsame ▸ he
      have hgroup' : e.selection.group = x.self.ctrl.groupInst := hgroup.trans hinst
      have hhead : e.virtIf.status = .disabled := by
        have hlt' : j < x.self.ctrl.totalIfaces := hround.total ▸ hj
        have hfree := List.any_eq_false.mp hdown j (List.mem_range.mpr hlt')
        simpa [notDisabled, he', hgroup'] using hfree
      rcases List.mem_cons.mp hv with rfl | hv
      · exact hhead
      · subst hst'
        exact hg.disabled rfl hst hdown e (List.mem_of_getElem? he') hgroup' v hv

/-- A thread in another state than scanning has a selected interface in the table. -/
theorem scanning_of_none {st : ParallelScanState} {x : PolicyView} (h : ScanInv x)
    (hst : x.self.phase = .parallelScan st) (hnone : x.activeIface? = none) : st = .scanningInterface := by
  by_contra hne
  obtain ⟨i, hi⟩ := Option.ne_none_iff_exists'.mp (h.located st hst hne).1
  obtain ⟨d, hd, -⟩ := Shared.member_iff.mp (h.chosen i hi).1
  simp [PolicyView.activeIface?, hi, hd] at hnone

theorem leave_step {x : PolicyView} (h : ScanInv x) (hended : ending x.self.phase = true) :
    ScanStep x (leaveGroup x) := by
  have hquiet := quiet_of_ending hended
  have hmembers : (leaveGroup x).shared.members = x.shared.members :=
    congrArg (List.map _) (Shared.ifaces_modifyGroup _ _ _)
  have hmember : ∀ i, (leaveGroup x).shared.Member i x.self.ctrl.groupInst ↔
      x.shared.Member i x.self.ctrl.groupInst := fun i => by rw [Shared.Member, hmembers, Shared.Member]
  have hstatus : ∀ i, (leaveGroup x).shared.selectionStatus i = x.shared.selectionStatus i :=
    fun i => Shared.selectionStatus_modifyGroup _ _ _ i
  refine ⟨⟨.inr rfl, ?_, fun i hi _ => ?_, fun i hi => ?_, nofun, fun _ i hi => ?_⟩, rfl, hmembers,
    .inl (Nat.le_refl _), nofun, fun m hm => absurd hm (no_newMachines (by rfl) m), nofun,
    fun _ => .inr hended⟩
  · exact Nat.le_trans h.total (Nat.le_of_eq (Shared.length_of_members hmembers).symm)
  · exact (hstatus i).trans (h.quiet hquiet i ((hmember i).mp hi))
  · exact ⟨(hmember i).mpr (h.chosen i hi).1, (h.chosen i hi).2⟩
  · exact (hstatus i).trans (h.quiet hquiet i ((hmember i).mp hi))

/-- An iteration of the loop, and the end of the thread if it was its last. -/
theorem loop_sees (st : ParallelScanState) :
    Triple scanContract (Own (In (· = .parallelScan st))) (loop st) fun _ _ => True := by
  refine Triple.bind updateControllerData_sees fun _ => ?_
  have hopen : Triple scanContract (Own fun t => st = .scanningInterface ∧
      t.phase = .parallelScan .scanningInterface ∧ stops t.ctrl = false) (unlockedState st)
      fun _ => Own fun t => leaving st → ending t.phase = true := by
    by_cases hst : st = .scanningInterface
    · subst hst
      refine (stateScanningInterface_sees.pre fun x _ hs => own_of hs.own.2).mono (fun _ _ h => h)
        fun _ _ _ _ => own_of ?_
      rintro (h | h) <;> cases h
    · exact fun x _ hs => absurd hs.own.1 hst
  refine Triple.bind (Triple.lockedIf (stable_sees _ _) (fun _ => stable_sees _ _)
    (fun x a hi hg hs ha => ?_) (fun x hi hg hs hnone => ?_) hopen) fun _ => ?_
  · obtain ⟨hidx, -⟩ := activeIface_some ha
    refine ⟨lockedState_step hi hg hs.own hidx, fun _ => own_of ?_⟩
    rintro (rfl | rfl) <;> rfl
  · obtain rfl := scanning_of_none hi hs.own hnone
    exact own_of ⟨rfl, hs.own, hg.selected rfl hs.own⟩
  · refine Triple.ite (fun hst => ?_) fun _ => Triple.ret (fun _ _ _ _ _ => trivial) fun _ _ _ => trivial
    refine Triple.bind (modify_sees (B := fun t => ending t.phase = true) fun x hi _ hs => ?_) fun _ => ?_
    · split
      · exact ⟨.shared hi rfl fun _ _ => rfl, hs.own hst⟩
      · exact ⟨.idle hi, hs.own hst⟩
    · exact Triple.modify (stable_sees _ _) (fun _ _ _ _ _ => trivial) fun x hi _ hs =>
        ⟨leave_step hi hs.own, fun _ => trivial⟩

theorem tick_sees : Triple scanContract (Own PolicyThread.Live) Policy.tick fun _ _ => True := by
  refine Triple.bind (Q := fun p => Own fun t => t.phase = p ∧ p.parallel = true)
    (Triple.read (stable_sees _ _) (fun _ => stable_sees _ _) fun x hi _ hs => own_of ⟨rfl, ?_⟩)
    fun p => ?_
  · exact hi.parallel.resolve_right hs.own.2
  have hpre : ∀ x, ScanInv x → Own (fun t => t.phase = p ∧ p.parallel = true) x →
      Own (In (· = p)) x := fun x _ hs => own_of hs.own.1
  have hnever : p.parallel = false → ∀ q : PolicyProg Unit,
      Triple scanContract (Own fun t => t.phase = p ∧ p.parallel = true) q fun _ _ => True :=
    fun hp q x _ hs => absurd (hp.symm.trans hs.own.2) nofun
  cases p with
  | absent => exact hnever rfl _
  | exited => exact hnever rfl _
  | autoWan st => exact hnever rfl _
  | parallelScan st => exact (loop_sees st).pre hpre
  | created policy =>
    cases policy with
    | parallelScan => exact (start_sees.pre hpre).mono (fun _ _ h => h) fun _ _ _ _ => trivial
    | fixedModeOnBootup | fixedMode | primaryPriorityOnBootup | primaryPriority | multiwan | autowan =>
      exact hnever rfl _

/-! ## Runs -/

/-- The invariant of a thread with its history. -/
structure ShutdownInv (y : PolicyView × Shutdown) : Prop where
  scan : ScanInv y.1
  fresh : y.1.self.phase = .created .parallelScan → y.2.started = []
  started : ∀ m ∈ y.2.started, y.1.shared.Member m.1 y.1.self.ctrl.groupInst ∧
    m.1 < y.1.self.ctrl.totalIfaces
  ended : ending y.1.self.phase = true ∨ y.1.self.phase = .exited →
    ∃ x ∈ y.2.ended, ShutDown y.2.started x

theorem ShutdownInv.step {l : Site} {x x' : PolicyView} {h : Shutdown} (hinv : ShutdownInv (x, h))
    (hstep : ScanStep x x') : ShutdownInv (x', note l x x' h) := by
  -- a thread that is quiet starts no machine
  have hnone : quiet x.self.phase = true → newMachines x x' = [] := fun hq =>
    List.eq_nil_iff_forall_not_mem.mpr fun m hm =>
      absurd ((hstep.machines m hm).1.symm.trans hq) nofun
  have hstarted : ∀ m ∈ h.started ++ newMachines x x', x'.shared.Member m.1 x'.self.ctrl.groupInst ∧
      m.1 < x'.self.ctrl.totalIfaces := fun m hm => by
    rw [Shared.Member, hstep.members, hstep.inst]
    rcases hstep.total with hle | hcreated
    · rcases List.mem_append.mp hm with hm | hm
      · exact ⟨(hinv.started m hm).1, Nat.lt_of_lt_of_le (hinv.started m hm).2 hle⟩
      · exact ⟨(hstep.machines m hm).2.1, Nat.lt_of_lt_of_le (hstep.machines m hm).2.2 hle⟩
    · rw [hinv.fresh hcreated, hnone (by rw [hcreated]; rfl)] at hm
      cases hm
  have hkeeps : (ending x.self.phase = true ∨ x.self.phase = .exited) →
      (ending x'.self.phase && !ending x.self.phase) = false →
      ∃ y ∈ (note l x x' h).ended, ShutDown (note l x x' h).started y := fun hold hsame => by
    obtain ⟨y, hy, hdown⟩ := hinv.ended hold
    have hquiet : quiet x.self.phase = true := by
      rcases hold with he | he
      · exact quiet_of_ending he
      · rw [he]
        rfl
    refine ⟨y, ?_, ?_⟩
    · simpa [note, hsame] using hy
    · simpa [note, hnone hquiet] using hdown
  refine ⟨hstep.inv, fun hc => ?_, hstarted, fun he => ?_⟩
  · have hcreated := hstep.created hc
    have hnew := hnone (by rw [hcreated]; rfl)
    simpa [note, hnew] using hinv.fresh hcreated
  · cases hx : ending x.self.phase with
    | true => exact hkeeps (.inl hx) (by simp [hx])
    | false =>
      rcases he with he | he
      · have hdown := (hstep.ends he).resolve_left (by rw [hx]; nofun)
        refine ⟨x', by simp [note, he, hx], fun i hi => ?_, fun m hm v hv => ?_⟩
        · exact hstep.inv.quiet (quiet_of_ending he) i hi
        · obtain ⟨hmember, hlt⟩ := hstarted m hm
          obtain ⟨d, hd, hgroup⟩ := Shared.member_iff.mp hmember
          have hv' : d.virtualIfaceById m.2 = some v := by simpa [Shared.virtualIface?, hd] using hv
          exact hdown m.1 d hd hlt hgroup v (List.mem_of_getElem? hv')
      · have hexit := (hstep.exits he).resolve_right (by rw [hx]; nofun)
        have he' : x'.self.phase = .exited := he
        exact hkeeps (.inr hexit) (by rw [he']; rfl)

theorem ShutdownInv.events {x x' : PolicyView} {h : Shutdown} (hinv : ShutdownInv (x, h))
    (hevents : ScanEvents x x') : ShutdownInv (x', h) := by
  have hself := hevents.self
  have hselected : ∀ i, x'.shared.Member i x.self.ctrl.groupInst →
      (x.shared.Member i x.self.ctrl.groupInst → x.shared.selectionStatus i = .notSelected) →
      x'.shared.selectionStatus i = .notSelected := fun i hi hfree => by
    by_contra hne
    obtain ⟨hmember, hne'⟩ := hevents.selected i hi hne
    exact hne' (hfree hmember)
  refine ⟨⟨?_, ?_, ?_, ?_, ?_, ?_⟩, ?_, ?_, ?_⟩
  all_goals simp only [hself]
  · exact hinv.scan.parallel
  · exact Nat.le_trans hinv.scan.total hevents.grows
  · exact fun i hi hle => hselected i hi fun hmember => hinv.scan.beyond i hmember hle
  · exact fun i hi => ⟨hevents.stays i (hinv.scan.chosen i hi).1, (hinv.scan.chosen i hi).2⟩
  · exact hinv.scan.located
  · exact fun hq i hi => hselected i hi (hinv.scan.quiet hq i)
  · exact hinv.fresh
  · exact fun m hm => ⟨hevents.stays m.1 (hinv.started m hm).1, (hinv.started m hm).2⟩
  · exact hinv.ended

def shutdownProtocol : Protocol Site Unit (PolicyView × Shutdown) where
  inv := ShutdownInv
  rely _ y y' := scanContract.rely y.1 y'.1
  guard l y := StopsSelected l y.1
  refl _ y := scanContract.refl y.1
  trans h h' := scanContract.trans h h'

theorem Created.inv {x : PolicyView} (h : Created x) : ShutdownInv (x, {}) := by
  have hself := h.self
  have hctrl : x.self.ctrl = { groupInst := x.self.ctrl.groupInst } := congrArg PolicyThread.ctrl hself
  have hphase : x.self.phase = .created .parallelScan := congrArg PolicyThread.phase hself
  refine ⟨⟨.inl (by rw [hphase]; rfl), by rw [hctrl]; exact Nat.zero_le _, fun i hi _ => h.free i hi,
    fun i hi => ?_, fun st hst => absurd (hphase.symm.trans hst) nofun, fun _ => h.free⟩, fun _ => rfl,
    nofun, fun he => ?_⟩
  · rw [hctrl] at hi
    cases hi
  · rw [hphase] at he
    rcases he with he | he <;> cases he

/-- The history begins with the thread. -/
def ShutdownInitial (y : PolicyView × Shutdown) : Prop := Created y.1 ∧ y.2 = {}

theorem shutdown_sound : historyPool.Sound shutdownProtocol ShutdownInitial where
  start y hy := by
    obtain ⟨hcreated, hempty⟩ := hy
    obtain ⟨x, h⟩ := y
    cases hempty
    exact ⟨hcreated.inv, fun _ => trivial⟩
  stable _ _ _ _ _ _ := trivial
  body _ := by
    have hrecords : (shutdownProtocol.contract ()).Records scanContract note :=
      { inv := fun _ h => h.scan
        guard := fun _ _ h => h
        rely := fun _ _ h => h
        step := fun _ _ _ h _ hstep => ⟨h.step hstep, fun _ hu => absurd rfl hu⟩ }
    exact (Triple.record hrecords tick_sees).mono (fun _ _ h => own_of h.2) fun _ _ _ _ => trivial
  env y y' h henv := by
    obtain ⟨hevents, hsame⟩ := henv
    refine ⟨?_, fun _ => ⟨hevents.self, hevents.stays⟩⟩
    have hinv : ShutdownInv (y'.1, y.2) := ShutdownInv.events h hevents
    rwa [← hsame] at hinv

/-- The thread is never refused its shutdown, and when it has ended it had found its group
shut down. -/
structure ShutdownComplete (y : PolicyView × Shutdown) : Prop where
  refused : y.1.self.phase ≠ .parallelScan .policyError
  complete : y.1.self.phase = .exited → ∃ x ∈ y.2.ended, ShutDown y.2.started x

/-- In every run in which the thread has selected an interface when it is told to stop, it
ends only after it has deselected its group and every machine it started is disabled. -/
theorem parallel_shutdown_complete {c : Config Site Unit (PolicyView × Shutdown)}
    (h : historyPool.Reach (fun l y => StopsSelected l y.1) ShutdownInitial c) :
    ShutdownComplete c.store := by
  have hinv := shutdown_sound.reach h
  exact ⟨fun herr => (hinv.scan.located _ herr nofun).2 rfl, fun hexit => hinv.ended (.inr hexit)⟩

/-! A group of one interface, which is scanned, selected and shut down; or WAN is disabled
while its state machine is still validating it. -/

namespace Example

def edit (f : Shared → Shared) (hmembers : ∀ s, (f s).members = s.members)
    (hstatus : ∀ s i, (f s).selectionStatus i = s.selectionStatus i) : pool.Move where
  edit x := { x with shared := f x.shared }
  allowed x := by
    have hmember : ∀ i, (f x.shared).Member i x.self.ctrl.groupInst ↔
        x.shared.Member i x.self.ctrl.groupInst := fun i => by
      rw [Shared.Member, hmembers x.shared, Shared.Member]
    refine ⟨⟨rfl, fun i hi hne => ⟨(hmember i).mp hi, ?_⟩⟩, fun i => (hmember i).mpr, ?_⟩
    · rw [← hstatus x.shared i]
      exact hne
    · exact Nat.le_of_eq (Shared.length_of_members (hmembers x.shared)).symm
  thread := ()

def tick : pool.Move where
  edit x := x
  allowed _ := ⟨⟨rfl, fun _ hmember hne => ⟨hmember, hne⟩⟩, fun _ => id, le_rfl⟩
  thread := ()

/-- A tick after the state machine has set the status of its virtual interface. -/
def status (st : IfaceStatus) : pool.Move :=
  edit (fun s => s.modifyIface 0 fun d => { d with virtIf := { d.virtIf with status := st } })
    (fun s => Shared.Keeps.map_modify (by intro; rfl) s.ifaces 0)
    fun s => Shared.selectionStatus_modifyIface (by intro; rfl) s 0

def disable : pool.Move where
  edit x := x.mapShared fun s => { s with config := { s.config with enable := false } }
  allowed _ := ⟨⟨rfl, fun _ hmember hne => ⟨hmember, hne⟩⟩, fun _ => id, le_rfl⟩
  thread := ()

def fresh : PolicyView :=
  { shared := { ifaces := [{ baseInterfaceStatus := .up }], groups := [{ policy := .parallelScan }] }
    self := { phase := .created .parallelScan, ctrl := { groupInst := 1 } } }

def shutdown : List historyPool.Move :=
  [tick, tick, status .standby, tick, disable, status .disabled, tick].map fun m => m.record note

/-- WAN is disabled while the interface is validated. -/
def refusal : List historyPool.Move :=
  [tick, tick, status .validating, disable, tick].map fun m => m.record note

theorem initial : ShutdownInitial (fresh, {}) := by
  refine ⟨⟨rfl, fun i _ => ?_⟩, rfl⟩
  rcases i with _ | _ <;> rfl

end Example

open Example in
theorem parallel_shutdown_complete_run :
    ShutdownComplete (historyPool.play shutdown (fresh, {})) ∧
      (historyPool.play shutdown (fresh, {})).1.self.phase = .exited ∧
      (historyPool.play shutdown (fresh, {})).2.started = [(0, 0)] := by
  have hplays : historyPool.Plays (fun l y => StopsSelected l y.1) shutdown (fresh, {}) := by
    decide +kernel
  have hrun := Pool.Reach.play (.start initial) hplays
  have hone := parallel_shutdown_complete hrun
  rw [Pool.idle_store] at hone
  exact ⟨hone, by decide +kernel, by decide +kernel⟩

open Example in
/-- The thread ends with its interface still being validated. -/
theorem parallel_shutdown_refused :
    ¬ ∀ c, historyPool.Reach (fun _ _ => True) ShutdownInitial c → ShutdownComplete c.store := by
  intro h
  have hplays : historyPool.Plays (fun _ _ => True) refusal (fresh, {}) := by decide +kernel
  have hone := h _ (Pool.Reach.play (.start initial) hplays)
  rw [Pool.idle_store] at hone
  obtain ⟨x, hx, hdown⟩ := hone.complete (by decide +kernel)
  have hended : (historyPool.play refusal (fresh, {})).2.ended.map
      (fun x => (x.shared.selectionStatus 0, x.shared.members[0]?, x.self.ctrl.groupInst)) =
      some (.validating, some 1, 1) := by decide +kernel
  rw [hx] at hended
  simp only [Option.map_some, Option.some.injEq, Prod.mk.injEq] at hended
  obtain ⟨hstatus, hmember, hinst⟩ := hended
  have hfree := hdown.selection 0 (by rw [Shared.Member, hmember, hinst])
  exact absurd (hfree.symm.trans hstatus) nofun

end ParallelScan
end WanManager
