import WanManager.System
import WanManager.Concurrency.Contract

/-! # What a section of a selection thread can do

Each section of a selection thread, of either policy, is one of the steps of `Effect`. The
states with a selected interface stay functions; of the sections around them only what they
keep is said. What it means that an interface was chosen from the thread's group, or is
missing from the table, is left to the user, as long as nobody else changes it. -/

namespace WanManager
open Concurrency

/-- The thread runs `WanMgr_ParallelScanSelectionProcess`. -/
def PolicyPhase.parallel : PolicyPhase → Bool
  | .created p => p == .parallelScan
  | .parallelScan _ => true
  | .absent | .autoWan _ | .exited => false

/-- The thread may be choosing an interface. -/
def PolicyPhase.picking : PolicyPhase → Bool
  | .created _ => true
  | .autoWan st => st == .selecting
  | .absent | .parallelScan _ | .exited => false

namespace AutoWan

/-- The states in which the selected interface may be `SELECTED` or `ACTIVE`. -/
def holding : AutoWanState → Bool
  | .waiting | .scanning | .reconfiguration | .active | .down => true
  | .selecting | .teardown | .rebootPlatform | .error | .tearingDown | .smExit => false

/-- The states in which the group has the selected interface. -/
def settled : AutoWanState → Bool
  | .reconfiguration | .active | .down => true
  | .selecting | .waiting | .scanning | .teardown | .rebootPlatform | .error | .tearingDown
  | .smExit => false

def leaving (st : AutoWanState) : Prop := st = .smExit ∨ st = .error

instance (st : AutoWanState) : Decidable (leaving st) := inferInstanceAs (Decidable (_ ∨ _))

end AutoWan

namespace PolicyThread

def Holds (t : PolicyThread) (i : Nat) : Prop :=
  t.ctrl.activeInterfaceIdx = some i ∧ ∃ st, t.phase = .autoWan st ∧ AutoWan.holding st = true

def Settled (t : PolicyThread) (i : Nat) : Prop :=
  t.ctrl.activeInterfaceIdx = some i ∧ ∃ st, t.phase = .autoWan st ∧ AutoWan.settled st = true

end PolicyThread

namespace Policy

/-- What a section may do to the thread's own record. -/
structure OwnStep (chosen missing : PolicyView → Nat → Prop) (x : PolicyView) (t : PolicyThread) :
    Prop where
  inst : t.ctrl.groupInst = x.self.ctrl.groupInst
  alive : x.self.Live
  live : t.Live
  parallel : t.phase.parallel = x.self.phase.parallel
  holds : ∀ i, x.self.Holds i → t.Holds i ∨ missing x i
  settled : ∀ i, t.Settled i → x.self.Settled i
  tearing : t.phase = .autoWan .tearingDown →
    x.self.phase = .autoWan .tearingDown ∧ t.ctrl.activeInterfaceIdx = x.self.ctrl.activeInterfaceIdx
  idx : t.phase.parallel = false → ∀ i, t.ctrl.activeInterfaceIdx = some i →
    x.self.ctrl.activeInterfaceIdx = some i ∨ x.self.phase.picking = true ∧ chosen x i

/-- A change of an interface that none of the threads' agreements is about. -/
structure IfaceQuiet (f : WanIface → WanIface) : Prop where
  selection : ∀ d, (f d).selection.status = d.selection.status
  group : ∀ d, (f d).selection.group = d.selection.group
  running : ∀ d, (f d).virtIfs.map (·.interfaceSmRunning) = d.virtIfs.map (·.interfaceSmRunning)

structure GroupQuiet (f : IfaceGroup → IfaceGroup) : Prop where
  state : ∀ g, (f g).state = g.state
  selected : ∀ g, (f g).selectedInterface = g.selectedInterface
  policy : ∀ g, (f g).policy = g.policy
  marks : ∀ g, ((f g).configChanged, (f g).interfaceAvailable) =
    (g.configChanged, g.interfaceAvailable)

inductive Effect (chosen missing : PolicyView → Nat → Prop) : Site → PolicyView → PolicyView → Prop
  | same {l x} : Effect chosen missing l x x
  | own {l x t} : OwnStep chosen missing x t → Effect chosen missing l x { x with self := t }
  | iface {l i x f} : x.self.Live → IfaceQuiet f →
      (∀ d, x.shared.ifaces[i]? = some d → d.selection.group ≠ x.self.ctrl.groupInst → f d = d) →
      Effect chosen missing l x (x.mapShared fun s => s.modifyIface i f)
  | group {l x f} : GroupQuiet f →
      Effect chosen missing l x (x.mapShared fun s => s.modifyGroup x.self.ctrl.groupInst f)
  | rescan {l x} : Effect chosen missing l x (x.mapShared Shared.requestRescan)
  | autoWan {st i d x} : x.self.phase = .autoWan st → x.activeIface? = some (i, d) →
      Effect chosen missing .policyState x
        (AutoWan.enterState (AutoWan.lockedState st i d (AutoWan.adoptGroup d x)))
  | parallelScan {st i d x} : x.self.phase = .parallelScan st → x.activeIface? = some (i, d) →
      Effect chosen missing .policyState x
        (ParallelScan.enterState (ParallelScan.lockedState st i d x))
  | selectIface {i x} : x.self.phase.parallel = true →
      Effect chosen missing (.scanIface i) x (ParallelScan.selectIface i x)
  | selectGroup {i x} : x.self.phase.parallel = true →
      Effect chosen missing .selectGroupIface x (ParallelScan.setGroupSelected i x)
  | connected {i x} : x.self.phase.parallel = true →
      Effect chosen missing (.newInterfaceConnected i) x
        (ParallelScan.transitionNewInterfaceConnected i x)
  | leave {x} : x.self.Live → (∀ i, ¬ x.self.Holds i) → Effect chosen missing .policyExit x (leaveGroup x)

/-- The contract of a selection thread: its record is its own, and nobody else changes
what it has found out about the interfaces. -/
def effects (inv : PolicyView → Prop) (chosen missing : PolicyView → Nat → Prop) :
    Contract Site PolicyView where
  inv := inv
  rely x x' := x.self.Live → x'.self = x.self ∧
    ∀ i, (chosen x i → chosen x' i) ∧ (missing x i → missing x' i)
  step := Effect chosen missing
  refl _ _ := ⟨rfl, fun _ => ⟨id, id⟩⟩
  trans := by
    intro a b c h h' hlive
    obtain ⟨hself, hab⟩ := h hlive
    obtain ⟨hself', hbc⟩ := h' (hself ▸ hlive)
    exact ⟨hself'.trans hself, fun i => ⟨(hbc i).1 ∘ (hab i).1, (hbc i).2 ∘ (hab i).2⟩⟩
  idle _ _ _ := .same

/-- How the thread finds out that an interface is in its group, or not in the table. -/
structure Finds (chosen missing : PolicyView → Nat → Prop) : Prop where
  chosen : ∀ x i d, x.shared.ifaces[i]? = some d →
    d.selection.group = x.self.ctrl.groupInst → chosen x i
  missing : ∀ x i, x.shared.ifaces[i]? = none → missing x i

/-- What the thread knows: `A` of its own record, that the interfaces in `s` were chosen, and
that those in `m` are missing. -/
structure Knows (chosen missing : PolicyView → Nat → Prop) (A : PolicyThread → Prop)
    (s m : PolicyThread → Nat → Prop) (x : PolicyView) : Prop where
  own : A x.self
  chosen : ∀ i, s x.self i → chosen x i
  missing : ∀ i, m x.self i → missing x i

section Sections

variable {inv : PolicyView → Prop} {chosen missing : PolicyView → Nat → Prop}
  {A B : PolicyThread → Prop} {s m : PolicyThread → Nat → Prop} {α : Type}

/-- An assertion about the thread's own record. -/
abbrev Own (chosen missing : PolicyView → Nat → Prop) (A : PolicyThread → Prop) : PolicyView → Prop :=
  Knows chosen missing A (fun _ _ => False) fun _ _ => False

theorem own_iff {x : PolicyView} : Own chosen missing A x ↔ A x.self :=
  ⟨Knows.own, fun h => ⟨h, fun _ => False.elim, fun _ => False.elim⟩⟩

theorem stable_knows (hA : ∀ t, A t → t.Live) :
    (effects inv chosen missing).Stable (Knows chosen missing A s m) := by
  intro x x' hk hr _
  obtain ⟨hself, hfacts⟩ := hr (hA _ hk.own)
  refine ⟨hself ▸ hk.own, fun i hi => ?_, fun i hi => ?_⟩
  · exact (hfacts i).1 (hk.chosen i (hself ▸ hi))
  · exact (hfacts i).2 (hk.missing i (hself ▸ hi))

theorem modify_effect {l : Site} {f : PolicyView → PolicyView} (hA : ∀ t, A t → t.Live)
    (hB : ∀ t, B t → t.Live)
    (h : ∀ x, inv x → Knows chosen missing A s m x →
      Effect chosen missing l x (f x) ∧ B (f x).self) :
    Triple (effects inv chosen missing) (Knows chosen missing A s m) (.modify l f)
      fun _ => Own chosen missing B :=
  Triple.modify (stable_knows hA) (stable_knows hB) fun x hi _ hk =>
    ⟨(h x hi hk).1, fun _ => own_iff.mpr (h x hi hk).2⟩

theorem read_effect {l : Site} {g : PolicyView → α} {Q : α → PolicyView → Prop}
    (hA : ∀ t, A t → t.Live) (hQ : ∀ a, (effects inv chosen missing).Stable (Q a))
    (h : ∀ x, inv x → Knows chosen missing A s m x → Q (g x) x) :
    Triple (effects inv chosen missing) (Knows chosen missing A s m) (.read l g) Q :=
  Triple.read (stable_knows hA) hQ fun x hi _ hk => h x hi hk

end Sections

/-! ## Both policies -/

section Shared

variable {inv : PolicyView → Prop} {chosen missing : PolicyView → Nat → Prop}
  {P : PolicyPhase → Prop} {s m : PolicyThread → Nat → Prop}

/-- An assertion about the phase of the thread. -/
abbrev In (P : PolicyPhase → Prop) (t : PolicyThread) : Prop := P t.phase

/-- The controller is changed, and neither the group nor the selected interface. -/
theorem OwnStep.ctrl {x : PolicyView} {c : PolicyController} (hlive : x.self.Live)
    (hinst : c.groupInst = x.self.ctrl.groupInst)
    (hidx : c.activeInterfaceIdx = x.self.ctrl.activeInterfaceIdx) :
    OwnStep chosen missing x { x.self with ctrl := c } where
  inst := hinst
  alive := hlive
  live := hlive
  parallel := rfl
  holds _ h := .inl ⟨hidx.trans h.1, h.2⟩
  settled _ h := ⟨hidx.symm.trans h.1, h.2⟩
  tearing h := ⟨h, hidx⟩
  idx _ _ h := .inl (hidx.symm.trans h)

theorem ctrl_effect {l : Site} {f : PolicyView → PolicyView} (hP : ∀ p, P p → p.Live)
    (hf : ∀ x, f x = { x with self := { x.self with ctrl := (f x).self.ctrl } })
    (hinst : ∀ x, (f x).self.ctrl.groupInst = x.self.ctrl.groupInst)
    (hidx : ∀ x, (f x).self.ctrl.activeInterfaceIdx = x.self.ctrl.activeInterfaceIdx) :
    Triple (effects inv chosen missing) (Own chosen missing (In P)) (.modify l f) fun _ =>
      Own chosen missing (In P) := by
  refine modify_effect (fun t => hP t.phase) (fun t => hP t.phase) fun x _ hk => ?_
  rw [hf x]
  exact ⟨.own (.ctrl (hP _ hk.own) (hinst x) (hidx x)), hk.own⟩

theorem updateControllerData_effect (hP : ∀ p, P p → p.Live) :
    Triple (effects inv chosen missing) (Own chosen missing (In P)) updateControllerData fun _ =>
      Own chosen missing (In P) := by
  refine Triple.bind (ctrl_effect hP (fun _ => rfl) (fun _ => rfl) fun _ => rfl) fun _ => ?_
  refine Triple.bind (ctrl_effect hP (fun _ => rfl) (fun _ => rfl) fun _ => rfl) fun _ => ?_
  refine ctrl_effect hP (fun x => ?_) (fun x => ?_) fun x => ?_
  all_goals
    unfold copyGroup
    split <;> rfl

/-- A section that leaves the thread's record alone. -/
theorem shared_effect {A : PolicyThread → Prop} {l : Site} {f : PolicyView → PolicyView}
    (hA : ∀ t, A t → t.Live) (hself : ∀ x, (f x).self = x.self)
    (hstep : ∀ x, A x.self → Effect chosen missing l x (f x)) :
    Triple (effects inv chosen missing) (Own chosen missing A) (.modify l f) fun _ =>
      Own chosen missing A :=
  modify_effect hA hA fun x _ hk => ⟨hstep x hk.own, by rw [hself x]; exact hk.own⟩

/-- The end of a thread that holds no interface. -/
theorem policyExit_effect (hP : ∀ p, P p → p.Live)
    (hleave : ∀ (t : PolicyThread) i, P t.phase → ¬ t.Holds i) :
    Triple (effects inv chosen missing) (Own chosen missing (In P)) policyExit fun _ _ => True := by
  refine Triple.bind (shared_effect (fun t => hP t.phase) (fun x => ?_) fun x _ => ?_) fun _ => ?_
  · split <;> rfl
  · split
    · exact .rescan
    · exact .same
  · exact Triple.modify (stable_knows fun t => hP t.phase) (fun _ _ _ _ _ => trivial) fun x _ _ hk =>
      ⟨.leave (hP _ hk.own) fun i => hleave x.self i hk.own, fun _ => trivial⟩

theorem read_own {α : Type} {l : Site} {g : PolicyView → α} {A : PolicyThread → Prop}
    (hA : ∀ t, A t → t.Live) :
    Triple (effects inv chosen missing) (Own chosen missing A) (.read l g) fun _ =>
      Own chosen missing A :=
  read_effect hA (fun _ => stable_knows hA) fun _ _ hk => hk

end Shared
end Policy

/-! ## AutoWAN -/

namespace AutoWan
open Policy

section AutoWan

variable {inv : PolicyView → Prop} {chosen missing : PolicyView → Nat → Prop}
  {P : PolicyPhase → Prop}

/-- The phases in which the thread selects an interface. -/
structure Selecting (P : PolicyPhase → Prop) : Prop where
  live : ∀ p, P p → p.Live
  serial : ∀ p, P p → p.parallel = false
  picking : ∀ p, P p → p.picking = true
  free : ∀ p, P p → ∀ st, p = .autoWan st → holding st = false ∧ st ≠ .tearingDown

theorem settled_holding {st : AutoWanState} (h : settled st = true) : holding st = true := by
  cases st <;> first | rfl | cases h

/-- While it selects, the thread may take an interface of its group, or none. -/
theorem ownStep_select {x : PolicyView} {c : PolicyController} (hP : Selecting P)
    (hphase : P x.self.phase) (hinst : c.groupInst = x.self.ctrl.groupInst)
    (hidx : ∀ i, c.activeInterfaceIdx = some i →
      x.self.ctrl.activeInterfaceIdx = some i ∨ chosen x i) :
    OwnStep chosen missing x { x.self with ctrl := c } where
  inst := hinst
  alive := hP.live _ hphase
  live := hP.live _ hphase
  parallel := rfl
  holds := by
    rintro i ⟨-, st, hst, hholds⟩
    rw [(hP.free _ hphase st hst).1] at hholds
    cases hholds
  settled := by
    rintro i ⟨-, st, hst, hsettled⟩
    have hholds := settled_holding hsettled
    rw [(hP.free _ hphase st hst).1] at hholds
    cases hholds
  tearing h := absurd rfl (hP.free _ hphase _ h).2
  idx _ i hi := (hidx i hi).imp_right fun h => ⟨hP.picking _ hphase, h⟩

theorem setCtrl_select (hP : Selecting P) {f : PolicyController → PolicyController}
    {s : PolicyThread → Nat → Prop} (hinst : ∀ c, (f c).groupInst = c.groupInst)
    (hidx : ∀ t i, (f t.ctrl).activeInterfaceIdx = some i →
      t.ctrl.activeInterfaceIdx = some i ∨ s t i) :
    Triple (effects inv chosen missing) (Knows chosen missing (In P) s fun _ _ => False) (setCtrl f)
      fun _ => Own chosen missing (In P) := by
  refine modify_effect (fun t => hP.live t.phase) (fun t => hP.live t.phase) fun x _ hk => ?_
  refine ⟨.own (ownStep_select hP hk.own (hinst _) fun i hi => ?_), hk.own⟩
  exact (hidx x.self i hi).imp_right (hk.chosen i)

theorem quiet_setActiveLink (b : Bool) :
    IfaceQuiet fun d => { d with selection := { d.selection with activeLink := b } } :=
  ⟨fun _ => rfl, fun _ => rfl, fun _ => rfl⟩

theorem prevSelected_effect (hf : Finds chosen missing) (hP : Selecting P) (i : Nat) :
    Triple (effects inv chosen missing) (Own chosen missing (In P))
      (.critical (.scanIface i) (prevSelected i)) fun _ => Own chosen missing (In P) := by
  have hlive : (effects inv chosen missing).Stable (Own chosen missing (In P)) :=
    stable_knows fun t => hP.live t.phase
  refine Triple.critical hlive (fun _ => hlive) fun x _ _ hk => ?_
  suffices Effect chosen missing (.scanIface i) x (prevSelected i x).2 ∧
      P (prevSelected i x).2.self.phase from ⟨this.1, fun _ => own_iff.mpr this.2⟩
  unfold prevSelected
  cases hd : x.shared.ifaces[i]? with
  | none => exact ⟨.same, hk.own⟩
  | some d =>
    simp only
    split
    · rename_i hgroup
      split
      · refine ⟨.own (ownStep_select hP hk.own rfl fun j hj => .inr ?_), hk.own⟩
        obtain rfl : i = j := by simpa using hj
        exact hf.chosen x i d hd hgroup.1
      · refine ⟨.iface (hP.live _ hk.own) (quiet_setActiveLink false) fun d' hd' hgroup' => ?_, hk.own⟩
        obtain rfl : d = d' := Option.some.inj (hd.symm.trans hd')
        exact absurd hgroup.1 hgroup'
    · exact ⟨.same, hk.own⟩

theorem getPrevSelectedInterface_effect (hf : Finds chosen missing) (hP : Selecting P) :
    Triple (effects inv chosen missing) (Own chosen missing (In P)) getPrevSelectedInterface
      fun _ => Own chosen missing (In P) := by
  have hlive : ∀ t, In P t → t.Live := fun t => hP.live t.phase
  refine Triple.bind (setCtrl_select hP (fun _ => rfl) fun t i hi => ?_) fun _ => ?_
  · simp at hi
  refine Triple.bind (read_own hlive) fun is => ?_
  exact Triple.forUntil (stable_knows hlive) fun i _ => prevSelected_effect hf hP i

/-- What the loop has selected so far was chosen from the thread's group. -/
theorem highPriorityIface_effect (hf : Finds chosen missing) (hP : Selecting P) (sel : Option Nat)
    (priority : Int) (is : List Nat) :
    Triple (effects inv chosen missing)
      (Knows chosen missing (In P) (fun _ i => sel = some i) fun _ _ => False)
      (highPriorityIface sel priority is)
      fun r => Knows chosen missing (In P) (fun _ i => r = some i) fun _ _ => False := by
  have hlive : ∀ t, In P t → t.Live := fun t => hP.live t.phase
  induction is generalizing sel priority with
  | nil => exact Triple.ret (stable_knows hlive) fun _ _ hk => hk
  | cons i is ih =>
    refine Triple.bind (Q := fun p => Knows chosen missing (In P)
      (fun _ j => sel = some j ∨ p.isSome ∧ i = j) fun _ _ => False)
      (read_effect hlive (fun _ => stable_knows hlive) fun x _ hk => ⟨hk.own, ?_, hk.missing⟩)
      fun p => ?_
    · rintro j (hj | ⟨hp, rfl⟩)
      · exact hk.chosen j hj
      · cases hd : x.shared.ifaces[i]? with
        | none => simp [selectable, hd] at hp
        | some d =>
          by_cases hg : d.selection.group = x.self.ctrl.groupInst
          · exact hf.chosen x i d hd hg
          · simp [selectable, hd, hg] at hp
    · cases p with
      | none =>
        exact (ih sel priority).pre fun _ _ hk =>
          ⟨hk.own, fun j hj => hk.chosen j (.inl hj), hk.missing⟩
      | some p =>
        refine Triple.ite (fun _ => ?_) fun _ => ?_
        · refine (ih (some i) p).pre fun _ _ hk => ⟨hk.own, fun j hj => ?_, hk.missing⟩
          exact hk.chosen j (.inr ⟨rfl, Option.some.inj hj⟩)
        · exact (ih sel priority).pre fun _ _ hk =>
            ⟨hk.own, fun j hj => hk.chosen j (.inl hj), hk.missing⟩

theorem getHighPriorityIface_effect (hf : Finds chosen missing) (hP : Selecting P) :
    Triple (effects inv chosen missing) (Own chosen missing (In P)) getHighPriorityIface
      fun _ => Own chosen missing (In P) := by
  have hlive : ∀ t, In P t → t.Live := fun t => hP.live t.phase
  refine Triple.bind (read_own hlive) fun c => Triple.ite (fun _ => ?_) fun _ =>
    Triple.ret (stable_knows hlive) fun _ _ hk => hk
  refine Triple.bind (read_own hlive) fun is => ?_
  refine Triple.bind ((highPriorityIface_effect hf hP none priorityMax is).pre fun _ _ hk =>
    ⟨hk.own, fun _ hi => (by cases hi), hk.missing⟩) fun sel => ?_
  refine setCtrl_select hP (fun _ => rfl) fun t i hi => ?_
  cases sel with
  | none => exact .inl (by simpa using hi)
  | some j => exact .inr (by simpa using hi)

theorem transitionStart_effect (hf : Finds chosen missing) (hP : Selecting P) :
    Triple (effects inv chosen missing) (Own chosen missing (In P)) transitionStart
      fun _ => Own chosen missing (In P) := by
  have hlive : ∀ t, In P t → t.Live := fun t => hP.live t.phase
  refine Triple.bind (read_own hlive) fun c => Triple.ite (fun _ => ?_) fun _ =>
    Triple.ret (stable_knows hlive) fun _ _ hk => hk
  refine Triple.bind (getPrevSelectedInterface_effect hf hP) fun _ => ?_
  refine Triple.bind (read_own hlive) fun c => Triple.ite (fun _ => ?_) fun _ =>
    Triple.ret (stable_knows hlive) fun _ _ hk => hk
  exact getHighPriorityIface_effect hf hP

/-- The thread enters a state in which it has not settled on an interface; one that it held
is missing. -/
theorem setState_effect {A : PolicyThread → Prop} {m : PolicyThread → Nat → Prop}
    {st : AutoWanState} (hA : ∀ t, A t → t.Live ∧ t.phase.parallel = false)
    (hst : settled st = false) (htearing : st ≠ .tearingDown) (hm : ∀ t i, A t → t.Holds i → m t i) :
    Triple (effects inv chosen missing) (Knows chosen missing A (fun _ _ => False) m) (setState st)
      fun _ => Own chosen missing (In fun p => p = .autoWan st) := by
  refine modify_effect (fun t h => (hA t h).1) (fun t h => ?_) fun x _ hk => ⟨.own ?_, rfl⟩
  · rw [In] at h
    exact ⟨by simp [h], by simp [h]⟩
  exact
    { inst := rfl
      alive := (hA _ hk.own).1
      live := ⟨by simp, by simp⟩
      parallel := (hA _ hk.own).2.symm
      holds := fun i h => .inr (hk.missing i (hm _ i hk.own h))
      settled := by
        rintro i ⟨-, st', hst', hset⟩
        obtain rfl : st = st' := by simpa using hst'
        rw [hst] at hset
        cases hset
      tearing := fun h => absurd (PolicyPhase.autoWan.inj h) htearing
      idx := fun _ i h => .inl h }

/-- While it selects, the thread may enter any state but those in which it has settled. -/
theorem setState_select {st : AutoWanState} (hP : Selecting P) (hst : settled st = false)
    (htearing : st ≠ .tearingDown) :
    Triple (effects inv chosen missing) (Own chosen missing (In P)) (setState st)
      fun _ => Own chosen missing (In fun p => p = .autoWan st) := by
  refine setState_effect (fun t h => ⟨hP.live _ h, hP.serial _ h⟩) hst htearing ?_
  rintro t i h ⟨-, st', hst', hholds⟩
  rw [(hP.free _ h st' hst').1] at hholds
  cases hholds

theorem selecting_created {p : WanPolicy} (hp : p ≠ .parallelScan) :
    Selecting fun q => q = .created p where
  live := by rintro _ rfl; exact ⟨by simp, by simp⟩
  serial := by rintro _ rfl; simpa [PolicyPhase.parallel] using hp
  picking := by rintro _ rfl; rfl
  free := by rintro _ rfl st h; cases h

theorem selecting_state : Selecting fun q => q = .autoWan .selecting where
  live := by rintro _ rfl; exact ⟨by simp, by simp⟩
  serial := by rintro _ rfl; rfl
  picking := by rintro _ rfl; rfl
  free := by rintro _ rfl st' h; cases h; exact ⟨rfl, nofun⟩

theorem start_effect (hf : Finds chosen missing) {p : WanPolicy} (hp : p ≠ .parallelScan) :
    Triple (effects inv chosen missing) (Own chosen missing (In fun q => q = .created p)) start
      fun _ => Own chosen missing (In fun q => q = .autoWan .selecting) := by
  have hP := selecting_created hp
  refine Triple.bind (setCtrl_select hP (fun _ => rfl) fun t i hi => by cases hi) fun _ => ?_
  refine Triple.bind (updateControllerData_effect hP.live) fun _ => ?_
  refine Triple.bind (transitionStart_effect hf hP) fun _ => ?_
  exact setState_select hP rfl nofun

/-! The states without the data of a selected interface. -/

theorem quiet_resetIface (group : Nat) : IfaceQuiet fun d =>
    if d.selection.group = group ∧ d.virtIf.status = .invalid then
      { d with virtIf := { d.virtIf with status := .disabled } }
    else d := by
  refine ⟨fun d => ?_, fun d => ?_, fun d => ?_⟩ <;> split <;> rfl

theorem quiet_initialScanComplete : GroupQuiet fun g => { g with initialScanComplete := true } :=
  ⟨fun _ => rfl, fun _ => rfl, fun _ => rfl, fun _ => rfl⟩

theorem transitionTryingNextInterface_effect (hf : Finds chosen missing) (hP : Selecting P) :
    Triple (effects inv chosen missing) (Own chosen missing (In P)) transitionTryingNextInterface
      fun _ => Own chosen missing (In P) := by
  have hlive : ∀ t, In P t → t.Live := fun t => hP.live t.phase
  refine Triple.bind (getHighPriorityIface_effect hf hP) fun _ => ?_
  refine Triple.bind (read_own hlive) fun c => Triple.ite (fun _ => ?_) fun _ =>
    Triple.ret (stable_knows hlive) fun _ _ hk => hk
  refine Triple.bind (shared_effect hlive (fun _ => rfl) fun _ _ => .group quiet_initialScanComplete)
    fun _ => ?_
  refine Triple.bind (read_own hlive) fun is => ?_
  exact Triple.forEach (stable_knows hlive) fun i _ =>
    shared_effect hlive (fun _ => rfl) fun x h =>
      .iface (hP.live _ h) (quiet_resetIface x.self.ctrl.groupInst) fun d _ hgroup =>
        if_neg fun h => hgroup h.1

/-- What an iteration that was in `st` leaves behind, before the thread may leave. -/
def Looped (st : AutoWanState) (p : PolicyPhase) : Prop :=
  p.Live ∧ (leaving st → p = .autoWan st)

theorem Looped.live {st : AutoWanState} (p : PolicyPhase) (h : Looped st p) : p.Live := h.1

theorem looped_state {st st' : AutoWanState} (h : leaving st → st' = st) :
    Looped st (.autoWan st') :=
  ⟨⟨by simp, by simp⟩, fun hst => by rw [h hst]⟩

theorem selectingNothing_effect (hf : Finds chosen missing) :
    Triple (effects inv chosen missing) (Own chosen missing (In fun p => p = .autoWan .selecting))
      selectingNothing fun _ => Own chosen missing (In fun p => ∃ st, p = .autoWan st) := by
  have hP : Selecting fun p => p = .autoWan .selecting := selecting_state
  have hset : ∀ st, settled st = false → st ≠ .tearingDown → Triple (effects inv chosen missing)
      (Own chosen missing (In fun p => p = .autoWan .selecting)) (setState st)
      fun _ => Own chosen missing (In fun p => ∃ st, p = .autoWan st) := fun st hst htearing =>
    (setState_select hP hst htearing).mono (fun _ _ hk => hk) fun _ x _ hk => own_iff.mpr ⟨st, hk.own⟩
  refine Triple.bind (read_own fun t => hP.live t.phase) fun c =>
    Triple.ite (fun _ => hset .smExit rfl nofun) fun _ => Triple.ite (fun _ => ?_) fun _ =>
      hset .error rfl nofun
  exact (transitionTryingNextInterface_effect hf hP).mono (fun _ _ hk => hk) fun _ x _ hk =>
    own_iff.mpr ⟨.selecting, hk.own⟩

/-- Without the data of its interface a thread only goes on in the states that select one,
and no state changes in which a thread leaves. -/
theorem unlockedState_effect (hf : Finds chosen missing) (st : AutoWanState) :
    Triple (effects inv chosen missing)
      (Knows chosen missing (In fun p => p = .autoWan st) (fun _ _ => False)
        fun t i => t.ctrl.activeInterfaceIdx = some i)
      (unlockedState st) fun _ => Own chosen missing (In (Looped st)) := by
  have hlive : ∀ t : PolicyThread, t.phase = .autoWan st → t.Live ∧ t.phase.parallel = false := by
    intro t h
    rw [PolicyThread.Live, h]
    exact ⟨⟨by simp, by simp⟩, rfl⟩
  have hstay : Triple (effects inv chosen missing)
      (Knows chosen missing (In fun p => p = .autoWan st) (fun _ _ => False)
        fun t i => t.ctrl.activeInterfaceIdx = some i)
      (Prog.ret ()) fun _ => Own chosen missing (In (Looped st)) := by
    refine Triple.ret (stable_knows fun t => Looped.live t.phase) fun x _ hk => own_iff.mpr ?_
    have hphase : x.self.phase = .autoWan st := hk.own
    rw [In, hphase]
    exact looped_state fun _ => rfl
  have hset : ∀ st', settled st' = false → st' ≠ .tearingDown → ¬ leaving st →
      Triple (effects inv chosen missing)
      (Knows chosen missing (In fun p => p = .autoWan st) (fun _ _ => False)
        fun t i => t.ctrl.activeInterfaceIdx = some i)
      (setState st') fun _ => Own chosen missing (In (Looped st)) := by
    intro st' hst' htearing hst
    refine (setState_effect hlive hst' htearing fun t i _ hh => hh.1).mono (fun _ _ hk => hk)
      fun _ x _ hk => own_iff.mpr ?_
    have hphase : x.self.phase = .autoWan st' := hk.own
    rw [In, hphase]
    exact looped_state fun h => absurd h hst
  cases st with
  | selecting =>
    refine (selectingNothing_effect hf).mono (fun _ _ hk => own_iff.mpr hk.own)
      fun _ x _ hk => own_iff.mpr ?_
    obtain ⟨st', hst'⟩ := hk.own
    rw [In, hst']
    exact looped_state fun h => absurd h (by decide)
  | rebootPlatform => exact hset .smExit rfl (by decide) (by decide)
  | tearingDown | smExit | error => exact hstay
  | waiting | scanning | teardown | reconfiguration | active | down =>
    exact hset .error rfl (by decide) (by decide)

theorem lockedState_leaving {st : AutoWanState} (h : leaving st) (i : Nat) (d : WanIface)
    (x : PolicyView) : (lockedState st i d x).1 = st := by
  rcases h with rfl | rfl <;> rfl

/-- Every section of an iteration of the loop is one of the steps of `Effect`. -/
theorem loop_effect (hf : Finds chosen missing) (st : AutoWanState) :
    Triple (effects inv chosen missing) (Own chosen missing (In fun p => p = .autoWan st)) (loop st)
      fun _ _ => True := by
  have hlive : ∀ p : PolicyPhase, p = .autoWan st → p.Live := by rintro _ rfl; exact ⟨by simp, by simp⟩
  refine Triple.bind (updateControllerData_effect hlive) fun _ => ?_
  refine Triple.bind (Q := fun _ => Own chosen missing (In (Looped st))) ?_ fun _ => ?_
  · refine Triple.lockedIf (stable_knows fun t => hlive t.phase)
      (fun _ => stable_knows fun t => Looped.live t.phase) (fun x a _ _ hk ha => ?_)
      (fun x _ _ hk hnone => ⟨hk.own, hk.chosen, fun i hi => ?_⟩) (unlockedState_effect hf st)
    · exact ⟨.autoWan hk.own ha, fun _ => own_iff.mpr (looped_state fun h => lockedState_leaving h _ _ _)⟩
    · apply hf.missing
      simpa [PolicyView.activeIface?, hi] using hnone
  · refine Triple.ite (fun hst => ?_) fun _ => Triple.ret (fun _ _ _ _ _ => trivial) fun _ _ _ => trivial
    refine policyExit_effect Looped.live fun t i h hh => ?_
    obtain ⟨-, st', hst', hholds⟩ := hh
    rw [h.2 hst] at hst'
    obtain rfl : st = st' := by simpa using hst'
    rcases hst with rfl | rfl <;> cases hholds

end AutoWan
end AutoWan

/-! ## Parallel scan -/

namespace ParallelScan
open Policy

section ParallelScan

variable {inv : PolicyView → Prop} {chosen missing : PolicyView → Nat → Prop}
  {P : PolicyPhase → Prop}

/-- The phases of a parallel scan. -/
structure Scanning (P : PolicyPhase → Prop) : Prop where
  live : ∀ p, P p → p.Live
  parallel : ∀ p, P p → p.parallel = true

theorem not_autoWan {p : PolicyPhase} (h : p.parallel = true) (st : AutoWanState) :
    p ≠ .autoWan st := by
  rintro rfl
  cases h

/-- A parallel scan never holds an interface in the sense of AutoWAN. -/
theorem ownStep_scan {x : PolicyView} {t : PolicyThread} (halive : x.self.Live)
    (hx : x.self.phase.parallel = true)
    (ht : t.phase.parallel = true) (hlive : t.Live)
    (hinst : t.ctrl.groupInst = x.self.ctrl.groupInst) : OwnStep chosen missing x t where
  inst := hinst
  alive := halive
  live := hlive
  parallel := ht.trans hx.symm
  holds := by
    rintro i ⟨-, st, hst, -⟩
    exact absurd hst (not_autoWan hx st)
  settled := by
    rintro i ⟨-, st, hst, -⟩
    exact absurd hst (not_autoWan ht st)
  tearing h := absurd h (not_autoWan ht _)
  idx h := by
    rw [ht] at h
    cases h

/-- A section that changes the controller, and not the group. -/
theorem ctrl_scan {l : Site} {f : PolicyView → PolicyView} (hP : Scanning P)
    (hf : ∀ x, f x = { x with self := { x.self with ctrl := (f x).self.ctrl } })
    (hinst : ∀ x, (f x).self.ctrl.groupInst = x.self.ctrl.groupInst) :
    Triple (effects inv chosen missing) (Own chosen missing (In P)) (.modify l f) fun _ =>
      Own chosen missing (In P) := by
  refine modify_effect (fun t => hP.live t.phase) (fun t => hP.live t.phase) fun x _ hk => ?_
  have hpar := hP.parallel _ hk.own
  rw [hf x]
  exact ⟨.own (ownStep_scan (hP.live _ hk.own) hpar hpar (hP.live _ hk.own) (hinst x)), hk.own⟩

theorem setState_scan {st : ParallelScanState} (hP : Scanning P) :
    Triple (effects inv chosen missing) (Own chosen missing (In P)) (setState st) fun _ =>
      Own chosen missing (In fun p => p = .parallelScan st) := by
  have hlive : (PolicyPhase.parallelScan st).Live := ⟨by simp, by simp⟩
  refine modify_effect (fun t => hP.live t.phase) (fun t h => ?_) fun x _ hk => ⟨.own ?_, rfl⟩
  · rw [In] at h
    rw [PolicyThread.Live, h]
    exact hlive
  · exact ownStep_scan (hP.live _ hk.own) (hP.parallel _ hk.own) rfl hlive rfl

/-- One interface of a loop of the scan. -/
theorem shared_scan {l : Site} {f : PolicyView → PolicyView} (hP : Scanning P)
    (hself : ∀ x, (f x).self = x.self)
    (hstep : ∀ x, x.self.phase.parallel = true → Effect chosen missing l x (f x)) :
    Triple (effects inv chosen missing) (Own chosen missing (In P)) (.modify l f) fun _ =>
      Own chosen missing (In P) :=
  shared_effect (fun t => hP.live t.phase) hself fun x h => hstep x (hP.parallel _ h)

theorem read_scan {α : Type} {l : Site} {g : PolicyView → α} (hP : Scanning P) :
    Triple (effects inv chosen missing) (Own chosen missing (In P)) (.read l g) fun _ =>
      Own chosen missing (In P) :=
  read_own fun t => hP.live t.phase

theorem ret_scan {α : Type} (a : α) (hP : Scanning P) :
    Triple (effects inv chosen missing) (Own chosen missing (In P)) (.ret a) fun _ =>
      Own chosen missing (In P) :=
  Triple.ret (stable_knows fun t => hP.live t.phase) fun _ _ hk => hk

theorem scanning_created : Scanning fun p => p = .created .parallelScan where
  live := by rintro _ rfl; exact ⟨by simp, by simp⟩
  parallel := by rintro _ rfl; rfl

theorem scanning_state (st : ParallelScanState) : Scanning fun p => p = .parallelScan st where
  live := by rintro _ rfl; exact ⟨by simp, by simp⟩
  parallel := by rintro _ rfl; rfl

theorem start_effect :
    Triple (effects inv chosen missing)
      (Own chosen missing (In fun p => p = .created .parallelScan)) start
      fun _ => Own chosen missing (In fun p => p = .parallelScan .scanningInterface) := by
  have hP := scanning_created
  refine Triple.bind (ctrl_scan hP (fun _ => rfl) fun _ => rfl) fun _ => ?_
  refine Triple.bind (updateControllerData_effect hP.live) fun _ => ?_
  refine Triple.bind (Q := fun _ => Own chosen missing (In fun p => p = .created .parallelScan)) ?_
    fun _ => setState_scan hP
  refine Triple.bind (read_scan hP) fun is => ?_
  refine Triple.bind (Triple.forEach (stable_knows fun t => hP.live t.phase) fun i _ =>
    ctrl_scan hP (fun x => ?_) fun x => ?_) fun _ => ?_
  · unfold startIface
    split
    · rfl
    · split <;> rfl
  · unfold startIface
    split
    · rfl
    · split <;> rfl
  refine Triple.bind (shared_scan hP (fun _ => rfl) fun _ _ => .group AutoWan.quiet_initialScanComplete)
    fun _ => ?_
  exact ctrl_scan hP (fun _ => rfl) fun _ => rfl

theorem scanIfaces_effect (hP : Scanning P) (c : Scan) (is : List Nat) :
    Triple (effects inv chosen missing) (Own chosen missing (In P)) (scanIfaces c is) fun _ =>
      Own chosen missing (In P) := by
  induction is generalizing c with
  | nil => exact ret_scan c hP
  | cons i is ih =>
    refine Triple.bind (read_scan hP) fun r => ?_
    obtain ⟨done, c'⟩ := r
    cases done with
    | true => exact ret_scan c' hP
    | false => exact ih c'

theorem transitionNewInterfaceConnected_self (i : Nat) (x : PolicyView) :
    (transitionNewInterfaceConnected i x).self = x.self := by
  unfold transitionNewInterfaceConnected
  split
  · rfl
  · simp [PolicyView.mapShared, setSelection]

theorem findNewInterface_effect (hP : Scanning P) (last : Bool) (is : List Nat) :
    Triple (effects inv chosen missing) (Own chosen missing (In P)) (findNewInterface last is) fun _ =>
      Own chosen missing (In P) := by
  induction is with
  | nil => exact ret_scan () hP
  | cons i is ih =>
    refine Triple.bind (read_scan hP) fun found => Triple.ite (fun _ => ?_) fun _ => ih
    exact shared_scan hP (transitionNewInterfaceConnected_self i) fun _ hx => .connected hx

theorem transitionSelectingInterface_effect (hP : Scanning P) (i : Nat) :
    Triple (effects inv chosen missing) (Own chosen missing (In P)) (transitionSelectingInterface i)
      fun _ => Own chosen missing (In fun p => p = .parallelScan .checkReconfiguration) := by
  refine Triple.bind (ctrl_scan hP (fun _ => rfl) fun _ => rfl) fun _ => ?_
  refine Triple.bind (read_scan hP) fun is => ?_
  refine Triple.bind (Triple.forEach (stable_knows fun t => hP.live t.phase) fun j _ =>
    shared_scan hP (fun _ => rfl) fun _ hx => .selectIface hx) fun _ => ?_
  refine Triple.bind (shared_scan hP (fun _ => rfl) fun _ hx => .selectGroup hx) fun _ => ?_
  exact setState_scan hP

/-- The states in which the thread leaves. -/
def leaving (st : ParallelScanState) : Prop := st = .policyExit ∨ st = .policyError

instance (st : ParallelScanState) : Decidable (leaving st) := inferInstanceAs (Decidable (_ ∨ _))

/-- The thread is in one of the states of its loop. -/
abbrev Looping (p : PolicyPhase) : Prop := ∃ st, p = .parallelScan st

theorem scanning_looping : Scanning Looping where
  live := by rintro _ ⟨st, rfl⟩; exact ⟨by simp, by simp⟩
  parallel := by rintro _ ⟨st, rfl⟩; rfl

theorem looping_of {st : ParallelScanState} {p : PolicyProg Unit}
    (h : Triple (effects inv chosen missing) (Own chosen missing (In P)) p
      fun _ => Own chosen missing (In fun p => p = .parallelScan st)) :
    Triple (effects inv chosen missing) (Own chosen missing (In P)) p
      fun _ => Own chosen missing (In Looping) :=
  h.mono (fun _ _ hk => hk) fun _ _ _ hk => own_iff.mpr ⟨st, hk.own⟩

theorem unlockedState_effect (st : ParallelScanState) :
    Triple (effects inv chosen missing) (Own chosen missing (In fun p => p = .parallelScan st))
      (unlockedState st) fun _ => Own chosen missing (In Looping) := by
  have hP := scanning_state st
  have hset : ∀ st', Triple (effects inv chosen missing)
      (Own chosen missing (In fun p => p = .parallelScan st)) (setState st')
      fun _ => Own chosen missing (In Looping) := fun st' => looping_of (setState_scan hP)
  have hstay : Triple (effects inv chosen missing)
      (Own chosen missing (In fun p => p = .parallelScan st)) (Prog.ret ())
      fun _ => Own chosen missing (In Looping) := looping_of (ret_scan () hP)
  have hfind : ∀ last is, Triple (effects inv chosen missing)
      (Own chosen missing (In fun p => p = .parallelScan st)) (findNewInterface last is)
      fun _ => Own chosen missing (In Looping) := fun last is =>
    looping_of (findNewInterface_effect hP last is)
  cases st with
  | scanningInterface =>
    refine Triple.bind (read_scan hP) fun c => Triple.ite (fun _ => hset _) fun _ => ?_
    refine Triple.bind (read_scan hP) fun is => ?_
    refine Triple.bind (scanIfaces_effect hP {} is) fun c => ?_
    cases ha : c.activeIface with
    | none =>
      rw [scanned_none ha]
      exact Triple.bind (read_scan hP) fun is => hfind _ is
    | some i =>
      rw [scanned_some ha]
      refine Triple.bind (read_scan hP) fun expired => Triple.ite (fun _ => ?_) fun _ => ?_
      · exact looping_of (transitionSelectingInterface_effect hP i)
      · exact Triple.bind (read_scan hP) fun is => hfind _ is
  | checkReconfiguration =>
    refine Triple.bind (read_scan hP) fun c => Triple.ite (fun _ => hset _) fun _ => ?_
    exact Triple.bind (read_scan hP) fun required => hset _
  | reboot | policyExit | policyError => exact hstay
  | reconfigurePlatform | selectedInterfaceUp | selectedInterfaceDown | interfaceTearDown =>
    exact hset _

/-- Every section of an iteration of the loop is one of the steps of `Effect`. -/
theorem loop_effect (st : ParallelScanState) :
    Triple (effects inv chosen missing) (Own chosen missing (In fun p => p = .parallelScan st))
      (loop st) fun _ _ => True := by
  have hP := scanning_state st
  have hlooping := scanning_looping
  refine Triple.bind (updateControllerData_effect hP.live) fun _ => ?_
  refine Triple.bind (Q := fun _ => Own chosen missing (In Looping)) ?_ fun _ => ?_
  · refine Triple.lockedIf (stable_knows fun t => hP.live t.phase)
      (fun _ => stable_knows fun t => hlooping.live t.phase) (fun x a _ _ hk ha => ?_)
      (fun _ _ _ hk _ => hk) (unlockedState_effect st)
    exact ⟨.parallelScan hk.own ha, fun _ => own_iff.mpr ⟨_, rfl⟩⟩
  · refine Triple.ite (fun _ => ?_) fun _ => Triple.ret (fun _ _ _ _ _ => trivial) fun _ _ _ => trivial
    refine policyExit_effect hlooping.live fun t i h hh => ?_
    obtain ⟨-, st', hst', -⟩ := hh
    exact not_autoWan (hlooping.parallel _ h) st' hst'

end ParallelScan
end ParallelScan

/-! ## A tick -/

namespace Policy

variable {inv : PolicyView → Prop} {chosen missing : PolicyView → Nat → Prop}

/-- Every section of a tick of a selection thread is one of the steps of `Effect`. -/
theorem tick_effect (hf : Finds chosen missing) :
    Triple (effects inv chosen missing) (Own chosen missing PolicyThread.Live) tick
      fun _ _ => True := by
  refine Triple.bind (Q := fun p => Own chosen missing (In fun q => q = p ∧ p.Live))
    (read_effect (fun _ h => h) (fun p => stable_knows fun t h => ?_) fun x _ hk => ?_) fun p => ?_
  · rw [PolicyThread.Live, h.1]
    exact h.2
  · exact own_iff.mpr ⟨rfl, hk.own⟩
  have hpre : ∀ x, inv x → Own chosen missing (In fun q => q = p ∧ p.Live) x →
      Own chosen missing (In fun q => q = p) x := fun x _ hk => own_iff.mpr hk.own.1
  have hgone : ¬ p.Live → Triple (effects inv chosen missing)
      (Own chosen missing (In fun q => q = p ∧ p.Live)) (Prog.ret ()) fun _ _ => True :=
    fun _ => Triple.ret (fun _ _ _ _ _ => trivial) fun _ _ _ => trivial
  cases p with
  | absent => exact hgone (by simp [PolicyPhase.Live])
  | exited => exact hgone (by simp [PolicyPhase.Live])
  | autoWan st => exact (AutoWan.loop_effect hf st).pre hpre
  | parallelScan st => exact (ParallelScan.loop_effect st).pre hpre
  | created policy =>
    by_cases h : policy = .parallelScan
    · subst h
      exact (ParallelScan.start_effect.pre hpre).mono (fun _ _ h => h) fun _ _ _ _ => trivial
    · have hstart : Triple (effects inv chosen missing)
          (Own chosen missing (In fun q => q = .created policy ∧ (PolicyPhase.created policy).Live))
          AutoWan.start fun _ _ => True :=
        ((AutoWan.start_effect hf h).pre hpre).mono (fun _ _ h => h) fun _ _ _ _ => trivial
      cases policy <;> first | exact hstart | exact absurd rfl h

end Policy
end WanManager
