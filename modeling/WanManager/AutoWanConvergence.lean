import WanManager.Concurrency.LeadsTo
import WanManager.ScanCycleRuns
import Mathlib.Data.Finset.Max
import Mathlib.Data.Finset.Range
import Mathlib.Data.Prod.Lex

/-! # AutoWAN comes to the first interface that works

One selection thread in surroundings that have become steady: nothing is configured, an interface of the
group either works whenever it is tried or never, and waits end. Between two ticks everything else may
change. The thread tries the interfaces by priority, and is at rest in the end with the first one that
works; if none does, it goes on trying for ever. -/

namespace WanManager
open Concurrency

namespace AutoWan
open Policy ScanCycle

/-! ## One tick -/

/-- `WanMgr_UpdateControllerData` in one go. -/
def synced (x : PolicyView) : PolicyView := copyGroup (copyTotalIfaces (copyConfig x))

section Tick

variable {x : PolicyView} {st : AutoWanState} {i : Nat} {d : WanIface}

@[simp] theorem shared_synced (x : PolicyView) : (synced x).shared = x.shared := by
  unfold synced copyGroup
  split <;> rfl

theorem self_synced (x : PolicyView) : (synced x).self.phase = x.self.phase ∧
    (synced x).self.ctrl.activeInterfaceIdx = x.self.ctrl.activeInterfaceIdx ∧
    (synced x).self.ctrl.groupInst = x.self.ctrl.groupInst ∧
    (synced x).self.ctrl.selectionTimeOutStart = x.self.ctrl.selectionTimeOutStart ∧
    (synced x).self.ctrl.totalIfaces = x.shared.ifaces.length ∧
    (synced x).self.ctrl.wanEnable = x.shared.config.enable ∧
    (synced x).self.ctrl.allowRemoteInterfaces = x.shared.config.allowRemoteInterfaces := by
  unfold synced copyGroup
  split <;> exact ⟨rfl, rfl, rfl, rfl, rfl, rfl, rfl⟩

theorem run_updateControllerData (x : PolicyView) : updateControllerData.run x = ((), synced x) := rfl

theorem tick_locked (hphase : x.self.phase = .autoWan st) (hst : st ≠ .smExit ∧ st ≠ .error)
    (hidx : x.self.ctrl.activeInterfaceIdx = some i) (hd : x.shared.ifaces[i]? = some d)
    (hinst : x.self.ctrl.groupInst ≠ 0) :
    (Policy.tick.run x).2 = enterState (lockedState st i d (synced x)) := by
  obtain ⟨-, hidx', hinst', -⟩ := self_synced x
  have hactive : (synced x).activeIface? = some (i, d) := by
    simp [PolicyView.activeIface?, hidx', hidx, hd]
  rw [Policy.tick_autoWan hphase, loop, Prog.run_bind, run_updateControllerData, Prog.run_bind,
    Prog.run_lockedIf_some hactive, Prog.run_modify, if_neg (not_or.mpr hst)]
  show enterState (lockedState st i d (adoptGroup d (synced x))) = _
  have hadopt : adoptGroup d (synced x) = synced x := by
    unfold adoptGroup PolicyView.mapCtrl
    dsimp only
    rw [if_neg (hinst'.trans_ne hinst)]
  rw [hadopt]

end Tick

/-! ## The search -/

/-- The priority of an interface of the group that the policy may select, whatever its status. -/
def slot (x : PolicyView) (i : Nat) : Option Int :=
  ((ours? x i).filter fun d => d.selection.enable ∧ 0 ≤ d.selection.priority ∧
    d.selection.priority < priorityMax ∧ (d.ifaceType = .remote → x.shared.config.allowRemoteInterfaces)).map
      (·.selection.priority)

def statusOf (x : PolicyView) (i : Nat) : Option IfaceStatus := (ours? x i).map ScanCycle.status

/-- An interface with priority `p` is tried before one with priority `q`. -/
def Earlier (p : Int) (i : Nat) (q : Int) (j : Nat) : Prop := p < q ∨ (p = q ∧ i ≤ j)

section Search

variable {x : PolicyView} {i j : Nat} {p q : Int} {sel : Option Nat}

theorem Earlier.trans {k : Nat} {s : Int} (h : Earlier p i q j) (h' : Earlier q j s k) : Earlier p i s k := by
  unfold Earlier at *
  omega

/-- What the loop has found after some interfaces, the later ones being `is`. -/
structure Found (x : PolicyView) (sel : Option Nat) (p : Int) (is : List Nat) : Prop where
  limit : p ≤ priorityMax
  nothing : sel = none → p = priorityMax
  something : ∀ i, sel = some i → candidate x i = some p ∧ ∀ j ∈ is, i < j
  first : ∀ j q, j ∉ is → candidate x j = some q → ∃ i, sel = some i ∧ Earlier p i q j

end Search

/-! ## Steady surroundings -/

/-- The thread works on the interface `i` in this state. -/
structure At (st : AutoWanState) (i : Nat) (x : PolicyView) : Prop where
  phase : x.self.phase = .autoWan st
  idx : x.self.ctrl.activeInterfaceIdx = some i

/-- The thread has no interface, and is about to look for one. -/
structure Free (x : PolicyView) : Prop where
  phase : x.self.phase = .autoWan .selecting
  idx : x.self.ctrl.activeInterfaceIdx = none

/-- An interface of the group is enabled. -/
def EnabledAt (x : PolicyView) (i : Nat) : Prop := ∃ d, ours? x i = some d ∧ d.selection.enable = true

/-- What is taken for granted at every tick: the group and its interfaces are configured as ever, and the
interface that is being tried does what it is worth. -/
structure Steady (slots : Nat → Option Int) (works : Nat → Bool) (n : Nat) (x : PolicyView) : Prop where
  enabled : x.shared.config.enable = true
  inst : x.self.ctrl.groupInst ≠ 0
  group : ∃ g, x.shared.group? x.self.ctrl.groupInst = some g ∧ g.configChanged = false ∧
    g.resetSelectedInterface = false ∧ g.persistSelectedIface = false
  length : x.shared.ifaces.length = n
  slots : ∀ i, slot x i = slots i
  several : ∃ i j, i ≠ j ∧ EnabledAt x i ∧ EnabledAt x j
  noReboot : ∀ i j, rebootRequired x i j = false
  link : ∀ i d, works i = true → At .waiting i x → x.shared.ifaces[i]? = some d → timerExpired x = true →
    d.baseInterfaceStatus = .up
  running : ∀ i, At .scanning i x ∨ At .reconfiguration i x ∨ At .active i x →
    ismRunningStatus x.shared i = true
  scan : ∀ i d, At .scanning i x → x.shared.ifaces[i]? = some d →
    if works i then 0 < x.self.ctrl.selectionTimeOutStart ∧ timerExpired x = true → validated d.virtIf.status = true
    else validated d.virtIf.status = false
  up : ∀ i d, At .active i x → x.shared.ifaces[i]? = some d → d.baseInterfaceStatus = .up

/-- What others do between two ticks. -/
structure Between (x x' : PolicyView) : Prop where
  self : x'.self = x.self
  status : ∀ i, x.self.ctrl.activeInterfaceIdx ≠ some i → statusOf x' i = statusOf x i

/-- The link of the interface is waited for. -/
def LinkWaits (x : PolicyView) : Prop :=
  ∃ i d, At .waiting i x ∧ x.shared.ifaces[i]? = some d ∧ d.baseInterfaceStatus ≠ .up ∧ timerExpired x = false

/-- Its state machine is waited for. -/
def ScanWaits (x : PolicyView) : Prop :=
  ∃ i d, At .scanning i x ∧ x.shared.ifaces[i]? = some d ∧ validated d.virtIf.status = false ∧
    ¬ (0 < x.self.ctrl.selectionTimeOutStart ∧ timerExpired x = true)

/-- The state machine is ending. -/
def EndWaits (x : PolicyView) : Prop := ∃ i, At .teardown i x ∧ ismRunningStatus x.shared i = true

/-- The views the ticks of the thread start from; no wait lasts for ever. -/
structure SteadyRun (slots : Nat → Option Int) (works : Nat → Bool) (n : Nat) (r : Nat → PolicyView) : Prop where
  tick : ∀ k, Between (Policy.tick.run (r k)).2 (r (k + 1))
  steady : ∀ k, Steady slots works n (r k)
  links : ∀ k, ∃ j, k ≤ j ∧ ¬ LinkWaits (r j)
  scans : ∀ k, ∃ j, k ≤ j ∧ ¬ ScanWaits (r j)
  ends : ∀ k, ∃ j, k ≤ j ∧ ¬ EndWaits (r j)

/-- What is known of the interfaces that are not being tried. -/
def others (x : PolicyView) (i : Nat) : Option IfaceStatus :=
  if x.self.ctrl.activeInterfaceIdx = some i then none else statusOf x i

section Steady

variable {slots : Nat → Option Int} {works : Nat → Bool} {n : Nat} {x x' : PolicyView} {st : AutoWanState}
  {i : Nat} {d : WanIface}

theorem Between.others (h : Between x x') : others x' = others x := by
  funext i
  unfold AutoWan.others
  rw [h.self]
  split
  · rfl
  · next hne => exact h.status i hne

theorem Between.at (h : Between x x') (hi : At st i x) : At st i x' :=
  ⟨by rw [h.self]; exact hi.phase, by rw [h.self]; exact hi.idx⟩

theorem Between.free (h : Between x x') (hfree : Free x) : Free x' :=
  ⟨by rw [h.self]; exact hfree.phase, by rw [h.self]; exact hfree.idx⟩

/-- Nothing stops the thread. -/
theorem Steady.goesOn (h : Steady slots works n x) : stops (synced x).self.ctrl = false ∧
    (synced x).self.ctrl.resetSelectedInterface = false ∧
    (synced x).self.ctrl.groupPersistSelectedIface = false := by
  obtain ⟨g, hg, hchanged, hreset, hpersist⟩ := h.group
  have hg' : (copyTotalIfaces (copyConfig x)).shared.group?
      (copyTotalIfaces (copyConfig x)).self.ctrl.groupInst = some g := hg
  have henabled := (self_synced x).2.2.2.2.2.1.trans h.enabled
  unfold stops
  rw [henabled]
  unfold synced copyGroup
  rw [hg']
  exact ⟨hchanged, hreset, hpersist⟩

theorem Steady.at_slot (h : Steady slots works n x) (hslot : slots i ≠ none) :
    ∃ d, x.shared.ifaces[i]? = some d ∧ d.selection.group = x.self.ctrl.groupInst ∧
      d.selection.enable = true := by
  obtain ⟨p, hp⟩ := Option.ne_none_iff_exists'.mp hslot
  rw [← h.slots, slot, Option.map_eq_some_iff] at hp
  obtain ⟨d, hd, -⟩ := hp
  rw [Option.filter_eq_some_iff, decide_eq_true_iff] at hd
  obtain ⟨hd, henable, -⟩ := hd
  obtain ⟨hd, hgroup⟩ := ours?_eq_some.mp hd
  exact ⟨d, hd, hgroup, henable⟩

theorem ours?_synced (x : PolicyView) (i : Nat) : ours? (synced x) i = ours? x i := by
  rw [ours?, ours?, shared_synced, (self_synced x).2.2.1]

theorem quiet_synced (x : PolicyView) : Quiet x (synced x) :=
  .of_same (self_synced x).2.2.1 (by rw [shared_synced]) (by rw [shared_synced])

/-- There is always another interface to try. -/
theorem Steady.not_onlyPossible (h : Steady slots works n x) : onlyPossible i d (synced x) = false := by
  obtain ⟨a, b, hab, ha, hb⟩ := h.several
  have hother : ∃ j, j ≠ i ∧ EnabledAt x j := by
    by_cases hai : a = i
    · exact ⟨b, fun hbi => hab (hai.trans hbi.symm), hb⟩
    · exact ⟨a, hai, ha⟩
  obtain ⟨j, hji, dj, hdj, henable⟩ := hother
  have hours := hdj
  rw [← ours?_synced, ours?_eq_some] at hours
  have hpossible : otherPossible (synced x) i j = true := by
    unfold otherPossible
    rw [hours.1]
    simp [hours.2, hji, henable]
  have hmem : j ∈ (synced x).ifaceRange := by
    rw [PolicyView.ifaceRange, List.mem_range, (self_synced x).2.2.2.2.1, ← shared_synced x]
    exact (List.getElem?_eq_some_iff.mp hours.1).1
  have hall : (synced x).ifaceRange.all (fun j => !otherPossible (synced x) i j) = false := by
    rw [List.all_eq_false]
    exact ⟨j, hmem, by simp [hpossible]⟩
  unfold onlyPossible
  rw [hall, h.goesOn.2.2]
  simp

theorem timerExpired_synced (x : PolicyView) : timerExpired (synced x) = timerExpired x := by
  rw [timerExpired, timerExpired, shared_synced, (self_synced x).2.2.2.1]

/-! ## What a tick does to the interface that is tried -/

/-- The tick goes on with the interface. -/
theorem others_stays (hquiet : Quiet x x') (hidx : x'.self.ctrl.activeInterfaceIdx = x.self.ctrl.activeInterfaceIdx) :
    others x' = others x := by
  funext j
  unfold others
  rw [hidx]
  split
  · rfl
  · exact hquiet.status j

end Steady

section Ticks

variable {slots : Nat → Option Int} {works : Nat → Bool} {n : Nat} {x y z : PolicyView} {st st' : AutoWanState}
  {i : Nat} {d : WanIface}

/-- The thread goes on with the interface, and leaves the others alone. -/
structure Keeps (st : AutoWanState) (i : Nat) (x z : PolicyView) : Prop where
  stays : At st i z
  others : others z = others x

theorem others_enterState (r : AutoWanState × PolicyView) : others (enterState r) = others r.2 := rfl

theorem keeps_of_quiet (hi : At st i x) (hquiet : Quiet (synced x) y)
    (hidx : y.self.ctrl.activeInterfaceIdx = (synced x).self.ctrl.activeInterfaceIdx) :
    Keeps st' i x (enterState (st', y)) := by
  have hidx' := hidx.trans (self_synced x).2.1
  refine ⟨⟨rfl, hidx'.trans hi.idx⟩, ?_⟩
  rw [others_enterState]
  exact others_stays ((quiet_synced x).trans hquiet) hidx'

theorem Steady.tick_at (h : Steady slots works n x) (hi : At st i x) (hst : st ≠ .smExit ∧ st ≠ .error)
    (hslot : slots i ≠ none) :
    ∃ d, x.shared.ifaces[i]? = some d ∧ d.selection.enable = true ∧ statusOf x i ≠ none ∧
      (Policy.tick.run x).2 = enterState (lockedState st i d (synced x)) := by
  obtain ⟨d, hd, hgroup, henable⟩ := h.at_slot hslot
  have hours : ours? x i = some d := ours?_eq_some.mpr ⟨hd, hgroup⟩
  exact ⟨d, hd, henable, by simp [statusOf, hours], tick_locked hi.phase hst hi.idx hd h.inst⟩

theorem ismRunningStatus_synced (x : PolicyView) (i : Nat) :
    ismRunningStatus (synced x).shared i = ismRunningStatus x.shared i := by
  rw [shared_synced]

theorem Steady.tick_scanning (h : Steady slots works n x) (hi : At .scanning i x) (hslot : slots i ≠ none) :
    (Keeps .scanning i x (Policy.tick.run x).2 ∧ ScanWaits x) ∨
      (Keeps .reconfiguration i x (Policy.tick.run x).2 ∧ works i = true) ∨
      (Keeps .teardown i x (Policy.tick.run x).2 ∧ works i = false) := by
  obtain ⟨d, hd, henable, hstatus, htick⟩ := h.tick_at hi (by decide) hslot
  have hscan := h.scan i d hi hd
  rw [htick, lockedState, stateScanningInterface, h.goesOn.1, henable, h.not_onlyPossible,
    ismRunningStatus_synced, h.running i (.inl hi), timerExpired_synced, (self_synced x).2.2.2.1]
  cases hvalid : validated d.virtIf.status with
  | true =>
    simp only [Bool.false_eq_true, if_false, Bool.not_true, if_true]
    refine .inr (.inl ⟨keeps_of_quiet hi ?_ rfl, ?_⟩)
    · exact ((ScanCycle.quiet_setActiveLink i true _).trans (quiet_setGroupSelected _ _)).trans (.mapCtrl rfl)
    · by_contra hworks
      rw [if_neg hworks, hvalid] at hscan
      cases hscan
  | false =>
    by_cases hexpired : 0 < x.self.ctrl.selectionTimeOutStart ∧ timerExpired x = true
    · simp only [Bool.false_eq_true, if_false, Bool.not_true, hexpired.1, hexpired.2, decide_true, Bool.and_self,
        if_true]
      refine .inr (.inr ⟨keeps_of_quiet hi (quiet_setSelection i .notSelected _) rfl, ?_⟩)
      by_contra hworks
      rw [if_pos (by simpa using hworks)] at hscan
      rw [hscan hexpired] at hvalid
      cases hvalid
    · have hgo : (decide (0 < x.self.ctrl.selectionTimeOutStart) && timerExpired x) = false := by
        simpa using hexpired
      simp only [Bool.false_eq_true, if_false, Bool.not_true, hgo]
      exact .inl ⟨keeps_of_quiet hi (.refl _) rfl, i, d, hi, hd, hvalid, hexpired⟩

end Ticks

/-! ## What a tick does without an interface -/

section Choose

variable {slots : Nat → Option Int} {works : Nat → Bool} {n : Nat} {x y : PolicyView} {i : Nat} {p : Int}

end Choose

/-! ## What the thread comes to -/

/-- An interface is tried, and this is known of the others. -/
def Trial (st : AutoWanState) (i : Nat) (o : Nat → Option IfaceStatus) (x : PolicyView) : Prop :=
  At st i x ∧ others x = o

/-- It was validated, if it works, or given up. -/
def Decided (works : Nat → Bool) (i : Nat) (o : Nat → Option IfaceStatus) (x : PolicyView) : Prop :=
  (works i = true ∧ Trial .reconfiguration i o x) ∨
    (works i = false ∧ Free x ∧ others x = Function.update o i (some .invalid))

/-- Of the interfaces that may be selected only those that do not work were given up. -/
def Pending (slots : Nat → Option Int) (works : Nat → Bool) (o : Nat → Option IfaceStatus) : Prop :=
  ∀ i, slots i ≠ none → o i = some .disabled ∨ (o i = some .invalid ∧ works i = false)

/-- How many interfaces were not tried yet. -/
def untried (slots : Nat → Option Int) (n : Nat) (o : Nat → Option IfaceStatus) : Nat :=
  ((Finset.range n).filter fun i => slots i ≠ none ∧ o i = some .disabled).card

section Runs

variable {slots : Nat → Option Int} {works : Nat → Bool} {n : Nat} {r : Nat → PolicyView} {i k best : Nat}
  {o : Nat → Option IfaceStatus}

theorem SteadyRun.keeps (hrun : SteadyRun slots works n r) {st : AutoWanState}
    (h : Keeps st i (r k) (Policy.tick.run (r k)).2) (ho : others (r k) = o) : Trial st i o (r (k + 1)) :=
  ⟨(hrun.tick k).at h.stays, (hrun.tick k).others.trans (h.others.trans ho)⟩

theorem Pending.spend (h : Pending slots works o) (hworks : works i = false) :
    Pending slots works (Function.update o i (some .invalid)) := by
  intro j hslot
  by_cases hij : j = i
  · rw [hij, Function.update_self]
    exact .inr ⟨rfl, hworks⟩
  · rw [Function.update_of_ne hij]
    exact h j hslot

theorem Free.others {x : PolicyView} (h : Free x) (i : Nat) : others x i = statusOf x i := by
  unfold AutoWan.others
  rw [h.idx]
  exact if_neg fun h => nomatch h

theorem At.unique {st st' : AutoWanState} {i j : Nat} {x : PolicyView} (h : At st i x) (h' : At st' j x) :
    st = st' ∧ i = j := by
  have hphase := h.phase.symm.trans h'.phase
  have hidx := h.idx.symm.trans h'.idx
  simpa using And.intro hphase hidx

/-- A thread that has tried nothing yet. -/
structure Fresh (slots : Nat → Option Int) (x : PolicyView) : Prop where
  free : Free x
  disabled : ∀ i, slots i ≠ none → statusOf x i = some .disabled

end Runs

/-! ## The first interface has no link -/

namespace ScanExample

/-- The second interface has a link and a state machine, which is in standby while it is tried. The time
for the first one is soon over. -/
def world (self : PolicyThread) (first : IfaceStatus) : PolicyView :=
  { self
    shared :=
      { now := if self.phase = .autoWan .waiting ∨ first = .invalid then 2 else 1
        groups := [{}]
        ifaces :=
          [{ virtIf := { status := first } },
            { baseInterfaceStatus := .up
              selection := { priority := 1 }
              virtIf :=
                { interfaceSmRunning := true
                  status := if self.ctrl.activeInterfaceIdx = some 1 then .standby else .disabled } }] } }

def firstStatus (x : PolicyView) : IfaceStatus := x.shared.ifaces.head?.elim .disabled (·.virtIf.status)

def step (x : PolicyView) : PolicyView :=
  world (Policy.tick.run x).2.self (firstStatus (Policy.tick.run x).2)

def begun : PolicyView := world { phase := .autoWan .selecting, ctrl := { groupInst := 1 } } .disabled

def scans (k : Nat) : PolicyView := step^[k] begun

def slots : Nat → Option Int
  | 0 => some 0
  | 1 => some 1
  | _ => none

/-- What the ticks of this run start from. -/
structure Reported (t : PolicyThread) (first : IfaceStatus) : Prop where
  inst : t.ctrl.groupInst = 1
  second : (t.phase = .autoWan .scanning ∨ t.phase = .autoWan .reconfiguration ∨
    t.phase = .autoWan .active) → t.ctrl.activeInterfaceIdx = some 1
  length : (Policy.tick.run (world t first)).2.shared.ifaces.length = 2
  kept : ∀ i < 2, (Policy.tick.run (world t first)).2.self.ctrl.activeInterfaceIdx ≠ some i →
    statusOf (step (world t first)) i = statusOf (Policy.tick.run (world t first)).2 i

instance (t : PolicyThread) (first : IfaceStatus) : Decidable (Reported t first) :=
  decidable_of_iff (_ ∧ _ ∧ _ ∧ _)
    ⟨fun ⟨h₁, h₂, h₃, h₄⟩ => ⟨h₁, h₂, h₃, h₄⟩, fun ⟨h₁, h₂, h₃, h₄⟩ => ⟨h₁, h₂, h₃, h₄⟩⟩

/-- The thread and the first interface, before every tick. -/
def stage (k : Nat) : PolicyThread × IfaceStatus := ((scans k).self, firstStatus (scans k))

theorem scans_eq (k : Nat) : scans k = world (stage k).1 (stage k).2 := by
  cases k with
  | zero => rfl
  | succ k =>
    unfold stage scans
    rw [Function.iterate_succ_apply']
    rfl

theorem stage_active : ∀ k, stage (11 + k) = stage 11 := by
  intro k
  induction k with
  | zero => rfl
  | succ k ih =>
    have hstep : ∀ k, stage (k + 1) = ((Policy.tick.run (world (stage k).1 (stage k).2)).2.self,
        firstStatus (Policy.tick.run (world (stage k).1 (stage k).2)).2) := by
      intro k
      rw [← scans_eq]
      unfold stage scans
      rw [Function.iterate_succ_apply']
      rfl
    have hfixed : stage 12 = stage 11 := by decide +kernel
    rw [← Nat.add_assoc, hstep, ih, ← hstep]
    exact hfixed

theorem reported (k : Nat) : Reported (stage k).1 (stage k).2 := by
  by_cases hk : k < 11
  · have h : ∀ k < 11, Reported (stage k).1 (stage k).2 := by decide +kernel
    exact h k hk
  · rw [← Nat.add_sub_of_le (Nat.le_of_not_lt hk), stage_active]
    decide +kernel

theorem iface_cases {t : PolicyThread} {first : IfaceStatus} {i : Nat} {d : WanIface}
    (hd : (world t first).shared.ifaces[i]? = some d) :
    (i = 0 ∧ d = { virtIf := { status := first } }) ∨ (i = 1 ∧ d.baseInterfaceStatus = .up ∧
      (t.ctrl.activeInterfaceIdx = some 1 → d.virtIf.status = .standby)) := by
  rcases i with _ | _ | i
  · exact .inl ⟨rfl, (Option.some.inj hd).symm⟩
  · cases hd
    exact .inr ⟨rfl, rfl, fun h => if_pos h⟩
  · cases hd

theorem Reported.steady {t : PolicyThread} {first : IfaceStatus} (h : Reported t first) :
    Steady slots (· == 1) 2 (world t first) where
  enabled := rfl
  inst := by
    rw [show (world t first).self.ctrl.groupInst = 1 from h.inst]
    decide
  group := by
    rw [show (world t first).self.ctrl.groupInst = 1 from h.inst]
    exact ⟨{}, rfl, rfl, rfl, rfl⟩
  length := rfl
  slots i := by
    have hinst : (world t first).self.ctrl.groupInst = 1 := h.inst
    unfold slot ours?
    rw [hinst]
    rcases i with _ | _ | i <;> rfl
  several := by
    have hinst : (world t first).self.ctrl.groupInst = 1 := h.inst
    refine ⟨0, 1, by decide, ⟨_, ours?_eq_some.mpr ⟨rfl, hinst.symm⟩, rfl⟩, _,
      ours?_eq_some.mpr ⟨rfl, hinst.symm⟩, rfl⟩
  noReboot i j := by
    unfold rebootRequired
    split
    · rfl
    · next d hd =>
      have hno : d.selection.requiresReboot = false := by
        rcases j with _ | _ | j <;> cases hd <;> rfl
      simp [hno]
  link i d hworks _ hd _ := by
    rcases iface_cases hd with ⟨rfl, -⟩ | ⟨-, hup, -⟩
    · cases hworks
    · exact hup
  running i hi := by
    have hidx : t.ctrl.activeInterfaceIdx = some 1 :=
      h.second (hi.imp At.phase (Or.imp At.phase At.phase))
    have hi' : some i = some 1 := by
      rcases hi with hi | hi | hi <;> exact hi.idx.symm.trans hidx
    cases hi'
    rfl
  scan i d hi hd := by
    have hidx := h.second (.inl hi.phase)
    rcases iface_cases hd with ⟨rfl, -⟩ | ⟨rfl, -, hstandby⟩
    · cases hi.idx.symm.trans hidx
    · intro _
      rw [hstandby hidx]
      rfl
  up i d hi hd := by
    have hidx := h.second (.inr (.inr hi.phase))
    rcases iface_cases hd with ⟨rfl, -⟩ | ⟨-, hup, -⟩
    · cases hi.idx.symm.trans hidx
    · exact hup

end ScanExample

end AutoWan

end WanManager
