import WanManager.Failover
import WanManager.Concurrency.Own

/-! # The failover thread in an arbitrary environment

What the selection threads, the interface state machines and configuration writes do
between two sections of the failover thread is left open: they may change the data base
in any way, except that a raised `ResetFailOverScan` is only taken back by the failover
thread itself. The lemmas below carry assertions about the thread's own record through
the functions of the machine.
-/

namespace WanManager
open Concurrency

namespace Failover

/-- Rescan requests made by others: each is counted, and none is withdrawn. -/
structure RescanFlow (s s' : Shared) : Prop where
  count : s.rescanRequests ≤ s'.rescanRequests
  flag : s'.config.resetFailOverScan =
    (s.config.resetFailOverScan || decide (s.rescanRequests < s'.rescanRequests))

/-- What others may do: everything but touch the thread's own record or withdraw a
request. -/
structure Environment (v v' : FailOverView) : Prop where
  self : v'.self = v.self
  flow : RescanFlow v.shared v'.shared

theorem RescanFlow.requestRescan (s : Shared) : RescanFlow s s.requestRescan :=
  ⟨Nat.le_succ _, by simp [Shared.requestRescan]⟩

def pool : Pool Site Unit FailOverView where
  body _ := failOverTick
  ready _ _ := True
  env := Environment

/-- A machine that was not started yet, over any data base. -/
def Initial (v : FailOverView) : Prop :=
  v.self = {} ∧ v.shared.config.resetFailOverScan = false ∧ v.shared.rescanRequests = 0

/-- A tick after a change of the data base. -/
def after (f : Shared → Shared) (h : ∀ s, RescanFlow s (f s)) : pool.Move where
  edit v := { v with shared := f v.shared }
  allowed v := ⟨rfl, h v.shared⟩
  thread := ()

instance : ∀ t v, Decidable (pool.ready t v) := fun _ _ => isTrue trivial

/-! ## Assertions about the thread's own record -/

def Own (A : FailOverThread → Prop) (v : FailOverView) : Prop := A v.self

/-- A protocol in which the thread only relies on its record being its own. -/
def ownProtocol (inv : FailOverView → Prop) (rest : FailOverThread → Prop)
    (guard : Site → FailOverView → Prop) : Protocol Site Unit FailOverView where
  inv := inv
  rely _ v v' := v'.self = v.self
  rest _ := Own rest
  guard := guard
  refl _ _ := rfl
  trans h h' := h'.trans h

abbrev ownContract (inv : FailOverView → Prop) (rest : FailOverThread → Prop)
    (guard : Site → FailOverView → Prop) : Contract Site FailOverView :=
  (ownProtocol inv rest guard).contract ()

variable {inv : FailOverView → Prop} {rest : FailOverThread → Prop}
  {guard : Site → FailOverView → Prop} {A B : FailOverThread → Prop} {α : Type}

theorem stable_own (A : FailOverThread → Prop) :
    (ownContract inv rest guard).Stable (Own A) :=
  Protocol.own_stable  A

/-- One section: the invariant and the assertion, from one store to the next. -/
theorem section_own {l : Site} {m : FailOverView → α × FailOverView}
    {B : α → FailOverThread → Prop}
    (h : ∀ v, inv v → guard l v → A v.self → inv (m v).2 ∧ B (m v).1 (m v).2.self) :
    Triple (ownContract inv rest guard) (Own A) (.critical l m) fun a => Own (B a) :=
  Protocol.own_section  h

theorem modify_own {l : Site} {f : FailOverView → FailOverView}
    (h : ∀ v, inv v → guard l v → A v.self → inv (f v) ∧ B (f v).self) :
    Triple (ownContract inv rest guard) (Own A) (.modify l f) fun _ => Own B :=
  section_own h

theorem read_own {l : Site} {g : FailOverView → α} {B : α → FailOverThread → Prop}
    (h : ∀ v, inv v → guard l v → A v.self → B (g v) v.self) :
    Triple (ownContract inv rest guard) (Own A) (.read l g) fun a => Own (B a) :=
  section_own fun v hi hg hA => ⟨hi, h v hi hg hA⟩

theorem ret_own {a : α} {B : α → FailOverThread → Prop} (h : ∀ t, A t → B a t) :
    Triple (ownContract inv rest guard) (Own A) (.ret a) fun a => Own (B a) :=
  Protocol.own_ret  h

theorem ctrl_own : Triple (ownContract inv rest guard) (Own A) ctrl
    fun c => Own fun t => A t ∧ t.ctrl = c :=
  read_own fun _ _ _ hA => ⟨hA, rfl⟩

/-! ## Sections that leave the record alone -/

@[simp] theorem monitorGroup_self (i : Nat) (v : FailOverView) : (monitorGroup i v).self = v.self := by
  unfold monitorGroup
  split
  · rfl
  · split
    · split <;> rfl
    · rfl

@[simp] theorem addInterfaceAvailable_self (i : Nat) (v : FailOverView) :
    (addInterfaceAvailable i v).self = v.self := by
  unfold addInterfaceAvailable
  split <;> rfl

theorem ifaceGroupMonitor_own (hinv : ∀ i v, inv v → inv (monitorGroup i v)) :
    Triple (ownContract inv rest guard) (Own A) ifaceGroupMonitor fun _ => Own A := by
  refine Triple.bind (Q := fun _ => Own A) (read_own fun _ _ _ hA => hA) fun n => ?_
  exact Triple.forEach (stable_own A) fun i _ =>
    modify_own fun v hi _ hA => ⟨hinv i v hi, by simpa using hA⟩

theorem deactivateCurrent_own
    (hinv : ∀ v g, inv v → inv { v with shared := deactivateGroup g v.shared }) :
    Triple (ownContract inv rest guard) (Own A) deactivateCurrent fun _ => Own A := by
  refine Triple.bind ctrl_own fun c => Triple.ite (fun _ => ?_) fun _ => ret_own fun t h => h.1
  exact modify_own fun v hi _ h => ⟨hinv v _ hi, h.1⟩

theorem stopLowerGroups_own (hinv : ∀ i v, inv v → inv (stopGroup i v)) :
    Triple (ownContract inv rest guard) (Own A) stopLowerGroups fun _ => Own A := by
  refine Triple.bind ctrl_own fun c => Triple.ite (fun _ => ?_) fun _ => ret_own fun t h => h.1
  refine Triple.bind (Q := fun _ => Own A) (read_own fun _ _ _ h => h.1) fun n => ?_
  exact Triple.forEach (stable_own A) fun i _ => modify_own fun v hi _ h => ⟨hinv i v hi, h⟩

theorem startDeactivated_own (hinv : ∀ i v, inv v → inv (deactivateState i v)) :
    Triple (ownContract inv rest guard) (Own A) startDeactivated fun _ => Own A := by
  refine Triple.bind ctrl_own fun c => Triple.ite (fun _ => ?_) fun _ => ret_own fun t h => h.1
  refine Triple.bind (Q := fun _ => Own A) (read_own fun _ _ _ h => h.1) fun n => ?_
  exact Triple.forEach (stable_own A) fun i _ => modify_own fun v hi _ h => ⟨hinv i v hi, h⟩

theorem failOverCtrlInit_own (hinv : ∀ i v, inv v → inv (addInterfaceAvailable i v))
    (hctrl : ∀ v c, inv v → A v.self → inv (v.mapCtrl fun _ => c))
    (hA : ∀ t c, A t → A { t with ctrl := c }) :
    Triple (ownContract inv rest guard) (Own A) failOverCtrlInit fun _ => Own A := by
  refine Triple.bind (Q := fun _ => Own A)
    (modify_own fun v hi _ h => ⟨hctrl v _ hi h, hA _ _ h⟩) fun _ => ?_
  refine Triple.bind (Q := fun _ => Own A) (read_own fun _ _ _ h => h) fun n => ?_
  refine Triple.bind (Q := fun _ => Own A)
    (Triple.forEach (stable_own A) fun i _ =>
      modify_own fun v hi _ h => ⟨hinv i v hi, by simpa using h⟩) fun _ => ?_
  exact modify_own fun v hi _ h => ⟨hctrl v _ hi h, hA _ _ h⟩

theorem selectionThreadRunning_own (is : List Nat) :
    Triple (ownContract inv rest guard) (Own A) (selectionThreadRunning is)
      fun _ => Own A := by
  induction is with
  | nil => exact ret_own fun _ h => h
  | cons i is ih =>
    refine Triple.bind (Q := fun _ => Own A) (read_own fun _ _ _ h => h) fun b => ?_
    exact Triple.bind (Q := fun _ => Own A) ih fun b' => ret_own fun _ h => h

/-! ## The best group

The loop changes `HighestValidGroup` and nothing else of the record. -/

theorem markGroup_self (w : Bool) (i : Nat) (v : FailOverView) :
    ∃ h, (markGroup w i v).2.self =
      { v.self with ctrl := { v.self.ctrl with highestValidGroup := h } } := by
  unfold markGroup
  split
  · exact ⟨v.self.ctrl.highestValidGroup, rfl⟩
  · simp only
    split
    · exact ⟨v.self.ctrl.currentActiveGroup, rfl⟩
    · exact ⟨_, rfl⟩

theorem markHighPriorityGroup_own {w : Bool}
    (hA : ∀ t h, A t → A { t with ctrl := { t.ctrl with highestValidGroup := h } })
    (hset : ∀ v, inv v → inv (v.mapCtrl fun c => { c with highestValidGroup := 0 }))
    (hmark : ∀ i v, inv v → guard (.markHighPriorityGroup i) v → inv (markGroup w i v).2) :
    Triple (ownContract inv rest guard) (Own A) (markHighPriorityGroup w) fun _ => Own A := by
  refine Triple.bind (Q := fun _ => Own A)
    (modify_own fun v hi _ h => ⟨hset v hi, hA v.self 0 h⟩) fun _ => ?_
  refine Triple.bind (Q := fun _ => Own A) (read_own fun _ _ _ h => h) fun n => ?_
  refine Triple.forUntil (stable_own A) fun i _ => section_own fun v hi hg h => ?_
  obtain ⟨g, hg'⟩ := markGroup_self w i v
  exact ⟨hmark i v hi hg, by rw [hg']; exact hA _ _ h⟩

/-! ## Scripts

Small data bases and the changes their selection threads, leases and configuration make
between two ticks. -/

namespace Example

/-- One group with one interface. -/
def start : FailOverView := { shared := { ifaces := [{}], groups := [{}] } }

def enable (b : Bool) : pool.Move :=
  after (fun s => { s with config := { s.config with enable := b } }) fun _ => ⟨Nat.le_refl _, by simp⟩

def virtIfStatus (st : IfaceStatus) : pool.Move :=
  after (fun s => s.modifyVirtIf 0 0 fun v => { v with status := st }) fun _ => ⟨Nat.le_refl _, by
    simp [Shared.modifyVirtIf, Shared.modifyIface]⟩

/-- The selection thread of group 1 validates the interface. -/
def found : pool.Move :=
  after (fun s => ((s.setSelectionStatus 0 .selected).modifyVirtIf 0 0 fun v =>
      { v with status := .standby }).setGroupSelectedIface 1 1) fun _ => ⟨Nat.le_refl _, by
    simp [Shared.modifyVirtIf, Shared.modifyIface, Shared.setSelectionStatus,
      Shared.setGroupSelectedIface, Shared.modifyGroup]⟩

/-- Two groups with an interface each. -/
def start₂ : FailOverView :=
  { shared := { ifaces := [{}, { selection := { group := 2 } }], groups := [{}, {}] } }

def connectivity (st : ConnectivityStatus) : pool.Move :=
  after (fun s => { s.modifyVirtIf 0 0 fun v =>
      { v with ip := { v.ip with ipv4ConnectivityStatus := st, ipv6ConnectivityStatus := st } } with
      now := s.now + 1 }) fun _ => ⟨Nat.le_refl _, by
    simp [Shared.modifyVirtIf, Shared.modifyIface]⟩

/-- The selection thread of group 2 validates the second interface. -/
def found₂ : pool.Move :=
  after (fun s => ((s.setSelectionStatus 1 .selected).modifyVirtIf 1 0 fun v =>
      { v with status := .standby }).setGroupSelectedIface 2 2) fun _ => ⟨Nat.le_refl _, by
    simp [Shared.modifyVirtIf, Shared.modifyIface, Shared.setSelectionStatus,
      Shared.setGroupSelectedIface, Shared.modifyGroup]⟩

end Example

end Failover
end WanManager
