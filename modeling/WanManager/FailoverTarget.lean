import WanManager.FailoverPool
import WanManager.Concurrency.History

/-! # The group about to be restored

`MarkHighPriorityGroup` finds a group of higher priority than the current one, and the
machine waits in `STATE_FAILOVER_RESTORATION_WAIT` before it moves there. A history notes
that group from the section that found it to the end of the wait. A law about the machine's
trace is then proved by a walk through its sections: what the law needs from earlier ticks
is what the record and the history say at rest, and what the others leave of the target.
-/

namespace WanManager
open Concurrency

/-- What the selected interface of a group shows, apart from the selection. -/
def Shared.target? (s : Shared) (g : Nat) : Option (IfaceType × VirtualIface) :=
  (s.selectedIface? g).map fun d => (d.ifaceType, d.virtIf)

@[simp] theorem Shared.target?_setSelectionStatus (s : Shared) (i : Nat) (st : SelectionStatus) (g : Nat) :
    (s.setSelectionStatus i st).target? g = s.target? g := by
  unfold target? selectedIface?
  rw [selected?_setSelectionStatus]
  cases hj : s.selected? g with
  | none => rfl
  | some j =>
    by_cases hij : i = j <;>
      simp [setSelectionStatus, modifyIface, hij, List.getElem?_modify, Function.comp_def]

theorem Shared.target?_modifyGroup {s : Shared} {g h : Nat} {f : IfaceGroup → IfaceGroup}
    (hf : ∀ x, (f x).selectedInterface = x.selectedInterface) :
    (s.modifyGroup g f).target? h = s.target? h := by
  simp [target?, selectedIface?, selected?_modifyGroup hf]

namespace Failover

/-! ## Sections that leave the targets alone -/

theorem target?_activateGroup (s : Shared) (g h : Nat) : (activateGroup g s).target? h = s.target? h := by
  unfold activateGroup
  split
  · rfl
  · split
    · refine (Shared.target?_modifyGroup ?_).trans (Shared.target?_setSelectionStatus s _ _ h)
      exact fun _ => rfl
    · rfl

theorem target?_deactivateGroup (s : Shared) (g h : Nat) :
    (deactivateGroup g s).target? h = s.target? h := by
  unfold deactivateGroup
  split
  · rfl
  · split
    · exact Shared.target?_setSelectionStatus s _ _ h
    · rfl

theorem target?_monitorGroup (i : Nat) (v : FailOverView) (h : Nat) :
    (monitorGroup i v).shared.target? h = v.shared.target? h := by
  unfold monitorGroup
  split
  · rfl
  · split
    · split <;> exact Shared.target?_modifyGroup fun _ => rfl
    · rfl

theorem target?_addInterfaceAvailable (i : Nat) (v : FailOverView) (h : Nat) :
    (addInterfaceAvailable i v).shared.target? h = v.shared.target? h := by
  unfold addInterfaceAvailable
  split
  · rfl
  · exact Shared.target?_modifyGroup fun _ => rfl

theorem target?_stopGroup (i : Nat) (v : FailOverView) (h : Nat) :
    (stopGroup i v).shared.target? h = v.shared.target? h :=
  Shared.target?_modifyGroup fun _ => by split <;> rfl

theorem target?_markGroup (w : Bool) (i : Nat) (v : FailOverView) (h : Nat) :
    (markGroup w i v).2.shared.target? h = v.shared.target? h := by
  unfold markGroup
  split
  · rfl
  · simp only
    split <;> split <;> first | exact Shared.target?_modifyGroup fun _ => rfl | rfl

/-- The group that is best after one group of the loop is the best so far, the one looked
at, or the current one. -/
theorem markGroup_highest (w : Bool) (i : Nat) (v : FailOverView) :
    ∃ h, (markGroup w i v).2.self =
        { v.self with ctrl := { v.self.ctrl with highestValidGroup := h } } ∧
      (h = v.self.ctrl.currentActiveGroup ∨ h = highestAt i v) := by
  unfold markGroup
  cases hg : v.shared.groups[i]? with
  | none => exact ⟨v.self.ctrl.highestValidGroup, rfl, .inr (by
      simp [highestAt, Shared.selectedIface?, Shared.selected?, Shared.group?, hg])⟩
  | some g =>
    simp only
    split
    · exact ⟨v.self.ctrl.currentActiveGroup, rfl, .inl rfl⟩
    · exact ⟨highestAt i v, rfl, .inr rfl⟩

/-! ## The history -/

/-- The best group, if it is to be restored. -/
def restorationTarget (c : FailOverController) : Option Nat :=
  if c.highestValidGroup ≠ 0 ∧ c.highestValidGroup < c.currentActiveGroup then some c.highestValidGroup
  else none

theorem restorationTarget_eq_some {c : FailOverController} {g : Nat} :
    restorationTarget c = some g ↔
      c.highestValidGroup = g ∧ g ≠ 0 ∧ g < c.currentActiveGroup := by
  unfold restorationTarget
  split <;> simp <;> grind

/-- The group found by `MarkHighPriorityGroup`, until its restoration ends. -/
def noteTarget (l : Site) (v v' : FailOverView) (target : Option Nat) : Option Nat :=
  match l with
  | .markHighPriorityGroup _ => restorationTarget v'.self.ctrl
  | _ =>
    match v'.self.trace.drop v.self.trace.length with
    | [e] => if e = .restoration then target else none
    | _ => target

abbrev targetPool : Pool Site Unit (FailOverView × Option Nat) := pool.record noteTarget

instance : ∀ t x, Decidable (targetPool.ready t x) := fun _ _ => isTrue trivial

def TargetInitial (x : FailOverView × Option Nat) : Prop := Initial x.1 ∧ x.2 = none

def IsMarking : Site → Prop
  | .markHighPriorityGroup _ => True
  | _ => False

theorem noteTarget_silent {l : Site} {v v' : FailOverView} (g : Option Nat) (hl : ¬ IsMarking l)
    (ht : v'.self.trace = v.self.trace) : noteTarget l v v' g = g := by
  unfold noteTarget
  split
  · exact absurd trivial hl
  · simp [ht]

theorem noteTarget_event {l : Site} {v v' : FailOverView} {e : FailOverEvent} (g : Option Nat)
    (hl : ¬ IsMarking l) (ht : v'.self.trace = v.self.trace ++ [e]) :
    noteTarget l v v' g = if e = .restoration then g else none := by
  unfold noteTarget
  split
  · exact absurd trivial hl
  · simp [ht]

/-! ## Laws about the trace -/

def TraceGood (good : FailOverEvent → Prop) (t : FailOverThread) : Prop := ∀ e ∈ t.trace, good e

theorem TraceGood.append {good : FailOverEvent → Prop} {t t' : FailOverThread} {e : FailOverEvent}
    (h : TraceGood good t) (he : good e) (ht : t'.trace = t.trace ++ [e]) : TraceGood good t' := by
  intro e' hm
  rw [ht] at hm
  rcases List.mem_append.mp hm with hm | hm
  · exact h e' hm
  · rwa [List.mem_singleton.mp hm]

/-- What a law must say about the events of the machine, in the stores the guard admits and
while the others leave what `held` says of the group to be restored. -/
structure TraceLaw (good : FailOverEvent → Prop) (held : Shared → Nat → Prop)
    (guard : Site → FailOverView → Prop) : Prop where
  deactivateGroup : good .deactivateGroup
  restoration : good .restoration
  restorationFail : good .restorationFail
  resetScan : good .resetScan
  activated : ∀ g, g ≠ 0 → good (.activated g false)
  /-- WAN is enabled during a deactivation that began without a valid group -/
  enabled : ∀ v, guard .updateFOControllerData v → v.self.phase = .loop .deactivateGroup →
    v.self.ctrl.highestValidGroup = 0 → v.shared.config.enable = true →
    ∀ left, good (.activated 0 left)
  shown : ∀ s s' g, s'.target? g = s.target? g → held s g → held s' g
  found : ∀ s g, groupUsable s g = true → held s g
  expired : ∀ v b, held v.shared v.self.ctrl.highestValidGroup → restorationTest v = .expired b →
    good (.restorationExpired b)

section Laws

variable {good : FailOverEvent → Prop} {held : Shared → Nat → Prop}
  {guard : Site → FailOverView → Prop}

structure TraceInv (good : FailOverEvent → Prop) (held : Shared → Nat → Prop)
    (x : FailOverView × Option Nat) : Prop where
  trace : TraceGood good x.1.self
  target : ∀ g ∈ x.2, held x.1.shared g

/-- What the machine knows at the start of a tick, by its state. -/
def TargetRestsIn (good : FailOverEvent → Prop) (st : FailOverState)
    (x : FailOverThread × Option Nat) : Prop :=
  let c := x.1.ctrl
  match st with
  | .restorationWait => c.highestValidGroup ≠ 0 ∧ x.2 = some c.highestValidGroup
  | .deactivateGroup =>
    c.highestValidGroup = 0 → c.wanEnable = true → ∀ left, good (.activated 0 left)
  | _ => True

def TargetRests (good : FailOverEvent → Prop) (x : FailOverThread × Option Nat) : Prop :=
  ∀ st, x.1.phase = .loop st → TargetRestsIn good st x

def ownTarget (x : FailOverView × Option Nat) : FailOverThread × Option Nat := (x.1.self, x.2)

abbrev targetProtocol (good : FailOverEvent → Prop) (held : Shared → Nat → Prop)
    (guard : Site → FailOverView → Prop) : Protocol Site Unit (FailOverView × Option Nat) :=
  Protocol.own ownTarget (TraceInv good held) (TargetRests good) fun l x => guard l x.1

/-- A program of the machine under a law, with the target it leaves. -/
abbrev Lawful (good : FailOverEvent → Prop) (held : Shared → Nat → Prop)
    (guard : Site → FailOverView → Prop) {α : Type} (A : FailOverThread × Option Nat → Prop)
    (p : FailOverProg α) (B : α → FailOverThread × Option Nat → Prop) : Prop :=
  Noted ((targetProtocol good held guard).contract ()) noteTarget (Owned ownTarget A) p
    fun a => Owned ownTarget (B a)

variable {A : FailOverThread × Option Nat → Prop} {α β : Type}
  {B : α → FailOverThread × Option Nat → Prop}

namespace Lawful

theorem ret {a : α} (h : ∀ x, A x → B a x) : Lawful good held guard A (.ret a) B :=
  Protocol.own_ret h

theorem pre {A' : FailOverThread × Option Nat → Prop} {p : FailOverProg α}
    (h : Lawful good held guard A p B) (hA : ∀ x, A' x → A x) : Lawful good held guard A' p B :=
  Noted.pre h fun x _ hx => hA (ownTarget x) hx

theorem forEach {is : List β} {body : β → FailOverProg Unit}
    (step : ∀ i ∈ is, Lawful good held guard A (body i) fun _ => A) :
    Lawful good held guard A (.forEach is body) fun _ => A :=
  Noted.forEach (Protocol.own_stable A) step

theorem forUntil {is : List β} {body : β → FailOverProg Bool}
    (step : ∀ i ∈ is, Lawful good held guard A (body i) fun _ => A) :
    Lawful good held guard A (.forUntil is body) fun _ => A := by
  unfold Lawful Noted
  rw [Prog.record_forUntil]
  exact Triple.forUntil (Protocol.own_stable A) step

/-- A section, with the target it leaves. -/
theorem critical {l : Site} {m : FailOverView → α × FailOverView}
    (h : ∀ v g, TraceInv good held (v, g) → guard l v → A (v.self, g) →
      TraceInv good held ((m v).2, noteTarget l v (m v).2 g) ∧
        B (m v).1 ((m v).2.self, noteTarget l v (m v).2 g)) :
    Lawful good held guard A (.critical l m) B := by
  unfold Lawful Noted
  rw [Prog.record_critical]
  exact Protocol.own_section fun x hi hg hA => h x.1 x.2 hi hg hA

end Lawful

variable (law : TraceLaw good held guard)

include law

/-- A section that traces nothing and shows the same targets changes the record only. -/
theorem silent_lawful {l : Site} {m : FailOverView → α × FailOverView} (hl : ¬ IsMarking l)
    (htrace : ∀ v, (m v).2.self.trace = v.self.trace)
    (hshown : ∀ v g, (m v).2.shared.target? g = v.shared.target? g)
    (h : ∀ v g, TraceInv good held (v, g) → guard l v → A (v.self, g) → B (m v).1 ((m v).2.self, g)) :
    Lawful good held guard A (.critical l m) B := by
  refine Lawful.critical fun v g hi hg hA => ?_
  rw [noteTarget_silent g hl (htrace v)]
  refine ⟨⟨?_, fun t ht => law.shown _ _ t (hshown v t) (hi.target t ht)⟩, h v g hi hg hA⟩
  have ht : (m v).2.self.trace = v.self.trace := htrace v
  simpa [TraceGood, ht] using hi.trace

/-- A section that traces an event. -/
theorem event_lawful {l : Site} {f : FailOverView → FailOverView} {e : FailOverView → FailOverEvent}
    {C : FailOverThread × Option Nat → Prop} (hl : ¬ IsMarking l)
    (htrace : ∀ v, (f v).self.trace = v.self.trace ++ [e v])
    (hshown : ∀ v g, (f v).shared.target? g = v.shared.target? g)
    (h : ∀ v g, A (v.self, g) →
      good (e v) ∧ C ((f v).self, if e v = .restoration then g else none)) :
    Lawful good held guard A (.modify l f) fun _ => C := by
  refine Lawful.critical fun v g hi hg hA => ?_
  rw [noteTarget_event g hl (htrace v)]
  obtain ⟨hgood, hC⟩ := h v g hA
  refine ⟨⟨hi.trace.append hgood (htrace v), fun t ht => ?_⟩, hC⟩
  split at ht
  · exact law.shown _ _ t (hshown v t) (hi.target t ht)
  · cases ht

/-- A section that leaves the record alone. -/
theorem frame_lawful {l : Site} {f : FailOverView → FailOverView} (hl : ¬ IsMarking l)
    (hself : ∀ v, (f v).self = v.self) (hshown : ∀ v g, (f v).shared.target? g = v.shared.target? g) :
    Lawful good held guard A (.modify l f) fun _ => A :=
  silent_lawful law hl (fun v => congrArg FailOverThread.trace (hself v)) hshown fun v g _ _ hA => by
    show A ((f v).self, g)
    rwa [hself v]

theorem read_lawful {l : Site} {f : FailOverView → α} (hl : ¬ IsMarking l)
    (h : ∀ v g, TraceInv good held (v, g) → guard l v → A (v.self, g) → B (f v) (v.self, g)) :
    Lawful good held guard A (.read l f) B :=
  silent_lawful law hl (fun _ => rfl) (fun _ _ => rfl) h

theorem ctrl_lawful : Lawful good held guard A ctrl fun c x => A x ∧ x.1.ctrl = c :=
  read_lawful law id fun _ _ _ _ hA => ⟨hA, rfl⟩

theorem totalNoOfGroups_lawful : Lawful good held guard A totalNoOfGroups fun _ => A :=
  read_lawful law id fun _ _ _ _ hA => hA

theorem setCtrl_lawful {f : FailOverController → FailOverController}
    {C : FailOverThread × Option Nat → Prop}
    (h : ∀ t g, A (t, g) → C ({ t with ctrl := f t.ctrl }, g)) :
    Lawful good held guard A (setCtrl f) fun _ => C :=
  silent_lawful law id (fun _ => rfl) (fun _ _ => rfl) fun v g _ _ hA => h v.self g hA

theorem trace_lawful {e : FailOverEvent} {C : FailOverThread × Option Nat → Prop}
    (h : ∀ t g, A (t, g) → good e ∧
      C ({ t with trace := t.trace ++ [e] }, if e = .restoration then g else none)) :
    Lawful good held guard A (trace e) fun _ => C :=
  event_lawful law id (fun _ => rfl) (fun _ _ => rfl) fun v g hA => h v.self g hA

theorem ifaceGroupMonitor_lawful : Lawful good held guard A ifaceGroupMonitor fun _ => A :=
  (totalNoOfGroups_lawful law).bind fun _ => Lawful.forEach fun i _ =>
    frame_lawful law id (monitorGroup_self i) (target?_monitorGroup i)

theorem deactivateCurrent_lawful : Lawful good held guard A deactivateCurrent fun _ => A := by
  refine (ctrl_lawful law).bind fun c => Noted.ite (fun _ => ?_) fun _ => Lawful.ret fun _ h => h.1
  exact Lawful.pre (frame_lawful law id (fun _ => rfl)
    fun v => target?_deactivateGroup v.shared _) fun _ h => h.1

theorem stopLowerGroups_lawful : Lawful good held guard A stopLowerGroups fun _ => A := by
  refine (ctrl_lawful law).bind fun c => Noted.ite (fun _ => ?_) fun _ => Lawful.ret fun _ h => h.1
  refine Noted.bind (Lawful.pre (totalNoOfGroups_lawful law) fun _ h => h.1) fun _ => ?_
  exact Lawful.forEach fun i _ => frame_lawful law id (fun _ => rfl) (target?_stopGroup i)

theorem startDeactivated_lawful : Lawful good held guard A startDeactivated fun _ => A := by
  refine (ctrl_lawful law).bind fun c => Noted.ite (fun _ => ?_) fun _ => Lawful.ret fun _ h => h.1
  refine Noted.bind (Lawful.pre (totalNoOfGroups_lawful law) fun _ h => h.1) fun _ => ?_
  exact Lawful.forEach fun i _ => frame_lawful law id (fun _ => rfl)
    fun _ _ => Shared.target?_modifyGroup fun _ => rfl

/-! ## The best group -/

omit law in
/-- While the loop looks at the groups, the history follows the best one. -/
def MarksTarget (x : FailOverThread × Option Nat) : Prop :=
  x.1.ctrl.highestValidGroup ≠ 0 → x.2 = restorationTarget x.1.ctrl

omit law in
/-- A best group is the best so far, the current one, or passes the test of the loop. -/
theorem highestAt_cases {i : Nat} {v : FailOverView} (h : highestAt i v ≠ 0) :
    v.self.ctrl.highestValidGroup ≠ 0 ∧ highestAt i v = v.self.ctrl.highestValidGroup ∨
      highestAt i v = v.self.ctrl.currentActiveGroup ∨
      groupUsable v.shared (highestAt i v) = true := by
  by_cases hz : v.self.ctrl.highestValidGroup = 0
  · cases hd : v.shared.selectedIface? (i + 1) with
    | none => simp [highestAt, hz, hd] at h
    | some d =>
      by_cases hu : ifaceUsable d = true
      · simp [highestAt, hz, hd, hu, groupUsable]
      · simp only [highestAt, hz, hd, hu, ne_eq, not_true_eq_false, if_false, Bool.false_eq_true] at h ⊢
        split at h
        · exact .inr (.inl (if_pos ‹_›))
        · exact absurd rfl h
  · exact .inl ⟨hz, by simp [highestAt, hz]⟩

/-- What the others must leave of a target holds of the group the loop finds. -/
theorem markGroup_held {w : Bool} {i : Nat} {v : FailOverView} {g : Option Nat}
    (hheld : ∀ t ∈ g, held v.shared t) (hm : MarksTarget (v.self, g)) :
    ∀ t ∈ restorationTarget (markGroup w i v).2.self.ctrl, held (markGroup w i v).2.shared t := by
  intro t ht
  refine law.shown v.shared _ t (target?_markGroup w i v t) ?_
  obtain ⟨h, hself, hh⟩ := markGroup_highest w i v
  rw [hself, Option.mem_def, restorationTarget_eq_some] at ht
  obtain ⟨rfl, hne, hlt⟩ := ht
  have hlt' : h < v.self.ctrl.currentActiveGroup := hlt
  obtain rfl : h = highestAt i v := hh.resolve_left (Nat.ne_of_lt hlt')
  rcases highestAt_cases hne with ⟨hfound, hold⟩ | hcur | husable
  · have hg : g = restorationTarget v.self.ctrl := hm hfound
    exact hheld _ (by rw [hg]; exact restorationTarget_eq_some.mpr ⟨hold.symm, hne, hlt'⟩)
  · exact absurd hcur (Nat.ne_of_lt hlt')
  · exact law.found _ _ husable

theorem markHighPriorityGroup_lawful {w : Bool} :
    Lawful good held guard (fun _ => True) (markHighPriorityGroup w) fun _ => MarksTarget := by
  refine Noted.bind (setCtrl_lawful law (C := MarksTarget) fun t g _ hne => absurd rfl hne) fun _ => ?_
  refine Noted.bind (totalNoOfGroups_lawful law) fun _ => Lawful.forUntil fun i _ => ?_
  refine Lawful.critical fun v g hi _ hm => ⟨⟨?_, markGroup_held law hi.target hm⟩, fun _ => rfl⟩
  obtain ⟨h, hself⟩ := markGroup_self w i v
  simpa [TraceGood, hself] using hi.trace

/-! ## Transitions -/

omit law in
theorem leftSelected_activateGroup (s : Shared) (g : Nat) :
    leftSelected (activateGroup g s) g = false := by
  unfold activateGroup
  cases hs : s.selected? g with
  | none => simp [leftSelected, hs]
  | some i =>
    simp only
    split
    · rename_i hsel
      have hi := s.lt_length_of_selectionStatus (i := i) (by simp [hsel])
      have hne := s.selectionStatus_set_self .active hi
      simp [leftSelected, Shared.selected?_modifyGroup, hs, hne]
    · rename_i hsel
      simpa [leftSelected, hs] using hsel

omit law in
theorem activationTelemetry_highest (c : FailOverController) :
    (activationTelemetry c).highestValidGroup = c.highestValidGroup := by
  unfold activationTelemetry
  split <;> (try rfl)
  split <;> (try rfl)
  split <;> rfl

/-- An activation is good if there is a valid group, or if activating nothing is. -/
theorem transitionActivateGroup_lawful :
    Lawful good held guard
      (fun x => x.1.ctrl.highestValidGroup = 0 → ∀ left, good (.activated 0 left))
      transitionActivateGroup (TargetRestsIn good) := by
  refine Noted.bind (ctrl_lawful law) fun c => Noted.ite (fun hc => ?_) fun hc => ?_
  · refine Noted.bind (setCtrl_lawful law (C := fun x => x.1.ctrl.highestValidGroup ≠ 0)
      fun t g h => ?_) fun _ => ?_
    · have ht : t.ctrl = c := h.2
      simpa [activationTelemetry_highest, ht] using hc
    refine Noted.bind (event_lawful law (C := fun _ => True) (e := fun v => .activated _ _) id
      (fun _ => rfl) (fun v => target?_activateGroup v.shared _) fun v g h => ⟨?_, trivial⟩) fun _ => ?_
    · rw [leftSelected_activateGroup]
      exact law.activated _ h
    exact Noted.bind (stopLowerGroups_lawful law) fun _ => Lawful.ret fun _ _ => trivial
  · refine Noted.bind (event_lawful law (C := fun _ => True) (e := fun v => .activated 0 _) id
      (fun _ => rfl) (fun _ _ => rfl) fun v g h => ⟨?_, trivial⟩) fun _ => Lawful.ret fun _ _ => trivial
    have hc' : v.self.ctrl = c := h.2
    exact h.1 (by simpa [hc'] using hc) _

theorem transitionDeactivateGroup_lawful :
    Lawful good held guard
      (fun x => x.1.ctrl.highestValidGroup = 0 → x.1.ctrl.wanEnable = true →
        ∀ left, good (.activated 0 left))
      transitionDeactivateGroup (TargetRestsIn good) := by
  refine Noted.bind (deactivateCurrent_lawful law) fun _ => ?_
  exact Noted.bind (trace_lawful law (C := TargetRestsIn good .deactivateGroup)
    fun _ _ h => ⟨law.deactivateGroup, h⟩) fun _ => Lawful.ret fun _ h => h

theorem transitionRestoration_lawful :
    Lawful good held guard (TargetRestsIn good .restorationWait) transitionRestoration
      (TargetRestsIn good) := by
  refine Noted.bind (silent_lawful law (B := fun _ => TargetRestsIn good .restorationWait) id
    (fun _ => rfl) (fun _ _ => rfl) fun _ _ _ _ h => h) fun _ => ?_
  exact Noted.bind (trace_lawful law (C := TargetRestsIn good .restorationWait)
    fun _ _ h => ⟨law.restoration, h⟩) fun _ => Lawful.ret fun _ h => h

theorem transitionRestorationFail_lawful :
    Lawful good held guard A transitionRestorationFail (TargetRestsIn good) := by
  refine Noted.bind (setCtrl_lawful law (C := fun _ => True) fun _ _ _ => trivial) fun _ => ?_
  exact Noted.bind (trace_lawful law (C := fun _ => True) fun _ _ _ => ⟨law.restorationFail, trivial⟩)
    fun _ => Lawful.ret fun _ _ => trivial

theorem transitionResetScan_lawful :
    Lawful good held guard A transitionResetScan (TargetRestsIn good) := by
  refine Noted.bind (deactivateCurrent_lawful law) fun _ => ?_
  exact Noted.bind (event_lawful law (C := fun _ => True) (e := fun _ => .resetScan) id
    (fun _ => rfl) (fun _ _ => rfl) fun _ _ _ => ⟨law.resetScan, trivial⟩)
    fun _ => Lawful.ret fun _ _ => trivial

/-! ## States -/

theorem stateScanningGroup_lawful :
    Lawful good held guard A stateScanningGroup (TargetRestsIn good) := by
  refine Noted.bind (ctrl_lawful law) fun c => Noted.ite (fun _ => Lawful.ret fun _ _ => trivial)
    fun _ => ?_
  refine Noted.bind (Lawful.pre (markHighPriorityGroup_lawful law) fun _ _ => trivial) fun _ => ?_
  refine Noted.bind (ctrl_lawful law) fun c => Noted.ite (fun hc => ?_)
    fun _ => Lawful.ret fun _ _ => trivial
  exact Lawful.pre (transitionActivateGroup_lawful law) fun x h hz => absurd (h.2 ▸ hz) hc

theorem compareGroups_lawful :
    Lawful good held guard MarksTarget compareGroups (TargetRestsIn good) := by
  refine Noted.bind (ctrl_lawful law) fun c => Noted.ite (fun hne => ?_) fun _ => ?_
  · -- the timer is the only assignment before either transition
    have htimer : Lawful good held guard (fun x => MarksTarget x ∧ x.1.ctrl = c) startFailOverTimer
        fun _ x => MarksTarget x ∧ x.1.ctrl.highestValidGroup = c.highestValidGroup ∧
          x.1.ctrl.currentActiveGroup = c.currentActiveGroup :=
      silent_lawful law id (fun _ => rfl) (fun _ _ => rfl) fun v g _ _ ⟨hm, hc⟩ =>
        ⟨hm, by simp [FailOverView.mapCtrl, ← hc], by simp [FailOverView.mapCtrl, ← hc]⟩
    refine Noted.bind (read_lawful law (B := fun _ x => MarksTarget x ∧ x.1.ctrl = c) id
      fun _ _ _ _ h => h) fun count => ?_
    refine Noted.ite (fun _ => ?_) fun hnow => Noted.ite (fun hgt => ?_) fun _ =>
      Lawful.ret fun _ _ => trivial
    · refine Noted.bind htimer fun _ => Lawful.pre (transitionDeactivateGroup_lawful law) ?_
      exact fun x h hz => absurd (h.2.1 ▸ hz) hne
    · refine Noted.bind htimer fun _ => Lawful.pre (transitionRestoration_lawful law) ?_
      rintro x ⟨hm, hhigh, hcur⟩
      have hx : x.1.ctrl.highestValidGroup ≠ 0 := hhigh ▸ hne
      refine ⟨hx, (hm hx).trans (restorationTarget_eq_some.mpr ⟨rfl, hx, ?_⟩)⟩
      rw [hhigh, hcur]
      exact hgt
  · exact Noted.bind (setCtrl_lawful law (C := fun _ => True) fun _ _ _ => trivial)
      fun _ => Lawful.ret fun _ _ => trivial

theorem stateGroupActive_lawful :
    Lawful good held guard A stateGroupActive (TargetRestsIn good) := by
  refine Noted.bind (ctrl_lawful law) fun c => Noted.ite (fun hwan => ?_) fun _ =>
    Noted.ite (fun _ => transitionResetScan_lawful law) fun _ => ?_
  · exact Lawful.pre (transitionDeactivateGroup_lawful law) fun x h _ hen => by
      simp [h.2, hwan] at hen
  · exact Noted.bind (Lawful.pre (markHighPriorityGroup_lawful law) fun _ _ => trivial)
      fun _ => compareGroups_lawful law

theorem stateRestorationWait_lawful :
    Lawful good held guard (TargetRestsIn good .restorationWait) stateRestorationWait
      (TargetRestsIn good) := by
  refine Noted.bind (ctrl_lawful law) fun c => Noted.ite (fun _ => ?_) fun _ => ?_
  · exact Lawful.pre (transitionDeactivateGroup_lawful law) fun x h hz => absurd hz h.1.1
  refine Noted.bind (read_lawful law (B := fun r x => TargetRestsIn good .restorationWait x ∧
      ∀ b, r = .expired b → good (.restorationExpired b)) id fun v g hi _ h => ⟨h.1, ?_⟩)
    fun r => ?_
  · exact fun b hb => law.expired v b (hi.target _ h.1.2) hb
  cases r with
  | down => exact transitionRestorationFail_lawful law
  | wait => exact Lawful.ret fun _ h => h.1
  | expired valid =>
    refine Noted.bind (trace_lawful law (C := fun x => x.1.ctrl.highestValidGroup ≠ 0)
      fun t g h => ⟨h.2 valid rfl, h.1.1⟩) fun _ => ?_
    exact Lawful.pre (transitionDeactivateGroup_lawful law) fun x h hz => absurd hz h

theorem stateDeactivateGroup_lawful :
    Lawful good held guard (TargetRestsIn good .deactivateGroup) stateDeactivateGroup
      (TargetRestsIn good) := by
  refine Noted.bind (read_lawful law (B := fun _ => TargetRestsIn good .deactivateGroup) id
    fun _ _ _ _ h => h) fun ended => Noted.ite (fun _ => ?_) fun _ => Lawful.ret fun _ h => h
  refine Noted.bind (ctrl_lawful law) fun c => Noted.ite (fun _ => Lawful.ret fun _ _ => trivial)
    fun hwan => ?_
  exact Lawful.pre (transitionActivateGroup_lawful law) fun x h hz =>
    h.1 hz (by simpa [h.2] using hwan)

/-! ## The thread -/

theorem setPhase_lawful (st : FailOverState) :
    Lawful good held guard (TargetRestsIn good st) (setPhase (.loop st)) fun _ => TargetRests good :=
  silent_lawful law id (fun _ => rfl) (fun _ _ => rfl) fun v g _ _ hA st' hst => by
    have heq : st = st' := by simpa [FailOverView.setPhase] using hst
    subst heq
    cases st <;> exact hA

theorem leave_lawful {p : FailOverPhase} (hp : ∀ st, p ≠ .loop st) :
    Lawful good held guard A (setPhase p) fun _ => TargetRests good :=
  silent_lawful law id (fun _ => rfl) (fun _ _ => rfl) fun _ _ _ _ _ st hst => absurd hst (hp st)

/-- A tick reads `Enable` again. -/
theorem updateFOControllerData_lawful (st : FailOverState) :
    Lawful good held guard (fun x => TargetRests good x ∧ x.1.phase = .loop st) updateFOControllerData
      fun _ => TargetRestsIn good st := by
  refine silent_lawful law id (fun _ => rfl) (fun _ _ => rfl) fun v g _ hg hA => ?_
  obtain ⟨hrest, hphase⟩ := hA
  have hst := hrest st hphase
  cases st with
  | deactivateGroup => exact fun hz hen => law.enabled v hg hphase hz hen
  | _ => exact hst

theorem failOverLoop_lawful (st : FailOverState) :
    Lawful good held guard (fun x => TargetRests good x ∧ x.1.phase = .loop st) (failOverLoop st)
      fun _ => TargetRests good := by
  refine Noted.bind (updateFOControllerData_lawful law st) fun _ => ?_
  refine Noted.bind (ifaceGroupMonitor_lawful law) fun _ => ?_
  cases st with
  | scanningGroup => exact Noted.bind (stateScanningGroup_lawful law) (setPhase_lawful law)
  | groupActive => exact Noted.bind (stateGroupActive_lawful law) (setPhase_lawful law)
  | restorationWait => exact Noted.bind (stateRestorationWait_lawful law) (setPhase_lawful law)
  | deactivateGroup => exact Noted.bind (stateDeactivateGroup_lawful law) (setPhase_lawful law)
  | exit | error => exact leave_lawful law (by simp)

theorem failOverCtrlInit_lawful : Lawful good held guard A failOverCtrlInit fun _ _ => True := by
  refine Noted.bind (setCtrl_lawful law (C := fun _ => True) fun _ _ _ => trivial) fun _ => ?_
  refine Noted.bind (read_lawful law (B := fun _ _ => True) id fun _ _ _ _ _ => trivial) fun n => ?_
  refine Noted.bind (Lawful.forEach fun i _ => frame_lawful law id (addInterfaceAvailable_self i)
    (target?_addInterfaceAvailable i)) fun _ => ?_
  exact silent_lawful law id (fun _ => rfl) (fun _ _ => rfl) fun _ _ _ _ _ => trivial

theorem failOverStart_lawful : Lawful good held guard A failOverStart fun _ => TargetRests good := by
  refine Noted.bind (failOverCtrlInit_lawful law) fun _ => ?_
  refine Noted.bind (silent_lawful law (B := fun _ _ => True) id (fun _ => rfl) (fun _ _ => rfl)
    fun _ _ _ _ _ => trivial) fun _ => ?_
  refine Noted.bind (Q := fun st => Owned ownTarget (TargetRestsIn good st)) ?_ fun st =>
    Noted.bind (ifaceGroupMonitor_lawful law) fun _ => setPhase_lawful law st
  refine Noted.bind (silent_lawful law (B := fun _ _ => True) id (fun _ => rfl) (fun _ _ => rfl)
    fun _ _ _ _ _ => trivial) fun _ => ?_
  exact Noted.bind (startDeactivated_lawful law) fun _ => Lawful.ret fun _ _ => trivial

theorem selectionThreadRunning_lawful (is : List Nat) :
    Lawful good held guard A (selectionThreadRunning is) fun _ => A := by
  induction is with
  | nil => exact Lawful.ret fun _ h => h
  | cons i is ih =>
    refine Noted.bind (read_lawful law (B := fun _ => A) id fun _ _ _ _ h => h) fun b => ?_
    exact Noted.bind ih fun b' => Lawful.ret fun _ h => h

theorem failOverTick_lawful :
    Lawful good held guard (TargetRests good) failOverTick fun _ => TargetRests good := by
  refine Noted.bind (read_lawful law (B := fun p x => TargetRests good x ∧ x.1.phase = p) id
    fun _ _ _ _ h => ⟨h, rfl⟩) fun p => ?_
  cases p with
  | idle =>
    refine Noted.bind (read_lawful law (B := fun _ => TargetRests good) id fun _ _ _ _ h => h.1)
      fun en => ?_
    exact Noted.ite (fun _ => failOverStart_lawful law) fun _ => Lawful.ret fun _ h => h
  | loop st => exact failOverLoop_lawful law st
  | waitExit =>
    refine Noted.bind (Lawful.pre (totalNoOfGroups_lawful law) fun _ h => h.1) fun n => ?_
    refine Noted.bind (selectionThreadRunning_lawful law _) fun b => ?_
    exact Noted.ite (fun _ => Lawful.ret fun _ h => h) fun _ => leave_lawful law (by simp)

/-- A law holds of every event of every run the guard admits in which the others leave what
it needs of the group to be restored. -/
theorem TraceLaw.reach {R : FailOverView × Option Nat → FailOverView × Option Nat → Prop}
    (hR : ∀ x y, R x y → ∀ g ∈ x.2, held x.1.shared g → held y.1.shared g)
    {c : Config Site Unit (FailOverView × Option Nat)}
    (h : (targetPool.limit R).Reach (fun l x => guard l x.1) TargetInitial c) :
    TraceGood good c.store.1.self := by
  have hsound : (targetPool.limit R).Sound (targetProtocol good held guard) TargetInitial :=
    { start := fun x hx => by
        obtain ⟨⟨hself, -⟩, htarget⟩ := hx
        refine ⟨⟨by simp [TraceGood, hself], by simp [htarget]⟩, fun _ st hst => ?_⟩
        simp [ownTarget, hself] at hst
      stable := fun _ => Protocol.own_stable (TargetRests good)
      body := fun _ => Triple.pre (failOverTick_lawful law) fun _ _ h => h.1
      env := fun x y hi he => by
        obtain ⟨⟨henv, hsame⟩, hkeeps⟩ := he
        have hself : y.1.self = x.1.self := henv.self
        refine ⟨⟨by simpa [TraceGood, hself] using hi.trace, fun g hg => ?_⟩, fun _ => ?_⟩
        · rw [hsame] at hg
          exact hR x y hkeeps g hg (hi.target g hg)
        · show ownTarget y = ownTarget x
          simp [ownTarget, hself, hsame] }
  exact (hsound.reach h).trace

end Laws

end Failover
end WanManager
