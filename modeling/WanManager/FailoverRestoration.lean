import WanManager.FailoverPool
import WanManager.Concurrency.History

/-! # The restoration delay

The active WAN moves to a group of higher priority either because that group was never
activated, or after `STATE_FAILOVER_RESTORATION_WAIT` has lasted for the restoration delay.
A history notes what each tick read, how long the machine has been waiting, what led into
the last deactivation and every move made. The law fails when WAN is disabled during the
wait and enabled again before the deactivation is over: both share one state.
-/

namespace WanManager
open Concurrency

namespace Failover.Restoration

/-- The machine waits to restore a group, and the clock when `Transition_Restoration`
started the timer. -/
structure Wait where
  target : Nat
  since : Nat
  deriving DecidableEq, Repr

/-- The tick that called `Transition_DeactivateGroup`: the group to be activated next, and
what the tick knew of it. -/
structure Decision where
  target : Nat
  wanEnable : Bool
  activationCount : Nat
  wait : Option Wait
  clock : Nat
  delay : Nat
  deriving DecidableEq, Repr

/-- The target was never activated, or it was waited for longer than the delay. -/
def Decision.Honours (d : Decision) : Prop :=
  d.activationCount = 0 ∨ ∃ w ∈ d.wait, w.target = d.target ∧ w.since + d.delay < d.clock

instance (d : Decision) : Decidable d.Honours := inferInstanceAs (Decidable (_ ∨ _))

/-- `CurrentActiveGroup` before and after an activation, and the decision that led to it. -/
structure GroupMove where
  old : Nat
  new : Nat
  decided : Option Decision
  deriving DecidableEq, Repr

def GroupMove.Honoured (m : GroupMove) : Prop :=
  m.old ≠ 0 → m.new ≠ 0 → m.new < m.old → ∃ d ∈ m.decided, d.target = m.new ∧ d.Honours

instance (m : GroupMove) : Decidable m.Honoured := inferInstanceAs (Decidable (_ → _ → _ → _))

structure History where
  /-- what this tick has read of `ActivationCount` and of the clock, if it did -/
  count : Option Nat := none
  clock : Option Nat := none
  /-- every tick since then began in `STATE_FAILOVER_RESTORATION_WAIT` -/
  waiting : Option Wait := none
  /-- the decision of the deactivation going on -/
  decided : Option Decision := none
  moves : List GroupMove := []
  deriving DecidableEq, Repr

/-- The decision to deactivate; what the tick did not read itself is taken from the data base
as it is then. -/
def decision (v : FailOverView) (h : History) : Decision where
  target := v.self.ctrl.highestValidGroup
  wanEnable := v.self.ctrl.wanEnable
  activationCount := h.count.getD (activationCount v)
  wait := h.waiting
  clock := h.clock.getD v.shared.now
  delay := v.self.ctrl.restorationDelay

def noteEvent (e : FailOverEvent) (v : FailOverView) (h : History) : History :=
  let c := v.self.ctrl
  match e with
  | .restoration => { h with waiting := some ⟨c.highestValidGroup, c.groupSelectionTimer⟩ }
  | .deactivateGroup => { h with decided := some (decision v h) }
  | .activated g _ =>
    { h with moves := h.moves ++ [⟨c.currentActiveGroup, g, h.decided⟩], decided := none }
  | .resetScan => { h with decided := none }
  | .restorationFail | .restorationExpired _ => h

/-- A section in the history: the start of a tick, its readings, and the events it traces. -/
def note (l : Site) (v v' : FailOverView) (h : History) : History :=
  match l with
  | .updateFOControllerData =>
    { h with
      count := none, clock := none
      waiting := if v.self.phase = .loop .restorationWait then h.waiting else none }
  | .activationCount => { h with count := some (activationCount v) }
  | .restorationWait => { h with clock := some v.shared.now }
  | _ =>
    match v'.self.trace.drop v.self.trace.length with
    | [e] => noteEvent e v h
    | _ => h

/-- Every move to a group of higher priority honoured the delay. -/
def DelayHonoured (h : History) : Prop := ∀ m ∈ h.moves, m.Honoured

instance (h : History) : Decidable (DelayHonoured h) := inferInstanceAs (Decidable (∀ _ ∈ _, _))

/-- A deactivation that began with WAN disabled, when a group of higher priority was
remembered but not to be moved to yet, does not end with WAN enabled. -/
def NotResumed (l : Site) (x : FailOverView × History) : Prop :=
  let c := x.1.self.ctrl
  l = .deactivateGroupTest → ∀ d ∈ x.2.decided, d.wanEnable = false → ¬ d.Honours →
    c.highestValidGroup ≠ 0 → c.highestValidGroup < c.currentActiveGroup → c.wanEnable = true →
    currentActiveGroupDeactivated x.1 = false

instance (l : Site) (x : FailOverView × History) : Decidable (NotResumed l x) :=
  inferInstanceAs (Decidable (_ → ∀ _ ∈ _, _))

abbrev historyPool : Pool Site Unit (FailOverView × History) := pool.record note

instance : ∀ t x, Decidable (historyPool.ready t x) := fun _ _ => isTrue trivial

def HistoryInitial (x : FailOverView × History) : Prop := Initial x.1 ∧ x.2 = {}

/-- The runs with a history are the runs of the machine. -/
theorem historyPool_runs (v : FailOverView) :
    (∃ c, pool.Reach (fun _ _ => True) Initial c ∧ c.store = v) ↔
      ∃ d, historyPool.Reach (fun _ _ => True) HistoryInitial d ∧ d.store.1 = v :=
  Pool.record_runs

/-! ## What the machine knows at rest -/

/-- The deactivation going on is the machine's own decision, honours the delay, or does not
move to a group of higher priority. -/
def Deciding (t : FailOverThread) (h : History) : Prop :=
  ∃ d, h.decided = some d ∧ d.target = t.ctrl.highestValidGroup ∧
    (t.ctrl.currentActiveGroup ≤ t.ctrl.highestValidGroup ∨ d.wanEnable = false ∨ d.Honours)

def RestsIn (st : FailOverState) (x : FailOverThread × History) : Prop :=
  match st with
  | .scanningGroup => x.1.ctrl.currentActiveGroup = 0
  | .restorationWait =>
    x.2.waiting = some ⟨x.1.ctrl.highestValidGroup, x.1.ctrl.groupSelectionTimer⟩
  | .deactivateGroup => Deciding x.1 x.2
  | _ => True

def Rests (x : FailOverThread × History) : Prop := ∀ st, x.1.phase = .loop st → RestsIn st x

def own (x : FailOverView × History) : FailOverThread × History := (x.1.self, x.2)

abbrev historyProtocol : Protocol Site Unit (FailOverView × History) :=
  Protocol.own own (fun x => DelayHonoured x.2) Rests NotResumed

abbrev historyContract : Contract Site (FailOverView × History) := historyProtocol.contract ()

/-- A program of the machine, with its history. -/
abbrev Keeps (A : FailOverThread × History → Prop) {α : Type} (p : FailOverProg α)
    (B : α → FailOverThread × History → Prop) : Prop :=
  Triple historyContract (Owned own A) (p.record note) fun a => Owned own (B a)

variable {A : FailOverThread × History → Prop} {α β : Type} {B : α → FailOverThread × History → Prop}

theorem Keeps.bind {p : FailOverProg α} {q : α → FailOverProg β}
    {C : β → FailOverThread × History → Prop} (hp : Keeps A p B)
    (hq : ∀ a, Keeps (B a) (q a) C) : Keeps A (p >>= q) C := by
  unfold Keeps
  rw [Prog.record_bind]
  exact Triple.bind hp hq

theorem Keeps.ret {a : α} (h : ∀ x, A x → B a x) : Keeps A (.ret a) B := Protocol.own_ret h

theorem Keeps.ite {c : Prop} [Decidable c] {p q : FailOverProg α} (hp : c → Keeps A p B)
    (hq : ¬ c → Keeps A q B) : Keeps A (if c then p else q) B := by
  unfold Keeps
  rw [Prog.record_ite]
  exact Triple.ite hp hq

theorem Keeps.pre {A' : FailOverThread × History → Prop} {p : FailOverProg α} (h : Keeps A p B)
    (hA : ∀ x, A' x → A x) : Keeps A' p B :=
  Triple.pre h fun x _ hx => hA (own x) hx

/-- A section, with the history it leaves. -/
theorem Keeps.critical {l : Site} {m : FailOverView → α × FailOverView}
    (h : ∀ v h, DelayHonoured h → NotResumed l (v, h) → A (v.self, h) →
      DelayHonoured (note l v (m v).2 h) ∧ B (m v).1 ((m v).2.self, note l v (m v).2 h)) :
    Keeps A (.critical l m) B := by
  unfold Keeps
  rw [Prog.record_critical]
  exact Protocol.own_section fun x hi hg hA => h x.1 x.2 hi hg hA

theorem Keeps.modify {l : Site} {f : FailOverView → FailOverView}
    {C : FailOverThread × History → Prop}
    (h : ∀ v h, DelayHonoured h → NotResumed l (v, h) → A (v.self, h) →
      DelayHonoured (note l v (f v) h) ∧ C ((f v).self, note l v (f v) h)) :
    Keeps A (.modify l f) fun _ => C :=
  Keeps.critical h

/-! ## Sections the history does not see -/

/-- The sections that are noted for what they are. -/
def Noted (l : Site) : Prop :=
  l = .updateFOControllerData ∨ l = .activationCount ∨ l = .restorationWait

instance (l : Site) : Decidable (Noted l) := inferInstanceAs (Decidable (_ ∨ _))

theorem note_event {l : Site} {v v' : FailOverView} {e : FailOverEvent} (h : History)
    (hl : ¬ Noted l) (ht : v'.self.trace = v.self.trace ++ [e]) :
    note l v v' h = noteEvent e v h := by
  unfold note
  split
  · exact absurd (.inl rfl) hl
  · exact absurd (.inr (.inl rfl)) hl
  · exact absurd (.inr (.inr rfl)) hl
  · simp [ht]

theorem note_silent {l : Site} {v v' : FailOverView} (h : History)
    (hl : ¬ Noted l) (ht : v'.self.trace = v.self.trace) : note l v v' h = h := by
  unfold note
  split
  · exact absurd (.inl rfl) hl
  · exact absurd (.inr (.inl rfl)) hl
  · exact absurd (.inr (.inr rfl)) hl
  · simp [ht]

/-- A section that traces nothing changes the record only. -/
theorem Keeps.silent {l : Site} {m : FailOverView → α × FailOverView}
    (hl : ¬ Noted l) (ht : ∀ v, (m v).2.self.trace = v.self.trace)
    (h : ∀ v h, NotResumed l (v, h) → A (v.self, h) → B (m v).1 ((m v).2.self, h)) :
    Keeps A (.critical l m) B := by
  refine Keeps.critical fun v h' hi hg hA => ?_
  rw [note_silent h' hl (ht v)]
  exact ⟨hi, h v h' hg hA⟩

/-- A section that leaves the record alone. -/
theorem Keeps.frame {l : Site} {f : FailOverView → FailOverView} (hl : ¬ Noted l)
    (hf : ∀ v, (f v).self = v.self) : Keeps A (.modify l f) fun _ => A :=
  Keeps.silent hl (fun v => congrArg FailOverThread.trace (hf v)) fun v h _ hA => by
    show A ((f v).self, h)
    rwa [hf v]

theorem Keeps.read {l : Site} {g : FailOverView → α} (hl : ¬ Noted l)
    (h : ∀ v h, NotResumed l (v, h) → A (v.self, h) → B (g v) (v.self, h)) :
    Keeps A (.read l g) B :=
  Keeps.silent hl (fun _ => rfl) h

theorem Keeps.forEach {is : List β} {body : β → FailOverProg Unit}
    (step : ∀ i ∈ is, Keeps A (body i) fun _ => A) : Keeps A (.forEach is body) fun _ => A := by
  unfold Keeps
  rw [Prog.record_forEach]
  exact Triple.forEach (Protocol.own_stable A) step

theorem Keeps.forUntil {is : List β} {body : β → FailOverProg Bool}
    (step : ∀ i ∈ is, Keeps A (body i) fun _ => A) : Keeps A (.forUntil is body) fun _ => A := by
  unfold Keeps
  rw [Prog.record_forUntil]
  exact Triple.forUntil (Protocol.own_stable A) step

theorem ctrl_keeps : Keeps A ctrl fun c x => A x ∧ x.1.ctrl = c :=
  Keeps.read (by decide) fun _ _ _ hA => ⟨hA, rfl⟩

theorem totalNoOfGroups_keeps : Keeps A totalNoOfGroups fun _ => A :=
  Keeps.read (by decide) fun _ _ _ hA => hA

theorem setCtrl_keeps {f : FailOverController → FailOverController}
    {C : FailOverThread × History → Prop}
    (h : ∀ t h, A (t, h) → C ({ t with ctrl := f t.ctrl }, h)) :
    Keeps A (setCtrl f) fun _ => C :=
  Keeps.silent (by decide) (fun _ => rfl) fun v h' _ hA => h v.self h' hA

theorem trace_keeps {e : FailOverEvent} {C : FailOverThread × History → Prop}
    (h : ∀ v h, DelayHonoured h → A (v.self, h) →
      DelayHonoured (noteEvent e v h) ∧
        C ({ v.self with trace := v.self.trace ++ [e] }, noteEvent e v h)) :
    Keeps A (trace e) fun _ => C := by
  refine Keeps.modify fun v h' hi _ hA => ?_
  rw [note_event (e := e) h' (by decide) rfl]
  exact h v h' hi hA

theorem ifaceGroupMonitor_keeps : Keeps A ifaceGroupMonitor fun _ => A :=
  totalNoOfGroups_keeps.bind fun _ =>
    Keeps.forEach fun i _ => Keeps.frame (by simp [Noted]) (monitorGroup_self i)

theorem deactivateCurrent_keeps : Keeps A deactivateCurrent fun _ => A := by
  refine ctrl_keeps.bind fun c => Keeps.ite (fun _ => ?_) fun _ => Keeps.ret fun _ h => h.1
  exact Keeps.pre (Keeps.frame (by decide) fun _ => rfl) fun _ h => h.1

theorem stopLowerGroups_keeps : Keeps A stopLowerGroups fun _ => A := by
  refine ctrl_keeps.bind fun c => Keeps.ite (fun _ => ?_) fun _ => Keeps.ret fun _ h => h.1
  refine (totalNoOfGroups_keeps.pre fun _ h => h.1).bind fun _ => ?_
  exact Keeps.forEach fun i _ => Keeps.frame (by simp [Noted]) fun _ => rfl

theorem startDeactivated_keeps : Keeps A startDeactivated fun _ => A := by
  refine ctrl_keeps.bind fun c => Keeps.ite (fun _ => ?_) fun _ => Keeps.ret fun _ h => h.1
  refine (totalNoOfGroups_keeps.pre fun _ h => h.1).bind fun _ => ?_
  exact Keeps.forEach fun i _ => Keeps.frame (by simp [Noted]) fun _ => rfl

/-- The search for the best group changes `HighestValidGroup` only. -/
theorem markHighPriorityGroup_keeps {w : Bool}
    (hA : ∀ t h g, A (t, h) → A ({ t with ctrl := { t.ctrl with highestValidGroup := g } }, h)) :
    Keeps A (markHighPriorityGroup w) fun _ => A := by
  refine (setCtrl_keeps fun t h ht => hA t h 0 ht).bind fun _ => ?_
  refine totalNoOfGroups_keeps.bind fun _ => Keeps.forUntil fun i _ => ?_
  refine Keeps.silent (by simp [Noted]) (fun v => ?_) fun v h _ ht => ?_
  · obtain ⟨g, hg⟩ := markGroup_self w i v
    rw [hg]
  · obtain ⟨g, hg⟩ := markGroup_self w i v
    rw [hg]
    exact hA v.self h g ht

/-! ## Transitions -/

/-- An activation now would be a move the law allows. -/
def MayActivate (x : FailOverThread × History) : Prop :=
  GroupMove.Honoured ⟨x.1.ctrl.currentActiveGroup, x.1.ctrl.highestValidGroup, x.2.decided⟩

theorem activationTelemetry_groups (c : FailOverController) :
    (activationTelemetry c).currentActiveGroup = c.currentActiveGroup ∧
      (activationTelemetry c).highestValidGroup = c.highestValidGroup := by
  unfold activationTelemetry
  split
  · exact ⟨rfl, rfl⟩
  · split
    · exact ⟨rfl, rfl⟩
    · split <;> exact ⟨rfl, rfl⟩

theorem DelayHonoured.append {h : History} {m : GroupMove} (hh : DelayHonoured h)
    (hm : m.Honoured) : DelayHonoured { h with moves := h.moves ++ [m], decided := none } := by
  intro m' hmem
  rcases List.mem_append.mp hmem with hmem | hmem
  · exact hh m' hmem
  · rwa [List.mem_singleton.mp hmem]

theorem transitionActivateGroup_keeps :
    Keeps MayActivate transitionActivateGroup RestsIn := by
  refine ctrl_keeps.bind fun c => Keeps.ite (fun hc => ?_) fun hc => ?_
  · refine Keeps.bind (B := fun _ => MayActivate) (setCtrl_keeps fun t h ht => ?_) fun _ => ?_
    · obtain ⟨hcur, hhigh⟩ := activationTelemetry_groups t.ctrl
      simpa [MayActivate, hcur, hhigh] using ht.1
    refine Keeps.bind (B := fun _ _ => True) (Keeps.modify fun v h hi _ hA => ?_) fun _ => ?_
    · rw [note_event (e := .activated _ _) h (by decide) rfl]
      exact ⟨hi.append hA, trivial⟩
    · exact stopLowerGroups_keeps.bind fun _ => Keeps.ret fun _ _ => trivial
  · refine Keeps.bind (B := fun _ _ => True) (Keeps.modify fun v h hi _ hA => ?_)
      fun _ => Keeps.ret fun _ _ => trivial
    rw [note_event (e := .activated _ _) h (by decide) rfl]
    exact ⟨hi.append fun _ hz => absurd rfl hz, trivial⟩

/-- A deactivation decided now honours the delay, or is forced by WAN being disabled. -/
def MayDecide (x : FailOverThread × History) : Prop :=
  let c := x.1.ctrl
  c.currentActiveGroup ≤ c.highestValidGroup ∨ c.wanEnable = false ∨ x.2.count = some 0 ∨
    x.2.waiting = some ⟨c.highestValidGroup, c.groupSelectionTimer⟩ ∧
      ∃ now ∈ x.2.clock, c.groupSelectionTimer + c.restorationDelay < now

theorem transitionDeactivateGroup_keeps :
    Keeps MayDecide transitionDeactivateGroup RestsIn := by
  refine deactivateCurrent_keeps.bind fun _ => ?_
  refine Keeps.bind (B := fun _ => RestsIn .deactivateGroup) (trace_keeps fun v h hi hA => ?_)
    fun _ => Keeps.ret fun _ h => h
  refine ⟨hi, decision v h, rfl, rfl, ?_⟩
  rcases hA with hle | hwan | hcount | ⟨hwait, now, hclock, hlate⟩
  · exact .inl hle
  · exact .inr (.inl hwan)
  · have hzero : h.count = some 0 := hcount
    exact .inr (.inr (.inl (by simp [decision, hzero])))
  · have hwait' : h.waiting = _ := hwait
    have hclock' : h.clock = some now := hclock
    exact .inr (.inr (.inr ⟨_, hwait', rfl, by simpa [decision, hclock'] using hlate⟩))

theorem transitionRestoration_keeps : Keeps A transitionRestoration RestsIn := by
  refine Keeps.bind (B := fun _ _ => True)
    (Keeps.silent (by decide) (fun _ => rfl) fun _ _ _ _ => trivial) fun _ => ?_
  exact Keeps.bind (B := fun _ => RestsIn .restorationWait) (trace_keeps fun v h hi _ => ⟨hi, rfl⟩)
    fun _ => Keeps.ret fun _ h => h

theorem transitionRestorationFail_keeps : Keeps A transitionRestorationFail RestsIn := by
  refine Keeps.bind (B := fun _ _ => True) (setCtrl_keeps fun _ _ _ => trivial) fun _ => ?_
  exact Keeps.bind (B := fun _ _ => True) (trace_keeps fun v h hi _ => ⟨hi, trivial⟩)
    fun _ => Keeps.ret fun _ _ => trivial

theorem transitionResetScan_keeps : Keeps A transitionResetScan RestsIn := by
  refine deactivateCurrent_keeps.bind fun _ => ?_
  refine Keeps.bind (B := fun _ => RestsIn .scanningGroup) (Keeps.modify fun v h hi _ _ => ?_)
    fun _ => Keeps.ret fun _ h => h
  rw [note_event (e := .resetScan) h (by decide) rfl]
  exact ⟨hi, rfl⟩

/-! ## States -/

theorem stateScanningGroup_keeps :
    Keeps (RestsIn .scanningGroup) stateScanningGroup RestsIn := by
  refine ctrl_keeps.bind fun c => Keeps.ite (fun _ => Keeps.ret fun _ _ => trivial) fun _ => ?_
  refine Keeps.bind (B := fun _ => RestsIn .scanningGroup)
    (Keeps.pre (markHighPriorityGroup_keeps fun t h g ht => ht) fun _ h => h.1) fun _ => ?_
  refine ctrl_keeps.bind fun c => Keeps.ite (fun _ => ?_) fun _ => Keeps.ret fun _ h => h.1
  exact transitionActivateGroup_keeps.pre fun x h hold => absurd h.1 hold

theorem compareGroups_keeps : Keeps A compareGroups RestsIn := by
  refine ctrl_keeps.bind fun c => Keeps.ite (fun _ => ?_) fun _ => ?_
  · refine Keeps.bind (B := fun count x => x.2.count = some count ∧ x.1.ctrl = c)
      (Keeps.critical fun v h hi _ hA => ⟨hi, rfl, hA.2⟩) fun count => ?_
    refine Keeps.ite (fun hnow => ?_) fun _ => Keeps.ite (fun _ => ?_) fun _ =>
      Keeps.ret fun _ _ => trivial
    · refine Keeps.bind (B := fun _ => MayDecide)
        (Keeps.silent (by decide) (fun _ => rfl) fun v h _ hA => ?_)
        fun _ => transitionDeactivateGroup_keeps
      obtain ⟨hcount, rfl⟩ := hA
      rcases hnow with hlt | ⟨rfl, -⟩
      · exact .inl (Nat.le_of_lt hlt)
      · exact .inr (.inr (.inl hcount))
    · refine Keeps.bind (B := fun _ _ => True)
        (Keeps.silent (by decide) (fun _ => rfl) fun _ _ _ _ => trivial)
        fun _ => transitionRestoration_keeps
  · exact Keeps.bind (B := fun _ _ => True) (setCtrl_keeps fun _ _ _ => trivial)
      fun _ => Keeps.ret fun _ _ => trivial

theorem stateGroupActive_keeps : Keeps A stateGroupActive RestsIn := by
  refine ctrl_keeps.bind fun c => Keeps.ite (fun hwan => ?_) fun _ => Keeps.ite (fun _ => ?_)
    fun _ => ?_
  · exact transitionDeactivateGroup_keeps.pre fun x h => .inr (.inl (h.2 ▸ hwan))
  · exact transitionResetScan_keeps
  · exact Keeps.bind (B := fun _ _ => True)
      (Keeps.pre (markHighPriorityGroup_keeps fun _ _ _ h => h) fun _ _ => trivial)
      fun _ => compareGroups_keeps

/-- What the state function of the wait reads: its own clock, and with it whether the delay
is over. -/
theorem restorationTest_keeps :
    Keeps (RestsIn .restorationWait) (.read .restorationWait restorationTest) fun r x =>
      RestsIn .restorationWait x ∧ ∀ valid, r = .expired valid → MayDecide x := by
  refine Keeps.critical fun v h hi _ hA => ⟨hi, hA, fun valid hr => ?_⟩
  have hlate : restorationExpired v = true := by
    unfold restorationTest at hr
    split at hr
    · cases hr
    · split at hr
      · assumption
      · cases hr
  exact .inr (.inr (.inr ⟨hA, v.shared.now, rfl, by simpa [restorationExpired] using hlate⟩))

theorem stateRestorationWait_keeps :
    Keeps (RestsIn .restorationWait) stateRestorationWait RestsIn := by
  refine ctrl_keeps.bind fun c => Keeps.ite (fun hwan => ?_) fun _ => ?_
  · exact transitionDeactivateGroup_keeps.pre fun x h => .inr (.inl (h.2 ▸ hwan))
  refine (restorationTest_keeps.pre fun _ h => h.1).bind fun r => ?_
  cases r with
  | down => exact transitionRestorationFail_keeps
  | wait => exact Keeps.ret fun _ h => h.1
  | expired valid =>
    refine Keeps.bind (B := fun _ => MayDecide) (trace_keeps fun v h hi hA => ⟨hi, ?_⟩)
      fun _ => transitionDeactivateGroup_keeps
    exact hA.2 valid rfl

theorem stateDeactivateGroup_keeps :
    Keeps (RestsIn .deactivateGroup) stateDeactivateGroup RestsIn := by
  refine Keeps.bind (B := fun ended x => RestsIn .deactivateGroup x ∧
      (ended = true → x.1.ctrl.wanEnable = true → MayActivate x))
    (Keeps.read (by decide) fun v h hg hA => ⟨hA, fun hover hwan hold hnew hlt => ?_⟩)
    fun ended => ?_
  · obtain ⟨d, hd, htarget, hwhy⟩ := hA
    refine ⟨d, hd, htarget, ?_⟩
    by_contra hearly
    rcases hwhy with hle | hdis | hhon
    · exact absurd hlt (by simpa using hle)
    · have hnot := hg rfl d hd hdis hearly hnew hlt hwan
      rw [hnot] at hover
      cases hover
    · exact hearly hhon
  · cases ended with
    | false => exact Keeps.ret fun _ h => h.1
    | true =>
      refine ctrl_keeps.bind fun c => Keeps.ite (fun _ => Keeps.ret fun _ _ => trivial) fun hwan => ?_
      exact transitionActivateGroup_keeps.pre fun x h => h.1.2 rfl (by simpa [h.2] using hwan)

/-! ## The thread -/

theorem setPhase_keeps (st : FailOverState) :
    Keeps (RestsIn st) (setPhase (.loop st)) fun _ => Rests :=
  Keeps.silent (by decide) (fun _ => rfl) fun v h _ hA st' hst => by
    have heq : st = st' := by simpa [FailOverView.setPhase] using hst
    subst heq
    cases st <;> exact hA

theorem leave_keeps {p : FailOverPhase} (hp : ∀ st, p ≠ .loop st) :
    Keeps A (setPhase p) fun _ => Rests :=
  Keeps.silent (by decide) (fun _ => rfl) fun v h _ _ st hst => absurd hst (hp st)

/-- A new tick forgets what the last one read, and the wait if it is over. -/
theorem updateFOControllerData_keeps (st : FailOverState) :
    Keeps (fun x => Rests x ∧ x.1.phase = .loop st) updateFOControllerData
      fun _ => RestsIn st := by
  refine Keeps.modify fun v h hi _ hA => ⟨hi, ?_⟩
  obtain ⟨hrest, hphase⟩ := hA
  have hst := hrest st hphase
  have hphase' : v.self.phase = .loop st := hphase
  cases st with
  | restorationWait => simpa [RestsIn, note, takeConfig, hphase'] using hst
  | _ => exact hst

theorem failOverLoop_keeps (st : FailOverState) :
    Keeps (fun x => Rests x ∧ x.1.phase = .loop st) (failOverLoop st) fun _ => Rests := by
  refine (updateFOControllerData_keeps st).bind fun _ => ifaceGroupMonitor_keeps.bind fun _ => ?_
  cases st with
  | scanningGroup => exact stateScanningGroup_keeps.bind setPhase_keeps
  | groupActive => exact stateGroupActive_keeps.bind setPhase_keeps
  | restorationWait => exact stateRestorationWait_keeps.bind setPhase_keeps
  | deactivateGroup => exact stateDeactivateGroup_keeps.bind setPhase_keeps
  | exit | error => exact leave_keeps (by simp)

theorem failOverCtrlInit_keeps : Keeps A failOverCtrlInit fun _ _ => True := by
  refine Keeps.bind (B := fun _ _ => True) (setCtrl_keeps fun _ _ _ => trivial) fun _ => ?_
  refine Keeps.bind (B := fun _ _ => True) (Keeps.read (by decide) fun _ _ _ _ => trivial)
    fun n => ?_
  refine Keeps.bind (B := fun _ _ => True) (Keeps.forEach fun i _ =>
    Keeps.frame (by simp [Noted]) (addInterfaceAvailable_self i)) fun _ => ?_
  exact Keeps.silent (by decide) (fun _ => rfl) fun _ _ _ _ => trivial

theorem failOverStart_keeps : Keeps A failOverStart fun _ => Rests := by
  refine failOverCtrlInit_keeps.bind fun _ => ?_
  refine Keeps.bind (B := fun _ _ => True) (Keeps.modify fun v h hi _ _ => ⟨hi, trivial⟩)
    fun _ => ?_
  refine Keeps.bind (B := RestsIn) ?_ fun st =>
    ifaceGroupMonitor_keeps.bind fun _ => setPhase_keeps st
  refine Keeps.bind (B := fun _ => RestsIn .scanningGroup)
    (Keeps.silent (by decide) (fun _ => rfl) fun _ _ _ _ => rfl) fun _ => ?_
  exact startDeactivated_keeps.bind fun _ => Keeps.ret fun _ h => h

theorem selectionThreadRunning_keeps (is : List Nat) :
    Keeps A (selectionThreadRunning is) fun _ => A := by
  induction is with
  | nil => exact Keeps.ret fun _ h => h
  | cons i is ih =>
    refine Keeps.bind (B := fun _ => A) (Keeps.read (by simp [Noted]) fun _ _ _ h => h)
      fun b => ih.bind fun b' => Keeps.ret fun _ h => h

theorem failOverTick_keeps : Keeps Rests failOverTick fun _ => Rests := by
  refine Keeps.bind (B := fun p x => Rests x ∧ x.1.phase = p)
    (Keeps.read (by decide) fun v h _ hA => ⟨hA, rfl⟩) fun p => ?_
  cases p with
  | idle =>
    refine Keeps.bind (B := fun _ => Rests) (Keeps.read (by decide) fun v h _ hA => hA.1)
      fun en => ?_
    exact Keeps.ite (fun _ => failOverStart_keeps) fun _ => Keeps.ret fun _ h => h
  | loop st => exact failOverLoop_keeps st
  | waitExit =>
    refine (totalNoOfGroups_keeps.pre fun _ h => h.1).bind fun n => ?_
    refine (selectionThreadRunning_keeps _).bind fun b => ?_
    exact Keeps.ite (fun _ => Keeps.ret fun _ h => h) fun _ => leave_keeps (by simp)

theorem history_sound : historyPool.Sound historyProtocol HistoryInitial where
  start x hx := by
    obtain ⟨v, h⟩ := x
    obtain ⟨⟨hself, -⟩, rfl⟩ := hx
    have hself' : v.self = {} := hself
    exact ⟨fun m hm => absurd hm (by simp), fun _ st hst => by simp [own, hself'] at hst⟩
  stable _ := Protocol.own_stable Rests
  body _ := Triple.pre failOverTick_keeps fun _ _ h => h.1
  env x y hi he := by
    obtain ⟨henv, hsame⟩ := he
    have hown : own y = own x := by simp [own, hsame, henv.self]
    have hi' : DelayHonoured y.2 := hsame ▸ hi
    exact ⟨hi', fun _ => hown⟩

/-- In every run in which no deactivation that WAN being disabled began too early ends with
WAN enabled, the active WAN only moves to a group of higher priority if that group was
never activated, or after waiting for it for longer than the restoration delay. -/
theorem restoration_delay_honoured {c : Config Site Unit (FailOverView × History)}
    (h : historyPool.Reach NotResumed HistoryInitial c) : DelayHonoured c.store.2 :=
  history_sound.reach h

/-! The first group loses its lease to the second and gets it back; then the delay passes,
or WAN is disabled and enabled again. -/

namespace Example
open Failover.Example

/-- `start₂` with a restoration delay of a minute. -/
def delayed : FailOverView × History :=
  ({ start₂ with shared := { start₂.shared with config := { restorationDelay := 60 } } }, {})

theorem delayed_initial : HistoryInitial delayed := ⟨⟨rfl, rfl, rfl⟩, rfl⟩

def pass (n : Nat) : pool.Move :=
  after (fun s => { s with now := s.now + n }) fun _ => ⟨Nat.le_refl _, by simp⟩

/-- The machine waits to restore the first group. -/
def awaitRestoration : List pool.Move :=
  [enable true, found, found₂, virtIfStatus .validating, enable true, virtIfStatus .standby]

def restored : List historyPool.Move :=
  (awaitRestoration ++ [pass 61, enable true]).map fun m => m.record note

def resumed : List historyPool.Move :=
  (awaitRestoration ++ [enable false, enable true]).map fun m => m.record note

end Example

open Failover.Restoration.Example in
theorem restoration_delay_honoured_run :
    DelayHonoured (historyPool.play restored delayed).2 ∧
      ∃ m ∈ (historyPool.play restored delayed).2.moves, m.old = 2 ∧ m.new = 1 := by
  have hplays : historyPool.Plays NotResumed restored delayed := by decide +kernel
  have hrun := Pool.Reach.play (.start delayed_initial) hplays
  have hhon := restoration_delay_honoured hrun
  rw [Pool.idle_store] at hhon
  exact ⟨hhon, by decide +kernel⟩

open Failover.Restoration.Example in
/-- Disabled and enabled again during the wait, the machine activates the first group at
once. -/
theorem restoration_delay_skipped :
    ¬ ∀ c, historyPool.Reach (fun _ _ => True) HistoryInitial c → DelayHonoured c.store.2 := by
  intro h
  have hplays : historyPool.Plays (fun _ _ => True) resumed delayed := by decide +kernel
  have hhon := h _ (Pool.Reach.play (.start delayed_initial) hplays)
  rw [Pool.idle_store] at hhon
  exact absurd hhon (by decide +kernel)

end Failover.Restoration
end WanManager
