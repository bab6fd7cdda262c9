import WanManager.ScanCycle
import Mathlib.Logic.Relation
import Mathlib.Tactic.Tauto

/-! # Runs of scan cycles

One selection thread after another, for a group whose configuration stays as it is: links, leases
and everything a trial brings about may change between any two sections. Nobody changes the status
of an interface of the group that is not being tried. -/

namespace WanManager
open Concurrency

namespace ScanCycle
open Policy AutoWan

/-! ## The pool -/

/-- The table once the interfaces of a list are reset. -/
def resetting (is : List Nat) (x : PolicyView) : PolicyView :=
  x.mapShared fun s => is.foldl (fun s i => resetIface x.self.ctrl.groupInst i s) s

def trial (x : PolicyView) (i : Nat) : Trial :=
  match x.shared.ifaces[i]? with
  | some d => ⟨i, d.selection.priority, d.selection.activeLink⟩
  | none => ⟨i, 0, false⟩

/-- Nothing was tried, and now an interface is. -/
def noteTrial (x x' : PolicyView) (log : List ScanEvent) : List ScanEvent :=
  match x.self.ctrl.activeInterfaceIdx, x'.self.ctrl.activeInterfaceIdx with
  | none, some i => .tried (trial x i) :: log
  | _, _ => log

/-- What the log says of a section. The reset that follows the end of a scan takes several. -/
def note (l : Site) (x x' : PolicyView) (log : List ScanEvent) : List ScanEvent :=
  match l with
  | .selectGroupIface => .reset true (due (resetIfaceTable x')) :: log
  | .policyState =>
    match x.self.phase, x'.self.phase with
    | .autoWan st, .autoWan st' => if Resets st x st' then .reset false (due x') :: log else log
    | _, _ => log
  | _ => noteTrial x x' log

/-- What others may do while the thread runs. -/
structure TrialEvents (x x' : PolicyView) : Prop where
  self : x'.self = x.self
  remote : x'.shared.config.allowRemoteInterfaces = x.shared.config.allowRemoteInterfaces
  plan : ∀ i, (ours? x' i).map plan = (ours? x i).map plan
  status : ∀ i, x.self.ctrl.activeInterfaceIdx ≠ some i →
    (ours? x' i).map status = (ours? x i).map status

/-- A new thread for the group. -/
def restarted (x : PolicyView) : PolicyView :=
  { x with self := { phase := .created .autowan, ctrl := { groupInst := x.self.ctrl.groupInst } } }

inductive ScanEnv : PolicyView × List ScanEvent → PolicyView × List ScanEvent → Prop
  | events {x x' log} : x'.self = x.self → (x.self.Live → TrialEvents x x') → ScanEnv (x, log) (x', log)
  | restart {x log} : x.self.phase = .exited →
      ScanEnv (x, log) (restarted x, .started (due (restarted x)) :: log)

def pool : Pool Site Unit (PolicyView × List ScanEvent) where
  body _ := Policy.tick.record note
  ready _ x := x.1.self.Live
  env := ScanEnv

instance : ∀ t x, Decidable (pool.ready t x) := fun _ x => inferInstanceAs (Decidable x.1.self.Live)

/-- A thread that was just created. -/
structure Created (x : PolicyView × List ScanEvent) : Prop where
  phase : x.1.self.phase = .created .autowan
  inst : x.1.self.ctrl.groupInst ≠ 0
  free : x.1.self.ctrl.activeInterfaceIdx = none
  log : x.2 = [.started (due x.1)]

/-! ## What the log knows of the table -/

structure Track (x : PolicyView) (log : List ScanEvent) : Prop where
  inst : x.self.ctrl.groupInst ≠ 0
  held : ∀ i, x.self.ctrl.activeInterfaceIdx = some i → i ∈ (cycle true log).tried
  /-- what was given up is `INVALID` -/
  spent : ∀ i ∈ (cycle true log).tried, x.self.ctrl.activeInterfaceIdx ≠ some i →
    ∀ d ∈ ours? x i, status d = .invalid
  /-- what was not tried yet still can be -/
  owed : ∀ i ∈ (cycle true log).due, i ∉ (cycle true log).tried → (candidate x i).isSome
  order : ∃ chosen first, (cycle true log).Splits chosen first ∧
    ∀ t ∈ chosen, ∀ i, i ∉ (cycle true log).tried → ∀ p ∈ candidate x i, t.priority ≤ p

namespace Track

variable {x x' : PolicyView} {log : List ScanEvent} {i : Nat} {p : Int}

/-- Nothing changes for an interface that is not being tried; the one that is can be given up. -/
theorem transfer (h : Track x log) (hinst : x'.self.ctrl.groupInst = x.self.ctrl.groupInst)
    (hidx : ∀ i, x'.self.ctrl.activeInterfaceIdx = some i → x.self.ctrl.activeInterfaceIdx = some i)
    (hsame : ∀ i, x.self.ctrl.activeInterfaceIdx ≠ some i → candidate x' i = candidate x i ∧
      (ours? x' i).map status = (ours? x i).map status)
    (hgave : ∀ i, x.self.ctrl.activeInterfaceIdx = some i →
      x'.self.ctrl.activeInterfaceIdx = some i ∨ ∀ d ∈ ours? x' i, status d = .invalid) :
    Track x' log := by
  have hfree {i : Nat} (hi : i ∉ (cycle true log).tried) : candidate x' i = candidate x i :=
    (hsame i fun hheld => hi (h.held i hheld)).1
  refine ⟨by rw [hinst]; exact h.inst, fun i hi => h.held i (hidx i hi), fun i hi hne d hd => ?_,
    fun i hdue hi => ?_, ?_⟩
  · by_cases hheld : x.self.ctrl.activeInterfaceIdx = some i
    · exact (hgave i hheld).resolve_left hne d hd
    · have hstatus := (hsame i hheld).2
      rw [Option.mem_def.mp hd, Option.map_some] at hstatus
      obtain ⟨d', hd', heq⟩ := Option.map_eq_some_iff.mp hstatus.symm
      rw [← heq]
      exact h.spent i hi hheld d' hd'
  · rw [hfree hi]
    exact h.owed i hdue hi
  · obtain ⟨chosen, first, hsplits, horder⟩ := h.order
    refine ⟨chosen, first, hsplits, fun t ht i hi p hp => ?_⟩
    rw [hfree hi] at hp
    exact horder t ht i hi p hp

theorem events (h : Track x log) (he : TrialEvents x x') : Track x' log := by
  have hself := he.self
  refine h.transfer (by rw [hself]) (fun i hi => by rwa [hself] at hi) (fun i hi => ?_) fun i hi => ?_
  · exact ⟨candidate_congr he.remote (he.plan i) (he.status i hi), he.status i hi⟩
  · rw [hself]
    exact .inl hi

theorem quiet (h : Track x log) (hq : Quiet x x')
    (hidx : x'.self.ctrl.activeInterfaceIdx = x.self.ctrl.activeInterfaceIdx) : Track x' log := by
  refine h.transfer hq.inst (fun i hi => by rwa [hidx] at hi) (fun i _ => ?_) fun i hi => ?_
  · exact ⟨candidate_congr hq.remote (hq.plan i) (hq.status i), hq.status i⟩
  · rw [hidx]
    exact .inl hi

theorem gaveUp (h : Track x log) (hidx : x.self.ctrl.activeInterfaceIdx = some i)
    (hq : Quiet (spend i x) x') (hnone : x'.self.ctrl.activeInterfaceIdx = none) : Track x' log := by
  refine h.transfer hq.inst (fun j hj => ?_) (fun j hj => ?_) fun j hj => .inr fun d hd => ?_
  · rw [hnone] at hj
    cases hj
  · have hne : i ≠ j := fun hij => hj (hij ▸ hidx)
    have hours : ours? (spend i x) j = ours? x j := by rw [ours?_spend, if_neg hne]
    have hstatus := hq.status j
    have hplan := hq.plan j
    rw [hours] at hstatus hplan
    exact ⟨candidate_congr hq.remote hplan hstatus, hstatus⟩
  · obtain rfl : i = j := Option.some.inj (hidx.symm.trans hj)
    have hstatus := hq.status i
    rw [Option.mem_def.mp hd, ours?_spend, if_pos rfl, Option.map_map, Option.map_some] at hstatus
    obtain ⟨d', -, heq⟩ := Option.map_eq_some_iff.mp hstatus.symm
    rw [← heq]
    rfl

/-- A cycle begins with a table that nothing was tried of. -/
theorem fresh (hinst : x.self.ctrl.groupInst ≠ 0) (hfree : x.self.ctrl.activeInterfaceIdx = none)
    (htrials : (cycle true log).trials = []) (hdue : (cycle true log).due = due x) : Track x log := by
  have htried : (cycle true log).tried = [] := by rw [Cycle.tried, htrials, List.map_nil]
  refine ⟨hinst, fun i hi => ?_, fun i hi => ?_, fun i hi _ => ?_, [], [], ?_, by simp⟩
  · rw [hfree] at hi
    cases hi
  · rw [htried] at hi
    cases hi
  · rw [hdue] at hi
    exact mem_due.mp hi
  · exact ⟨htrials, List.Pairwise.nil, .inl rfl⟩

/-- An interface that can be tried was not tried before. -/
theorem not_tried (h : Track x log) (hfree : x.self.ctrl.activeInterfaceIdx = none)
    (hp : candidate x i = some p) : i ∉ (cycle true log).tried := by
  intro hi
  obtain ⟨d, hd, heligible, -⟩ := candidate_eq_some.mp hp
  have hinvalid := h.spent i hi (by rw [hfree]; exact nofun) d hd
  obtain ⟨-, -, -, hdisabled, -⟩ := heligible
  rw [status, hdisabled] at hinvalid
  cases hinvalid

/-- The thread takes interface `i`. -/
def take (i : Nat) (x : PolicyView) : PolicyView :=
  x.mapCtrl fun c => { c with activeInterfaceIdx := some i }

/-- What a trial leaves, whichever interface it is of. -/
theorem tried_of (h : Track x log) (hfree : x.self.ctrl.activeInterfaceIdx = none) {t : Trial}
    (ht : t.index = i) (horder : ∃ chosen first, (cycle true (.tried t :: log)).Splits chosen first ∧
      ∀ u ∈ chosen, ∀ j, j ∉ (cycle true (.tried t :: log)).tried →
        ∀ q ∈ candidate x j, u.priority ≤ q) :
    Track (take i x) (.tried t :: log) := by
  have htried : (cycle true (.tried t :: log)).tried = i :: (cycle true log).tried := by
    rw [← ht]
    rfl
  refine ⟨h.inst, fun j hj => ?_, fun j hj hne => ?_, fun j hj hnot => ?_, horder⟩
  · obtain rfl : i = j := Option.some.inj hj
    rw [htried]
    exact List.mem_cons_self
  · rw [htried, List.mem_cons] at hj
    rcases hj with rfl | hj
    · exact absurd rfl hne
    · exact h.spent j hj (by rw [hfree]; exact nofun)
  · rw [htried, List.mem_cons, not_or] at hnot
    exact h.owed j hj hnot.2

/-- The thread takes the interface of the highest priority. -/
theorem chosen (h : Track x log) (hfree : x.self.ctrl.activeInterfaceIdx = none)
    (hp : candidate x i = some p) (hleast : ∀ j, ∀ q ∈ candidate x j, p ≤ q) :
    Track (take i x) (.tried (trial x i) :: log) := by
  obtain ⟨d, hd, -, hpriority⟩ := candidate_eq_some.mp hp
  have htrial : trial x i = ⟨i, p, d.selection.activeLink⟩ := by
    rw [trial, (ours?_eq_some.mp hd).1, ← hpriority]
  have hnot := h.not_tried hfree hp
  obtain ⟨chosen, first, hsplits, horder⟩ := h.order
  rw [htrial]
  refine h.tried_of hfree rfl ⟨⟨i, p, d.selection.activeLink⟩ :: chosen, first,
    ⟨?_, ?_, hsplits.resumed⟩, fun u hu j hj q hq => ?_⟩
  · exact congrArg (List.cons _) hsplits.eq
  · exact List.pairwise_cons.mpr ⟨fun u hu => horder u hu i hnot p hp, hsplits.ordered⟩
  · rcases List.mem_cons.mp hu with rfl | hu
    · exact hleast j q hq
    · exact horder u hu j (fun h => hj (List.mem_cons_of_mem _ h)) q hq

/-- The thread takes the interface with `ActiveLink`, before any other. -/
theorem resumed (h : Track x log) (hfree : x.self.ctrl.activeInterfaceIdx = none)
    (htrials : (cycle true log).trials = []) (hstarted : (cycle true log).started = true) {d : WanIface}
    (hd : x.shared.ifaces[i]? = some d) (hlink : d.selection.activeLink) :
    Track (take i x) (.tried (trial x i) :: log) := by
  have htrial : trial x i = ⟨i, d.selection.priority, d.selection.activeLink⟩ := by rw [trial, hd]
  rw [htrial]
  refine h.tried_of hfree rfl ⟨[], [⟨i, d.selection.priority, d.selection.activeLink⟩],
    ⟨?_, List.Pairwise.nil, .inr ⟨hstarted, _, rfl, hlink⟩⟩, nofun⟩
  exact congrArg (List.cons _) htrials

end Track

theorem FairLog.tried {log : List ScanEvent} (hlog : FairLog log) {t : Trial}
    (ht : t.index ∉ (cycle true log).tried) {x : PolicyView} (hx : Track x (.tried t :: log)) :
    FairLog (.tried t :: log) := by
  obtain ⟨chosen, first, hsplits, -⟩ := hx.order
  refine hlog.cons ⟨?_, chosen, first, hsplits⟩ nofun
  exact List.nodup_cons.mpr ⟨ht, (hlog log List.suffix_rfl).1.once⟩

/-! ## What a program knows -/

/-- A fact that nobody but the thread can change. -/
structure Fact where
  holds : PolicyView → List ScanEvent → Prop
  steady : ∀ {x x' log}, TrialEvents x x' → holds x log → holds x' log

instance : CoeFun Fact fun _ => PolicyView → List ScanEvent → Prop := ⟨Fact.holds⟩

namespace Fact

def and (K M : Fact) : Fact where
  holds x log := K x log ∧ M x log
  steady he h := ⟨K.steady he h.1, M.steady he h.2⟩

/-- A fact about the thread's own record and the log. -/
def own (A : PolicyThread → List ScanEvent → Prop) : Fact where
  holds x log := A x.self log
  steady he h := by rw [he.self]; exact h

def track : Fact where
  holds := Track
  steady he h := h.events he

end Fact

def Knows (K : Fact) (s : PolicyView × List ScanEvent) : Prop := s.1.self.Live ∧ K s.1 s.2

/-- The phases between two ticks, with what the thread needs then. -/
def AtRest (s : PolicyView × List ScanEvent) : Prop := s.1.self.ctrl.groupInst ≠ 0 ∧
  match s.1.self.phase with
  | .created p => p ≠ .parallelScan ∧ Track s.1 s.2 ∧ (cycle true s.2).trials = [] ∧
      (cycle true s.2).started = true
  | .autoWan st => ¬ leaving st → Track s.1 s.2
  | .parallelScan _ => False
  | .absent | .exited => True

def protocol : Protocol Site Unit (PolicyView × List ScanEvent) where
  inv s := FairLog s.2
  rely _ := Relation.ReflTransGen ScanEnv
  rest _ := AtRest
  refl _ _ := .refl
  trans h h' := h.trans h'

abbrev contract : Contract Site (PolicyView × List ScanEvent) := protocol.contract ()

theorem stable_of_env {A : PolicyView × List ScanEvent → Prop}
    (h : ∀ s s', ScanEnv s s' → A s → A s') : contract.Stable A := by
  intro s s' hA hr _
  have hruns : ∀ u, Relation.ReflTransGen ScanEnv s u → A u := by
    intro u hu
    induction hu with
    | refl => exact hA
    | tail _ he ih => exact h _ _ he ih
  exact hruns s' hr

theorem stable_knows (K : Fact) : contract.Stable (Knows K) := by
  refine stable_of_env fun s s' he hk => ?_
  obtain ⟨hlive, hk⟩ := hk
  cases he with
  | events hself hevents => exact ⟨by rw [hself]; exact hlive, K.steady (hevents hlive) hk⟩
  | restart hexit => exact absurd hexit hlive.2

/-- A program of the thread, from what it knows before to what it knows after. -/
abbrev Scans {α : Type} (K : Fact) (p : PolicyProg α) (M : α → Fact) : Prop :=
  Triple contract (Knows K) (p.record note) fun a => Knows (M a)

section Rules

variable {α β : Type} {K L : Fact} {M : α → Fact} {L' : β → Fact}

theorem Scans.bind {p : PolicyProg α} {q : α → PolicyProg β} (hp : Scans K p M)
    (hq : ∀ a, Scans (M a) (q a) L') : Scans K (p >>= q) L' := by
  unfold Scans
  rw [Prog.record_bind]
  exact Triple.bind hp hq

theorem Scans.ret {a : α} (h : ∀ x log, K x log → M a x log) : Scans K (.ret a) M :=
  Triple.ret (stable_knows _) fun _ _ hk => ⟨hk.1, h _ _ hk.2⟩

theorem Scans.ite {c : Prop} [Decidable c] {p q : PolicyProg α} (hp : c → Scans K p M)
    (hq : ¬ c → Scans K q M) : Scans K (if c then p else q) M := by
  unfold Scans
  rw [Prog.record_ite]
  exact Triple.ite hp hq

theorem Scans.pre {p : PolicyProg α} (h : Scans K p M) (hL : ∀ x log, L x log → K x log) :
    Scans L p M :=
  Triple.pre h fun _ _ hk => ⟨hk.1, hL _ _ hk.2⟩

theorem Scans.post {L' : α → Fact} {p : PolicyProg α} (h : Scans K p M)
    (hL : ∀ a x log, M a x log → L' a x log) : Scans K p L' :=
  Triple.mono h (fun _ _ hk => hk) fun a _ _ hk => ⟨hk.1, hL a _ _ hk.2⟩

/-- A section, with what the log says of it. -/
theorem Scans.critical {l : Site} {m : PolicyView → α × PolicyView}
    (h : ∀ x log, FairLog log → x.self.Live → K x log → FairLog (note l x (m x).2 log) ∧
      (m x).2.self.Live ∧ M (m x).1 (m x).2 (note l x (m x).2 log)) :
    Scans K (.critical l m) M := by
  unfold Scans
  rw [Prog.record_critical]
  refine Triple.critical (stable_knows K) (fun a => stable_knows (M a)) fun s hi _ hk => ?_
  obtain ⟨hfair, hlive, hk'⟩ := h s.1 s.2 hi hk.1 hk.2
  exact ⟨⟨hfair, fun u hu => absurd rfl hu⟩, fun _ => ⟨hlive, hk'⟩⟩

/-- The sections that the log says nothing of, if nothing is tried. -/
def Silent (l : Site) : Prop := l ≠ .selectGroupIface ∧ l ≠ .policyState

theorem note_silent {l : Site} (hl : Silent l) {x x' : PolicyView} (log : List ScanEvent)
    (hidx : ∀ i, x'.self.ctrl.activeInterfaceIdx = some i → x.self.ctrl.activeInterfaceIdx = some i) :
    note l x x' log = log := by
  have hnone : noteTrial x x' log = log := by
    unfold noteTrial
    split
    · next i hfree hi => exact absurd ((hidx i hi).symm.trans hfree) nofun
    · rfl
  unfold note
  split
  · exact absurd rfl hl.1
  · exact absurd rfl hl.2
  · exact hnone

/-- A section in which nothing is tried. -/
theorem Scans.silent {l : Site} (hl : Silent l) {m : PolicyView → α × PolicyView}
    (hidx : ∀ x i, (m x).2.self.ctrl.activeInterfaceIdx = some i →
      x.self.ctrl.activeInterfaceIdx = some i)
    (h : ∀ x log, x.self.Live → K x log → (m x).2.self.Live ∧ M (m x).1 (m x).2 log) :
    Scans K (.critical l m) M := by
  refine Scans.critical fun x log hfair hlive hk => ?_
  rw [note_silent hl log (hidx x)]
  exact ⟨hfair, h x log hlive hk⟩

theorem Scans.read {l : Site} (hl : Silent l) {g : PolicyView → α}
    (h : ∀ x log, K x log → M (g x) x log) : Scans K (.read l g) M :=
  Scans.silent hl (fun _ _ => id) fun x log hlive hk => ⟨hlive, h x log hk⟩

/-- The thread changes its controller. -/
theorem Scans.ctrl {l : Site} (hl : Silent l) {f : PolicyView → PolicyView}
    (hf : ∀ x, f x = x.mapCtrl fun _ => (f x).self.ctrl)
    (hidx : ∀ x i, (f x).self.ctrl.activeInterfaceIdx = some i →
      x.self.ctrl.activeInterfaceIdx = some i)
    (h : ∀ x log, K x log → L (x.mapCtrl fun _ => (f x).self.ctrl) log) :
    Scans K (.modify l f) fun _ => L :=
  Scans.silent hl hidx fun x log hlive hk => by
    show (f x).self.Live ∧ L (f x) log
    rw [hf x]
    exact ⟨hlive, h x log hk⟩

/-- A loop that is left with what its last turn found. -/
theorem Scans.forUntil {is : List β} {body : β → PolicyProg Bool}
    (step : ∀ i ∈ is, Scans K (body i) fun b => if b then L else K)
    (hend : ∀ x log, K x log → L x log) : Scans K (.forUntil is body) fun _ => L := by
  induction is with
  | nil => exact Scans.ret hend
  | cons i is ih =>
    refine (step i List.mem_cons_self).bind fun b => ?_
    cases b with
    | true => exact Scans.ret fun _ _ h => h
    | false => exact ih fun j hj => step j (List.mem_cons_of_mem i hj)

end Rules

/-! ## The sections of the thread -/

namespace Fact

def phase (p : PolicyPhase) : Fact := own fun t _ => t.phase = p

/-- No interface is being tried. -/
def free : Fact := own fun t _ => t.ctrl.activeInterfaceIdx = none

/-- The thread was started and has tried nothing. -/
def fresh : Fact := own fun _ log => (cycle true log).trials = [] ∧ (cycle true log).started = true

/-- The controller agrees with the configuration, and covers the group. -/
def synced : Fact where
  holds x _ := x.self.ctrl.allowRemoteInterfaces = x.shared.config.allowRemoteInterfaces ∧
    ∀ i, (ours? x i).isSome → i < x.self.ctrl.totalIfaces
  steady he h := by
    obtain ⟨hremote, htotal⟩ := h
    rw [he.self, he.remote]
    refine ⟨hremote, fun i hi => htotal i ?_⟩
    have hplan := congrArg Option.isSome (he.plan i)
    rw [Option.isSome_map, Option.isSome_map] at hplan
    rw [← hplan]
    exact hi

def base (A : PolicyThread → Prop) : Fact := track.and (synced.and (own fun t _ => A t))

end Fact

/-- The current interface does not matter. -/
def Apart (A : PolicyThread → Prop) : Prop :=
  ∀ t idx, A t → A { t with ctrl := { t.ctrl with activeInterfaceIdx := idx } }

variable {K : Fact} {A : PolicyThread → Prop}

/-- A change of the controller that leaves the group and the current interface. -/
theorem Track.ctrl {x : PolicyView} {log : List ScanEvent} {c : PolicyController} (h : Track x log)
    (hinst : c.groupInst = x.self.ctrl.groupInst)
    (hidx : c.activeInterfaceIdx = x.self.ctrl.activeInterfaceIdx) : Track (x.mapCtrl fun _ => c) log :=
  h.quiet (.mapCtrl hinst) hidx

theorem updateControllerData_scans (hK : ∀ x log c, c.groupInst = x.self.ctrl.groupInst →
      c.activeInterfaceIdx = x.self.ctrl.activeInterfaceIdx → K x log → K (x.mapCtrl fun _ => c) log) :
    Scans K updateControllerData fun _ => K.and .synced := by
  have hl : Silent .updateControllerData := ⟨nofun, nofun⟩
  have hgroup (x : PolicyView) : ∃ c : PolicyController, copyGroup x = (x.mapCtrl fun _ => c) ∧
      c.groupInst = x.self.ctrl.groupInst ∧ c.activeInterfaceIdx = x.self.ctrl.activeInterfaceIdx ∧
      c.allowRemoteInterfaces = x.self.ctrl.allowRemoteInterfaces ∧
      c.totalIfaces = x.self.ctrl.totalIfaces := by
    unfold copyGroup
    split
    · exact ⟨x.self.ctrl, rfl, rfl, rfl, rfl, rfl⟩
    · exact ⟨_, rfl, rfl, rfl, rfl, rfl⟩
  have hremote : Scans K (.modify .updateControllerData copyConfig) fun _ => K.and
      { holds x _ := x.self.ctrl.allowRemoteInterfaces = x.shared.config.allowRemoteInterfaces
        steady he h := by rw [he.self, he.remote]; exact h } :=
    Scans.ctrl hl (fun _ => rfl) (fun _ _ => id) fun x log hk => ⟨hK x log _ rfl rfl hk, rfl⟩
  refine hremote.bind fun _ => Scans.bind (Scans.ctrl (L := K.and .synced) hl (fun _ => rfl) (fun _ _ => id)
    fun x log hk => ⟨hK x log _ rfl rfl hk.1, hk.2, fun i hi => ?_⟩) fun _ => ?_
  · obtain ⟨d, hd⟩ := Option.isSome_iff_exists.mp hi
    exact (List.getElem?_eq_some_iff.mp (ours?_eq_some.mp hd).1).1
  · refine Scans.ctrl hl (fun x => ?_) (fun x i => ?_) fun x log hk => ?_
    · obtain ⟨c, hc, -⟩ := hgroup x
      rw [hc]
      rfl
    · obtain ⟨c, hc, -, hidx, -⟩ := hgroup x
      rw [hc]
      exact hidx.symm.trans
    · obtain ⟨c, hc, hinst, hidx, hremote, htotal⟩ := hgroup x
      rw [hc]
      refine ⟨hK x log c hinst hidx hk.1, hremote.trans hk.2.1, fun i hi => ?_⟩
      have hours : ours? (x.mapCtrl fun _ => c) i = ours? x i := by
        show x.shared.ifaces[i]?.filter (·.selection.group = c.groupInst) = _
        rw [hinst]
        rfl
      show i < c.totalIfaces
      rw [htotal]
      exact hk.2.2 i (by rw [← hours]; exact hi)

theorem silent_thread : Silent .thread := ⟨nofun, nofun⟩

theorem silent_scanIface (i : Nat) : Silent (.scanIface i) := ⟨nofun, nofun⟩

/-- The thread reads its controller. -/
theorem ctrl_scans : Scans K Policy.ctrl fun c => K.and (.own fun t _ => t.ctrl = c) :=
  Scans.read silent_thread fun _ _ hk => ⟨hk, rfl⟩

theorem setState_scans (st : AutoWanState) {L : Fact}
    (hK : ∀ x log, K x log → L (x.setPhase (.autoWan st)) log) :
    Scans K (AutoWan.setState st) fun _ => L :=
  Scans.silent silent_thread (fun _ _ => id) fun x log _ hk => ⟨⟨nofun, nofun⟩, hK x log hk⟩

/-! ### The search -/

theorem priority_lt {x : PolicyView} {i : Nat} {q : Int} (h : candidate x i = some q) : q < priorityMax := by
  obtain ⟨d, -, ⟨-, -, hlt, -⟩, rfl⟩ := candidate_eq_some.mp h
  exact hlt

/-- What the search reads of an interface decides whether it can be tried. -/
theorem candidate_eq_filter {x : PolicyView} (i : Nat)
    (hremote : x.self.ctrl.allowRemoteInterfaces = x.shared.config.allowRemoteInterfaces) :
    candidate x i = (selectable i x).filter (· < priorityMax) := by
  unfold candidate ours? selectable
  rw [← hremote]
  cases x.shared.ifaces[i]? with
  | none => rfl
  | some d =>
    dsimp only
    by_cases hgroup : d.selection.group = x.self.ctrl.groupInst
    · have heligible : Eligible x.self.ctrl.allowRemoteInterfaces d ↔
          (d.selection.enable ∧ 0 ≤ d.selection.priority ∧ d.virtIf.status = .disabled ∧
            ¬ (¬ x.self.ctrl.allowRemoteInterfaces ∧ d.ifaceType = .remote)) ∧
            d.selection.priority < priorityMax := by
        unfold Eligible
        tauto
      rw [Option.filter_some, if_pos (decide_eq_true hgroup), Option.filter_some]
      simp only [heligible, hgroup, true_and]
      by_cases hsel : d.selection.enable ∧ 0 ≤ d.selection.priority ∧ d.virtIf.status = .disabled ∧
          ¬ (¬ x.self.ctrl.allowRemoteInterfaces ∧ d.ifaceType = .remote)
      · rw [if_pos hsel, Option.filter_some]
        by_cases hlt : d.selection.priority < priorityMax
        · rw [if_pos (decide_eq_true ⟨hsel, hlt⟩), if_pos (decide_eq_true hlt), Option.map_some]
        · rw [if_neg (by simp [hlt]), if_neg (by simp [hlt]), Option.map_none]
      · rw [if_neg hsel, if_neg fun h => hsel (of_decide_eq_true h).1]
        rfl
    · rw [Option.filter_some, if_neg (by simpa using hgroup), if_neg fun h => hgroup h.1]
      rfl

/-- Nothing is being tried: the table stays as it is. -/
theorem candidate_idle {x x' : PolicyView} (he : TrialEvents x x')
    (hfree : x.self.ctrl.activeInterfaceIdx = none) (i : Nat) : candidate x' i = candidate x i :=
  candidate_congr he.remote (he.plan i) (he.status i (by rw [hfree]; exact nofun))

/-- The loop's two variables, with the interfaces in `is` still to be looked at. -/
def Best (sel : Option Nat) (priority : Int) (is : List Nat) (x : PolicyView) : Prop :=
  (∀ j, j ∉ is → ∀ q ∈ candidate x j, priority ≤ q) ∧
    match sel with
    | some i => candidate x i = some priority
    | none => priority = priorityMax

theorem Best.le_max {sel : Option Nat} {priority : Int} {is : List Nat} {x : PolicyView}
    (h : Best sel priority is x) : priority ≤ priorityMax := by
  obtain ⟨-, hsel⟩ := h
  cases sel with
  | none => exact Int.le_of_eq hsel
  | some i => exact Int.le_of_lt (priority_lt hsel)

theorem Best.skip {sel : Option Nat} {priority : Int} {i : Nat} {is : List Nat} {x : PolicyView}
    (h : Best sel priority (i :: is) x) (hi : ∀ q ∈ candidate x i, priority ≤ q) :
    Best sel priority is x := by
  refine ⟨fun j hj q hq => ?_, h.2⟩
  by_cases hij : j = i
  · subst hij
    exact hi q hq
  · exact h.1 j (by simp [hij, hj]) q hq

theorem Best.take {sel : Option Nat} {priority p : Int} {i : Nat} {is : List Nat} {x : PolicyView}
    (h : Best sel priority (i :: is) x) (hi : candidate x i = some p) (hlt : p < priority) :
    Best (some i) p is x := by
  refine ⟨fun j hj q hq => ?_, hi⟩
  by_cases hij : j = i
  · subst hij
    rw [hi] at hq
    exact Int.le_of_eq (Option.some.inj hq)
  · exact Int.le_trans (Int.le_of_lt hlt) (h.1 j (by simp [hij, hj]) q hq)

namespace Fact

def best (sel : Option Nat) (priority : Int) (is : List Nat) : Fact where
  holds x _ := x.self.ctrl.activeInterfaceIdx = none ∧ Best sel priority is x
  steady he h := by
    obtain ⟨hfree, hothers, hsel⟩ := h
    refine ⟨by rw [he.self]; exact hfree, fun j hj q hq => ?_, ?_⟩
    · rw [candidate_idle he hfree j] at hq
      exact hothers j hj q hq
    · cases sel with
      | none => exact hsel
      | some i => exact (candidate_idle he hfree i).trans hsel

def found (sel : Option Nat) : Fact where
  holds x log := ∃ q, best sel q [] x log
  steady he h := h.imp fun q hq => (best sel q []).steady he hq

/-- The thread has looked at interface `i`. -/
def looked (i : Nat) (r : Option Int) : Fact where
  holds x _ := x.self.ctrl.activeInterfaceIdx = none ∧ candidate x i = r.filter (· < priorityMax)
  steady he h := ⟨by rw [he.self]; exact h.1, (candidate_idle he h.1 i).trans h.2⟩

/-- With WAN enabled, no interface was found because there is none. -/
def exhausted : Fact where
  holds x _ := x.self.ctrl.activeInterfaceIdx = none → x.self.ctrl.wanEnable = true →
    ∀ i, candidate x i = none
  steady he h hfree henable i := by
    rw [he.self] at hfree henable
    rw [candidate_idle he hfree i]
    exact h hfree henable i

end Fact

theorem highPriorityIface_scans (is : List Nat) (sel : Option Nat) (priority : Int) :
    Scans ((Fact.base A).and (.best sel priority is)) (highPriorityIface sel priority is) fun sel' =>
      (Fact.base A).and (.found sel') := by
  induction is generalizing sel priority with
  | nil => exact Scans.ret fun _ _ hk => ⟨hk.1, priority, hk.2⟩
  | cons i is ih =>
    unfold highPriorityIface
    have hread : Scans ((Fact.base A).and (.best sel priority (i :: is)))
        (.read (.scanIface i) (selectable i)) fun r =>
          ((Fact.base A).and (.best sel priority (i :: is))).and (.looked i r) :=
      Scans.read (silent_scanIface i) fun x log hk =>
        ⟨hk, hk.2.1, candidate_eq_filter i hk.1.2.1.1⟩
    refine hread.bind fun r => ?_
    cases r with
    | none =>
      refine (ih sel priority).pre fun x log hk => ?_
      obtain ⟨⟨hbase, hfree, hbest⟩, -, hnone⟩ := hk
      refine ⟨hbase, hfree, hbest.skip fun q hq => ?_⟩
      rw [hnone] at hq
      cases hq
    | some q =>
      refine Scans.ite (fun hlt => ?_) fun hlt => ?_
      · refine (ih (some i) q).pre fun x log hk => ?_
        obtain ⟨⟨hbase, hfree, hbest⟩, -, hq⟩ := hk
        have hmax : q < priorityMax := Int.lt_of_lt_of_le hlt hbest.le_max
        rw [Option.filter_some, if_pos (decide_eq_true hmax)] at hq
        exact ⟨hbase, hfree, hbest.take hq hlt⟩
      · refine (ih sel priority).pre fun x log hk => ?_
        obtain ⟨⟨hbase, hfree, hbest⟩, -, hq⟩ := hk
        refine ⟨hbase, hfree, hbest.skip fun q' hq' => ?_⟩
        rw [hq, Option.mem_def, Option.filter_some] at hq'
        split at hq'
        · obtain rfl := Option.some.inj hq'
          exact Int.not_lt.mp hlt
        · cases hq'

/-- The thread takes the best interface it found. -/
theorem setHighest_scans (hA : Apart A) (sel : Option Nat) :
    Scans ((Fact.base A).and (.found sel))
      (Policy.setCtrl fun c => { c with activeInterfaceIdx := sel.orElse fun _ => c.activeInterfaceIdx })
      fun _ => (Fact.base A).and .exhausted := by
  refine Scans.critical fun x log hfair hlive hk => ?_
  obtain ⟨⟨htrack, hsynced, hown⟩, q, hfree, hothers, hsel⟩ := hk
  cases sel with
  | none =>
    show FairLog (note .thread x x log) ∧ _ ∧ ((Fact.base A).and .exhausted) x (note .thread x x log)
    rw [note_silent silent_thread log fun _ => id]
    refine ⟨hfair, hlive, ⟨htrack, hsynced, hown⟩, fun _ _ j => ?_⟩
    refine Option.eq_none_iff_forall_ne_some.mpr fun q' hq' => ?_
    have hle := hothers j List.not_mem_nil q' hq'
    have hlt := priority_lt hq'
    rw [hsel] at hle
    exact absurd hle (Int.not_le.mpr hlt)
  | some i =>
    have hnote : note .thread x (Track.take i x) log = .tried (trial x i) :: log := by
      show noteTrial x (Track.take i x) log = _
      unfold noteTrial
      rw [hfree]
      rfl
    have htrack' := htrack.chosen hfree hsel fun j q' hq' => hothers j List.not_mem_nil q' hq'
    show FairLog (note .thread x (Track.take i x) log) ∧ _ ∧
      ((Fact.base A).and .exhausted) (Track.take i x) (note .thread x (Track.take i x) log)
    rw [hnote]
    refine ⟨hfair.tried ?_ htrack', hlive, ⟨htrack', hsynced, hA _ _ hown⟩, nofun⟩
    have hindex : (trial x i).index = i := by
      unfold trial
      split <;> rfl
    rw [hindex]
    exact htrack.not_tried hfree hsel

theorem getHighPriorityIface_scans (hA : Apart A) :
    Scans ((Fact.base A).and .free) getHighPriorityIface fun _ => (Fact.base A).and .exhausted := by
  refine ctrl_scans.bind fun c => Scans.ite (fun _ => ?_) fun hdisabled => Scans.ret fun x log hk => ?_
  · have hrange : Scans (((Fact.base A).and .free).and (.own fun t _ => t.ctrl = c))
        (.read .thread PolicyView.ifaceRange) fun is =>
          (Fact.base A).and (.best none priorityMax is) := by
      refine Scans.read silent_thread fun x log hk => ⟨hk.1.1, hk.1.2, fun j hj q hq => ?_, rfl⟩
      obtain ⟨d, hd, -⟩ := candidate_eq_some.mp hq
      have hlt := hk.1.1.2.1.2 j (Option.isSome_iff_exists.mpr ⟨d, hd⟩)
      exact absurd (List.mem_range.mpr hlt) hj
    exact hrange.bind fun is => (highPriorityIface_scans is none priorityMax).bind (setHighest_scans hA)
  · obtain ⟨⟨hbase, -⟩, hc⟩ := hk
    refine ⟨hbase, fun _ henable => absurd ?_ hdisabled⟩
    have hctrl : x.self.ctrl = c := hc
    rw [← hctrl]
    exact henable

/-! ### The start -/

theorem prevSelected_scans (hA : Apart A) (i : Nat) : Scans ((Fact.base A).and (.and .fresh .free))
    (.critical (.scanIface i) (prevSelected i)) fun found =>
      if found then .base A else (Fact.base A).and (.and .fresh .free) := by
  refine Scans.critical fun x log hfair hlive hk => ?_
  obtain ⟨⟨htrack, hsynced, hown⟩, ⟨htrials, hstarted⟩, hfree⟩ := hk
  have hsilent {x' : PolicyView} (hself : x'.self = x.self) : note (.scanIface i) x x' log = log :=
    note_silent (silent_scanIface i) log fun j hj => by rwa [hself] at hj
  unfold prevSelected
  cases hd : x.shared.ifaces[i]? with
  | none =>
    dsimp only
    rw [hsilent rfl]
    exact ⟨hfair, hlive, ⟨htrack, hsynced, hown⟩, ⟨htrials, hstarted⟩, hfree⟩
  | some d =>
    dsimp only
    split
    · next hlink =>
      split
      · have hnote : note (.scanIface i) x (Track.take i x) log = .tried (trial x i) :: log := by
          show noteTrial x (Track.take i x) log = _
          unfold noteTrial
          rw [hfree]
          rfl
        have htrack' := htrack.resumed hfree htrials hstarted hd hlink.2
        show FairLog (note (.scanIface i) x (Track.take i x) log) ∧ _ ∧
          (Fact.base A) (Track.take i x) (note (.scanIface i) x (Track.take i x) log)
        rw [hnote]
        refine ⟨hfair.tried ?_ htrack', hlive, htrack', hsynced, hA _ _ hown⟩
        rw [Cycle.tried, htrials]
        exact List.not_mem_nil
      · have hquiet := quiet_setActiveLink i false x
        dsimp only
        rw [hsilent (rfl : (x.mapShared (setActiveLink i false)).self = x.self)]
        refine ⟨hfair, hlive, htrack.quiet hquiet rfl, ⟨hsynced.1, fun j hj => hsynced.2 j ?_⟩, hown⟩
        have hplan := congrArg Option.isSome (hquiet.plan j)
        rw [Option.isSome_map, Option.isSome_map] at hplan
        rw [← hplan]
        exact hj
    · dsimp only
      rw [hsilent (rfl : x.self = x.self)]
      exact ⟨hfair, hlive, ⟨htrack, hsynced, hown⟩, ⟨htrials, hstarted⟩, hfree⟩

theorem getPrevSelectedInterface_scans (hA : Apart A) :
    Scans ((Fact.base A).and .fresh) getPrevSelectedInterface fun _ => .base A := by
  have hclear : Scans ((Fact.base A).and .fresh)
      (Policy.setCtrl fun c => { c with activeInterfaceIdx := none }) fun _ =>
        (Fact.base A).and (.and .fresh .free) := by
    refine Scans.ctrl silent_thread (fun _ => rfl) (fun _ _ => nofun) fun x log hk => ?_
    obtain ⟨⟨htrack, hsynced, hown⟩, hfresh⟩ := hk
    refine ⟨⟨htrack.transfer rfl (fun _ => nofun) (fun _ _ => ⟨rfl, rfl⟩) fun i hi => ?_, hsynced,
      hA _ _ hown⟩, hfresh, rfl⟩
    have hmem := htrack.held i hi
    rw [Cycle.tried, hfresh.1] at hmem
    cases hmem
  refine hclear.bind fun _ => ?_
  refine Scans.bind (M := fun _ => (Fact.base A).and (.and .fresh .free))
    (Scans.read silent_thread fun _ _ hk => hk) fun is => ?_
  exact Scans.forUntil (fun i _ => prevSelected_scans hA i) fun _ _ hk => hk.1

theorem transitionStart_scans (hA : Apart A) :
    Scans ((Fact.base A).and .fresh) transitionStart fun _ => .track := by
  refine ctrl_scans.bind fun c => Scans.ite (fun _ => ?_) fun _ => Scans.ret fun _ _ hk => hk.1.1.1
  refine Scans.bind (Scans.pre (getPrevSelectedInterface_scans hA) fun _ _ hk => hk.1) fun _ => ?_
  refine ctrl_scans.bind fun c => Scans.ite (fun hnone => ?_) fun _ => Scans.ret fun _ _ hk => hk.1.1
  refine Scans.post (Scans.pre (getHighPriorityIface_scans hA) fun x log hk => ⟨hk.1, ?_⟩)
    fun _ _ _ hk => hk.1.1
  have hctrl : x.self.ctrl = c := hk.2
  show x.self.ctrl.activeInterfaceIdx = none
  rw [hctrl]
  exact Option.isNone_iff_eq_none.mp hnone

namespace Fact

/-- What holds between two ticks. -/
def rest : Fact where
  holds x log := AtRest (x, log)
  steady he h := by
    unfold AtRest at h ⊢
    obtain ⟨hinst, h⟩ := h
    dsimp only at hinst h ⊢
    rw [he.self]
    refine ⟨hinst, ?_⟩
    split at h
    · exact ⟨h.1, h.2.1.events he, h.2.2⟩
    · exact fun hst => (h hst).events he
    · exact h
    · trivial
    · trivial

end Fact

theorem start_scans (policy : WanPolicy) :
    Scans (Fact.rest.and (.phase (.created policy))) AutoWan.start fun _ => .rest := by
  have hclear : Scans (Fact.rest.and (.phase (.created policy)))
      (Policy.setCtrl fun c => { ({} : PolicyController) with groupInst := c.groupInst }) fun _ =>
        Fact.track.and (.and (.phase (.created policy)) .fresh) := by
    refine Scans.ctrl silent_thread (fun _ => rfl) (fun _ _ => nofun) fun x log hk => ?_
    obtain ⟨hrest, hphase⟩ := hk
    have hphase' : x.self.phase = .created policy := hphase
    have hrest' : AtRest (x, log) := hrest
    unfold AtRest at hrest'
    rw [hphase'] at hrest'
    obtain ⟨-, -, htrack, htrials, hstarted⟩ := hrest'
    refine ⟨htrack.transfer rfl (fun _ => nofun) (fun _ _ => ⟨rfl, rfl⟩) fun i hi => ?_, hphase,
      htrials, hstarted⟩
    have hmem := htrack.held i hi
    rw [Cycle.tried, htrials] at hmem
    cases hmem
  refine hclear.bind fun _ => ?_
  refine Scans.bind (updateControllerData_scans fun x log c hinst hidx hk =>
    ⟨hk.1.ctrl hinst hidx, hk.2⟩) fun _ => ?_
  have hstart : Scans ((Fact.track.and (.and (.phase (.created policy)) .fresh)).and .synced)
      transitionStart fun _ => .track :=
    Scans.pre (transitionStart_scans (A := fun t => t.phase = .created policy) fun _ _ h => h)
      fun x log hk => ⟨⟨hk.1.1, hk.2, hk.1.2.1⟩, hk.1.2.2⟩
  refine hstart.bind fun _ => ?_
  exact setState_scans .selecting fun x log hk => ⟨hk.inst, fun _ => hk.quiet (.of_same rfl rfl rfl) rfl⟩

/-! ### The next interface -/

/-- An interface as `WanMgr_ResetIfaceTable` leaves it. -/
def clear (d : WanIface) : WanIface :=
  if d.virtIf.status = .invalid then { d with virtIf := { d.virtIf with status := .disabled } } else d

theorem plan_clear (d : WanIface) : plan (clear d) = plan d := by
  unfold clear
  split <;> rfl

theorem status_clear (d : WanIface) :
    status (clear d) = if status d = .invalid then .disabled else status d := by
  unfold clear status
  split <;> rfl

/-- One interface of `WanMgr_ResetIfaceTable`. -/
theorem ours?_resetIface (x : PolicyView) (i j : Nat) :
    ours? (x.mapShared (resetIface x.self.ctrl.groupInst j)) i =
      if j = i then (ours? x i).map clear else ours? x i := by
  have hgroup (d : WanIface) : (if d.selection.group = x.self.ctrl.groupInst ∧
      d.virtIf.status = .invalid then { d with virtIf := { d.virtIf with status := .disabled } }
      else d).selection.group = d.selection.group := by
    split <;> rfl
  refine (ours?_modifyIface hgroup x j i).trans ?_
  split
  · cases hd : ours? x i with
    | none => rfl
    | some d =>
      have hmember := (ours?_eq_some.mp hd).2
      simp [clear, hmember]
  · rfl

theorem ours?_resetting (is : List Nat) (x : PolicyView) (i : Nat) :
    ours? (resetting is x) i = if i ∈ is then (ours? x i).map clear else ours? x i := by
  have hclear (d : WanIface) : clear (clear d) = clear d := by
    unfold clear
    by_cases h : d.virtIf.status = .invalid
    · simp [h]
    · simp [h]
  induction is generalizing x with
  | nil => simp [resetting, PolicyView.mapShared]
  | cons j is ih =>
    have hfirst : resetting (j :: is) x = resetting is (x.mapShared (resetIface x.self.ctrl.groupInst j)) :=
      rfl
    rw [hfirst, ih, ours?_resetIface]
    by_cases hji : j = i
    · subst hji
      cases ours? x j with
      | none => simp
      | some d => simp [hclear]
    · simp [hji, Ne.symm hji]

theorem config_resetting (is : List Nat) (x : PolicyView) :
    (resetting is x).shared.config = x.shared.config := by
  induction is generalizing x with
  | nil => rfl
  | cons j is ih => exact ih (x.mapShared (resetIface x.self.ctrl.groupInst j))

/-- What others do while nothing is tried, they do to the table that is being reset. -/
theorem events_resetting {x x' : PolicyView} (he : TrialEvents x x')
    (hfree : x.self.ctrl.activeInterfaceIdx = none) (is : List Nat) :
    TrialEvents (resetting is x) (resetting is x') := by
  refine ⟨he.self, ?_, fun i => ?_, fun i _ => ?_⟩
  · rw [config_resetting, config_resetting]
    exact he.remote
  · rw [ours?_resetting, ours?_resetting]
    split
    · have hplan : plan ∘ clear = plan := funext plan_clear
      rw [Option.map_map, Option.map_map, hplan]
      exact he.plan i
    · exact he.plan i
  · have hstatus := he.status i (by rw [hfree]; exact nofun)
    rw [ours?_resetting, ours?_resetting]
    split
    · have hclear : status ∘ clear =
          (fun st : IfaceStatus => if st = .invalid then .disabled else st) ∘ status :=
        funext status_clear
      rw [Option.map_map, Option.map_map, hclear, ← Option.map_map, ← Option.map_map, hstatus]
    · exact hstatus

namespace Fact

/-- The cycle begins with the table as it will be once the interfaces in `is` are reset. -/
def resets (is : PolicyThread → List Nat) : Fact where
  holds x log := x.self.ctrl.activeInterfaceIdx = none ∧ Track (resetting (is x.self) x) log
  steady he h := by
    obtain ⟨hfree, htrack⟩ := h
    rw [he.self]
    exact ⟨hfree, htrack.events (events_resetting he hfree _)⟩

end Fact

theorem resetLoop_scans (is : List Nat) : Scans ((Fact.resets fun _ => is).and (.own fun t _ => A t))
    (Prog.forEach is fun i =>
      Prog.modify (.scanIface i) fun x => x.mapShared (resetIface x.self.ctrl.groupInst i))
    fun _ => Fact.track.and (.own fun t _ => A t) := by
  induction is with
  | nil => exact Scans.ret fun _ _ hk => ⟨hk.1.2, hk.2⟩
  | cons i is ih =>
    refine Scans.bind (M := fun _ => (Fact.resets fun _ => is).and (.own fun t _ => A t)) ?_ fun _ => ih
    exact Scans.silent (silent_scanIface i) (fun _ _ => id) fun x log hlive hk => ⟨hlive, hk⟩

/-- The scan is over: every interface that was due has been tried. -/
theorem scanComplete_scans :
    Scans (((Fact.base A).and .exhausted).and (.own fun t _ => t.ctrl.activeInterfaceIdx = none ∧
        t.ctrl.wanEnable = true))
      (.modify .selectGroupIface setInitialScanComplete) fun _ =>
        (Fact.resets fun t => List.range t.ctrl.totalIfaces).and (.own fun t _ => A t) := by
  refine Scans.critical fun x log hfair hlive hk => ?_
  obtain ⟨⟨⟨htrack, -, hown⟩, hexhausted⟩, hfree, henable⟩ := hk
  have hnext : Track (resetIfaceTable (setInitialScanComplete x))
      (.reset true (due (resetIfaceTable (setInitialScanComplete x))) :: log) :=
    .fresh htrack.inst hfree rfl rfl
  refine ⟨hfair.reset _ fun _ i hi => ?_, hlive, ⟨hfree, hnext⟩, hown⟩
  by_contra hnot
  have hcandidate := htrack.owed i hi hnot
  rw [hexhausted hfree henable i] at hcandidate
  cases hcandidate

theorem transitionTryingNextInterface_scans (hA : Apart A)
    (henable : ∀ t, A t → t.ctrl.wanEnable = true) : Scans ((Fact.base A).and .free)
      transitionTryingNextInterface fun _ => Fact.track.and (.own fun t _ => A t) := by
  refine (getHighPriorityIface_scans hA).bind fun _ => ctrl_scans.bind fun c =>
    Scans.ite (fun hnone => ?_) fun _ => Scans.ret fun _ _ hk => ⟨hk.1.1.1, hk.1.1.2.2⟩
  refine Scans.bind (Scans.pre (scanComplete_scans (A := A)) fun x log hk =>
    ⟨hk.1, ?_, henable _ hk.1.1.2.2⟩) fun _ => ?_
  · have hctrl : x.self.ctrl = c := hk.2
    rw [hctrl]
    exact Option.isNone_iff_eq_none.mp hnone
  · have hrange : Scans ((Fact.resets fun t => List.range t.ctrl.totalIfaces).and (.own fun t _ => A t))
        (.read .thread PolicyView.ifaceRange) fun is => (Fact.resets fun _ => is).and (.own fun t _ => A t) :=
      Scans.read silent_thread fun _ _ hk => hk
    exact hrange.bind resetLoop_scans

/-! ### The loop -/

theorem rest_autoWan {x : PolicyView} {log : List ScanEvent} {st : AutoWanState}
    (hphase : x.self.phase = .autoWan st) :
    AtRest (x, log) ↔ x.self.ctrl.groupInst ≠ 0 ∧ (¬ leaving st → Track x log) := by
  unfold AtRest
  dsimp only
  rw [hphase]

theorem setState_rest {st : AutoWanState} (hK : ∀ x log, K x log → Track x log) :
    Scans K (AutoWan.setState st) fun _ => .rest :=
  setState_scans st fun x log hk => by
    show AtRest (x.setPhase (.autoWan st), log)
    have htrack := hK x log hk
    exact (rest_autoWan rfl).mpr ⟨htrack.inst, fun _ => htrack.quiet (.of_same rfl rfl rfl) rfl⟩

theorem selectingNothing_scans :
    Scans (Fact.base fun t => t.phase = .autoWan .selecting) selectingNothing fun _ => .rest := by
  refine ctrl_scans.bind fun c => Scans.ite (fun _ => ?_) fun hgoes => Scans.ite (fun hnone => ?_) fun _ => ?_
  · exact setState_rest fun x log hk => hk.1.1
  · have hA : Apart fun t => t.phase = .autoWan .selecting ∧ t.ctrl.wanEnable = true := fun _ _ h => h
    refine Scans.post (Scans.pre (transitionTryingNextInterface_scans hA fun _ h => h.2) fun x log hk => ?_)
      fun _ x log hk => (rest_autoWan hk.2.1).mpr ⟨hk.1.inst, fun _ => hk.1⟩
    obtain ⟨⟨htrack, hsynced, hphase⟩, hc⟩ := hk
    have hctrl : x.self.ctrl = c := hc
    refine ⟨⟨htrack, hsynced, hphase, ?_⟩, ?_⟩
    · rw [hctrl]
      unfold stops at hgoes
      simp only [Bool.or_eq_true, Bool.not_eq_true', not_or] at hgoes
      exact eq_true_of_ne_false hgoes.1
    · show x.self.ctrl.activeInterfaceIdx = none
      rw [hctrl]
      exact Option.isNone_iff_eq_none.mp hnone
  · exact setState_rest fun x log hk => hk.1.1

/-- What the thread knows as it looks for the data of its interface. -/
def Fact.turn (st : AutoWanState) : Fact := (Fact.rest.and (.phase (.autoWan st))).and .synced

theorem Fact.turn_track {st : AutoWanState} {x : PolicyView} {log : List ScanEvent}
    (h : Fact.turn st x log) (hst : ¬ leaving st) : Track x log :=
  ((rest_autoWan h.1.2).mp h.1.1).2 hst

theorem unlockedState_scans (st : AutoWanState) : Scans (.turn st) (unlockedState st) fun _ => .rest := by
  have hkeeps (st' : AutoWanState) (hst : ¬ leaving st) :
      Scans (.turn st) (AutoWan.setState st') fun _ => .rest :=
    setState_rest fun _ _ hk => Fact.turn_track hk hst
  have hstays : Scans (.turn st) (Prog.ret ()) fun _ => .rest := Scans.ret fun _ _ hk => hk.1.1
  cases st with
  | selecting =>
    refine Scans.pre selectingNothing_scans fun x log hk => ?_
    exact ⟨Fact.turn_track hk (by decide), hk.2, hk.1.2⟩
  | rebootPlatform => exact hkeeps .smExit (by decide)
  | tearingDown | smExit | error => exact hstays
  | waiting | scanning | teardown | reconfiguration | active | down => exact hkeeps .error (by decide)

theorem note_same (l : Site) (x : PolicyView) (log : List ScanEvent) (hl : l ≠ .selectGroupIface) :
    note l x x log = log := by
  by_cases hp : l = .policyState
  · subst hp
    unfold note
    dsimp only
    split
    · next st st' hst hst' =>
      obtain rfl : st = st' := by
        rw [hst] at hst'
        exact PolicyPhase.autoWan.inj hst'
      rw [if_neg]
      rintro (h | h)
      · exact absurd (h.1.symm.trans h.2.2) nofun
      · exact absurd (h.1.symm.trans h.2) nofun
    · rfl
  · exact note_silent ⟨hl, hp⟩ log fun _ => id

/-- A state function of the thread, and what the log says of it. -/
theorem lockedState_scans {st : AutoWanState} {x : PolicyView} {log : List ScanEvent} {i : Nat}
    {d : WanIface} (hfair : FairLog log) (hturn : Fact.turn st x log)
    (hactive : x.activeIface? = some (i, d)) :
    FairLog (note .policyState x (enterState (lockedState st i d x)) log) ∧
      AtRest (enterState (lockedState st i d x),
        note .policyState x (enterState (lockedState st i d x)) log) := by
  obtain ⟨hidx, -⟩ := activeIface_some hactive
  have hphase : x.self.phase = .autoWan st := hturn.1.2
  have houtcome := outcome_lockedState (d := d) st hidx
  have hnote (r : AutoWanState × PolicyView) : note .policyState x (enterState r) log =
      if Resets st x r.1 then .reset false (due (enterState r)) :: log else log := by
    unfold note
    dsimp only
    rw [hphase]
    rfl
  have hquiet (y : PolicyView) (st' : AutoWanState) : Quiet y (enterState (st', y)) := .of_same rfl rfl rfl
  rw [hnote]
  refine ⟨?_, (rest_autoWan rfl).mpr ⟨?_, fun hstays => ?_⟩⟩
  · split
    · exact hfair.reset _ nofun
    · exact hfair
  · show (lockedState st i d x).2.self.ctrl.groupInst ≠ 0
    rw [(keeps_lockedState st i d x).inst]
    exact hturn.1.1.1
  · cases hr : lockedState st i d x with
    | mk st' x' =>
      rw [hr] at houtcome hstays
      have hst : ¬ leaving st := fun hleaves => by
        rw [← lockedState_leaving hleaves i d x, hr] at hleaves
        exact hstays hleaves
      have htrack := Fact.turn_track hturn hst
      cases houtcome with
      | stays hq hidx' hno =>
        rw [if_neg hno]
        exact htrack.quiet (hq.trans (hquiet x' st')) (hidx'.trans hidx.symm)
      | gaveUp hq hnone hno =>
        rw [if_neg hno]
        exact htrack.gaveUp hidx (hq.trans (hquiet x' st')) hnone
      | restarted hresets hnone hinst =>
        rw [if_pos hresets]
        refine .fresh ?_ hnone rfl rfl
        show x'.self.ctrl.groupInst ≠ 0
        rw [hinst]
        exact htrack.inst
      | leaves hleaves => exact absurd hleaves hstays

theorem stable_rest : contract.Stable AtRest := by
  refine stable_of_env fun s s' he hrest => ?_
  cases he with
  | @events x x' log hself hevents =>
    by_cases hlive : x.self.Live
    · exact Fact.rest.steady (hevents hlive) hrest
    · unfold AtRest at hrest ⊢
      obtain ⟨hinst, hrest⟩ := hrest
      dsimp only at hinst hrest ⊢
      rw [hself]
      refine ⟨hinst, ?_⟩
      split at hrest
      · next hphase => exact absurd (PolicyThread.live_created hphase) hlive
      · next hphase => exact absurd (PolicyThread.live_autoWan hphase) hlive
      · exact hrest
      · trivial
      · trivial
  | @restart x log hexit =>
    have htrack : Track (restarted x) (.started (due (restarted x)) :: log) := .fresh hrest.1 rfl rfl rfl
    exact ⟨hrest.1, by simp, htrack, rfl, rfl⟩

/-- What is left of a thread that leaves. -/
theorem policyExit_rest (hK : ∀ x log, K x log → x.self.ctrl.groupInst ≠ 0) :
    Triple contract (Knows K) (policyExit.record note) fun _ => AtRest := by
  have hl : Silent .resetFailOverScan := ⟨nofun, nofun⟩
  have hself (x : PolicyView) : (if x.self.ctrl.groupCfgChanged then x.mapShared Shared.requestRescan
      else x).self = x.self := by
    split <;> rfl
  have hrescan : Scans K (.modify .resetFailOverScan fun x =>
      if x.self.ctrl.groupCfgChanged then x.mapShared Shared.requestRescan else x) fun _ =>
        .own fun t _ => t.ctrl.groupInst ≠ 0 := by
    refine Scans.silent hl (fun x j hj => ?_) fun x log hlive hk => ?_
    · exact (congrArg (·.ctrl.activeInterfaceIdx) (hself x)).symm.trans hj
    · show (if x.self.ctrl.groupCfgChanged then x.mapShared Shared.requestRescan else x).self.Live ∧
        (if x.self.ctrl.groupCfgChanged then x.mapShared Shared.requestRescan
          else x).self.ctrl.groupInst ≠ 0
      rw [hself x]
      exact ⟨hlive, hK x log hk⟩
  unfold policyExit
  rw [Prog.record_bind]
  refine Triple.bind hrescan fun _ => ?_
  unfold Prog.modify
  rw [Prog.record_critical]
  refine Triple.critical (stable_knows _) (fun _ => stable_rest) fun s hi _ hk => ?_
  have hl : Silent .policyExit := ⟨nofun, nofun⟩
  have hlog : note .policyExit s.1 (leaveGroup s.1) s.2 = s.2 := note_silent hl s.2 fun _ => id
  refine ⟨⟨?_, fun u hu => absurd rfl hu⟩, fun _ => ⟨hk.2, trivial⟩⟩
  show FairLog (note .policyExit s.1 (leaveGroup s.1) s.2)
  rw [hlog]
  exact hi

/-- One iteration of the loop. -/
theorem loop_rest (st : AutoWanState) :
    Triple contract (Knows (Fact.rest.and (.phase (.autoWan st)))) ((AutoWan.loop st).record note)
      fun _ => AtRest := by
  have hupdate : Scans (Fact.rest.and (.phase (.autoWan st))) updateControllerData fun _ => .turn st := by
    refine updateControllerData_scans fun x log c hinst hidx hk => ⟨?_, hk.2⟩
    have hphase : x.self.phase = .autoWan st := hk.2
    obtain ⟨hne, htrack⟩ := (rest_autoWan hphase).mp hk.1
    have hne' : c.groupInst ≠ 0 := by
      rw [hinst]
      exact hne
    exact (rest_autoWan (x := x.mapCtrl fun _ => c) hphase).mpr
      ⟨hne', fun hst => (htrack hst).ctrl hinst hidx⟩
  have hturn : Scans (.turn st) (Prog.lockedIf .policyState PolicyView.activeIface?
      (fun a => .modify .policyState fun x => enterState (lockedState st a.1 a.2 (adoptGroup a.2 x)))
      (unlockedState st)) fun _ => .rest := by
    intro s hi hk s' hr hi' _
    obtain ⟨hlive, hturn⟩ := stable_knows (.turn st) s s' hk hr hi'
    have hinst : s'.1.self.ctrl.groupInst ≠ 0 := hturn.1.1.1
    have hadopt (d : WanIface) : adoptGroup d s'.1 = s'.1 := by
      simp [adoptGroup, PolicyView.mapCtrl, hinst]
    cases ha : s'.1.activeIface? with
    | none =>
      simp only [ha]
      rw [note_same .policyState s'.1 s'.2 nofun]
      refine ⟨⟨hi', fun u hu => absurd rfl hu⟩, fun _ => ?_⟩
      exact unlockedState_scans st s' hi' ⟨hlive, hturn⟩
    | some a =>
      obtain ⟨i, d⟩ := a
      obtain ⟨hfair, hrest⟩ := lockedState_scans hi' hturn ha
      have hentered : ((Prog.modify (σ := PolicyView) Site.policyState fun x =>
          enterState (lockedState st i d (adoptGroup d x))).run s'.1).2 =
            enterState (lockedState st i d s'.1) := by
        show enterState (lockedState st i d (adoptGroup d s'.1)) = _
        rw [hadopt d]
      simp only [ha, hentered]
      have hlive' : (enterState (lockedState st i d s'.1)).self.Live := ⟨nofun, nofun⟩
      refine ⟨⟨hfair, fun u hu => absurd rfl hu⟩, fun _ u hru hiu => ?_⟩
      have hknows : Knows .rest (enterState (lockedState st i d s'.1),
          note .policyState s'.1 (enterState (lockedState st i d s'.1)) s'.2) := ⟨hlive', hrest⟩
      exact stable_knows .rest _ u hknows hru hiu
  unfold AutoWan.loop
  rw [Prog.record_bind]
  refine Triple.bind hupdate fun _ => ?_
  rw [Prog.record_bind]
  refine Triple.bind hturn fun _ => ?_
  rw [Prog.record_ite]
  exact Triple.ite (fun _ => policyExit_rest fun _ _ hk => hk.1) fun _ =>
    Triple.mono (Scans.ret (K := .rest) (M := fun _ => .rest) fun _ _ hk => hk) (fun _ _ hk => hk)
      fun _ _ _ hk => hk.2

/-- A tick of the thread. -/
theorem tick_rest : Triple contract (fun s => AtRest s ∧ s.1.self.Live) (Policy.tick.record note)
    fun _ => AtRest := by
  have hread : Scans .rest (.read .thread (·.self.phase)) fun p => Fact.rest.and (.phase p) :=
    Scans.read silent_thread fun _ _ hk => ⟨hk, rfl⟩
  have hstart (policy : WanPolicy) :
      Triple contract (Knows (Fact.rest.and (.phase (.created policy)))) (AutoWan.start.record note)
        fun _ => AtRest :=
    Triple.mono (start_scans policy) (fun _ _ hk => hk) fun _ _ _ hk => hk.2
  have hnever {p : PolicyPhase} {q : PolicyProg Unit} (hp : ∀ s : PolicyView × List ScanEvent,
      s.1.self.phase = p → ¬ AtRest s) :
      Triple contract (Knows (Fact.rest.and (.phase p))) (q.record note) fun _ => AtRest :=
    fun s _ hk => absurd hk.2.1 (hp s hk.2.2)
  have hgone {p : PolicyPhase} (hp : ¬ p.Live) :
      Triple contract (Knows (Fact.rest.and (.phase p))) ((Prog.ret () : PolicyProg Unit).record note)
        fun _ => AtRest := fun s _ hk => absurd hk.1 (by rw [PolicyThread.Live, hk.2.2]; exact hp)
  unfold Policy.tick
  rw [Prog.record_bind]
  refine Triple.bind (Triple.pre hread fun s _ hk => ⟨hk.2, hk.1⟩) fun p => ?_
  cases p with
  | absent => exact hgone fun h => h.1 rfl
  | exited => exact hgone fun h => h.2 rfl
  | autoWan st => exact loop_rest st
  | parallelScan st =>
    refine hnever fun s hphase hrest => ?_
    have hfalse := hrest.2
    rw [hphase] at hfalse
    exact hfalse
  | created policy =>
    cases policy with
    | parallelScan =>
      refine hnever fun s hphase hrest => ?_
      have hfalse := hrest.2
      rw [hphase] at hfalse
      exact hfalse.1 rfl
    | fixedModeOnBootup | fixedMode | primaryPriorityOnBootup | primaryPriority | multiwan | autowan =>
      exact hstart _

/-! ## Runs -/

theorem Created.rest {s : PolicyView × List ScanEvent} (h : Created s) : AtRest s := by
  have htrack : Track s.1 s.2 := by
    rw [h.log]
    exact .fresh h.inst h.free rfl rfl
  refine ⟨h.inst, ?_⟩
  rw [h.phase]
  refine ⟨nofun, htrack, ?_, ?_⟩ <;> rw [h.log] <;> rfl

theorem sound : pool.Sound protocol Created where
  start s hs := by
    refine ⟨?_, fun _ => hs.rest⟩
    show FairLog s.2
    rw [hs.log]
    exact fairLog_nil.started _
  stable _ := stable_rest
  body _ := tick_rest
  env s s' hi he := by
    refine ⟨?_, fun _ => .single he⟩
    cases he with
    | events => exact hi
    | restart => exact FairLog.started hi _

/-- In every cycle an interface is tried at most once and, but for the link that a new thread
resumes, in order of priority; at the end of a scan each that was due has been tried. -/
theorem cycles_fair {c : Config Site Unit (PolicyView × List ScanEvent)}
    (h : pool.Reach (fun _ _ => True) Created c) : FairLog c.store.2 := sound.reach h

/-! Two interfaces, the second of lower priority and with `ActiveLink` from an earlier boot. The thread
takes up that link, WAN is switched off and on again, and the next thread takes it up first. -/

namespace Example

/-- What decides whether an interface is tried. -/
def row (d : WanIface) : Nat × (Bool × Int × IfaceType) × IfaceStatus :=
  (d.selection.group, plan d, status d)

theorem ours?_of_rows {x x' : PolicyView} (hself : x'.self = x.self)
    (hrows : x'.shared.ifaces.map row = x.shared.ifaces.map row) (i : Nat) :
    (ours? x' i).map plan = (ours? x i).map plan ∧
      (ours? x' i).map status = (ours? x i).map status := by
  have hrow : x'.shared.ifaces[i]?.map row = x.shared.ifaces[i]?.map row := by
    rw [← List.getElem?_map, ← List.getElem?_map, hrows]
  unfold ours?
  rw [hself]
  cases hd : x.shared.ifaces[i]? with
  | none =>
    rw [hd] at hrow
    rw [Option.map_eq_none_iff.mp hrow]
    exact ⟨rfl, rfl⟩
  | some d =>
    rw [hd] at hrow
    obtain ⟨d', hd', heq⟩ := Option.map_eq_some_iff.mp hrow
    obtain ⟨hgroup, hplan, hstatus⟩ : d'.selection.group = d.selection.group ∧ plan d' = plan d ∧
        status d' = status d := by
      simpa [row] using heq
    rw [hd', Option.filter_some, Option.filter_some, hgroup]
    split
    · exact ⟨congrArg some hplan, congrArg some hstatus⟩
    · exact ⟨rfl, rfl⟩

/-- A tick after a change that leaves the rows of the table. -/
def after (f : Shared → Shared) (hrows : ∀ s, (f s).ifaces.map row = s.ifaces.map row)
    (hremote : ∀ s, (f s).config.allowRemoteInterfaces = s.config.allowRemoteInterfaces) : pool.Move where
  edit x := (x.1.mapShared f, x.2)
  allowed x := by
    have hours := ours?_of_rows (x := x.1) (rfl : (x.1.mapShared f).self = x.1.self) (hrows x.1.shared)
    exact .events rfl fun _ => ⟨rfl, hremote _, fun i => (hours i).1, fun i _ => (hours i).2⟩
  thread := ()

def tick : pool.Move := after id (fun _ => rfl) fun _ => rfl

/-- A tick a second later. -/
def second : pool.Move := after (fun s => { s with now := s.now + 1 }) (fun _ => rfl) fun _ => rfl

def link (st : PhyStatus) : pool.Move :=
  after (fun s => s.modifyIface 1 fun d => { d with baseInterfaceStatus := st })
    (fun s => Shared.Keeps.map_modify (by intro; rfl) s.ifaces 1) fun _ => rfl

def wan (on : Bool) : pool.Move :=
  after (fun s => { s with config := { s.config with enable := on } }) (fun _ => rfl) fun _ => rfl

/-- The first tick of a new thread. -/
def restart : pool.Move where
  edit x := if x.1.self.phase = .exited then (restarted x.1, .started (due (restarted x.1)) :: x.2) else x
  allowed x := by
    split
    · next h => exact .restart h
    · exact .events rfl fun _ => ⟨rfl, rfl, fun _ => rfl, fun _ _ => rfl⟩
  thread := ()

def table : PolicyView where
  shared :=
    { ifaces := [{}, { selection := { priority := 1, activeLink := true } }], groups := [{}] }
  self := { phase := .created .autowan, ctrl := { groupInst := 1 } }

def fresh : PolicyView × List ScanEvent := (table, [.started (due table)])

/-- Both interfaces are given up, and the table is reset. -/
def scan : List pool.Move := [tick, second, tick, tick, second, tick]

def twice : List pool.Move :=
  [tick, tick, link .up, wan false, tick, tick, wan true, restart, tick, link .down] ++ scan

theorem created : Created fresh where
  phase := rfl
  inst := nofun
  free := rfl
  log := rfl

theorem plays_twice : pool.Plays (fun _ _ => True) twice fresh := by decide +kernel

theorem log_twice : (pool.play twice fresh).2 =
    [.reset true [0, 1], .tried ⟨0, 0, false⟩, .tried ⟨1, 1, true⟩, .started [0, 1],
      .reset false [0, 1], .tried ⟨1, 1, true⟩, .started [0, 1]] := by
  decide +kernel

end Example

open Example in
theorem cycles_fair_twice : FairLog (pool.play twice fresh).2 ∧
    (cycle true (pool.play twice fresh).2.tail).tried = [0, 1] := by
  have hfair := cycles_fair (Pool.Reach.play (.start created) plays_twice)
  rw [Pool.idle_store] at hfair
  refine ⟨hfair, ?_⟩
  rw [log_twice]
  rfl

open Example in
/-- From one reset to the next, the interface of lower priority is tried first. -/
theorem resumed_out_of_order :
    ¬ ∀ c, pool.Reach (fun _ _ => True) Created c → FairBetweenResets c.store.2 := by
  intro h
  have hfair := h _ (Pool.Reach.play (.start created) plays_twice)
  rw [Pool.idle_store, log_twice] at hfair
  obtain ⟨-, horder, -⟩ := hfair true [0, 1] _ List.suffix_rfl rfl
  revert horder
  decide

end ScanCycle

end WanManager
