import WanManager.FailoverEffects
import WanManager.PolicyFrame

/-! # One selection thread for each group

A group's thread runs while the group is `RUNNING`, or `DEACTIVATED` but not yet left, and
`WanMgr_FO_IfaceGroupMonitor` creates one only for groups in neither state. What breaks the
law is cold swap: `MarkHighPriorityGroup` makes a deactivated group `STOPPED` again without
asking whether its thread has ended. A thread ends with the section that leaves its group;
what it still does after that has no effect. -/

namespace WanManager
open Concurrency

namespace Shared

/-- The group is in a state in which no thread is created for it. -/
def Occupied (s : Shared) (inst : Nat) : Prop :=
  ∃ g, s.group? inst = some g ∧ (g.state = .running ∨ g.state = .deactivated)

theorem occupied_of_states {s s' : Shared} (h : s'.states = s.states) {inst : Nat}
    (ho : s.Occupied inst) : s'.Occupied inst := by
  obtain ⟨g, hg, hstate⟩ := ho
  cases inst with
  | zero => cases hg
  | succ n =>
    have hn : s'.states[n]? = some g.state := by
      rw [h, states, List.getElem?_map, show s.groups[n]? = some g from hg]
      rfl
    rw [states, List.getElem?_map] at hn
    obtain ⟨g', hg', hst'⟩ := Option.map_eq_some_iff.mp hn
    exact ⟨g', hg', by rwa [hst']⟩

theorem occupied_modifyGroup_ne {s : Shared} {inst g : Nat} (f : IfaceGroup → IfaceGroup)
    (hne : inst ≠ g) (ho : s.Occupied inst) : (s.modifyGroup g f).Occupied inst := by
  obtain ⟨x, hx, hstate⟩ := ho
  exact ⟨x, by rwa [group?_modifyGroup_ne f hne], hstate⟩

/-- A change that does not stop the group. -/
theorem occupied_modifyGroup {s : Shared} {inst g : Nat} {f : IfaceGroup → IfaceGroup}
    (hf : ∀ x, x.state = .running ∨ x.state = .deactivated →
      (f x).state = .running ∨ (f x).state = .deactivated)
    (ho : s.Occupied inst) : (s.modifyGroup g f).Occupied inst := by
  by_cases hne : inst = g
  · subst hne
    obtain ⟨x, hx, hstate⟩ := ho
    exact ⟨f x, by rw [group?_modifyGroup_self, hx]; rfl, hf x hstate⟩
  · exact occupied_modifyGroup_ne f hne ho

end Shared

/-! ## The failover thread -/

namespace Failover

/-- What a section of the failover thread does to the selection threads. -/
inductive ThreadStep : Site → FailOverView → FailOverView → Prop
  | keep {l v v'} : v'.policies = v.policies → v'.policyCount = v.policyCount →
      (∀ inst, v.shared.Occupied inst → v'.shared.Occupied inst) → ThreadStep l v v'
  | stop {i v v'} : stopsGroup i v = true → v'.policies = v.policies →
      v'.policyCount = v.policyCount →
      (∀ inst, inst ≠ i + 1 → v.shared.Occupied inst → v'.shared.Occupied inst) →
      ThreadStep (.markHighPriorityGroup i) v v'
  | create {i p v v'} : ¬ v.shared.Occupied (i + 1) →
      v'.policies = Function.update v.policies v.policyCount
        { phase := .created p, ctrl := { groupInst := i + 1 } } →
      v'.policyCount = v.policyCount + 1 → v'.shared.Occupied (i + 1) →
      (∀ inst, v.shared.Occupied inst → v'.shared.Occupied inst) →
      ThreadStep (.ifaceGroupMonitor i) v v'

theorem states_activateGroup (g : Nat) (s : Shared) : (activateGroup g s).states = s.states := by
  unfold activateGroup
  split
  · rfl
  · split
    · exact (Shared.Keeps.modifyGroup (by intro; rfl) (by intro; rfl) (by intro; rfl) _ _).states
    · rfl

theorem states_deactivateGroup (g : Nat) (s : Shared) : (deactivateGroup g s).states = s.states := by
  unfold deactivateGroup
  split
  · rfl
  · split <;> rfl

theorem threadStep_monitorGroup (i : Nat) (v : FailOverView) :
    ThreadStep (.ifaceGroupMonitor i) v (monitorGroup i v) := by
  unfold monitorGroup
  cases hg : v.shared.groups[i]? with
  | none => exact .keep rfl rfl fun _ ho => ho
  | some g =>
    simp only
    split
    · rename_i hfree
      obtain ⟨-, hrunning, hdeactivated⟩ := hfree
      have hnone : ¬ v.shared.Occupied (i + 1) := by
        rintro ⟨g', hg', hstate⟩
        obtain rfl : g = g' := Option.some.inj (hg.symm.trans hg')
        rcases hstate with h | h
        · exact hrunning h
        · exact hdeactivated h
      split
      · refine .create hnone rfl rfl ?_ fun inst => Shared.occupied_modifyGroup fun _ _ => .inl rfl
        have hgroup : v.shared.group? (i + 1) = some g := hg
        exact ⟨_, by rw [Shared.group?_modifyGroup_self, hgroup]; rfl, .inl rfl⟩
      · exact .keep rfl rfl fun inst => Shared.occupied_modifyGroup fun _ h => h
    · exact .keep rfl rfl fun _ ho => ho

theorem Effect.threadStep {quiet : List WanIface → Prop} {l : Site} {v v' : FailOverView}
    (h : Effect quiet l v v') : ThreadStep l v v' := by
  cases h with
  | own _ => exact .keep rfl rfl fun _ ho => ho
  | config => exact .keep rfl rfl fun _ ho => ho
  | @available i _ =>
    unfold addInterfaceAvailable
    split
    · exact .keep rfl rfl fun _ ho => ho
    · exact .keep rfl rfl fun inst => Shared.occupied_modifyGroup fun _ h => h
  | deactivated _ => exact .keep rfl rfl fun inst => Shared.occupied_modifyGroup fun _ _ => .inr rfl
  | monitor => exact threadStep_monitorGroup _ v
  | @mark w i _ =>
    obtain ⟨highest, hkeep | ⟨hstop, hv'⟩⟩ := markGroup_cases w i v
    · rw [hkeep]
      exact .keep rfl rfl fun _ ho => ho
    · rw [hv']
      exact .stop hstop rfl rfl fun inst hne => Shared.occupied_modifyGroup_ne _ hne
  | activate _ => exact .keep rfl rfl fun inst => Shared.occupied_of_states (states_activateGroup _ _)
  | stop =>
    refine .keep rfl rfl fun inst => Shared.occupied_modifyGroup fun x hx => ?_
    split
    · exact .inr rfl
    · exact hx
  | deactivate => exact .keep rfl rfl fun inst => Shared.occupied_of_states (states_deactivateGroup _ _)

end Failover

/-! ## The invariant -/

namespace System

/-- No two selection threads of one group are alive. -/
def OneThreadPerGroup (w : World) : Prop :=
  ∀ t u, (w.policies t).Live → (w.policies u).Live →
    (w.policies t).ctrl.groupInst = (w.policies u).ctrl.groupInst → t = u

structure PolicyThreads (w : World) : Prop where
  /-- identifiers are given out in order -/
  fresh : ∀ t, w.policyCount ≤ t → (w.policies t).phase = .absent
  occupied : ∀ t, (w.policies t).Live → w.shared.Occupied (w.policies t).ctrl.groupInst
  unique : OneThreadPerGroup w

theorem PolicyThreads.lt_count {w : World} (h : PolicyThreads w) {t : Nat}
    (hlive : (w.policies t).Live) : t < w.policyCount := by
  by_contra hge
  exact hlive.1 (h.fresh t (by omega))

/-- The threads stay what they are, and the group of each stays occupied. -/
theorem PolicyThreads.transfer {w w' : World} (h : PolicyThreads w)
    (hpolicies : w'.policies = w.policies) (hcount : w'.policyCount = w.policyCount)
    (hocc : ∀ t, (w.policies t).Live → w.shared.Occupied (w.policies t).ctrl.groupInst →
      w'.shared.Occupied (w.policies t).ctrl.groupInst) : PolicyThreads w' where
  fresh := by rw [hpolicies, hcount]; exact h.fresh
  occupied t ht := by
    rw [hpolicies] at ht ⊢
    exact hocc t ht (h.occupied t ht)
  unique := by rw [OneThreadPerGroup, hpolicies]; exact h.unique

/-- The monitor creates a thread for a group that has none. -/
theorem PolicyThreads.create {w w' : World} {p : WanPolicy} {inst : Nat} (h : PolicyThreads w)
    (hnone : ¬ w.shared.Occupied inst)
    (hpolicies : w'.policies = Function.update w.policies w.policyCount
      { phase := .created p, ctrl := { groupInst := inst } })
    (hcount : w'.policyCount = w.policyCount + 1) (hnew : w'.shared.Occupied inst)
    (hocc : ∀ inst, w.shared.Occupied inst → w'.shared.Occupied inst) : PolicyThreads w' := by
  have hold : ∀ t, t ≠ w.policyCount → w'.policies t = w.policies t := by
    intro t ht
    rw [hpolicies, Function.update_of_ne ht]
  have hinst : (w'.policies w.policyCount).ctrl.groupInst = inst := by
    rw [hpolicies, Function.update_self]
  have hfree : ∀ t, t ≠ w.policyCount → (w'.policies t).Live →
      (w'.policies t).ctrl.groupInst ≠ inst := by
    intro t ht hlive heq
    rw [hold t ht] at hlive heq
    exact hnone (heq ▸ h.occupied t hlive)
  refine ⟨fun t ht => ?_, fun t ht => ?_, fun t u ht hu heq => ?_⟩
  · rw [hold t (by omega)]
    exact h.fresh t (by omega)
  · by_cases hc : t = w.policyCount
    · rw [hc, hinst]
      exact hnew
    · rw [hold t hc] at ht ⊢
      exact hocc _ (h.occupied t ht)
  · by_cases ht' : t = w.policyCount
    · by_cases hu' : u = w.policyCount
      · rw [ht', hu']
      · rw [ht', hinst] at heq
        exact absurd heq.symm (hfree u hu' hu)
    · by_cases hu' : u = w.policyCount
      · rw [hu', hinst] at heq
        exact absurd heq (hfree t ht' ht)
      · rw [hold t ht', hold u hu'] at heq
        rw [hold t ht'] at ht
        rw [hold u hu'] at hu
        exact h.unique t u ht hu heq

/-- A thread that stays in its group, or ends and leaves it. -/
theorem PolicyThreads.update {w w' : World} {t : Nat} {p : PolicyThread} (h : PolicyThreads w)
    (hpolicies : w'.policies = Function.update w.policies t p) (hcount : w'.policyCount = w.policyCount)
    (hp : p.Live → (w.policies t).Live ∧ p.ctrl.groupInst = (w.policies t).ctrl.groupInst)
    (habsent : (w.policies t).phase = .absent → p.phase = .absent)
    (hocc : ∀ u, (u = t → p.Live) → (w.policies u).Live →
      w.shared.Occupied (w.policies u).ctrl.groupInst →
      w'.shared.Occupied (w.policies u).ctrl.groupInst) : PolicyThreads w' := by
  have hold : ∀ u, (w'.policies u).Live → (w.policies u).Live ∧
      (w'.policies u).ctrl.groupInst = (w.policies u).ctrl.groupInst ∧ (u = t → p.Live) := by
    intro u hu
    rw [hpolicies] at hu ⊢
    by_cases hut : u = t
    · subst hut
      rw [Function.update_self] at hu ⊢
      exact ⟨(hp hu).1, (hp hu).2, fun _ => hu⟩
    · rw [Function.update_of_ne hut] at hu ⊢
      exact ⟨hu, rfl, fun h => absurd h hut⟩
  refine ⟨fun u hu => ?_, fun u hu => ?_, fun u v hu hv heq => ?_⟩
  · rw [hcount] at hu
    rw [hpolicies]
    by_cases hut : u = t
    · subst hut
      rw [Function.update_self]
      exact habsent (h.fresh u hu)
    · rw [Function.update_of_ne hut]
      exact h.fresh u hu
  · obtain ⟨hlive, hinst, hp'⟩ := hold u hu
    rw [hinst]
    exact hocc u hp' hlive (h.occupied u hlive)
  · obtain ⟨hu', hinstu, -⟩ := hold u hu
    obtain ⟨hv', hinstv, -⟩ := hold v hv
    exact h.unique u v hu' hv' (by rw [← hinstu, ← hinstv, heq])

/-! ## The protocol -/

/-- Where `MarkHighPriorityGroup` stops a deactivated group, the group's thread has ended. -/
def OldThreadEnded : Section → World → Prop
  | (.failOver, .markHighPriorityGroup i), w =>
    Failover.stopsGroup i (World.failOverView.get w) = true →
      ∀ t < w.policyCount, (w.policies t).Live → (w.policies t).ctrl.groupInst ≠ i + 1
  | _, _ => True

instance (l : Section) (w : World) : Decidable (OldThreadEnded l w) := by
  unfold OldThreadEnded
  split <;> infer_instance

/-- What a thread relies on: its own record. -/
def recordRely : Thread → World → World → Prop
  | .failOver, w, w' => w'.failOver = w.failOver
  | .policy t, w, w' => (w.policies t).Live → w'.policies t = w.policies t
  | .vism _, _, _ => True

theorem recordRely_refl (t : Thread) (w : World) : recordRely t w w := by
  cases t <;> simp [recordRely]

theorem recordRely_trans {t : Thread} {a b c : World} (h : recordRely t a b)
    (h' : recordRely t b c) : recordRely t a c := by
  cases t with
  | failOver => exact h'.trans h
  | policy t =>
    intro hlive
    have hb : b.policies t = a.policies t := h hlive
    exact (h' (by rwa [hb])).trans hb
  | vism t => trivial

def policyProtocol : Protocol Section Thread World where
  inv := PolicyThreads
  rely := recordRely
  guard := OldThreadEnded
  refl := recordRely_refl
  trans := recordRely_trans

/-- What the rest of the program must leave alone: the threads, and the states of the groups. -/
structure KeepsPolicyThreads (w w' : World) : Prop where
  failOver : w'.failOver = w.failOver
  policies : w'.policies = w.policies
  policyCount : w'.policyCount = w.policyCount
  states : w'.shared.states = w.shared.states

theorem failOver_step {l : Site} {w : World} {v : FailOverView} (h : PolicyThreads w)
    (hg : OldThreadEnded (.failOver, l) w)
    (hstep : Failover.ThreadStep l (World.failOverView.get w) v) :
    PolicyThreads (World.failOverView.put v w) ∧
      policyProtocol.Guar .failOver w (World.failOverView.put v w) := by
  have hguar : (∀ t, (w.policies t).Live → v.policies t = w.policies t) →
      policyProtocol.Guar .failOver w (World.failOverView.put v w) := by
    intro hold u hu
    cases u with
    | failOver => exact absurd rfl hu
    | policy t => exact hold t
    | vism t => trivial
  cases hstep with
  | keep hpolicies hcount hocc =>
    exact ⟨h.transfer hpolicies hcount fun t _ => hocc _, hguar fun t _ => by rw [hpolicies]; rfl⟩
  | stop hstop hpolicies hcount hocc =>
    refine ⟨h.transfer hpolicies hcount fun t ht => hocc _ ?_, hguar fun t _ => by rw [hpolicies]; rfl⟩
    exact hg hstop t (h.lt_count ht) ht
  | create hnone hpolicies hcount hnew hocc =>
    refine ⟨h.create hnone hpolicies hcount hnew hocc, hguar fun t ht => ?_⟩
    have hlt : t < w.policyCount := h.lt_count ht
    have hne : t ≠ w.policyCount := by omega
    rw [hpolicies]
    exact Function.update_of_ne hne _ _

theorem occupied_inst {w : World} (h : PolicyThreads w) {t : Nat} (hlive : (w.policies t).Live) :
    (w.policies t).ctrl.groupInst ≠ 0 := by
  obtain ⟨g, hg, -⟩ := h.occupied t hlive
  intro hz
  rw [hz] at hg
  cases hg

theorem policy_step {chosen missing : PolicyView → Nat → Prop} {l : Site} {t : Nat} {w : World}
    {x : PolicyView} (h : PolicyThreads w)
    (hstep : Policy.Effect chosen missing l ((World.policyView t).get w) x) :
    PolicyThreads ((World.policyView t).put x w) ∧
      policyProtocol.Guar (.policy t) w ((World.policyView t).put x w) := by
  have hguar : policyProtocol.Guar (.policy t) w ((World.policyView t).put x w) := by
    intro u hu
    cases u with
    | failOver => rfl
    | policy u =>
      have hne : u ≠ t := fun h => hu (h ▸ rfl)
      exact fun _ => Function.update_of_ne hne _ _
    | vism u => trivial
  refine ⟨?_, hguar⟩
  rcases hstep.keeps with ⟨hkeep, hself⟩ | ⟨hlive, hleave⟩
  · refine h.update rfl rfl (fun hx => ?_) (fun habsent => ?_) fun u _ _ =>
      Shared.occupied_of_states hkeep.states
    · have hlive : (w.policies t).Live := by
        rcases hself with hsame | ⟨hlive, -⟩
        · have hlive : x.self.Live := hx
          rw [hsame] at hlive
          exact hlive
        · exact hlive
      exact ⟨hlive, hstep.inst (occupied_inst h hlive)⟩
    · rcases hself with hsame | ⟨hlive, -⟩
      · rw [hsame]
        exact habsent
      · exact absurd habsent hlive.1
  · subst hleave
    refine h.update rfl rfl (fun hx => absurd rfl hx.2) (fun habsent => absurd habsent hlive.1)
      fun u hu hulive => ?_
    have hne : u ≠ t := by
      intro hut
      exact (hu hut).2 rfl
    have hinst : (w.policies u).ctrl.groupInst ≠ (w.policies t).ctrl.groupInst :=
      fun heq => hne (h.unique u t hulive hlive heq)
    exact Shared.occupied_modifyGroup_ne _ hinst

theorem groups_vismSection (x : VismView) :
    (InterfaceSm.vismSection x).shared.groups = x.shared.groups := by
  unfold InterfaceSm.vismSection
  split
  · split <;> rfl
  · split <;> rfl

theorem vism_step {t : Nat} {w : World} (h : PolicyThreads w) :
    PolicyThreads ((World.vismView t).amend InterfaceSm.vismSection w) ∧
      policyProtocol.Guar (.vism t) w ((World.vismView t).amend InterfaceSm.vismSection w) := by
  have hgroups : ((World.vismView t).amend InterfaceSm.vismSection w).shared.states = w.shared.states :=
    congrArg (List.map IfaceGroup.state) (groups_vismSection ((World.vismView t).get w))
  refine ⟨h.transfer rfl rfl fun u _ => Shared.occupied_of_states hgroups, fun u _ => ?_⟩
  cases u with
  | failOver => rfl
  | policy u => exact fun _ => rfl
  | vism u => trivial

/-! What a contract of the world has to allow, for threads that rely on nothing but themselves. -/

section Steps

variable {C : Contract Section World} {t : Nat}

theorem failOver_steps (hrely : ∀ w w', C.rely w w' → w'.failOver = w.failOver)
    (hstep : ∀ l w v, C.inv w → C.guard (.failOver, l) w →
      Failover.Effect (fun _ => True) l (World.failOverView.get w) v →
        C.step (.failOver, l) w (World.failOverView.put v w)) :
    Triple C (fun _ => True) (body .failOver) fun _ _ => True := by
  have hrefines : C.Refines World.failOverView (Prod.mk Thread.failOver)
      (Failover.effects (fun _ => True) fun _ => True) :=
    { inv := fun _ _ => trivial
      guard := fun _ _ _ => trivial
      rely := fun _ _ h => ⟨hrely _ _ h, id⟩
      step := hstep }
  have hquiet : Failover.Deactivates (fun _ => True) fun _ => True :=
    ⟨fun _ _ => trivial, fun _ _ _ => trivial⟩
  exact ((Failover.failOverTick_effect hquiet).lift hrefines).mono
    (fun _ _ _ => ⟨trivial, fun _ => trivial⟩) fun _ _ _ _ => trivial

theorem policy_steps (hrely : ∀ w w', C.rely w w' → (w.policies t).Live → w'.policies t = w.policies t)
    (hstep : ∀ l w x, C.inv w → C.guard (.policy t, l) w →
      Policy.Effect (fun _ _ => True) (fun _ _ => True) l ((World.policyView t).get w) x →
        C.step (.policy t, l) w ((World.policyView t).put x w)) :
    Triple C (fun w => (w.policies t).Live) (body (.policy t)) fun _ _ => True := by
  have hrefines : C.Refines (World.policyView t) (Prod.mk (Thread.policy t))
      (Policy.effects (fun _ => True) (fun _ _ => True) fun _ _ => True) :=
    { inv := fun _ _ => trivial
      guard := fun _ _ _ => trivial
      rely := fun _ _ h hlive => ⟨hrely _ _ h hlive, fun _ => ⟨id, id⟩⟩
      step := hstep }
  have hfinds : Policy.Finds (fun _ _ => True) fun _ _ => True :=
    ⟨fun _ _ _ _ _ => trivial, fun _ _ _ => trivial⟩
  exact ((Policy.tick_effect hfinds).lift hrefines).mono (fun _ _ h => Policy.own_iff.mpr h)
    fun _ _ _ _ => trivial

theorem vism_steps (hstep : ∀ w, C.inv w →
    C.step (.vism t, .vism) w ((World.vismView t).amend InterfaceSm.vismSection w)) :
    Triple C (fun _ => True) (body (.vism t)) fun _ _ => True :=
  Triple.modify (fun _ _ _ _ _ => trivial) (fun _ _ _ _ _ => trivial) fun w h _ _ =>
    ⟨hstep w h, fun _ => trivial⟩

end Steps

theorem failOver_body : Triple (policyProtocol.contract .failOver) (fun _ => True)
    (body .failOver) fun _ _ => True :=
  failOver_steps (fun _ _ h => h) fun _ _ _ h hg hstep => failOver_step h hg hstep.threadStep

theorem policyThreads_sound : (pool KeepsPolicyThreads).Sound policyProtocol NoThreads where
  start w hw := by
    have hdead : ∀ t, ¬ (w.policies t).Live := fun t ht => ht.1 (hw.policies t)
    exact ⟨⟨fun t _ => hw.policies t, fun t ht => absurd ht (hdead t),
      fun t _ ht => absurd ht (hdead t)⟩, fun _ => trivial⟩
  stable _ _ _ _ _ _ := trivial
  body t := by
    cases t with
    | failOver => exact failOver_body.pre fun _ _ _ => trivial
    | policy t =>
      have hpolicy : Triple (policyProtocol.contract (.policy t)) (fun w => (w.policies t).Live)
          (body (.policy t)) fun _ _ => True :=
        policy_steps (fun _ _ h => h) fun _ _ _ h _ hstep => policy_step h hstep
      exact hpolicy.pre fun _ _ h => h.2
    | vism t =>
      have hsection : Triple (policyProtocol.contract (.vism t)) (fun _ => True) (body (.vism t))
          fun _ _ => True := vism_steps fun _ h => vism_step h
      exact hsection.pre fun _ _ _ => trivial
  env w w' h henv := by
    refine ⟨h.transfer henv.policies henv.policyCount fun t _ =>
      Shared.occupied_of_states henv.states, fun t => ?_⟩
    cases t with
    | failOver => exact henv.failOver
    | policy t => exact fun _ => congrFun henv.policies t
    | vism t => trivial

/-- In every run in which a group's thread has ended when its deactivated group is stopped,
no group ever has two selection threads. -/
theorem one_policy_thread_per_group {c : Config Section Thread World}
    (h : (pool KeepsPolicyThreads).Reach OldThreadEnded NoThreads c) : OneThreadPerGroup c.store :=
  (policyThreads_sound.reach h).unique

/-! Cold swap with two groups of one interface each: the first group's interface has no link
when the scan begins, so the second group gets a thread too. Then the first group is
activated and the second stopped, which takes its thread's next tick; before that tick the
first group's interface loses its connectivity. -/

namespace Example

theorem keeps {f : Shared → Shared} (h : ∀ s, (f s).states = s.states) (w : World) :
    KeepsPolicyThreads w { w with shared := f w.shared } := ⟨rfl, rfl, rfl, h w.shared⟩

def tick (t : Thread) : (pool KeepsPolicyThreads).Move := after id (keeps fun _ => rfl) t

def start : World :=
  { shared := { ifaces := [{}, { selection := { group := 2 } }], groups := [{}, {}],
                outside := { psmFailOverType := some .coldswap } } }

def link (s : Shared) : Shared := s.modifyIface 0 fun d => { d with baseInterfaceStatus := .up }

def later (s : Shared) : Shared := { s with now := s.now + 1 }

def lease (s : Shared) : Shared :=
  s.modifyVirtIf 0 0 fun v => { v with ip := { v.ip with ipv4Status := .up } }

def disconnect (s : Shared) : Shared :=
  s.modifyVirtIf 0 0 fun v => { v with ip := { v.ip with
    ipv4ConnectivityStatus := .down, ipv6ConnectivityStatus := .down } }

/-- Both groups get their thread. -/
def scan : List (pool KeepsPolicyThreads).Move :=
  [tick .failOver, tick .failOver, tick .failOver, tick (.policy 0), tick (.policy 0),
    tick (.policy 0), after later (keeps fun _ => rfl) .failOver, tick .failOver, tick (.policy 1)]

/-- The first group is activated, and the second stopped. -/
def activation : List (pool KeepsPolicyThreads).Move :=
  scan ++ [after link (keeps fun _ => rfl) (.policy 0), tick (.policy 0)] ++
    List.replicate 5 (tick (.vism 0)) ++
    [after lease (keeps fun _ => rfl) (.vism 0), tick .failOver]

def disconnection : List (pool KeepsPolicyThreads).Move :=
  activation ++ [after disconnect (keeps fun _ => rfl) .failOver, tick .failOver]

end Example

theorem Example.noThreads : NoThreads Example.start := ⟨rfl, fun _ => rfl, fun _ => rfl⟩

open Example in
theorem one_policy_thread_per_group_run :
    OneThreadPerGroup ((pool KeepsPolicyThreads).play activation start) ∧
      (((pool KeepsPolicyThreads).play activation start).policies 0).Live ∧
      (((pool KeepsPolicyThreads).play activation start).policies 1).Live := by
  have hplays : (pool KeepsPolicyThreads).Plays OldThreadEnded activation start := by decide +kernel
  have hrun := Pool.Reach.play (.start noThreads) hplays
  have hone := one_policy_thread_per_group hrun
  rw [Pool.idle_store] at hone
  exact ⟨hone, by decide +kernel, by decide +kernel⟩

open Example in
/-- The stopped group gets a second thread while its first still runs. -/
theorem second_policy_thread :
    ¬ ∀ c, (pool KeepsPolicyThreads).Reach (fun _ _ => True) NoThreads c →
      OneThreadPerGroup c.store := by
  intro h
  have hplays : (pool KeepsPolicyThreads).Plays (fun _ _ => True) disconnection start := by
    decide +kernel
  have hone := h _ (Pool.Reach.play (.start noThreads) hplays)
  have hsame := hone 1 2 (by decide +kernel) (by decide +kernel) (by decide +kernel)
  omega

end System
end WanManager
