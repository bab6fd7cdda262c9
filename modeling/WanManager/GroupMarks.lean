import WanManager.ActiveExclusion
import WanManager.PolicyWindUp
import WanManager.GroupConfiguration

/-! # No group keeps `ConfigChanged` for ever

`MarkHighPriorityGroup` selects no new group while `ConfigChanged` of one is set. The mark is
taken back by the group's selection thread as it ends and by the monitor as it starts one,
so a marked group needs either. The handlers set it without asking for that: an interface
that leaves a group without a thread may be the group's last, and a deactivated group is
started by nobody. -/

namespace WanManager
open Concurrency

/-- `WanMgr_FO_IfaceGroupMonitor` will start a thread for the group. -/
def IfaceGroup.Starts (g : IfaceGroup) : Prop :=
  g.interfaceAvailable ≠ 0 ∧ g.state ≠ .running ∧ g.state ≠ .deactivated

instance (g : IfaceGroup) : Decidable g.Starts := inferInstanceAs (Decidable (_ ∧ _))

/-! ## The failover thread -/

namespace Failover

/-- What a section of the failover thread does to group `k`; `created` says that it created a
selection thread for it. -/
inductive GroupStep (created : Prop) : Site → Nat → IfaceGroup → IfaceGroup → Prop
  | keep {l k g g'} : g'.state = g.state → g'.configChanged = g.configChanged →
      (g.interfaceAvailable ≠ 0 → g'.interfaceAvailable ≠ 0) → GroupStep created l k g g'
  | deactivated {k g g'} : g'.state = .deactivated → g'.configChanged = g.configChanged →
      GroupStep created (.transitionStart k) k g g'
  | start {l k g g'} : g'.configChanged = false → (g'.state = .running → created) →
      GroupStep created l k g g'
  | stop {l k g g'} : g.state = .running → g'.state = .deactivated → GroupStep created l k g g'
  | free {l k g g'} : g.state = .deactivated → g'.state = .stopped →
      g'.configChanged = g.configChanged → GroupStep created l k g g'

/-- A selection thread was created for group `k`. -/
def Creates (k : Nat) (v v' : FailOverView) : Prop :=
  ∃ p, v'.policies = Function.update v.policies v.policyCount
    { phase := .created p, ctrl := { groupInst := k + 1 } } ∧ v'.policyCount = v.policyCount + 1

theorem groupStep_refl {created : Prop} {l : Site} {k : Nat} (g : IfaceGroup) :
    GroupStep created l k g g := .keep rfl rfl id

/-- A section that changes one group of the table. -/
theorem groupStep_modify {v v' : FailOverView} {l : Site} {inst : Nat} {f : IfaceGroup → IfaceGroup}
    (hshared : v'.shared.groups = (v.shared.modifyGroup inst f).groups) {k : Nat} {g' : IfaceGroup}
    (h : v'.shared.groups[k]? = some g')
    (hf : k + 1 = inst → ∀ g, v.shared.groups[k]? = some g → GroupStep (Creates k v v') l k g (f g)) :
    ∃ g, v.shared.groups[k]? = some g ∧ GroupStep (Creates k v v') l k g g' := by
  rw [hshared] at h
  obtain ⟨g, hg, ⟨hk, rfl⟩ | ⟨-, rfl⟩⟩ := Shared.group?_modifyGroup_some (k := k + 1) h
  · exact ⟨g, hg, hf hk g hg⟩
  · exact ⟨g', hg, groupStep_refl g'⟩

theorem groupStep_same {v v' : FailOverView} {l : Site} (hshared : v'.shared.groups = v.shared.groups)
    {k : Nat} {g' : IfaceGroup} (h : v'.shared.groups[k]? = some g') :
    ∃ g, v.shared.groups[k]? = some g ∧ GroupStep (Creates k v v') l k g g' :=
  ⟨g', hshared ▸ h, groupStep_refl g'⟩

theorem groupStep_monitor {i k : Nat} {v : FailOverView} {g' : IfaceGroup}
    (h : (monitorGroup i v).shared.groups[k]? = some g') :
    ∃ g, v.shared.groups[k]? = some g ∧
      GroupStep (Creates k v (monitorGroup i v)) (.ifaceGroupMonitor i) k g g' := by
  unfold monitorGroup at h ⊢
  cases hg : v.shared.groups[i]? with
  | none =>
    rw [hg] at h
    exact groupStep_same rfl h
  | some g =>
    simp only [hg] at h ⊢
    split at h
    · rename_i hstarts
      rw [if_pos hstarts]
      split at h
      · rename_i hcreate
        rw [if_pos hcreate]
        refine groupStep_modify rfl h fun hk x _ => .start rfl fun _ => ?_
        obtain rfl : k = i := by omega
        exact ⟨_, rfl, rfl⟩
      · rename_i hcreate
        rw [if_neg hcreate]
        refine groupStep_modify rfl h fun hk x hx => .start rfl fun hrunning => ?_
        obtain rfl : k = i := by omega
        obtain rfl : g = x := Option.some.inj (hg.symm.trans hx)
        exact absurd hrunning hstarts.2.1
    · rename_i hstarts
      rw [if_neg hstarts]
      exact groupStep_same rfl h

def countActivation (g : IfaceGroup) : IfaceGroup :=
  { g with activationCount := (g.activationCount + 1) % 2 ^ 32 }

theorem groups_activateGroup (g : Nat) (s : Shared) :
    (activateGroup g s).groups = s.groups ∨
      (activateGroup g s).groups = (s.modifyGroup g countActivation).groups := by
  unfold activateGroup
  split
  · exact .inl rfl
  split
  · refine .inr ?_
    cases g <;> rfl
  · exact .inl rfl

/-- What each section of the failover thread does to a group. -/
theorem Effect.groupStep {quiet : List WanIface → Prop} {l : Site} {v v' : FailOverView}
    (hstep : Effect quiet l v v') {k : Nat} {g' : IfaceGroup} (h : v'.shared.groups[k]? = some g') :
    ∃ g, v.shared.groups[k]? = some g ∧ GroupStep (Creates k v v') l k g g' := by
  cases hstep with
  | own _ => exact groupStep_same rfl h
  | config => exact groupStep_same rfl h
  | @available i _ =>
    unfold addInterfaceAvailable at h ⊢
    cases hd : v.shared.ifaces[i]? with
    | none =>
      rw [hd] at h
      exact groupStep_same rfl h
    | some d =>
      simp only [hd] at h ⊢
      refine groupStep_modify rfl h fun _ x _ => ?_
      exact .keep rfl rfl fun _ => Shared.available_ne_zero _ _
  | @deactivated i _ _ =>
    refine groupStep_modify rfl h fun hk x _ => ?_
    obtain rfl : k = i := by omega
    exact .deactivated rfl rfl
  | monitor => exact groupStep_monitor h
  | @mark w i _ =>
    obtain ⟨highest, hkeep | ⟨hstops, hstop⟩⟩ := markGroup_cases w i v
    · rw [hkeep] at h ⊢
      exact groupStep_same rfl h
    · rw [hstop] at h ⊢
      refine groupStep_modify rfl h fun hk x hx => ?_
      obtain rfl : k = i := by omega
      simp only [stopsGroup, hx, Bool.and_eq_true, Option.any_some] at hstops
      exact .free (eq_of_beq hstops.2) rfl rfl
  | activate _ =>
    rcases groups_activateGroup v.self.ctrl.highestValidGroup v.shared with hsame | hcount
    · have hgroups : (activateHighest v).shared.groups = v.shared.groups := hsame
      exact groupStep_same hgroups h
    · have hgroups : (activateHighest v).shared.groups = _ := hcount
      refine groupStep_modify hgroups h fun _ x _ => ?_
      exact .keep rfl rfl id
  | @stop i _ =>
    refine groupStep_modify rfl h fun _ x _ => ?_
    split
    · rename_i hrunning
      exact .stop hrunning rfl
    · exact groupStep_refl x
  | deactivate =>
    have hgroups : (deactivateGroup v.self.ctrl.currentActiveGroup v.shared).groups = v.shared.groups := by
      unfold deactivateGroup
      split
      · rfl
      · split <;> rfl
    exact groupStep_same hgroups h

end Failover

/-! ## The invariants -/

namespace System

/-- What holds of the selection threads in every run. -/
structure ThreadsInv (w : World) : Prop where
  /-- identifiers are given out in order -/
  fresh : ∀ t, w.policyCount ≤ t → (w.policies t).phase = .absent
  inst : ∀ t, (w.policies t).Live → (w.policies t).ctrl.groupInst ≠ 0
  tearing : ∀ t, (w.policies t).phase = .autoWan .tearingDown →
    ∃ i < w.shared.ifaces.length, (w.policies t).ctrl.activeInterfaceIdx = some i

/-- A running group has a thread, and a marked one has a thread or will be started. -/
structure MarksInv (w : World) : Prop extends ThreadsInv w where
  running : ∀ k g, w.shared.groups[k]? = some g → g.state = .running → HasThread w (k + 1)
  marked : ∀ k g, w.shared.groups[k]? = some g → g.configChanged = true →
    HasThread w (k + 1) ∨ g.Starts

theorem ThreadsInv.lt_count {w : World} (h : ThreadsInv w) {t : Nat} (hlive : (w.policies t).Live) :
    t < w.policyCount := by
  by_contra hge
  exact hlive.1 (h.fresh t (by omega))

/-- A group has a thread as before, if its threads go on in the group. -/
theorem HasThread.mono {w w' : World} {inst : Nat} (h : HasThread w inst)
    (hcount : w.policyCount ≤ w'.policyCount)
    (hgo : ∀ t, (w.policies t).Live → t < w.policyCount → (w.policies t).ctrl.groupInst = inst →
      (w'.policies t).Live ∧ (w'.policies t).ctrl.groupInst = inst) : HasThread w' inst := by
  obtain ⟨t, ht, hlive, hinst⟩ := h
  exact ⟨t, by omega, hgo t hlive ht hinst⟩

/-- What happens to the threads when the failover thread takes a step. -/
structure ThreadsGrow (w w' : World) : Prop where
  count : w.policyCount ≤ w'.policyCount
  old : ∀ t, t ≠ w.policyCount ∨ w'.policyCount = w.policyCount → w'.policies t = w.policies t
  new : w'.policyCount = w.policyCount ∨ w'.policyCount = w.policyCount + 1 ∧
    ∃ p k, w'.policies w.policyCount = { phase := .created p, ctrl := { groupInst := k + 1 } }
  ifaces : w'.shared.ifaces.length = w.shared.ifaces.length

theorem ThreadsGrow.of_step {quiet : List WanIface → Prop} {l : Site} {w : World} {v : FailOverView}
    (hstep : Failover.Effect quiet l (World.failOverView.get w) v) :
    ThreadsGrow w (World.failOverView.put v w) := by
  have hifaces : v.shared.ifaces.length = w.shared.ifaces.length :=
    Shared.length_of_members hstep.members
  cases hstep.threadStep with
  | keep hpolicies hcount _ | stop _ hpolicies hcount _ =>
    have hcount' : v.policyCount = w.policyCount := hcount
    exact ⟨Nat.le_of_eq hcount'.symm, fun t _ => congrFun hpolicies t, .inl hcount', hifaces⟩
  | @create i p _ _ _ hpolicies hcount _ _ =>
    have hcount' : v.policyCount = w.policyCount + 1 := hcount
    refine ⟨by show w.policyCount ≤ v.policyCount; omega, fun t ht => ?_, .inr ⟨hcount', p, i, ?_⟩, hifaces⟩
    · have hne : t ≠ w.policyCount := by
        rcases ht with ht | ht
        · exact ht
        · have hsame : v.policyCount = w.policyCount := ht
          omega
      show v.policies t = _
      rw [hpolicies]
      exact Function.update_of_ne hne _ _
    · show v.policies w.policyCount = _
      rw [hpolicies]
      exact Function.update_self ..

theorem ThreadsInv.grow {w w' : World} (h : ThreadsInv w) (hgrow : ThreadsGrow w w') :
    ThreadsInv w' := by
  have hcases : ∀ t, w'.policies t = w.policies t ∨
      t = w.policyCount ∧ w'.policyCount = w.policyCount + 1 ∧
        ∃ p k, w'.policies t = { phase := .created p, ctrl := { groupInst := k + 1 } } := fun t => by
    rcases hgrow.new with hsame | ⟨hone, p, k, hnew⟩
    · exact .inl (hgrow.old t (.inr hsame))
    · by_cases ht : t = w.policyCount
      · subst ht
        exact .inr ⟨rfl, hone, p, k, hnew⟩
      · exact .inl (hgrow.old t (.inl ht))
  refine ⟨fun t ht => ?_, fun t ht => ?_, fun t ht => ?_⟩
  · rcases hcases t with hsame | ⟨hnew, hone, -⟩
    · rw [hsame]
      exact h.fresh t (Nat.le_trans hgrow.count ht)
    · omega
  · rcases hcases t with hsame | ⟨-, -, p, k, hnew⟩
    · rw [hsame] at ht ⊢
      exact h.inst t ht
    · rw [hnew]
      exact Nat.succ_ne_zero k
  · rw [hgrow.ifaces]
    rcases hcases t with hsame | ⟨-, -, p, k, hnew⟩
    · rw [hsame] at ht ⊢
      exact h.tearing t ht
    · rw [hnew] at ht
      cases ht

theorem ThreadsGrow.hasThread {w w' : World} {inst : Nat} (hgrow : ThreadsGrow w w')
    (hthread : HasThread w inst) : HasThread w' inst := by
  refine hthread.mono hgrow.count fun t hlive hlt hinst => ?_
  rw [hgrow.old t (.inl (by omega))]
  exact ⟨hlive, hinst⟩

/-- The failover thread creates no orphan, unless it deactivates a marked group as it starts. -/
def StartsUnmarked : Section → World → Prop
  | (.failOver, .transitionStart i), w =>
    ∀ g ∈ w.shared.groups[i]?, g.configChanged = true → HasThread w (i + 1)
  | _, _ => True

instance (l : Section) (w : World) : Decidable (StartsUnmarked l w) := by
  unfold StartsUnmarked
  split <;> infer_instance

theorem MarksInv.failOver {l : Site} {w : World} {v : FailOverView} (h : MarksInv w)
    (hg : StartsUnmarked (.failOver, l) w)
    (hstep : Failover.Effect (fun _ => True) l (World.failOverView.get w) v) :
    MarksInv (World.failOverView.put v w) := by
  have hgrow := ThreadsGrow.of_step hstep
  have hthreads : ∀ {inst}, HasThread w inst → HasThread (World.failOverView.put v w) inst :=
    hgrow.hasThread
  have hcreated : ∀ k, Failover.Creates k (World.failOverView.get w) v →
      HasThread (World.failOverView.put v w) (k + 1) := by
    rintro k ⟨p, hpolicies, hcount⟩
    have hcount' : v.policyCount = w.policyCount + 1 := hcount
    have hnew : v.policies w.policyCount = { phase := .created p, ctrl := { groupInst := k + 1 } } := by
      rw [hpolicies]
      exact Function.update_self ..
    refine ⟨w.policyCount, by show w.policyCount < v.policyCount; omega, ?_, ?_⟩
    · show (v.policies w.policyCount).Live
      rw [hnew]
      exact ⟨nofun, nofun⟩
    · show (v.policies w.policyCount).ctrl.groupInst = _
      rw [hnew]
  refine ⟨h.toThreadsInv.grow hgrow, fun k g' hg' hrunning => ?_, fun k g' hg' hmarked => ?_⟩
  · obtain ⟨g, hgroup, hsec⟩ := hstep.groupStep hg'
    cases hsec with
    | keep hstate _ _ => exact hthreads (h.running k g hgroup (hstate ▸ hrunning))
    | start _ hcreate => exact hcreated k (hcreate hrunning)
    | deactivated hstate _ | stop _ hstate | free _ hstate _ =>
      rw [hrunning] at hstate
      cases hstate
  · obtain ⟨g, hgroup, hsec⟩ := hstep.groupStep hg'
    cases hsec with
    | keep hstate hsame havailable =>
      rcases h.marked k g hgroup (hsame ▸ hmarked) with hthread | ⟨hany, hstart⟩
      · exact .inl (hthreads hthread)
      · exact .inr ⟨havailable hany, by rwa [hstate]⟩
    | deactivated _ hsame => exact .inl (hthreads (hg g hgroup (hsame ▸ hmarked)))
    | start hclear _ =>
      rw [hmarked] at hclear
      cases hclear
    | stop hrunning _ => exact .inl (hthreads (h.running k g hgroup hrunning))
    | free hdeactivated _ hsame =>
      rcases h.marked k g hgroup (hsame ▸ hmarked) with hthread | ⟨-, -, hnot⟩
      · exact .inl (hthreads hthread)
      · exact absurd hdeactivated hnot

/-- A thread that goes on, goes on in its group. -/
theorem ThreadsInv.policy {l : Site} {t : Nat} {w : World} {x : PolicyView} (h : ThreadsInv w)
    (hstep : Policy.Effect (fun _ _ => True) (fun _ _ => True) l ((World.policyView t).get w) x) :
    ThreadsInv ((World.policyView t).put x w) := by
  have hself : ((World.policyView t).put x w).policies t = x.self := Function.update_self ..
  have hother : ∀ u, u ≠ t → ((World.policyView t).put x w).policies u = w.policies u :=
    fun u hu => Function.update_of_ne hu _ _
  have hmembers : x.shared.ifaces.length = w.shared.ifaces.length := by
    rcases hstep.keeps with ⟨hkeeps, -⟩ | ⟨-, hleave⟩
    · exact Shared.length_of_members hkeeps.members
    · subst hleave
      exact congrArg List.length (Shared.ifaces_modifyGroup _ _ _)
  refine ⟨fun u hu => ?_, fun u hu => ?_, fun u hu => ?_⟩
  · by_cases hut : u = t
    · subst hut
      have habsent : (w.policies u).phase = .absent := h.fresh u hu
      rw [hself]
      rcases hstep.self_or_live with hsame | hlive
      · rw [hsame]
        exact habsent
      · exact absurd habsent hlive.1
    · rw [hother u hut]
      exact h.fresh u hu
  · by_cases hut : u = t
    · subst hut
      rw [hself] at hu ⊢
      obtain ⟨hlive, -, hinst⟩ := hstep.goes hu
      rw [hinst (h.inst u hlive)]
      exact h.inst u hlive
    · rw [hother u hut] at hu ⊢
      exact h.inst u hu
  · show ∃ i < x.shared.ifaces.length, _
    by_cases hut : u = t
    · subst hut
      rw [hself] at hu ⊢
      exact hstep.tearsDown (h.tearing u) hmembers hu
    · rw [hother u hut] at hu ⊢
      rw [hmembers]
      exact h.tearing u hu

/-- Neither the states nor the marks of the groups were changed. -/
theorem group_of_marks {s s' : Shared} (hstates : s'.states = s.states) (hmarks : s'.marks = s.marks)
    {k : Nat} {g' : IfaceGroup} (h : s'.groups[k]? = some g') :
    ∃ g, s.groups[k]? = some g ∧ g'.state = g.state ∧ g'.configChanged = g.configChanged ∧
      g'.interfaceAvailable = g.interfaceAvailable := by
  have hstate : s'.states[k]? = some g'.state := by simp [Shared.states, h]
  have hmark : s'.marks[k]? = some (g'.configChanged, g'.interfaceAvailable) := by
    simp [Shared.marks, h]
  rw [hstates, Shared.states, List.getElem?_map] at hstate
  rw [hmarks, Shared.marks, List.getElem?_map] at hmark
  obtain ⟨g, hg, hgstate⟩ := Option.map_eq_some_iff.mp hstate
  rw [hg] at hmark
  obtain ⟨hconfig, havailable⟩ := Prod.mk.inj (Option.some.inj hmark)
  exact ⟨g, hg, hgstate.symm, hconfig.symm, havailable.symm⟩

/-- The threads of the groups go on, and the groups stay as they are. -/
theorem MarksInv.transfer {w w' : World} (h : MarksInv w) (hthreads : ThreadsInv w')
    (hgo : ∀ inst, HasThread w inst → HasThread w' inst)
    (hstates : w'.shared.states = w.shared.states) (hmarks : w'.shared.marks = w.shared.marks) :
    MarksInv w' := by
  refine ⟨hthreads, fun k g' hg' hrunning => ?_, fun k g' hg' hmarked => ?_⟩
  · obtain ⟨g, hg, hstate, -⟩ := group_of_marks hstates hmarks hg'
    exact hgo _ (h.running k g hg (hstate ▸ hrunning))
  · obtain ⟨g, hg, hstate, hconfig, havailable⟩ := group_of_marks hstates hmarks hg'
    rcases h.marked k g hg (hconfig ▸ hmarked) with hthread | hstarts
    · exact .inl (hgo _ hthread)
    · refine .inr ?_
      rw [IfaceGroup.Starts, hstate, havailable]
      exact hstarts

/-- A selection thread takes the mark of its group with it, and leaves the other groups alone. -/
theorem MarksInv.policy {l : Site} {t : Nat} {w : World} {x : PolicyView} (h : MarksInv w)
    (hstep : Policy.Effect (fun _ _ => True) (fun _ _ => True) l ((World.policyView t).get w) x) :
    MarksInv ((World.policyView t).put x w) := by
  have hself : ((World.policyView t).put x w).policies t = x.self := Function.update_self ..
  have hother : ∀ u, u ≠ t → ((World.policyView t).put x w).policies u = w.policies u :=
    fun u hu => Function.update_of_ne hu _ _
  rcases hstep.keeps with ⟨hkeeps, hgo⟩ | ⟨-, rfl⟩
  · refine h.transfer (h.toThreadsInv.policy hstep) (fun inst hthread => ?_) hkeeps.states hkeeps.marks
    refine hthread.mono (Nat.le_refl _) fun u hlive _ hinst => ?_
    by_cases hut : u = t
    · subst hut
      rw [hself]
      have hlive' : x.self.Live := by
        rcases hgo with hsame | ⟨-, hlive'⟩
        · rw [hsame]
          exact hlive
        · exact hlive'
      exact ⟨hlive', (hstep.inst (h.inst u hlive)).trans hinst⟩
    · rw [hother u hut]
      exact ⟨hlive, hinst⟩
  · -- the thread ends: its group is neither marked nor running any more
    have hgroup : ∀ k g', ((World.policyView t).put
        (Policy.leaveGroup ((World.policyView t).get w)) w).shared.groups[k]? = some g' →
        g'.configChanged = true ∨ g'.state = .running →
        w.shared.groups[k]? = some g' ∧ k + 1 ≠ (w.policies t).ctrl.groupInst := by
      intro k g' hg' hbusy
      obtain ⟨g, hg, ⟨-, rfl⟩ | ⟨hk, rfl⟩⟩ := Shared.group?_modifyGroup_some (k := k + 1) hg'
      · rcases hbusy with hmarked | hrunning
        · cases hmarked
        · by_cases hd : g.state = .deactivated
          · simp [hd] at hrunning
          · simp [hd] at hrunning
      · exact ⟨hg, hk⟩
    have hrest : ∀ inst, inst ≠ (w.policies t).ctrl.groupInst → HasThread w inst →
        HasThread ((World.policyView t).put (Policy.leaveGroup ((World.policyView t).get w)) w) inst := by
      intro inst hne hthread
      refine hthread.mono (Nat.le_refl _) fun u hlive _ hinst => ?_
      have hut : u ≠ t := by
        rintro rfl
        exact hne hinst.symm
      rw [hother u hut]
      exact ⟨hlive, hinst⟩
    refine ⟨h.toThreadsInv.policy hstep, fun k g' hg' hrunning => ?_, fun k g' hg' hmarked => ?_⟩
    · obtain ⟨hg, hk⟩ := hgroup k g' hg' (.inr hrunning)
      exact hrest _ hk (h.running k g' hg hrunning)
    · obtain ⟨hg, hk⟩ := hgroup k g' hg' (.inl hmarked)
      exact (h.marked k g' hg hmarked).imp_left (hrest _ hk)

theorem MarksInv.vism {t : Nat} {w : World} (h : MarksInv w) :
    MarksInv ((World.vismView t).amend InterfaceSm.vismSection w) := by
  have hgroups := groups_vismSection ((World.vismView t).get w)
  obtain ⟨-, hmembers⟩ := vismSection_selection ((World.vismView t).get w)
  have hlen : ((World.vismView t).amend InterfaceSm.vismSection w).shared.ifaces.length =
      w.shared.ifaces.length := Shared.length_of_members hmembers
  refine h.transfer ⟨h.fresh, h.inst, fun u hu => ?_⟩ (fun _ hthread => hthread)
    (congrArg (List.map IfaceGroup.state) hgroups)
    (congrArg (List.map fun g : IfaceGroup => (g.configChanged, g.interfaceAvailable)) hgroups)
  rw [hlen]
  exact h.tearing u hu

/-- A change of the configuration leaves no orphan, where it is admitted. -/
theorem MarksInv.config {w w' : World} (h : MarksInv w) (henv : ConfigStep AdmitsMove w w') :
    MarksInv w' := by
  cases henv with
  | @setGroup i uValue hadmits =>
    have hlen := Shared.ifaces_setSelectionGroup i uValue w.shared
    refine ⟨⟨h.fresh, h.inst, fun u hu => ?_⟩, fun k g' hg' hrunning => ?_, fun k g' hg' hmarked => ?_⟩
    · show ∃ j < (w.shared.setSelectionGroup i uValue).ifaces.length, _
      rw [hlen]
      exact h.tearing u hu
    · obtain ⟨g, hg, rfl | ⟨d, -, ⟨-, rfl⟩ | ⟨-, rfl⟩⟩⟩ :=
        Shared.group?_setSelectionGroup (k := k + 1) hg'
      · exact h.running k _ hg hrunning
      · exact h.running k g hg hrunning
      · exact h.running k g hg hrunning
    · obtain ⟨g, hg, rfl | ⟨d, hmoves, hmoved⟩⟩ := Shared.group?_setSelectionGroup (k := k + 1) hg'
      · exact h.marked k _ hg hmarked
      obtain ⟨hjoins, hquits⟩ := hadmits d hmoves
      have hidle : g.state = .running → HasThread w (k + 1) := h.running k g hg
      rcases hmoved with ⟨hk, rfl⟩ | ⟨hk, rfl⟩
      · rw [← hk] at hjoins
        rcases hjoins g hg with hthread | hstate
        · exact .inl hthread
        by_cases hrunning : g.state = .running
        · exact .inl (hidle hrunning)
        · exact .inr ⟨Shared.available_ne_zero _ _, hrunning, hstate⟩
      · rw [← hk] at hquits
        rcases hquits g hg with hthread | ⟨hany, hstate⟩
        · exact .inl hthread
        by_cases hrunning : g.state = .running
        · exact .inl (hidle hrunning)
        · exact .inr ⟨hany, hrunning, hstate⟩
  | @addRemote check priority =>
    have hlen := Shared.ifaces_remoteIfaceDataConfigure check priority w.shared
    refine ⟨⟨h.fresh, h.inst, fun u hu => ?_⟩, fun k g' hg' hrunning => ?_, fun k g' hg' hmarked => ?_⟩
    · obtain ⟨j, hj, hidx⟩ := h.tearing u hu
      exact ⟨j, Nat.lt_of_lt_of_le hj hlen, hidx⟩
    · obtain ⟨g, hg, rfl | rfl⟩ := Shared.group?_remoteIfaceDataConfigure (k := k + 1) hg'
      · exact h.running k _ hg hrunning
      · exact h.running k g hg hrunning
    · obtain ⟨g, hg, rfl | rfl⟩ := Shared.group?_remoteIfaceDataConfigure (k := k + 1) hg'
      · exact h.marked k _ hg hmarked
      by_cases hd : g.state = .deactivated
      · have hold : g.configChanged = true := by
          simpa [Shared.remoteIfaceDataUpdate, hd] using hmarked
        exact (h.marked k g hg hold).imp_right fun hstarts => absurd hd hstarts.2.2
      by_cases hrunning : g.state = .running
      · exact .inl (h.running k g hg hrunning)
      · exact .inr ⟨Shared.available_ne_zero _ _, hrunning, hd⟩
  | other hkeeps =>
    have hthread : ∀ inst, HasThread w inst → HasThread w' inst := by
      rintro inst ⟨t, ht, hlive, hinst⟩
      exact ⟨t, by rw [hkeeps.policyCount]; exact ht, by rw [hkeeps.policies]; exact ⟨hlive, hinst⟩⟩
    refine h.transfer ⟨?_, ?_, ?_⟩ hthread hkeeps.states hkeeps.marks
    · rw [hkeeps.policies, hkeeps.policyCount]
      exact h.fresh
    · rw [hkeeps.policies]
      exact h.inst
    · rw [hkeeps.policies]
      intro u hu
      obtain ⟨j, hj, hidx⟩ := h.tearing u hu
      exact ⟨j, Nat.lt_of_lt_of_le hj hkeeps.ifaces, hidx⟩

/-! ## Runs -/

/-- What a thread relies on: the record it has, once it was created. -/
def createdRely : Thread → World → World → Prop
  | .failOver, w, w' => w'.failOver = w.failOver
  | .policy t, w, w' => Policy.recordKept (w.policies t) (w'.policies t)
  | .vism _, _, _ => True

def ScansAtRest : Thread → World → Prop
  | .policy t, w => Policy.ScansAtRest ((World.policyView t).get w)
  | _, _ => True

def marksProtocol : Protocol Section Thread World where
  inv := MarksInv
  rely := createdRely
  rest := ScansAtRest
  guard := StartsUnmarked
  refl t w := by
    cases t with
    | failOver => rfl
    | policy t => exact .inl rfl
    | vism t => trivial
  trans := by
    intro t a b c h h'
    cases t with
    | failOver =>
      have hab : b.failOver = a.failOver := h
      exact Eq.trans h' hab
    | policy t => exact Policy.recordKept.trans h h'
    | vism t => trivial

theorem ThreadsGrow.guar {w w' : World} (h : ThreadsInv w) (hgrow : ThreadsGrow w w') :
    marksProtocol.Guar .failOver w w' := by
  intro u hu
  cases u with
  | failOver => exact absurd rfl hu
  | vism u => trivial
  | policy t =>
    by_cases ht : t = w.policyCount
    · subst ht
      have habsent := h.fresh w.policyCount (Nat.le_refl _)
      rcases hgrow.new with hsame | ⟨-, p, k, hnew⟩
      · exact .inl (hgrow.old _ (.inr hsame))
      · exact .inr ⟨habsent, .inr ⟨p, by rw [hnew]⟩⟩
    · exact .inl (hgrow.old t (.inl ht))

theorem policy_guar {t : Nat} {w : World} {x : PolicyView} :
    marksProtocol.Guar (.policy t) w ((World.policyView t).put x w) := by
  intro u hu
  cases u with
  | failOver => rfl
  | vism u => trivial
  | policy u =>
    have hne : u ≠ t := fun h => hu (h ▸ rfl)
    exact .inl (Function.update_of_ne hne _ _)

/-- The data base as it is set up, before the failover thread starts. -/
structure Booted (w : World) : Prop extends NoThreads w where
  groups : ∀ g ∈ w.shared.groups,
    g.configChanged = false ∧ g.state = .stopped ∧ g.interfaceAvailable = 0

theorem Booted.inv {w : World} (h : Booted w) : MarksInv w := by
  refine ⟨⟨fun t _ => h.policies t, fun t ht => absurd (h.policies t) ht.1, fun t ht => ?_⟩,
    fun k g hg hrunning => ?_, fun k g hg hmarked => ?_⟩
  · rw [h.policies t] at ht
    cases ht
  · rw [(h.groups g (List.mem_of_getElem? hg)).2.1] at hrunning
    cases hrunning
  · rw [(h.groups g (List.mem_of_getElem? hg)).1] at hmarked
    cases hmarked

theorem failOver_marks : Triple (marksProtocol.contract .failOver) (fun _ => True)
    (body .failOver) fun _ _ => True :=
  failOver_steps (fun _ _ h => h) fun _ _ _ h hg hstep =>
    ⟨h.failOver hg hstep, (ThreadsGrow.of_step hstep).guar h.toThreadsInv⟩

theorem marks_sound : (pool (ConfigStep AdmitsMove)).Sound marksProtocol Booted where
  start w hw := by
    refine ⟨hw.inv, fun t => ?_⟩
    cases t with
    | failOver => trivial
    | vism t => trivial
    | policy t => exact fun hscan => absurd ((hw.policies t).symm.trans hscan) nofun
  stable t := by
    intro w w' hrest hr hi
    cases t with
    | failOver => trivial
    | vism t => trivial
    | policy t => exact Policy.stable_scansAtRest _ _ hrest hr trivial
  body t := by
    cases t with
    | failOver => exact failOver_marks.mono (fun _ _ _ => trivial) fun _ _ _ _ => trivial
    | policy t =>
      have hrefines : (marksProtocol.contract (.policy t)).Refines (World.policyView t)
          (Prod.mk (Thread.policy t)) Policy.restContract :=
        { inv := fun _ _ => trivial
          guard := fun _ _ _ => trivial
          rely := fun _ _ h => h
          step := fun _ _ _ h _ hstep => ⟨h.policy hstep, policy_guar⟩ }
      exact (Policy.tick_rest.lift hrefines).mono (fun _ _ h => ⟨h.2, h.1⟩) fun _ _ _ h => h
    | vism t =>
      have hsection : Triple (marksProtocol.contract (.vism t)) (fun _ => True) (body (.vism t))
          fun _ _ => True := by
        refine vism_steps fun w h => ⟨h.vism, fun u _ => ?_⟩
        cases u with
        | failOver => rfl
        | policy u => exact .inl rfl
        | vism u => trivial
      exact hsection.pre fun _ _ _ => trivial
  env w w' h henv := by
    refine ⟨h.config henv, fun t => ?_⟩
    cases henv with
    | setGroup _ | addRemote =>
      cases t with
      | failOver => rfl
      | policy t => exact .inl rfl
      | vism t => trivial
    | other hkeeps =>
      cases t with
      | failOver => exact hkeeps.failOver
      | policy t => exact .inl (congrFun hkeeps.policies t)
      | vism t => trivial

/-- A thread that sleeps needs only some more ticks, once its interface state machines have
stopped, until it has ended and cleared the mark of its group, or waits for a reboot. -/
def WillExit (c : Config Section Thread World) (t : Nat) : Prop :=
  c.pc (.policy t) = .ret () →
    ∃ n, Policy.WoundUp (Policy.lateTick^[n] ((World.policyView t).get c.store))

/-- Every marked group has a thread that will exit, or the monitor will start one. -/
def NoOrphans (c : Config Section Thread World) : Prop :=
  ∀ k g, c.store.shared.groups[k]? = some g → g.configChanged = true →
    (∃ t, (c.store.policies t).Live ∧ (c.store.policies t).ctrl.groupInst = k + 1 ∧ WillExit c t) ∨
      g.Starts

/-- In every run in which interfaces only leave and join groups that have a thread or can be
started without them, and no marked group without a thread is deactivated when the failover
thread starts, no group is left marked with nobody to take the mark back. -/
theorem no_orphan_marks {c : Config Section Thread World}
    (h : (pool (ConfigStep AdmitsMove)).Reach StartsUnmarked Booted c) : NoOrphans c := by
  have hinv : MarksInv c.store := marks_sound.reach h
  intro k g hg hmarked
  rcases hinv.marked k g hg hmarked with ⟨t, -, hlive, hinst⟩ | hstarts
  · refine .inl ⟨t, hlive, hinst, fun hsleeps => ?_⟩
    have hrest : Policy.ScansAtRest ((World.policyView t).get c.store) := marks_sound.rest h hsleeps
    refine Policy.winds_up hlive ?_ ⟨fun htears => ?_, hrest⟩
    · show (c.store.shared.group? (c.store.policies t).ctrl.groupInst).any _ = true
      rw [hinst]
      show (c.store.shared.groups[k]?).any _ = true
      rw [hg]
      exact hmarked
    · obtain ⟨i, hi, hidx⟩ := hinv.tearing t htears
      show Option.bind (c.store.policies t).ctrl.activeInterfaceIdx _ ≠ none
      rw [hidx]
      simp [World.policyView, hi]
  · exact .inr hstarts

/-! Two interfaces in the first group, which gets its thread; then the second interface is
moved to the second group, and back before the failover thread's next tick. -/

namespace MarksExample

def tick : (pool (ConfigStep AdmitsMove)).Move :=
  after id (fun _ => .other ⟨rfl, rfl, rfl, rfl, rfl, Nat.le_refl _⟩) .failOver

def start : World := { shared := { ifaces := [{}, {}], groups := [{}, {}] } }

theorem booted : Booted start where
  failOver := rfl
  policies _ := rfl
  visms _ := rfl
  groups g hg := by
    obtain rfl : g = {} := by simpa [start] using hg
    exact ⟨rfl, rfl, rfl⟩

/-- The failover thread has started. -/
def scanned : World := (pool (ConfigStep AdmitsMove)).play [tick, tick] start

theorem scanned_reach :
    (pool (ConfigStep AdmitsMove)).Reach StartsUnmarked Booted (Pool.idle scanned) := by
  have hplays : (pool (ConfigStep AdmitsMove)).Plays StartsUnmarked [tick, tick] start := by
    decide +kernel
  exact Pool.Reach.play (.start booted) hplays

def move (i uValue : Nat) (w : World) : World := { w with shared := w.shared.setSelectionGroup i uValue }

end MarksExample

open MarksExample in
theorem no_orphan_marks_run :
    NoOrphans (Pool.idle (move 1 2 scanned)) ∧
      (move 1 2 scanned).shared.marks = [(true, 1), (true, 2)] := by
  have hadmits : AdmitsMove scanned 1 2 := by
    intro d hmoves
    have hold : (scanned.shared.ifaces[1]?).map (·.selection.group) = some 1 := by decide +kernel
    have hstate : ∀ g ∈ scanned.shared.group? 2, g.state ≠ .deactivated := by decide +kernel
    have hthread : HasThread scanned 1 := by decide +kernel
    rw [hmoves.iface] at hold
    have hgroup : d.selection.group = 1 := Option.some.inj hold
    rw [hgroup]
    exact ⟨fun g hg => .inr (hstate g hg), fun _ _ => .inl hthread⟩
  exact ⟨no_orphan_marks (scanned_reach.disturb (.setGroup hadmits)), by decide +kernel⟩

open MarksExample in
/-- The second group stays marked, without an interface and without a thread. -/
theorem orphan_mark :
    ¬ ∀ c, (pool (ConfigStep fun _ _ _ => True)).Reach (fun _ _ => True) Booted c → NoOrphans c := by
  intro h
  have hrun : (pool (ConfigStep fun _ _ _ => True)).Reach (fun _ _ => True) Booted
      (Pool.idle scanned) := by
    have henv : ∀ w w', ConfigStep AdmitsMove w w' → ConfigStep (fun _ _ _ => True) w w' := by
      intro w w' h
      cases h with
      | setGroup _ => exact .setGroup trivial
      | addRemote => exact .addRemote
      | other hkeeps => exact .other hkeeps
    exact scanned_reach.mono (by rfl) (by exact fun _ _ hready => hready) henv
      (fun _ _ _ => trivial) fun _ hbooted => hbooted
  have hthere : ConfigStep (fun _ _ _ => True) scanned (move 1 2 scanned) := .setGroup trivial
  have hback : ConfigStep (fun _ _ _ => True) (move 1 2 scanned) (move 1 1 (move 1 2 scanned)) :=
    .setGroup trivial
  have hone := h _ ((hrun.disturb hthere).disturb hback)
  have hmarks : (move 1 1 (move 1 2 scanned)).shared.marks[1]? = some (true, 0) := by decide +kernel
  rw [Shared.marks, List.getElem?_map] at hmarks
  obtain ⟨g, hg, hmark⟩ := Option.map_eq_some_iff.mp hmarks
  obtain ⟨hmarked, hnone⟩ := Prod.mk.inj hmark
  rcases hone 1 g hg hmarked with ⟨t, hlive, hinst, -⟩ | hstarts
  · -- no thread of the second group was ever created
    have hcount : t < scanned.policyCount := by
      have hinv : MarksInv scanned := marks_sound.reach scanned_reach
      exact hinv.toThreadsInv.lt_count hlive
    have hfirst : ∀ t < scanned.policyCount, (scanned.policies t).ctrl.groupInst = 1 := by
      decide +kernel
    have hinst' : (scanned.policies t).ctrl.groupInst = 2 := hinst
    rw [hfirst t hcount] at hinst'
    omega
  · exact hstarts.1 hnone

end System
end WanManager
