import WanManager.ActiveExclusion

/-! # AutoWAN selects its current interface only

One selection thread in an arbitrary environment: links, leases, priorities and
configuration may change between any two of its sections, interfaces may join the group and
leave it, and the failover thread may activate and deactivate what is selected. Nobody else
selects an interface of the group. Then only the interface the thread holds is selected, as
long as it deselects an interface before it stops waiting for it. -/

namespace WanManager
open Concurrency

namespace AutoWan
open Policy

/-- What others may do: nothing becomes selected in the thread's group. -/
structure GroupEvents (x x' : PolicyView) : Prop where
  self : x'.self = x.self
  selected : ∀ i, x'.shared.Member i x.self.ctrl.groupInst →
    x'.shared.selectionStatus i ≠ .notSelected →
    x.shared.Member i x.self.ctrl.groupInst ∧ x.shared.selectionStatus i ≠ .notSelected

def pool : Pool Site Unit PolicyView where
  body _ := Policy.tick
  ready _ x := x.self.Live
  env := GroupEvents

instance : ∀ t x, Decidable (pool.ready t x) := fun _ x => inferInstanceAs (Decidable x.self.Live)

/-- A thread that was just created, for a group in which nothing is selected. -/
structure Created (x : PolicyView) : Prop where
  phase : x.self.phase = .created .autowan
  inst : x.self.ctrl.groupInst ≠ 0
  free : ∀ i, x.shared.Member i x.self.ctrl.groupInst → x.shared.selectionStatus i = .notSelected

/-- An interface of its group that the thread gives up waiting for is not selected. -/
def DeselectsWaiting (l : Site) (x : PolicyView) : Prop :=
  l = .policyState → x.self.phase = .autoWan .waiting → ∀ a ∈ x.activeIface?,
    givesUp a.1 a.2 x = true → a.2.selection.group = x.self.ctrl.groupInst →
      a.2.selection.status = .notSelected

instance (l : Site) (x : PolicyView) : Decidable (DeselectsWaiting l x) :=
  inferInstanceAs (Decidable (_ → _))

/-! ## The invariant -/

/-- An interface, if it is in the thread's group, is not selected. -/
def Unselected (x : PolicyView) (i : Nat) : Prop :=
  x.shared.Member i x.self.ctrl.groupInst → x.shared.selectionStatus i = .notSelected

structure SelectionInv (x : PolicyView) : Prop where
  serial : x.self.phase.parallel = false
  inst : x.self.ctrl.groupInst ≠ 0
  /-- a selected interface of the group is the one the thread holds -/
  held : ∀ i, ¬ Unselected x i → x.self.Holds i

theorem finds_unselected : Finds (fun _ _ => True) Unselected where
  chosen _ _ _ _ _ := trivial
  missing x i hi hmember := by
    have hnone : x.shared.members[i]? = none := by simp [Shared.members, hi]
    exact absurd (hmember.symm.trans hnone) (Option.some_ne_none _)

/-- The thread's own record does not change which interfaces are selected. -/
theorem unselected_of_same {x x' : PolicyView} {i : Nat}
    (hinst : x'.self.ctrl.groupInst = x.self.ctrl.groupInst) (hmembers : x'.shared.members = x.shared.members)
    (hstatus : x'.shared.selectionStatus i = x.shared.selectionStatus i) :
    Unselected x' i ↔ Unselected x i := by
  unfold Unselected Shared.Member
  rw [hinst, hmembers, hstatus]

theorem member_of_selected {x : PolicyView} {i : Nat} (h : ¬ Unselected x i) :
    x.shared.Member i x.self.ctrl.groupInst ∧ x.shared.selectionStatus i ≠ .notSelected := by
  unfold Unselected at h
  rwa [Classical.not_imp] at h

/-- A section of the thread leaves only its own interface selected. -/
theorem SelectionInv.step {l : Site} {x x' : PolicyView} (h : SelectionInv x)
    (hdeselects : DeselectsWaiting l x) (hstep : Effect (fun _ _ => True) Unselected l x x') :
    SelectionInv x' := by
  obtain ⟨hmembers, -, hserial, hinst, -⟩ := hstep.autoKeeps h.serial fun _ => h.inst
  refine ⟨hserial, by rw [hinst]; exact h.inst, fun i hi => ?_⟩
  -- unless the section writes the status, the interface was held, and still is
  have hkept : x'.shared.selectionStatus i = x.shared.selectionStatus i →
      (x.self.Holds i → ¬ Unselected x i → x'.self.Holds i) → x'.self.Holds i := by
    intro hstatus hholds
    have hi' : ¬ Unselected x i := (unselected_of_same hinst hmembers hstatus).not.mp hi
    exact hholds (h.held i hi') hi'
  cases hstep with
  | same => exact h.held i hi
  | own ho =>
    refine hkept rfl fun hold hsel => ?_
    exact (ho.holds i hold).resolve_right hsel
  | iface _ hf _ =>
    exact hkept (Shared.selectionStatus_modifyIface hf.selection _ _ i) fun hold _ => hold
  | group _ => exact hkept (Shared.selectionStatus_modifyGroup _ _ _ i) fun hold _ => hold
  | rescan => exact hkept rfl fun hold _ => hold
  | @autoWan st j d _ hst ha =>
    obtain ⟨hidx, hd⟩ := activeIface_some ha
    rw [adoptGroup_eq h.inst] at hi hinst hmembers ⊢
    have hturn := turn_lockedState hidx hd st
    obtain ⟨hmember, hsel⟩ := member_of_selected hi
    have hmember' : x.shared.Member i x.self.ctrl.groupInst := by
      rw [Shared.Member, ← hmembers, ← hinst]
      exact hmember
    rcases hturn.selects hsel with hne | hholds
    · have hold : x.self.Holds i := h.held i fun hnot => hne (hnot hmember')
      rcases hturn.retains hst hidx hold hsel with hholds | ⟨rfl, rfl, -, hgives, hne⟩
      · exact hholds
      · obtain ⟨d', hd', hgroup⟩ := Shared.member_iff.mp hmember'
        obtain rfl : d = d' := Option.some.inj (hd.symm.trans hd')
        have hnot := hdeselects rfl hst (i, d) ha hgives hgroup
        rw [← selectionStatus_of_some hd] at hnot
        exact absurd hnot hne
    · exact hholds
  | parallelScan hst _ =>
    have hserial := h.serial
    rw [hst] at hserial
    cases hserial
  | selectIface hp | selectGroup hp | connected hp =>
    have hserial := h.serial
    rw [hserial] at hp
    cases hp
  | leave _ hfree =>
    exact hkept (Shared.selectionStatus_modifyGroup _ _ _ i) fun hold _ => absurd hold (hfree i)

/-- What others do keeps an interface unselected. -/
theorem GroupEvents.unselected {x x' : PolicyView} (h : GroupEvents x x') {i : Nat}
    (hi : Unselected x i) : Unselected x' i := by
  by_contra hsel
  obtain ⟨hmember, hne⟩ := member_of_selected hsel
  rw [h.self] at hmember
  obtain ⟨hmember', hne'⟩ := h.selected i hmember hne
  exact hne' (hi hmember')

theorem SelectionInv.events {x x' : PolicyView} (h : SelectionInv x) (hevents : GroupEvents x x') :
    SelectionInv x' where
  serial := by rw [hevents.self]; exact h.serial
  inst := by rw [hevents.self]; exact h.inst
  held i hi := by
    rw [hevents.self]
    exact h.held i fun hnot => hi (hevents.unselected hnot)

/-! ## Runs -/

def selectionProtocol : Protocol Site Unit PolicyView where
  inv := SelectionInv
  rely _ x x' := x'.self = x.self ∧ ∀ i, Unselected x i → Unselected x' i
  guard := DeselectsWaiting
  refl _ _ := ⟨rfl, fun _ => id⟩
  trans h h' := ⟨h'.1.trans h.1, fun i => h'.2 i ∘ h.2 i⟩

theorem Created.inv {x : PolicyView} (h : Created x) : SelectionInv x where
  serial := by rw [h.phase]; rfl
  inst := h.inst
  held i hi := absurd (h.free i) hi

theorem selection_sound : pool.Sound selectionProtocol Created where
  start x hx := ⟨hx.inv, fun _ => trivial⟩
  stable _ _ _ _ _ _ := trivial
  body _ := by
    have hmeets : (selectionProtocol.contract ()).Meets
        (effects (fun _ => True) (fun _ _ => True) Unselected)
        (effects (fun _ => True) (fun _ _ => True) Unselected) := by
      refine ⟨fun _ _ => ⟨trivial, trivial⟩, fun _ _ _ _ => ⟨trivial, trivial⟩, fun x x' h => ?_,
        fun l x x' h hg hstep _ => ⟨h.step hg hstep, fun u hu => absurd rfl hu⟩⟩
      have hrely : (effects (fun _ => True) (fun _ _ => True) Unselected).rely x x' :=
        fun _ => ⟨h.1, fun i => ⟨id, h.2 i⟩⟩
      exact ⟨hrely, hrely⟩
    exact (Triple.under hmeets (tick_effect finds_unselected)).mono
      (fun _ _ h => own_iff.mpr h.2) fun _ _ _ _ => trivial
  env _ _ h henv := ⟨h.events henv, fun _ => ⟨henv.self, fun _ => henv.unselected⟩⟩

/-- Only the current interface of the thread is selected, and none after its end. -/
structure SelectsCurrent (x : PolicyView) : Prop where
  current : ∀ i, x.shared.Member i x.self.ctrl.groupInst → x.self.ctrl.activeInterfaceIdx ≠ some i →
    x.shared.selectionStatus i = .notSelected
  exited : x.self.phase = .exited → ∀ i, x.shared.Member i x.self.ctrl.groupInst →
    x.shared.selectionStatus i = .notSelected

theorem SelectionInv.current {x : PolicyView} (h : SelectionInv x) : SelectsCurrent x where
  current i hmember hidx := by
    by_contra hne
    exact hidx (h.held i fun hnot => hne (hnot hmember)).1
  exited hexit i hmember := by
    by_contra hne
    obtain ⟨-, st, hst, -⟩ := h.held i fun hnot => hne (hnot hmember)
    rw [hexit] at hst
    cases hst

/-- In every run in which the thread deselects an interface before it gives up waiting for
it, only its current interface is selected, and none once it has ended. -/
theorem selects_current_only {c : Config Site Unit PolicyView}
    (h : pool.Reach DeselectsWaiting Created c) : SelectsCurrent c.store :=
  (selection_sound.reach h).current

/-! A group of two interfaces, the first with a link: it is found, its state machine comes up
and ends again when the link is lost, and the thread goes back to waiting for it. Then WAN is
switched off. -/

namespace Example

def edit (f : Shared → Shared) (hmembers : ∀ s, (f s).members = s.members)
    (hstatus : ∀ s i, (f s).selectionStatus i = s.selectionStatus i) : pool.Move where
  edit x := { x with shared := f x.shared }
  allowed x := by
    refine ⟨rfl, fun i hmember hne => ⟨?_, ?_⟩⟩
    · rw [Shared.Member, ← hmembers x.shared]
      exact hmember
    · rw [← hstatus x.shared i]
      exact hne
  thread := ()

def tick : pool.Move where
  edit x := x
  allowed _ := ⟨rfl, fun _ hmember hne => ⟨hmember, hne⟩⟩
  thread := ()

/-- A tick after the first interface's state machine and link came up or went down. -/
def machine (running : Bool) (link : PhyStatus) : pool.Move :=
  edit (fun s => s.modifyIface 0 fun d => { d with
      baseInterfaceStatus := link, virtIf := { d.virtIf with interfaceSmRunning := running } })
    (fun s => Shared.Keeps.map_modify (by intro; rfl) s.ifaces 0)
    fun s => Shared.selectionStatus_modifyIface (by intro; rfl) s 0

def disable : pool.Move where
  edit x := x.mapShared fun s => { s with config := { s.config with enable := false } }
  allowed _ := ⟨rfl, fun _ hmember hne => ⟨hmember, hne⟩⟩
  thread := ()

def fresh : PolicyView :=
  { shared := { ifaces := [{ baseInterfaceStatus := .up }, {}], groups := [{}] }
    self := { phase := .created .autowan, ctrl := { groupInst := 1 } } }

def found : List pool.Move := [tick, tick, tick, machine true .up]

def givenUp : List pool.Move := found ++ [machine false .down, disable, tick]

theorem created : Created fresh where
  phase := rfl
  inst := by decide
  free i _ := by
    rcases i with _ | _ | _ <;> rfl

end Example

open Example in
theorem selects_current_only_run :
    SelectsCurrent (pool.play found fresh) ∧
      (pool.play found fresh).shared.selectionStatus 0 = .selected := by
  have hplays : pool.Plays DeselectsWaiting found fresh := by decide +kernel
  have hrun := Pool.Reach.play (.start created) hplays
  have hone := selects_current_only hrun
  rw [Pool.idle_store] at hone
  exact ⟨hone, by decide +kernel⟩

open Example in
/-- The thread ends, and its interface stays selected. -/
theorem exits_with_selected :
    ¬ ∀ c, pool.Reach (fun _ _ => True) Created c → SelectsCurrent c.store := by
  intro h
  have hplays : pool.Plays (fun _ _ => True) givenUp fresh := by decide +kernel
  have hone := h _ (Pool.Reach.play (.start created) hplays)
  rw [Pool.idle_store] at hone
  have hfree := hone.exited (by decide +kernel) 0 (by decide +kernel)
  exact absurd hfree (by decide +kernel)

end AutoWan

/-! ## The rest of the system

In a run of the system whose interfaces keep their groups, the other threads do no more than
that. -/

namespace System
open AutoWan

variable {w : World} {t : Nat}

theorem ActiveInv.failOver_events {l : Site} {v : FailOverView} (h : ActiveInv w)
    (hlive : (w.policies t).Live)
    (hstep : Failover.Effect NoneActive l (World.failOverView.get w) v) :
    GroupEvents ((World.policyView t).get w) ((World.policyView t).get (World.failOverView.put v w)) := by
  have hthreads := failOver_step h.threads (h.oldThreadEnded (.failOver, l)) hstep.threadStep
  obtain ⟨-, hselects, -⟩ := hstep.selection.keeps h.active
  have hmembers : v.shared.members = w.shared.members := hstep.members
  refine ⟨hthreads.2 (.policy t) nofun hlive, fun i hmember hne => ⟨?_, hselects i hne⟩⟩
  show w.shared.members[i]? = _
  rw [← hmembers]
  exact hmember

theorem ActiveInv.policy_events {l : Site} {u : Nat} {x : PolicyView} (h : ActiveInv w)
    (hlive : (w.policies t).Live) (hother : u ≠ t)
    (hkeep : l = .policyState → Policy.KeepsWaiting ((World.policyView u).get w))
    (hstep : Policy.Effect Policy.Chosen Policy.Missing l ((World.policyView u).get w) x) :
    GroupEvents ((World.policyView t).get w)
      ((World.policyView t).get ((World.policyView u).put x w)) := by
  have hsel := hstep.selectionStep (h.serial u) (h.inst u) hkeep
  obtain ⟨hmembers, -, -, hinst, -⟩ := hstep.autoKeeps (h.serial u) (h.inst u)
  refine ⟨Function.update_of_ne (Ne.symm hother) _ _, fun i hmember hne => ?_⟩
  have hmember' : w.shared.Member i (w.policies t).ctrl.groupInst := by
    have hi : x.shared.members[i]? = some (w.policies t).ctrl.groupInst := hmember
    rw [hmembers] at hi
    exact hi
  refine ⟨hmember', (hsel.selects i hne).resolve_right fun hholds => hother ?_⟩
  -- the other thread would hold an interface of both groups
  have hlive' : (w.policies u).Live := hstep.live (live_of_holds hholds)
  have hgroup := (h.member_of_holds hstep hholds).symm.trans hmember'
  exact h.threads.unique u t hlive' hlive (Option.some.inj hgroup)

theorem vism_events (u : Nat) : GroupEvents ((World.policyView t).get w)
    ((World.policyView t).get ((World.vismView u).amend InterfaceSm.vismSection w)) := by
  obtain ⟨hsame, hmembers⟩ := vismSection_selection ((World.vismView u).get w)
  refine ⟨rfl, fun i hmember hne => ⟨?_, ?_⟩⟩
  · show w.shared.members[i]? = _
    have hkeep : (InterfaceSm.vismSection ((World.vismView u).get w)).shared.members =
        w.shared.members := hmembers
    rw [← hkeep]
    exact hmember
  · exact fun hnot => hne ((hsame.status i).trans hnot)

end System
end WanManager
