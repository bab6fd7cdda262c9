import WanManager.PolicyThreads

/-! # Shutting the failover thread down

`WanMgr_FailOverThread` returns when none of its groups is `RUNNING`. While a group's thread
is alive the group is `RUNNING`, unless cold swap has deactivated it: the wait does not see
the thread of a deactivated group. -/

namespace WanManager
open Concurrency

namespace Failover

/-- No selection thread of the groups with these indices is alive. -/
def NoneOf (is : List Nat) (v : FailOverView) : Prop :=
  ∀ t, (v.policies t).Live → ∀ i ∈ is, (v.policies t).ctrl.groupInst ≠ i + 1

def groupDeactivated (i : Nat) (v : FailOverView) : Bool :=
  (v.shared.groups[i]?).any (·.state == .deactivated)

/-- Where the wait looks at a deactivated group, the group's thread has ended. -/
def WaitSees (l : Site) (v : FailOverView) : Prop :=
  match l with
  | .exitWait i => groupDeactivated i v = true →
      ∀ t < v.policyCount, (v.policies t).Live → (v.policies t).ctrl.groupInst ≠ i + 1
  | _ => True

/-- The thread watches the others end: nobody else creates a selection thread. -/
def watch : Contract Site FailOverView where
  inv v := ∀ t, (v.policies t).Live →
    t < v.policyCount ∧ v.shared.Occupied (v.policies t).ctrl.groupInst
  guard := WaitSees
  rely v v' := v'.self = v.self ∧ v'.shared.groups.length = v.shared.groups.length ∧
    ∀ t, (v'.policies t).Live →
      (v.policies t).Live ∧ (v'.policies t).ctrl.groupInst = (v.policies t).ctrl.groupInst
  step _ _ _ := True
  refl _ := ⟨rfl, rfl, fun _ h => ⟨h, rfl⟩⟩
  trans h h' := by
    obtain ⟨hself, hlen, hlive⟩ := h
    obtain ⟨hself', hlen', hlive'⟩ := h'
    refine ⟨hself'.trans hself, hlen'.trans hlen, fun t ht => ?_⟩
    obtain ⟨hb, hinst'⟩ := hlive' t ht
    obtain ⟨ha, hinst⟩ := hlive t hb
    exact ⟨ha, hinst'.trans hinst⟩
  idle _ _ _ := trivial

theorem stable_noneOf (is : List Nat) : watch.Stable (NoneOf is) := by
  intro v v' h hr _ t ht i hi
  obtain ⟨-, -, hlive⟩ := hr
  obtain ⟨hlive', hinst⟩ := hlive t ht
  rw [hinst]
  exact h t hlive' i hi

theorem NoneOf.append {is js : List Nat} {v : FailOverView} (h : NoneOf is v) (h' : NoneOf js v) :
    NoneOf (is ++ js) v := by
  intro t ht i hi
  rcases List.mem_append.mp hi with hi | hi
  · exact h t ht i hi
  · exact h' t ht i hi

/-- A group that is not running, and whose thread has ended if it is deactivated, has no
thread. -/
theorem noneOf_of_not_running {i : Nat} {v : FailOverView} (hinv : watch.inv v)
    (hsees : WaitSees (.exitWait i) v) (hrun : groupRunning i v = false) : NoneOf [i] v := by
  intro t ht j hj heq
  obtain rfl := List.mem_singleton.mp hj
  obtain ⟨hcount, g, hg, hstate⟩ := hinv t ht
  rw [heq] at hg
  have hgroup : v.shared.groups[j]? = some g := hg
  rcases hstate with hrunning | hdeactivated
  · simp [groupRunning, hgroup, hrunning] at hrun
  · exact hsees (by simp [groupDeactivated, hgroup, hdeactivated]) t hcount ht heq

/-- What holds while the thread sleeps: if it has returned, so have the threads it created. -/
def Returned (v : FailOverView) : Prop :=
  v.self.phase = .idle → ∀ t, ¬ (v.policies t).Live

theorem stable_returned : watch.Stable Returned := by
  intro v v' h hr _ hidle t ht
  obtain ⟨hself, -, hlive⟩ := hr
  rw [hself] at hidle
  exact h hidle t (hlive t ht).1

/-- In one round of the wait, over `n` groups: nothing ran at the indices seen so far. -/
def Seen (n : Nat) (is : List Nat) (v : FailOverView) : Prop :=
  Returned v ∧ v.shared.groups.length = n ∧ NoneOf is v

theorem stable_seen (n : Nat) (is : List Nat) : watch.Stable (Seen n is) := by
  intro v v' h hr hi
  obtain ⟨hret, hlen, hnone⟩ := h
  exact ⟨stable_returned v v' hret hr hi, hr.2.1.trans hlen, stable_noneOf is v v' hnone hr hi⟩

/-- What a round that answers `r` has seen. -/
def Answer (n : Nat) (is : List Nat) (r : Bool) (v : FailOverView) : Prop :=
  Returned v ∧ (r = false → Seen n is v)

theorem stable_answer (n : Nat) (is : List Nat) (r : Bool) : watch.Stable (Answer n is r) := by
  intro v v' h hr hi
  exact ⟨stable_returned v v' h.1 hr hi, fun hf => stable_seen n is v v' (h.2 hf) hr hi⟩

/-- A round that finds no group running has seen every thread end. -/
theorem selectionThreadRunning_watch (n : Nat) (is done : List Nat) :
    Triple watch (Seen n done) (selectionThreadRunning is) (Answer n (done ++ is)) := by
  induction is generalizing done with
  | nil =>
    refine Triple.ret (stable_answer _ _ _) fun v _ h => ⟨h.1, fun _ => ?_⟩
    simpa using h
  | cons i is ih =>
    refine Triple.bind (Q := fun r v => Seen n done v ∧ (r = false → Seen n (done ++ [i]) v))
      (Triple.read (stable_seen n done) (fun r v v' h hr hi => ?_) fun v hi hg h => ?_) fun r => ?_
    · exact ⟨stable_seen n done v v' h.1 hr hi,
        fun hf => stable_seen n _ v v' (h.2 hf) hr hi⟩
    · obtain ⟨hret, hlen, hnone⟩ := h
      exact ⟨⟨hret, hlen, hnone⟩, fun hrun =>
        ⟨hret, hlen, hnone.append (noneOf_of_not_running hi hg hrun)⟩⟩
    cases r with
    | true =>
      refine Triple.bind ((ih done).pre fun _ _ h => h.1) fun r' => ?_
      exact Triple.ret (stable_answer _ _ _) fun v _ h => ⟨h.1, fun hf => by simp at hf⟩
    | false =>
      refine Triple.bind ((ih (done ++ [i])).pre fun v _ h => h.2 rfl) fun r' => ?_
      refine Triple.ret (stable_answer _ _ _) fun v _ h => ⟨h.1, fun hf => ?_⟩
      have hr' : r' = false := by simpa using hf
      simpa using h.2 hr'

theorem watch_free {α : Type} {P : FailOverView → Prop} (p : FailOverProg α) :
    Triple watch P p fun _ _ => True :=
  Triple.free (fun _ _ _ => trivial) p

theorem setPhase_watch {P : FailOverView → Prop} {p : FailOverPhase} (hp : p ≠ .idle) :
    Triple watch P (setPhase p) fun _ => Returned := by
  have hmodify : Triple watch (fun _ => True) (setPhase p) fun _ => Returned :=
    Triple.modify (fun _ _ _ _ _ => trivial) stable_returned fun v _ _ _ =>
      ⟨trivial, fun _ h => absurd h hp⟩
  exact hmodify.pre fun _ _ _ => trivial

/-- If nothing runs at any index of the table, no selection thread is alive. -/
theorem Seen.returned {n : Nat} {v : FailOverView} (h : Seen n (List.range n) v)
    (hinv : watch.inv v) (t : Nat) : ¬ (v.policies t).Live := by
  intro ht
  obtain ⟨-, hlen, hnone⟩ := h
  obtain ⟨-, g, hg, -⟩ := hinv t ht
  cases hinst : (v.policies t).ctrl.groupInst with
  | zero =>
    rw [hinst] at hg
    cases hg
  | succ m =>
    rw [hinst] at hg
    have hm : m < v.shared.groups.length := List.getElem?_eq_some_iff.mp hg |>.1
    exact hnone t ht m (List.mem_range.mpr (hlen ▸ hm)) hinst

theorem failOverWaitExit_watch : Triple watch Returned failOverWaitExit fun _ => Returned := by
  refine Triple.bind (Q := fun n => Seen n []) (Triple.read stable_returned
    (fun n => stable_seen n []) fun v _ _ h => ⟨h, rfl, fun _ _ i hi => by simp at hi⟩) fun n => ?_
  refine Triple.bind (selectionThreadRunning_watch n (List.range n) []) fun r => ?_
  cases r with
  | true => exact Triple.ret stable_returned fun v _ h => h.1
  | false =>
    refine Triple.modify (stable_answer _ _ _) stable_returned fun v hi _ h => ⟨trivial, fun _ _ => ?_⟩
    exact (h.2 rfl).returned hi

theorem failOverLoop_watch {P : FailOverView → Prop} (st : FailOverState) :
    Triple watch P (failOverLoop st) fun _ => Returned := by
  refine Triple.bind (watch_free _) fun _ => Triple.bind (watch_free _) fun _ => ?_
  cases st with
  | scanningGroup | groupActive | restorationWait | deactivateGroup =>
    exact Triple.bind (watch_free _) fun _ => setPhase_watch nofun
  | exit | error => exact setPhase_watch nofun

theorem failOverStart_watch {P : FailOverView → Prop} :
    Triple watch P failOverStart fun _ => Returned := by
  refine Triple.bind (watch_free _) fun _ => Triple.bind (watch_free _) fun _ => ?_
  exact Triple.bind (watch_free _) fun _ => Triple.bind (watch_free _) fun _ => setPhase_watch nofun

theorem failOverTick_watch : Triple watch Returned failOverTick fun _ => Returned := by
  have hread : ∀ {α : Type} (l : Site) (g : FailOverView → α),
      Triple watch Returned (Prog.read l g) fun _ => Returned := fun l g =>
    Triple.read stable_returned (fun _ => stable_returned) fun _ _ _ h => h
  refine Triple.bind (hread _ _) fun p => ?_
  cases p with
  | idle =>
    refine Triple.bind (hread _ _) fun en => Triple.ite (fun _ => failOverStart_watch) fun _ => ?_
    exact Triple.ret stable_returned fun _ _ h => h
  | loop st => exact failOverLoop_watch st
  | waitExit => exact failOverWaitExit_watch

end Failover

/-! ## The system -/

namespace System

/-- Where the failover thread stops waiting for a deactivated group, and where it takes the
group into use again, the group's selection thread has ended. -/
def DeactivatedEnded (l : Section) (w : World) : Prop :=
  OldThreadEnded l w ∧ (l.1 = .failOver → Failover.WaitSees l.2 (World.failOverView.get w))

instance (i : Site) (v : FailOverView) : Decidable (Failover.WaitSees i v) := by
  unfold Failover.WaitSees
  split <;> infer_instance

instance (l : Section) (w : World) : Decidable (DeactivatedEnded l w) :=
  inferInstanceAs (Decidable (_ ∧ (_ → _)))

/-- When the failover thread has returned, every selection thread has terminated. -/
def ShutdownComplete (c : Config Section Thread World) : Prop :=
  c.pc .failOver = .ret () → c.store.failOver.phase = .idle → ∀ t, ¬ (c.store.policies t).Live

/-- Selection threads only end, and stay in their groups; the tables keep their size. -/
structure ThreadsEnd (w w' : World) : Prop where
  length : w'.shared.groups.length = w.shared.groups.length
  live : ∀ t, (w'.policies t).Live →
    (w.policies t).Live ∧ (w'.policies t).ctrl.groupInst = (w.policies t).ctrl.groupInst

theorem ThreadsEnd.refl (w : World) : ThreadsEnd w w := ⟨rfl, fun _ h => ⟨h, rfl⟩⟩

theorem ThreadsEnd.trans {a b c : World} (h : ThreadsEnd a b) (h' : ThreadsEnd b c) :
    ThreadsEnd a c := by
  refine ⟨h'.length.trans h.length, fun t ht => ?_⟩
  obtain ⟨hb, hinst'⟩ := h'.live t ht
  obtain ⟨ha, hinst⟩ := h.live t hb
  exact ⟨ha, hinst'.trans hinst⟩

def shutdownRely (t : Thread) (w w' : World) : Prop :=
  recordRely t w w' ∧ (t = .failOver → ThreadsEnd w w')

def shutdownProtocol : Protocol Section Thread World where
  inv := PolicyThreads
  rely := shutdownRely
  rest t w := t = .failOver → Failover.Returned (World.failOverView.get w)
  guard := DeactivatedEnded
  refl t w := ⟨recordRely_refl t w, fun _ => .refl w⟩
  trans h h' := ⟨recordRely_trans h.1 h'.1, fun ht => (h.2 ht).trans (h'.2 ht)⟩

theorem length_of_states {s s' : Shared} (h : s'.states = s.states) :
    s'.groups.length = s.groups.length := by
  have hlen := congrArg List.length h
  simpa [Shared.states] using hlen

theorem policy_threadsEnd {l : Site} {t : Nat} {w : World} {x : PolicyView} (h : PolicyThreads w)
    (hstep : Policy.Effect (fun _ _ => True) (fun _ _ => True) l ((World.policyView t).get w) x) :
    ThreadsEnd w ((World.policyView t).put x w) := by
  have hlive : ∀ u, (((World.policyView t).put x w).policies u).Live → (u = t → x.self.Live →
      (w.policies t).Live ∧ x.self.ctrl.groupInst = (w.policies t).ctrl.groupInst) →
      (w.policies u).Live ∧ (((World.policyView t).put x w).policies u).ctrl.groupInst =
        (w.policies u).ctrl.groupInst := by
    intro u hu hself
    have hput : ((World.policyView t).put x w).policies = Function.update w.policies t x.self := rfl
    rw [hput] at hu ⊢
    by_cases hut : u = t
    · subst hut
      rw [Function.update_self] at hu ⊢
      exact hself rfl hu
    · rw [Function.update_of_ne hut] at hu ⊢
      exact ⟨hu, rfl⟩
  rcases hstep.keeps with ⟨hkeep, hself⟩ | ⟨-, hleave⟩
  · refine ⟨length_of_states hkeep.states, fun u hu => hlive u hu fun _ hx => ?_⟩
    have hold : (w.policies t).Live := by
      rcases hself with hsame | ⟨hold, -⟩
      · rw [hsame] at hx
        exact hx
      · exact hold
    exact ⟨hold, hstep.inst (occupied_inst h hold)⟩
  · subst hleave
    refine ⟨?_, fun u hu => hlive u hu fun _ hx => absurd rfl hx.2⟩
    show (Shared.modifyGroup _ _ _).groups.length = _
    cases ((World.policyView t).get w).self.ctrl.groupInst with
    | zero => rfl
    | succ n => simp [Shared.modifyGroup, World.policyView]

theorem shutdown_guar {t : Thread} {w w' : World} (h : policyProtocol.Guar t w w')
    (hend : t ≠ .failOver → ThreadsEnd w w') : shutdownProtocol.Guar t w w' :=
  fun u hu => ⟨h u hu, fun hfo => hend fun ht => hu (hfo.trans ht.symm)⟩

/-- The failover thread's watch over the others, on the whole store. -/
def watchWorld : Contract Section World where
  inv w := Failover.watch.inv (World.failOverView.get w)
  guard l w := l.1 = .failOver → Failover.WaitSees l.2 (World.failOverView.get w)
  rely w w' := Failover.watch.rely (World.failOverView.get w) (World.failOverView.get w')
  step _ _ _ := True
  refl _ := Failover.watch.refl _
  trans h h' := Failover.watch.trans h h'
  idle _ _ _ := trivial

theorem shutdown_meets : (shutdownProtocol.contract .failOver).Meets
    (policyProtocol.contract .failOver) watchWorld where
  inv _ h := ⟨h, fun t ht => ⟨h.lt_count ht, h.occupied t ht⟩⟩
  guard _ _ _ hg := hg
  rely _ _ hr := ⟨hr.1, hr.1, (hr.2 rfl).length, (hr.2 rfl).live⟩
  step _ _ _ _ _ hstep _ := ⟨hstep.1, shutdown_guar hstep.2 fun ht => absurd rfl ht⟩

theorem failOver_shutdown :
    Triple (shutdownProtocol.contract .failOver)
      (fun w => True ∧ Failover.Returned (World.failOverView.get w)) (body .failOver)
      fun _ w => True ∧ Failover.Returned (World.failOverView.get w) := by
  have hwatch : watchWorld.Refines World.failOverView (Prod.mk Thread.failOver) Failover.watch :=
    { inv := fun _ h => h
      guard := fun _ _ h => h rfl
      rely := fun _ _ h => h
      step := fun _ _ _ _ _ _ => trivial }
  exact failOver_body.both shutdown_meets (Failover.failOverTick_watch.lift hwatch)

theorem shutdown_sound : (pool KeepsPolicyThreads).Sound shutdownProtocol NoThreads where
  start w hw := by
    obtain ⟨hinv, -⟩ := policyThreads_sound.start w hw
    exact ⟨hinv, fun _ _ _ t ht => ht.1 (hw.policies t)⟩
  stable t w w' h hr hi ht := by
    subst ht
    obtain ⟨hself, hend⟩ := hr
    intro hidle u hu
    have hidle' : w.failOver.phase = .idle := by
      have hsame : w'.failOver = w.failOver := hself
      rw [← hsame]
      exact hidle
    exact h rfl hidle' u ((hend rfl).live u hu).1
  body t := by
    cases t with
    | failOver => exact failOver_shutdown.mono (fun _ _ h => ⟨trivial, h.1 rfl⟩) fun _ _ _ h _ => h.2
    | policy t =>
      have hpolicy : Triple (shutdownProtocol.contract (.policy t)) (fun w => (w.policies t).Live)
          (body (.policy t)) fun _ _ => True :=
        policy_steps (fun _ _ h => h.1) fun _ _ _ h _ hstep =>
          ⟨(policy_step h hstep).1, shutdown_guar (policy_step h hstep).2 fun _ =>
            policy_threadsEnd h hstep⟩
      exact hpolicy.mono (fun _ _ h => h.2) fun _ _ _ _ => nofun
    | vism t =>
      have hsection : Triple (shutdownProtocol.contract (.vism t)) (fun _ => True) (body (.vism t))
          fun _ _ => True := by
        refine vism_steps fun w h => ?_
        obtain ⟨hinv, hguar⟩ := vism_step (t := t) h
        have hlen : ThreadsEnd w ((World.vismView t).amend InterfaceSm.vismSection w) :=
          ⟨congrArg List.length (groups_vismSection ((World.vismView t).get w)),
            fun u hu => ⟨hu, rfl⟩⟩
        exact ⟨hinv, shutdown_guar hguar fun _ => hlen⟩
      exact hsection.mono (fun _ _ _ => trivial) fun _ _ _ _ => nofun
  env w w' h henv := by
    obtain ⟨hinv, hrely⟩ := policyThreads_sound.env w w' h henv
    refine ⟨hinv, fun t => ⟨hrely t, fun _ => ⟨length_of_states henv.states, fun u hu => ?_⟩⟩⟩
    rw [henv.policies] at hu ⊢
    exact ⟨hu, rfl⟩

/-- In every run in which a deactivated group's thread has ended when the group is used again
and when the wait looks at it, the failover thread only returns after all of them. -/
theorem shutdown_complete {c : Config Section Thread World}
    (h : (pool KeepsPolicyThreads).Reach DeactivatedEnded NoThreads c) : ShutdownComplete c :=
  fun hpc hidle => shutdown_sound.rest h hpc rfl hidle

/-! WAN is disabled: with one group in hot swap the wait sees its thread end; in the cold swap
of two groups it only sees that of the first. -/

namespace Example

def disable (s : Shared) : Shared := { s with config := { s.config with enable := false } }

/-- The failover thread is waiting for the selection threads. -/
def leave : List (pool KeepsPolicyThreads).Move :=
  [after disable (keeps fun _ => rfl) .failOver, tick .failOver, tick .failOver]

def startAlone : World := { shared := { ifaces := [{}], groups := [{}] } }

theorem noThreadsAlone : NoThreads startAlone := ⟨rfl, fun _ => rfl, fun _ => rfl⟩

def shutdown : List (pool KeepsPolicyThreads).Move :=
  [tick .failOver] ++ leave ++ List.replicate 3 (tick (.policy 0)) ++ [tick .failOver]

def coldShutdown : List (pool KeepsPolicyThreads).Move :=
  activation ++ leave ++ List.replicate 4 (tick (.policy 0)) ++
    List.replicate 3 (tick (.vism 0)) ++ List.replicate 3 (tick (.policy 0)) ++ [tick .failOver]

end Example

open Example in
theorem shutdown_complete_run :
    ShutdownComplete (Pool.idle ((pool KeepsPolicyThreads).play shutdown startAlone)) ∧
      ((pool KeepsPolicyThreads).play shutdown startAlone).failOver.phase = .idle ∧
      (((pool KeepsPolicyThreads).play shutdown startAlone).policies 0).phase = .exited := by
  have hplays : (pool KeepsPolicyThreads).Plays DeactivatedEnded shutdown startAlone := by
    decide +kernel
  have hrun := Pool.Reach.play (.start noThreadsAlone) hplays
  exact ⟨shutdown_complete hrun, by decide +kernel, by decide +kernel⟩

open Example in
/-- The thread of the deactivated group still runs when the failover thread has returned. -/
theorem shutdown_leaves_thread :
    ¬ ∀ c, (pool KeepsPolicyThreads).Reach (fun _ _ => True) NoThreads c → ShutdownComplete c := by
  intro h
  have hplays : (pool KeepsPolicyThreads).Plays (fun _ _ => True) coldShutdown start := by
    decide +kernel
  have hdone := h _ (Pool.Reach.play (.start noThreads) hplays)
  rw [ShutdownComplete, Pool.idle_store] at hdone
  have hlive : (((pool KeepsPolicyThreads).play coldShutdown start).policies 1).Live := by
    decide +kernel
  have hidle : ((pool KeepsPolicyThreads).play coldShutdown start).failOver.phase = .idle := by
    decide +kernel
  exact hdone rfl hidle 1 hlive

end System
end WanManager
