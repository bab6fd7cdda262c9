import WanManager.InterfaceSmFrame
import WanManager.Concurrency.Settling

/-! # A machine that is left alone

The inputs of the machine stand still, and no lease arrives; only the VLAN and the PPP session do
what a transition asks them for, and do it at once. A tick is then one function of the store. -/

namespace WanManager
open Concurrency

namespace InterfaceSm

/-! ## The replies -/

/-- The PPP session of an interface that uses PPP. -/
def setPpp (st : LinkStatus) (s : Vism) : Vism :=
  s.mapPpp fun p => { p with linkStatus := if p.enable then st else p.linkStatus }

/-- `WanMgr_RdkBus_ConfigureVlan` and `WanManager_ConfigurePPPSession`, where a transition does not
leave `CONFIGURING` behind; MAP-T starts the session anew, or ends it once its configuration is
verified. -/
def linked (t : WanTransition) (s : Vism) : Vism :=
  match t with
  | .physicalInterfaceDown => (setPpp .down s).mapVlan fun v =>
      { v with status := if v.enable ∧ s.ifaceType ≠ .remote then .down else v.status }
  | .maptUp => if s.outside.verifyMapt then setPpp .down s else s
  | .maptDown | .maptFeatureRefresh | .maptDownRefresh => setPpp .up s
  | _ => s

/-- A link that was being configured. -/
def cameUp (st : LinkStatus) : LinkStatus := if st = .configuring then .up else st

/-- Links that are configured come up. -/
def comeUp (s : Vism) : Vism :=
  (s.mapVlan fun v => { v with status := cameUp v.status }).mapPpp fun p =>
    { p with linkStatus := cameUp p.linkStatus }

def reply : Site → Vism → Vism
  | .wanTransition t, s => comeUp (linked t s)
  | _, s => s

/-- A tick with the replies to it. -/
def alone (s : Vism) : Vism := ((vismTick.answered reply).run s).2

section Reply

variable {β : Type} {f : Vism → β}

theorem linked_blind (hvlan : ∀ s g, f (s.mapVlan g) = f s) (hppp : ∀ s g, f (s.mapPpp g) = f s)
    (t : WanTransition) (s : Vism) : f (linked t s) = f s := by
  have hset : ∀ st, f (setPpp st s) = f s := fun st => hppp s _
  cases t with
  | physicalInterfaceDown =>
    rw [linked, hvlan]
    exact hset _
  | maptUp =>
    rw [linked]
    split
    · exact hset _
    · rfl
  | maptDown | maptFeatureRefresh | maptDownRefresh => exact hset _
  | _ => rfl

/-- What sees nothing of the links sees nothing of the replies. -/
theorem LinkBlind.comeUp (h : LinkBlind f) (s : Vism) : f (comeUp s) = f s :=
  (h.ppp _ _).trans (h.vlan _ _)

theorem LinkBlind.reply (h : LinkBlind f) (l : Site) (s : Vism) : f (reply l s) = f s := by
  cases l with
  | wanTransition t => exact (h.comeUp _).trans (linked_blind h.vlan h.ppp t s)
  | _ => rfl

end Reply

/-! ## One transition a tick -/

/-- With the replies, `p` ends as without them, but for the reply to its transition. -/
def EndsOnce (p : VismProg WanState) (s : Vism) : Prop :=
  ∃ t, (p.answered reply).run s = ((p.run s).1, reply (.wanTransition t) (p.run s).2)

section EndsOnce

variable {s : Vism}

theorem ends_self {q : Vism → VismProg WanState} (h : EndsOnce (q s) s) : EndsOnce (self >>= q) s := h

theorem ends_act {g : Vism → Vism} {q : Unit → VismProg WanState} (h : EndsOnce (q ()) (g s)) :
    EndsOnce (act g >>= q) s := h

theorem ends_go {t : WanTransition} {g : Vism → WanState × Vism} : EndsOnce (go t g) s := ⟨t, rfl⟩

theorem ends_keep {st : WanState} : EndsOnce (keep st) s := ends_go

theorem ends_ite {c : Prop} [Decidable c] {p q : VismProg WanState} (hp : EndsOnce p s)
    (hq : EndsOnce q s) : EndsOnce (if c then p else q) s := by
  split
  · exact hp
  · exact hq

theorem ends_giveUp : EndsOnce giveUp s := ends_go

theorem ends_giveUpVlan : EndsOnce giveUpVlan s := ends_act ends_giveUp

theorem ends_maptSwitchedOn (st : WanState) : EndsOnce (maptSwitchedOn st) s :=
  ends_self (ends_ite (ends_act ends_go) ends_keep)

theorem ends_monitorAndKeep (st : WanState) : EndsOnce (monitorAndKeep st) s := ends_act ends_keep

theorem ends_obtainIpv6 : EndsOnce obtainIpv6 s :=
  ends_self (ends_ite ends_go (ends_ite (ends_act ends_keep) (ends_ite ends_go ends_keep)))

theorem ends_obtainLease : EndsOnce obtainLease s := by
  refine ends_act (ends_self (ends_ite (ends_ite ends_go ends_go) (ends_ite ends_obtainIpv6 ?_)))
  exact ends_ite (ends_maptSwitchedOn _) ends_keep

theorem ends_obtainAddresses : EndsOnce obtainAddresses s :=
  ends_self (ends_ite (ends_act ends_keep) ends_obtainLease)

theorem ends_obtainMapt : EndsOnce obtainMapt s := by
  refine ends_self (ends_ite (ends_act ends_obtainAddresses) (ends_ite ?_ ends_obtainAddresses))
  exact ends_ite (ends_act ends_go) ends_keep

theorem ends_ipv4Leased : EndsOnce wanStateIpv4Leased s := by
  refine ends_act (ends_act (ends_self (ends_ite ends_giveUp (ends_ite ends_go (ends_ite ends_go ?_)))))
  refine ends_ite (ends_act ends_keep) (ends_ite ?_ (ends_ite (ends_act ends_keep) ?_))
  · exact ends_self (ends_ite (ends_act ends_keep) (ends_ite ends_go ends_keep))
  · exact ends_ite (ends_maptSwitchedOn _) ends_keep

theorem ends_ipv6Leased : EndsOnce wanStateIpv6Leased s := by
  refine ends_act (ends_act (ends_self (ends_ite ends_giveUp (ends_ite ends_go (ends_ite ends_go ?_)))))
  refine ends_ite (ends_act ends_keep) (ends_ite ends_go (ends_ite ?_ (ends_ite ?_ ?_)))
  · exact ends_self (ends_ite ends_go ends_keep)
  · exact ends_maptSwitchedOn _
  · exact ends_ite (ends_act ends_keep) ends_keep

theorem ends_dualStackMapt : EndsOnce dualStackMapt s := by
  refine ends_self (ends_ite (ends_ite ends_go (ends_monitorAndKeep _)) (ends_ite ?_ ?_))
  · exact ends_ite (ends_act ends_go) (ends_monitorAndKeep _)
  · exact ends_act (ends_monitorAndKeep _)

theorem ends_dualStackActive : EndsOnce wanStateDualStackActive s := by
  refine ends_self (ends_ite ends_giveUp (ends_ite ends_go (ends_ite ends_go (ends_ite ends_go ?_))))
  refine ends_ite (ends_act (ends_monitorAndKeep _)) (ends_ite ends_go (ends_ite ?_ ends_dualStackMapt))
  exact ends_act (ends_monitorAndKeep _)

theorem ends_maptActive : EndsOnce wanStateMaptActive s := by
  refine ends_self (ends_ite ends_giveUp (ends_ite ends_go (ends_ite ends_go (ends_ite ?_ ?_))))
  · exact ends_ite (ends_monitorAndKeep _) (ends_act ends_go)
  · exact ends_act (ends_monitorAndKeep _)

/-- A state function executes one transition, and that last. -/
theorem ends_wanState (st : WanState) (s : Vism) : EndsOnce (wanState st) s := by
  cases st with
  | vlanConfiguring | pppConfiguring =>
    refine ends_self (ends_ite ends_giveUp (ends_ite ends_giveUpVlan ?_))
    exact ends_ite ends_keep ends_go
  | validatingWan => exact ends_self (ends_ite ends_giveUp (ends_ite ends_giveUpVlan ends_go))
  | obtainingIpAddresses =>
    refine ends_self (ends_ite ends_giveUp (ends_ite ends_giveUpVlan ?_))
    exact ends_ite ends_obtainMapt ends_obtainAddresses
  | standby =>
    refine ends_self (ends_ite ends_giveUp (ends_act (ends_self (ends_ite ends_keep ?_))))
    exact ends_ite ends_go (ends_act ends_keep)
  | ipv4Leased => exact ends_ipv4Leased
  | ipv6Leased => exact ends_ipv6Leased
  | dualStackActive => exact ends_dualStackActive
  | maptActive => exact ends_maptActive
  | refreshingWan => exact ends_self (ends_ite (ends_act ends_giveUp) (ends_ite ends_keep ends_go))
  | deconfiguringWan => exact ends_self (ends_ite ends_keep ends_go)
  | exit => exact ends_act ends_keep

end EndsOnce

/-! ## A tick -/

section Tick

variable {s : Vism} {st : WanState}

theorem run_answered_self : (self.answered reply).run s = (s, s) := rfl

theorem alone_running (hs : s.phase = .running st) :
    alone s = enter st (((wanState st).answered reply).run (prepared st s)).1
      (((wanState st).answered reply).run (prepared st s)).2 := by
  have htick : alone s = (((vismLoop st).answered reply).run s).2 := by
    simp only [alone, vismTick, Prog.answered_bind, Prog.run_bind, run_answered_self, hs]
  rw [htick, vismLoop, Prog.answered_bind, Prog.run_bind, Prog.answered_bind, Prog.run_bind]
  rfl

theorem alone_created (hs : s.phase = .created) :
    alone s = { comeUp (wanTransitionStart s).2 with phase := .running .vlanConfiguring } := by
  simp only [alone, vismTick, Prog.answered_bind, Prog.run_bind, run_answered_self, hs]
  rfl

theorem alone_gone (hs : s.phase = .absent ∨ s.phase = .exited) : alone s = s := by
  obtain hs | hs := hs <;>
    simp only [alone, vismTick, Prog.answered_bind, Prog.run_bind, run_answered_self, hs,
      Prog.pure_eq_ret, Prog.answered_ret, Prog.run_ret]

/-- What a state function spares without the replies it spares with them. -/
theorem spares_answered {β : Type} {f : Vism → β} (h : LinkBlind f) (hp : Spares f (wanState st) s) :
    f (((wanState st).answered reply).run s).2 = f s := by
  obtain ⟨t, ht⟩ := ends_wanState st s
  rw [ht, h.reply]
  exact hp

end Tick

end InterfaceSm
end WanManager
