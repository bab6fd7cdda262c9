import WanManager.MachineTicks
import WanManager.InterfaceSmMoves
import WanManager.Concurrency.Labelled

/-! # The switch of the MAP-T feature

`mapt_feature_enable_changed` is one flag for all interface state machines: the handler of the event
`MAPT_Enable` sets it, and the machine that acts on it takes it back. While it is set,
`WAN_STATE_MAPT_ACTIVE` does not get to its reconfigurations. -/

namespace WanManager
open Concurrency

namespace InterfaceSm

/-! ## Entering `MAPT_ACTIVE` -/

/-- The section does not set MAP-T up. -/
def NoMaptUp : Site → Vism → Prop
  | .wanTransition .maptUp, s => ¬ (s.outside.verifyMapt = true ∧ s.outside.processMapt = true)
  | _, _ => True

instance (l : Site) (s : Vism) : Decidable (NoMaptUp l s) := by
  unfold NoMaptUp
  split <;> infer_instance

/-- Without setting MAP-T up, `p` does not end in `MAPT_ACTIVE`. -/
def StaysOut (p : VismProg WanState) (s : Vism) : Prop :=
  p.Admits NoMaptUp s → (p.run s).1 ≠ .maptActive

section StaysOut

variable {s : Vism}

theorem staysOut_self {q : Vism → VismProg WanState} (h : StaysOut (q s) s) :
    StaysOut (self >>= q) s := fun hadm => h hadm.2

theorem staysOut_act {f : Vism → Vism} {q : Unit → VismProg WanState} (h : StaysOut (q ()) (f s)) :
    StaysOut (act f >>= q) s := fun hadm => h hadm.2

theorem staysOut_go {t : WanTransition} {f : Vism → WanState × Vism} (h : (f s).1 ≠ .maptActive) :
    StaysOut (go t f) s := fun _ => h

theorem staysOut_ite {c : Prop} [Decidable c] {p q : VismProg WanState} (hp : StaysOut p s)
    (hq : StaysOut q s) : StaysOut (if c then p else q) s := by
  split
  · exact hp
  · exact hq

theorem eCurrentState_fixed : Fixed fun s => s.virtIf.eCurrentState where
  vlan _ _ := rfl
  ppp _ _ := rfl
  ip _ _ := rfl
  map _ _ := rfl
  status _ _ := rfl
  accounts _ _ _ _ _ := rfl
  setUps _ _ _ _ _ _ := rfl

theorem outside_fixed : Fixed Vism.outside where
  vlan _ _ := rfl
  ppp _ _ := rfl
  ip _ _ := rfl
  map _ _ := rfl
  status _ _ := rfl
  accounts _ _ _ _ _ := rfl
  setUps _ _ _ _ _ _ := rfl

/-- A set-up of MAP-T that does not go through leads back to the state it was called from. -/
theorem fst_maptUp (h : ¬ (s.outside.verifyMapt = true ∧ s.outside.processMapt = true)) :
    (wanTransitionMaptUp s).1 = s.virtIf.eCurrentState := by
  by_cases hverify : s.outside.verifyMapt = true
  · rw [wanTransitionMaptUp_verified hverify, outside_fixed.fixedTick.replaced,
      if_neg fun hprocess => h ⟨hverify, hprocess⟩]
    exact eCurrentState_fixed.fixedTick.replaced s
  · rw [wanTransitionMaptUp, if_neg hverify]

theorem staysOut_maptUp (hcur : s.virtIf.eCurrentState ≠ .maptActive) :
    StaysOut (go .maptUp wanTransitionMaptUp) s := by
  intro hadm
  have hrefused := fst_maptUp hadm.1
  exact fun hst => hcur (hrefused.symm.trans hst)

theorem fst_ite_ne {c : Prop} [Decidable c] {r r' : WanState × Vism} {st : WanState} (h : r.1 ≠ st)
    (h' : r'.1 ≠ st) : (if c then r else r').1 ≠ st := by
  split
  · exact h
  · exact h'

theorem fst_physicalInterfaceDown : (wanTransitionPhysicalInterfaceDown s).1 ≠ .maptActive :=
  fst_ite_ne (by simp) (by simp)

theorem staysOut_giveUp : StaysOut giveUp s := staysOut_go fst_physicalInterfaceDown

theorem staysOut_ipv4Down : StaysOut (go .ipv4Down wanTransitionIpv4Down) s := by
  apply staysOut_go
  exact fst_ite_ne (by simp) (by simp)

theorem staysOut_ipv6Down : StaysOut (go .ipv6Down wanTransitionIpv6Down) s := by
  apply staysOut_go
  exact fst_ite_ne (by simp) (by simp)

theorem staysOut_ipv4Up : StaysOut (go .ipv4Up wanTransitionIpv4Up) s := by
  apply staysOut_go
  exact fst_ite_ne (by simp) (by simp)

theorem staysOut_standbyDeconfigIps :
    StaysOut (go .standbyDeconfigIps wanTransitionStandbyDeconfigIps) s :=
  staysOut_go (by simp [wanTransitionStandbyDeconfigIps])

theorem staysOut_refresh {t : WanTransition} :
    StaysOut (go t wanTransitionMaptFeatureRefresh) s :=
  staysOut_go (by simp [wanTransitionMaptFeatureRefresh])

theorem staysOut_keep {st : WanState} (hst : st ≠ .maptActive) : StaysOut (keep st) s :=
  staysOut_go hst

theorem staysOut_ipv6Leased (hcur : s.virtIf.eCurrentState ≠ .maptActive) :
    StaysOut wanStateIpv6Leased s := by
  have hne : WanState.ipv6Leased ≠ .maptActive := by decide
  have hkeep : (monitorDhcpApps (joinDhcpv4 s)).virtIf.eCurrentState = s.virtIf.eCurrentState :=
    (eCurrentState_fixed.linkBlind.monitorDhcpApps _).trans (eCurrentState_fixed.linkBlind.joinDhcpv4 s)
  refine staysOut_act (staysOut_act (staysOut_self ?_))
  refine staysOut_ite staysOut_giveUp (staysOut_ite staysOut_ipv6Down ?_)
  refine staysOut_ite staysOut_standbyDeconfigIps (staysOut_ite ?_ (staysOut_ite staysOut_ipv4Up ?_))
  · exact staysOut_act (staysOut_keep hne)
  refine staysOut_ite (staysOut_self (staysOut_ite ?_ (staysOut_keep hne))) ?_
  · exact staysOut_maptUp (hkeep ▸ hcur)
  refine staysOut_ite (staysOut_self (staysOut_ite ?_ (staysOut_keep hne))) (staysOut_ite ?_ ?_)
  · exact staysOut_act staysOut_refresh
  · exact staysOut_act (staysOut_keep hne)
  · exact staysOut_keep hne

theorem staysOut_dualStackActive (hcur : s.virtIf.eCurrentState ≠ .maptActive) :
    StaysOut wanStateDualStackActive s := by
  have hkeep : ∀ {u}, StaysOut (monitorAndKeep .dualStackActive) u :=
    staysOut_act (staysOut_keep (by decide))
  apply staysOut_self
  refine staysOut_ite staysOut_giveUp (staysOut_ite ?_ (staysOut_ite staysOut_ipv4Down ?_))
  · exact staysOut_go (by simp [wanTransitionDualStackDown])
  refine staysOut_ite staysOut_standbyDeconfigIps (staysOut_ite (staysOut_act hkeep) ?_)
  refine staysOut_ite staysOut_ipv6Down (staysOut_ite (staysOut_act hkeep) (staysOut_self ?_))
  refine staysOut_ite (staysOut_ite (staysOut_maptUp hcur) hkeep) (staysOut_ite ?_ (staysOut_act hkeep))
  exact staysOut_ite (staysOut_act staysOut_refresh) hkeep

/-- Only the states that hold an IPv6 lease can move to `MAPT_ACTIVE`. -/
theorem Ledger.Move.maptActive {G : WanTransition → Ledger → Prop} {st st' : WanState} {b b' : Ledger}
    (h : Ledger.Move G st b st' b') (hst' : st' = .maptActive) :
    st = .ipv6Leased ∨ st = .dualStackActive ∨ st = .maptActive := by
  cases h with
  | keep => exact .inr (.inr hst')
  | maptUp hst | maptFails hst | maptRefused hst =>
    obtain hst | hst := hst
    · exact .inl hst
    · exact .inr (.inl hst)
  | ipv4Up | ipv6Up | ipv4Down | ipv6Down =>
    refine absurd hst' ?_
    simp only [Ledger.ipv4Up, Ledger.ipv6Up, Ledger.ipv4Down, Ledger.ipv6Down]
    split <;> simp
  | standbyUp =>
    refine absurd hst' ?_
    simp only [Ledger.standbyUp, Ledger.ipv4Up, Ledger.ipv6Up]
    grind
  | down | giveUp | lost | pppConfigure | wanUp | validated | expired | standby | refresh
  | dualStackDown | standbyDeconfig | maptDown | maptDownRefresh | refreshed | exit | exited => cases hst'

theorem staysOut_wanState {st : WanState} (hst : st ≠ .maptActive)
    (hcur : s.virtIf.eCurrentState = st) : StaysOut (wanState st) s := by
  intro hadm
  by_cases h6 : st = .ipv6Leased
  · subst h6
    exact staysOut_ipv6Leased (hcur ▸ hst) hadm
  by_cases hdual : st = .dualStackActive
  · subst hdual
    exact staysOut_dualStackActive (hcur ▸ hst) hadm
  · have hmove : Makes (fun _ _ => True) st (ledger s) (wanState st) s := makes_wanState st rfl hcur
    intro hnext
    have hfrom := (hmove s rfl ((Prog.admits_true _ _).mono fun _ _ _ => guardOf_true _ _)).maptActive hnext
    simp [h6, hdual, hst] at hfrom

end StaysOut

/-! ## A tick in `MAPT_ACTIVE` -/

/-- Nothing takes the machine out of `MAPT_ACTIVE` but the feature. -/
def keepsMapt (s : Vism) : Bool := !leasedInterfaceDown s && !leavesActive s && !maptLost s

/-- The machine takes the flag back and gives MAP-T up. -/
def switchesOff (s : Vism) : Bool :=
  keepsMapt s && s.maptFeatureEnableChanged && !s.outside.maptFeature

/-- What `wan_state_mapt_active` has to do besides. -/
def pendingWork (s : Vism) : Bool :=
  s.virtIf.ip.ipv6Changed || s.virtIf.map.maptChanged || s.virtIf.ip.ipv6Renewed

/-- The machine stays in `MAPT_ACTIVE` and does not get to its pending work. -/
def starves (s : Vism) : Bool :=
  keepsMapt s && s.maptFeatureEnableChanged && s.outside.maptFeature && pendingWork s

theorem run_maptActive (s : Vism) : wanStateMaptActive.run s =
    if leasedInterfaceDown s then wanTransitionPhysicalInterfaceDown s
    else if leavesActive s then wanTransitionStandbyDeconfigIps s
    else if maptLost s then wanTransitionMaptDown s
    else if s.maptFeatureEnableChanged then
      if s.outside.maptFeature then (.maptActive, monitorDhcpApps s)
      else maptDownRefresh { s with maptFeatureEnableChanged := false }
    else (.maptActive, monitorDhcpApps (reconfigureMaptActive s)) := by
  simp only [wanStateMaptActive, run_self, run_act, run_go, Prog.run_ite, giveUp, monitorAndKeep, run_keep]

theorem reconfigureMaptActive_of_not_pending {s : Vism} (h : pendingWork s = false) :
    reconfigureMaptActive s = s := by
  simp only [pendingWork, Bool.or_eq_false_iff] at h
  obtain ⟨⟨h6, hm⟩, hr⟩ := h
  simp [reconfigureMaptActive, h6, hm, hr]

theorem changed_fixed : Fixed Vism.maptFeatureEnableChanged where
  vlan _ _ := rfl
  ppp _ _ := rfl
  ip _ _ := rfl
  map _ _ := rfl
  status _ _ := rfl
  accounts _ _ _ _ _ := rfl
  setUps _ _ _ _ _ _ := rfl

/-- `MAPT_ACTIVE` only takes the flag back when it gives MAP-T up. -/
theorem changed_maptActive {s : Vism} (h : switchesOff s = false) :
    (wanStateMaptActive.run s).2.maptFeatureEnableChanged = s.maptFeatureEnableChanged := by
  rw [run_maptActive]
  split
  · exact changed_fixed.fixedTick.wanTransitionPhysicalInterfaceDown s
  split
  · exact changed_fixed.wanTransitionStandbyDeconfigIps s
  split
  · exact changed_fixed.wanTransitionMaptDown s
  split
  · split
    · exact changed_fixed.linkBlind.monitorDhcpApps s
    · simp_all [switchesOff, keepsMapt]
  · exact (changed_fixed.linkBlind.monitorDhcpApps _).trans (changed_fixed.fixedTick.reconfigureMaptActive s)

theorem fst_maptActive_of_switchesOff {s : Vism} (h : switchesOff s = true) :
    (wanStateMaptActive.run s).1 = .obtainingIpAddresses := by
  simp only [switchesOff, keepsMapt, Bool.and_eq_true, Bool.not_eq_true'] at h
  obtain ⟨⟨⟨⟨hup, hleave⟩, hlost⟩, hchanged⟩, hfeature⟩ := h
  simp [run_maptActive, hup, hleave, hlost, hchanged, hfeature, maptDownRefresh,
    wanTransitionMaptFeatureRefresh]

/-- The flag, while the feature is off. -/
def offChanged (s : Vism) : Bool := s.maptFeatureEnableChanged && !s.outside.maptFeature

theorem offChanged_fixedAll : FixedAll offChanged where
  virtIf _ _ := rfl
  accounts _ _ _ _ _ _ := rfl
  rescan _ := rfl

/-- No other state takes the flag back while the feature is off. -/
theorem offChanged_wanState {st : WanState} (hst : st ≠ .maptActive) (s : Vism) :
    offChanged ((wanState st).run s).2 = offChanged s := by
  refine offChanged_fixedAll.wanState_of_ne (fun u hon => ?_) hst s
  simp [offChanged, hon]

/-- The machine without the flag. -/
def heard (s : Vism) : Vism := { s with maptFeatureEnableChanged := false }

/-- A tick in `MAPT_ACTIVE` that stays there does what it would do without the flag. -/
def Performs (s : Vism) : Prop :=
  s.maptFeatureEnableChanged = true → s.phase = .running .maptActive →
    (vismTick.run s).2.phase = .running .maptActive →
      (vismTick.run (heard s)).2 = heard (vismTick.run s).2

theorem startConnectivityCheck_heard (s : Vism) :
    startConnectivityCheck (heard s) = heard (startConnectivityCheck s) := by
  simp only [startConnectivityCheck, apply_ite heard]
  rfl

theorem monitorDhcpApps_heard (s : Vism) : monitorDhcpApps (heard s) = heard (monitorDhcpApps s) := by
  have hrestart : restartConnectivityCheck (heard s) = heard (restartConnectivityCheck s) := by
    have hstop : ∀ f, (if (heard s).virtIf.ip.connectivityCheckRunning then (heard s).mapIp f
        else heard s) = heard (if s.virtIf.ip.connectivityCheckRunning then s.mapIp f else s) := by
      intro f
      rw [apply_ite heard]
      rfl
    simp only [restartConnectivityCheck]
    rw [hstop, startConnectivityCheck_heard]
    rfl
  simp only [monitorDhcpApps, apply_ite heard, hrestart]
  rfl

/-- Without the flag the machine gets to its reconfigurations. -/
theorem run_maptActive_heard {s : Vism} (h : keepsMapt s = true) :
    wanStateMaptActive.run (heard s) =
      (.maptActive, monitorDhcpApps (reconfigureMaptActive (heard s))) := by
  simp only [keepsMapt, Bool.and_eq_true, Bool.not_eq_true'] at h
  obtain ⟨⟨hup, hleave⟩, hlost⟩ := h
  have hup' : leasedInterfaceDown (heard s) = false := hup
  have hleave' : leavesActive (heard s) = false := hleave
  have hlost' : maptLost (heard s) = false := hlost
  have hchanged : (heard s).maptFeatureEnableChanged = false := rfl
  simp [run_maptActive, hup', hleave', hlost', hchanged]

/-- With the flag the machine only stays if the feature is on, and does nothing else. -/
theorem run_maptActive_changed {s : Vism} (hchanged : s.maptFeatureEnableChanged = true)
    (hstay : (wanStateMaptActive.run s).1 = .maptActive) :
    keepsMapt s = true ∧ s.outside.maptFeature = true ∧
      wanStateMaptActive.run s = (.maptActive, monitorDhcpApps s) := by
  have hrun := run_maptActive s
  rw [if_pos hchanged] at hrun
  split at hrun
  · exact absurd (hrun ▸ hstay) fst_physicalInterfaceDown
  next hup =>
  split at hrun
  · simp [hrun, wanTransitionStandbyDeconfigIps] at hstay
  next hleave =>
  split at hrun
  · simp [hrun, wanTransitionMaptDown] at hstay
  next hlost =>
  split at hrun
  · next hfeature => exact ⟨by simp [keepsMapt, hup, hleave, hlost], hfeature, hrun⟩
  · simp [hrun, maptDownRefresh, wanTransitionMaptFeatureRefresh] at hstay

/-- The flag only costs the work of a machine that starves. -/
theorem performs_of_not_starves {s : Vism} (h : starves (prepared .maptActive s) = false) :
    Performs s := by
  intro hchanged hphase hstay
  have hchanged' : (prepared .maptActive s).maptFeatureEnableChanged = true := hchanged
  rw [run_vismTick_running hphase] at hstay
  have hnext : (wanStateMaptActive.run (prepared .maptActive s)).1 = .maptActive := by
    simpa [enter, wanState] using hstay
  obtain ⟨hkeeps, hfeature, hrun⟩ := run_maptActive_changed hchanged' hnext
  have hidle : pendingWork (prepared .maptActive s) = false := by
    simpa [starves, hkeeps, hchanged', hfeature] using h
  have hidle' : pendingWork (heard (prepared .maptActive s)) = false := hidle
  have hheard : wanStateMaptActive.run (heard (prepared .maptActive s)) =
      (.maptActive, heard (monitorDhcpApps (prepared .maptActive s))) := by
    rw [run_maptActive_heard hkeeps, reconfigureMaptActive_of_not_pending hidle', monitorDhcpApps_heard]
  have hphase' : (heard s).phase = .running .maptActive := hphase
  have hprepared : prepared .maptActive (heard s) = heard (prepared .maptActive s) := rfl
  rw [run_vismTick_running hphase', run_vismTick_running hphase, hprepared]
  simp only [wanState, hheard, hrun]
  rfl

end InterfaceSm

/-! ## The system -/

namespace MaptFeature
open InterfaceSm WanManager.System

/-- The machines with the feature and its flag. -/
structure Store where
  world : World := {}
  /-- `MAPT_Enable`, as `wanmanager_mapt_feature` reads it -/
  maptFeature : Bool := false
  /-- how many events `MAPT_Enable` were not handled yet -/
  events : Nat := 0
  /-- `mapt_feature_enable_changed` -/
  changed : Bool := false

/-- The feature is switched, an event is handled, a machine makes its first transition or one
iteration of its loop, or anything else happens in the program. -/
inductive Event where
  | switched (on : Bool)
  | handled
  | started (t : Nat)
  | ticked (t : Nat)
  | other
  deriving DecidableEq, Repr

/-- The thread with the feature and the flag as it finds them. -/
def sees (m : Store) (t : VismThread) : VismThread :=
  { t with sm := { t.sm with
      maptFeatureEnableChanged := m.changed
      outside := { t.sm.outside with maptFeature := m.maptFeature } } }

/-- The machines as the thread `t` finds them. -/
def seenBy (t : Nat) (m : Store) : World :=
  { m.world with visms := Function.update m.world.visms t (sees m (m.world.visms t)) }

/-- The machine of the thread `t`, with what its next tick finds. -/
def machine (t : Nat) (m : Store) : Option Vism := System.machine t (seenBy t m)

def tick (t : Nat) (m : Store) : Store :=
  let w := System.tick t (seenBy t m)
  { m with world := w, changed := (w.visms t).sm.maptFeatureEnableChanged }

def Steps : Event → Store → Store → Prop
  | .switched on, m, m' => m' = { m with maptFeature := on, events := m.events + 1 }
  | .handled, m, m' => 0 < m.events ∧ m' = { m with events := m.events - 1, changed := true }
  | .started t, m, m' => (m.world.visms t).phase = .created ∧ m' = tick t m
  | .ticked t, m, m' => (∃ s st, machine t m = some s ∧ s.phase = .running st) ∧ m' = tick t m
  | .other, m, m' => KeepsMachines m.world m'.world ∧ m' = { m with world := m'.world }

def system : Labelled Event Store := ⟨Steps⟩

/-- The feature is off, and that has been handled and acted on. -/
def Off (m : Store) : Prop := m.events = 0 ∧ m.changed = false ∧ m.maptFeature = false

instance (m : Store) : Decidable (Off m) := inferInstanceAs (Decidable (_ ∧ _))

def InMaptActive (m : Store) (t : Nat) : Prop := (m.world.visms t).phase = .running .maptActive

instance (m : Store) (t : Nat) : Decidable (InMaptActive m t) := inferInstanceAs (Decidable (_ = _))

/-- No machine is in `MAPT_ACTIVE` once the feature is off. -/
def Settled (m : Store) : Prop := Off m → ∀ t, ¬ InMaptActive m t

/-- A step that heeds the feature: no machine sets MAP-T up while it is off, the machine that takes
the flag back to give MAP-T up is the last one in `MAPT_ACTIVE`, and none starves. -/
def Heeds : Event → Store → Prop
  | .ticked t, m => ∀ s, machine t m = some s →
      (Off m → vismTick.Admits NoMaptUp s) ∧
      (s.phase = .running .maptActive → switchesOff (prepared .maptActive s) = true → m.events = 0 →
        ∀ u, u ≠ t → ¬ InMaptActive m u) ∧
      (s.phase = .running .maptActive → starves (prepared .maptActive s) = false)
  | _, _ => True

/-! ## What a tick does -/

theorem phase_machine {t : Nat} {m : Store} {s : Vism} (h : machine t m = some s) :
    s.phase = (m.world.visms t).phase := by
  have hseen := System.phase_machine h
  simpa [seenBy, sees] using hseen

theorem own_machine {t : Nat} {m : Store} {s : Vism} (h : machine t m = some s) :
    s.maptFeatureEnableChanged = m.changed ∧ s.outside.maptFeature = m.maptFeature := by
  have hseen := System.own_machine h
  simp only [seenBy, Function.update_self] at hseen
  exact ⟨hseen.1, by rw [hseen.2]; rfl⟩

/-- The thread and the flag after a tick. -/
theorem tick_machine {t : Nat} {m : Store} {s : Vism} (h : machine t m = some s) :
    ((tick t m).world.visms t).phase = (vismTick.run s).2.phase ∧
      (tick t m).changed = (vismTick.run s).2.maptFeatureEnableChanged := by
  obtain ⟨hsm, -⟩ := System.tick_machine h
  exact ⟨congrArg Vism.phase hsm, congrArg Vism.maptFeatureEnableChanged hsm⟩

theorem visms_tick_ne {t u : Nat} (hne : u ≠ t) (m : Store) :
    (tick t m).world.visms u = m.world.visms u := by
  have hseen := System.visms_tick_ne hne (seenBy t m)
  exact hseen.trans (Function.update_of_ne hne _ _)

theorem outside_fixedAll : FixedAll Vism.outside where
  virtIf _ _ := rfl
  accounts _ _ _ _ _ _ := rfl
  rescan _ := rfl

theorem changed_fixedAll : FixedAll Vism.maptFeatureEnableChanged where
  virtIf _ _ := rfl
  accounts _ _ _ _ _ _ := rfl
  rescan _ := rfl

/-- The state a machine is in after a tick is the one its state function returned. -/
theorem fst_of_inMaptActive {t : Nat} {m : Store} {s : Vism} {st : WanState}
    (hs : machine t m = some s) (hphase : s.phase = .running st) (h : InMaptActive (tick t m) t) :
    ((wanState st).run (prepared st s)).1 = .maptActive := by
  have hafter := (tick_machine hs).1.symm.trans h
  rw [run_vismTick_running hphase] at hafter
  simp only [enter] at hafter
  split at hafter
  · cases hafter
  · exact VismPhase.running.inj hafter

theorem changed_tick {t : Nat} {m : Store} {s : Vism} {st : WanState} (hs : machine t m = some s)
    (hphase : s.phase = .running st) :
    (tick t m).changed = ((wanState st).run (prepared st s)).2.maptFeatureEnableChanged := by
  rw [(tick_machine hs).2, run_vismTick_running hphase]
  rfl

/-- Outside `MAPT_ACTIVE` the flag is not taken back while the feature is off. -/
theorem changed_of_ne {t : Nat} {m : Store} {s : Vism} {st : WanState} (hs : machine t m = some s)
    (hphase : s.phase = .running st) (hst : st ≠ .maptActive) (hoff : m.maptFeature = false) :
    (tick t m).changed = m.changed := by
  obtain ⟨hchanged, hfeature⟩ := own_machine hs
  have hkept := offChanged_wanState hst (prepared st s)
  have hout : ((wanState st).run (prepared st s)).2.outside = s.outside :=
    outside_fixedAll.wanState (fun _ => rfl) st (prepared st s)
  have hstart : (prepared st s).maptFeatureEnableChanged = s.maptFeatureEnableChanged := rfl
  have hfrom : (prepared st s).outside = s.outside := rfl
  simp only [offChanged, hout, hfrom, hfeature, hoff, Bool.not_false, Bool.and_true] at hkept
  rw [changed_tick hs hphase, hkept, hstart, hchanged]

/-! ## The feature, switched off -/

theorem settled_ticked {t : Nat} {m : Store} {s : Vism} {st : WanState} (h : Settled m)
    (hheeds : Heeds (.ticked t) m) (hs : machine t m = some s) (hphase : s.phase = .running st) :
    Settled (tick t m) := by
  rintro ⟨hevents, hchanged, hfeature⟩ u hin
  have hevents' : m.events = 0 := hevents
  have hfeature' : m.maptFeature = false := hfeature
  obtain ⟨hadmits, hlast, -⟩ := hheeds s hs
  by_cases hst : st = .maptActive
  · -- the machine has taken the flag back, so it was the last one
    subst hst
    have hfrom : InMaptActive m t := (phase_machine hs).symm.trans hphase
    have htold : m.changed = true := by
      by_contra hnot
      exact h ⟨hevents', by simpa using hnot, hfeature'⟩ t hfrom
    have hoff : switchesOff (prepared .maptActive s) = true := by
      by_contra hnot
      have hkept := changed_maptActive (by simpa using hnot)
      have hstart : (prepared .maptActive s).maptFeatureEnableChanged = m.changed := (own_machine hs).1
      rw [changed_tick hs hphase, wanState, hkept, hstart, htold] at hchanged
      cases hchanged
    by_cases hut : u = t
    · subst hut
      have hnext := fst_of_inMaptActive hs hphase hin
      rw [wanState, fst_maptActive_of_switchesOff hoff] at hnext
      cases hnext
    · rw [InMaptActive, visms_tick_ne hut] at hin
      exact hlast hphase hoff hevents' u hut hin
  · -- the flag was clear before, so no machine is in `MAPT_ACTIVE`, and none enters it
    have hoff : Off m := ⟨hevents', by rwa [changed_of_ne hs hphase hst hfeature'] at hchanged, hfeature'⟩
    by_cases hut : u = t
    · subst hut
      have hcur : (prepared st s).virtIf.eCurrentState = st := rfl
      obtain ⟨-, -, hadm, -⟩ := (admits_vismTick hphase).mp (hadmits hoff)
      exact staysOut_wanState hst hcur hadm (fst_of_inMaptActive hs hphase hin)
    · rw [InMaptActive, visms_tick_ne hut] at hin
      exact h hoff u hin

/-- The first transition of a machine touches neither the flag nor MAP-T. -/
theorem settled_started {t : Nat} {m : Store} (h : Settled m)
    (hcreated : (m.world.visms t).phase = .created) : Settled (tick t m) := by
  have hself : (tick t m).changed = m.changed ∧ ¬ InMaptActive (tick t m) t := by
    cases hs : machine t m with
    | none =>
      have hseen : ((seenBy t m).visms t).sm.phase = .created ∧
          ((seenBy t m).visms t).sm.maptFeatureEnableChanged = m.changed := by
        simpa [seenBy, sees] using hcreated
      obtain ⟨-, hsame | hexit⟩ := System.tick_of_not_machine hs
      · refine ⟨(congrArg Vism.maptFeatureEnableChanged hsame).trans hseen.2, fun hin => ?_⟩
        have hphase := (congrArg Vism.phase hsame).symm.trans hin
        rw [hseen.1] at hphase
        cases hphase
      · refine ⟨(congrArg Vism.maptFeatureEnableChanged hexit).trans hseen.2, fun hin => ?_⟩
        have hphase := (congrArg Vism.phase hexit).symm.trans hin
        cases hphase
    | some s =>
      have hphase : s.phase = .created := (phase_machine hs).trans hcreated
      obtain ⟨hafter, hchanged⟩ := tick_machine hs
      rw [run_vismTick_created hphase] at hafter hchanged
      refine ⟨?_, fun hin => ?_⟩
      · rw [hchanged, ← (own_machine hs).1]
        exact changed_fixedAll.wanTransitionStart s
      · have hnext := hafter.symm.trans hin
        cases hnext
  obtain ⟨hchanged, hout⟩ := hself
  intro hoff u hin
  have hoff' : Off m := ⟨hoff.1, hchanged.symm.trans hoff.2.1, hoff.2.2⟩
  by_cases hut : u = t
  · exact hout (hut ▸ hin)
  · rw [InMaptActive, visms_tick_ne hut] at hin
    exact h hoff' u hin

theorem settled_step {e : Event} {m m' : Store} (h : Settled m) (hheeds : Heeds e m)
    (hstep : system.step e m m') : Settled m' := by
  cases e with
  | switched on =>
    have hm : m' = { m with maptFeature := on, events := m.events + 1 } := hstep
    intro hoff
    have hevents := hoff.1
    simp [hm] at hevents
  | handled =>
    obtain ⟨-, rfl⟩ := hstep
    exact fun hoff => absurd hoff.2.1 (by simp)
  | started t =>
    obtain ⟨hcreated, rfl⟩ := hstep
    exact settled_started h hcreated
  | ticked t =>
    obtain ⟨⟨s, st, hs, hphase⟩, rfl⟩ := hstep
    exact settled_ticked h hheeds hs hphase
  | other =>
    obtain ⟨hkeeps, hm⟩ := hstep
    intro hoff u hin
    rw [hm] at hoff
    exact h hoff u (hkeeps.fresh u _ hin)

/-- In a run all of whose steps heed the feature, no machine is in `MAPT_ACTIVE` once the feature
is off and that has been acted on, and no tick puts off the work of `MAPT_ACTIVE`. -/
theorem switches_heeded {m₀ m : Store} {es : List Event} (hstart : NoThreads m₀.world)
    (hr : (system.restrict Heeds).Run m₀ es m) :
    Settled m ∧ ∀ t s, Heeds (.ticked t) m → machine t m = some s → Performs s := by
  constructor
  · refine hr.invariant (K := fun _ => True) (fun _ _ => trivial) ?_ fun e u v _ hu hstep => ?_
    · intro _ t hin
      rw [InMaptActive, hstart.visms t] at hin
      cases hin
    · exact settled_step hu hstep.1 hstep.2
  · intro t s hheeds hs hchanged hphase
    obtain ⟨-, -, hstarves⟩ := hheeds s hs
    exact performs_of_not_starves (hstarves hphase) hchanged hphase

/-! ## Two machines in `MAPT_ACTIVE` -/

namespace Example

def ticks (t : Nat) : system.Move where
  event := .ticked t
  edit := tick t
  ready m := ((machine t m).map fun s => runs s.phase).getD false
  allowed _ h := ⟨exists_running h, rfl⟩

def starts (t : Nat) : system.Move where
  event := .started t
  edit := tick t
  ready m := (m.world.visms t).phase == .created
  allowed m h := ⟨by simpa using h, rfl⟩

def switches (on : Bool) : system.Move where
  event := .switched on
  edit m := { m with maptFeature := on, events := m.events + 1 }
  ready _ := true
  allowed _ _ := rfl

def handles : system.Move where
  event := .handled
  edit m := { m with events := m.events - 1, changed := true }
  ready m := decide (0 < m.events)
  allowed m h := ⟨by simpa using h, rfl⟩

def creates : system.Move where
  event := .other
  edit m := { m with world := createTwo m.world }
  ready m := (m.world.visms 0).phase == .absent && (m.world.visms 1).phase == .absent
  allowed m h := by
    simp only [Bool.and_eq_true, beq_iff_eq] at h
    exact ⟨keeps_createTwo h.1 h.2, rfl⟩

/-- Both virtual interfaces get an IPv6 lease with MAP-T. -/
def leases : system.Move where
  event := .other
  edit m := { m with world := onBoth withMapt m.world }
  ready _ := true
  allowed m _ := ⟨keeps_onBoth _ m.world, rfl⟩
where
  withMapt (v : VirtualIface) : VirtualIface :=
    { v with ip := { v.ip with ipv6Status := .up }, map := { v.map with maptStatus := .up } }

/-- An active interface with two virtual interfaces, and MAP-T enabled on both. -/
def start : Store where
  world := { shared := { ifaces := [iface] } }
  maptFeature := true
where
  iface : WanIface :=
    { baseInterfaceStatus := .up, selection := { status := .active }, virtIf := { enableMapt := true }
      moreVirtIfs := [{ enableMapt := true }] }

/-- The way of both machines to `MAPT_ACTIVE`. -/
def enter : List system.Move :=
  [creates, starts 0, starts 1, ticks 0, ticks 1, ticks 0, ticks 1, ticks 0, ticks 1, leases,
   ticks 0, ticks 1, ticks 0, ticks 1]

/-- The feature is switched off and on again before a machine ticks. -/
def undone : List system.Move := enter ++ [switches false, handles, switches true, handles]

/-- The feature is switched off, and the first machine acts on it. -/
def firstActs : List system.Move := enter ++ [switches false, handles, ticks 0]

/-- The tick heeds the feature as long as no machine acts on the flag. -/
def heeds (m : Store) (t : Nat) : Bool :=
  match machine t m with
  | none => false
  | some s => decide (Off m → vismTick.Admits NoMaptUp s) &&
      !switchesOff (prepared .maptActive s) && !starves (prepared .maptActive s)

theorem heeds_ticked {t : Nat} {m : Store} (h : heeds m t = true) : Heeds (.ticked t) m := by
  intro s hs
  simp only [heeds, hs, Bool.and_eq_true, decide_eq_true_eq, Bool.not_eq_true'] at h
  obtain ⟨⟨hadmits, hkeeps⟩, hstarves⟩ := h
  exact ⟨hadmits, fun _ hoff => by simp [hkeeps] at hoff, fun _ => hstarves⟩

def heedsEvent (m : Store) : Event → Bool
  | .ticked t => heeds m t
  | _ => true

def guarded (move : system.Move) : (system.restrict Heeds).Move :=
  move.guarded (fun m => heedsEvent m move.event) fun m h => by
    cases he : move.event with
    | ticked t =>
      rw [he] at h
      exact heeds_ticked h
    | switched | handled | started | other => trivial

theorem noThreads : NoThreads start.world := ⟨rfl, fun _ => rfl, fun _ => rfl⟩

end Example

/-- A switch that was undone before a machine saw it costs an idle machine nothing. -/
theorem switches_heeded_undone : ∃ m s, InMaptActive m 0 ∧ m.changed = true ∧ machine 0 m = some s ∧
    Performs s := by
  have hplays : (system.restrict Heeds).plays (Example.undone.map Example.guarded) Example.start = true := by
    decide +kernel
  have hheeds : Example.heeds ((system.restrict Heeds).play (Example.undone.map Example.guarded)
      Example.start) 0 = true := by decide +kernel
  have hmachine : (machine 0 ((system.restrict Heeds).play (Example.undone.map Example.guarded)
      Example.start)).isSome = true := by decide +kernel
  obtain ⟨s, hs⟩ := Option.isSome_iff_exists.mp hmachine
  obtain ⟨-, hperforms⟩ := switches_heeded Example.noThreads (.play hplays)
  exact ⟨_, s, by decide +kernel, by decide +kernel, hs,
    hperforms 0 s (Example.heeds_ticked hheeds) hs⟩

/-- The first machine takes the flag back, and the second one stays in `MAPT_ACTIVE`. -/
theorem second_keeps_mapt :
    ¬ ∀ (m₀ m : Store) (es : List Event), NoThreads m₀.world → system.Run m₀ es m →
      Settled m ∧ ∀ t s, machine t m = some s → Performs s := by
  intro h
  have hplays : system.plays Example.firstActs Example.start = true := by decide +kernel
  have hoff : Off (system.play Example.firstActs Example.start) := by decide +kernel
  have hstays : ((system.play Example.firstActs Example.start).world.visms 1).phase =
      .running .maptActive := by decide +kernel
  obtain ⟨hsettled, -⟩ := h _ _ _ Example.noThreads (.play hplays)
  exact hsettled hoff 1 hstays

end MaptFeature
end WanManager
