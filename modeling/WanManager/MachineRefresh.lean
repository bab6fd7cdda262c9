import WanManager.MachineStates
import WanManager.InterfaceSmMoves

/-! # After the interface was given up

A machine that is left alone gives its interface up with all families down. It ends, or it waits for
its links, or it is refreshed; the refresh finds no family up and no request, and what it starts has
no reason to be given up again, unless the timer of a VLAN discovery has run out. -/

namespace WanManager
open Concurrency

namespace InterfaceSm

/-! ## One tick of a steady machine -/

def loadOf (s : Vism) : Nat :=
  match s.phase with
  | .running st => load st s
  | _ => 0

section Tick

variable {st st' : WanState} {s : Vism}

theorem standbyLost_prepared (st : WanState) (s : Vism) :
    standbyLost (prepared st s) = standbyLost s := by
  by_cases henable : s.virtIf.ppp.enable = true <;>
    simp [standbyLost, vlanDown, pppNotUp, prepared, ipcMsgHandle, updateWanConfig, Vism.mapPpp,
      Vism.mapVirtIf, henable]

theorem load_prepared (st : WanState) (s : Vism) : load st (prepared st s) = load st s := by
  have hplace : ∀ active lost, (ledger (prepared st s)).place active lost st =
      (ledger s).place active lost st := fun _ _ => rfl
  simp only [load, standbyLost_prepared, hplace]
  rfl

/-- What a tick does not write. -/
theorem alone_fixed {β : Type} {f : Vism → β} (h : FixedAll f)
    (hfeature : ∀ s, f { s with maptFeatureEnableChanged := false } = f s)
    (henter : ∀ st' u, f (enter st st' u) = f u) (hs : s.phase = .running st) :
    f (alone s) = f (prepared st s) := by
  rw [alone_running hs, henter]
  exact spares_answered h.fixed.linkBlind (h.wanState hfeature st (prepared st s))

theorem outside_alone (hs : s.phase = .running st) : (alone s).outside = s.outside :=
  alone_fixed outside_fixedAll (fun _ => rfl) (fun _ _ => rfl) hs

theorem steady_alone (hs : s.phase = .running st) (h : s.config.deviceNwModeChanged = false) :
    Steady (alone s) := by
  have hfixed := alone_fixed steady_fixedAll (fun _ => rfl) (fun _ _ => rfl) hs
  simp only [prepared, ipcMsgHandle, updateWanConfig, Vism.mapPpp, Vism.mapVirtIf, Prod.mk.injEq,
    h] at hfixed
  obtain ⟨henable, hmode, hconfig, htaken⟩ := hfixed
  exact ⟨henable.trans hconfig.symm, hmode, htaken⟩

theorem taken_alone (hs : s.phase = .running st) : (alone s).config.deviceNwModeChanged = false := by
  have hfixed := alone_fixed steady_fixedAll (fun _ => rfl) (fun _ _ => rfl) hs
  exact congrArg (fun v => v.2.2.2) hfixed

theorem alone_of_closes {Q : WanState → Vism → Prop} (hs : s.phase = .running st)
    (h : Closes Q (wanState st) (prepared st s)) : ∃ st' u, alone s = enter st st' u ∧ Q st' u :=
  ⟨_, _, alone_running hs, h⟩

theorem phase_alone (hs : s.phase = .running st) (hexit : st ≠ .exit) :
    (alone s).phase = .running (((wanState st).answered reply).run (prepared st s)).1 := by
  rw [alone_running hs]
  exact if_neg hexit

/-- A machine at work gives its interface up with all families down, or goes on. -/
theorem families_givenUp {G : WanTransition → Ledger → Prop} {b b' : Ledger}
    (h : Ledger.Move G st b st' b') (hst : givenUp st = false) (hst' : givenUp st' = true) :
    b'.families = 0 := by
  obtain ⟨-, rfl⟩ | ⟨rfl, -⟩ | ⟨-, hgiven, -⟩ := h.to_idle (not_mayBeUsable_of_givenUp hst')
  · exact Ledger.families_familiesDown
  · rw [hst] at hst'
    cases hst'
  · rw [hgiven hst'] at hst
    cases hst

/-- A tick of a machine at work: it gives the interface up, or what it has ahead gets less, or it was
idle. -/
theorem alone_atWork (hs : s.phase = .running st) (hst : givenUp st = false) (hsteady : Steady s)
    (ho : Succeeds s.outside) : ∃ st', (alone s).phase = .running st' ∧
      (givenUp st' = true ∧ (ledger (alone s)).families = 0 ∨
        givenUp st' = false ∧ (loadOf (alone s) < loadOf s ∨
          alone s = idle s ∧ loadOf (alone s) ≤ loadOf s)) := by
  have hexit : st ≠ .exit := by
    rintro rfl
    cases hst
  have hworking : Working (prepared st s) := ⟨ho, hsteady.taken⟩
  have hphase := phase_alone hs hexit
  have hload : loadOf (alone s) = load (((wanState st).answered reply).run (prepared st s)).1
      (((wanState st).answered reply).run (prepared st s)).2 := by
    rw [loadOf, hphase, alone_running hs]
    rfl
  have hbefore : loadOf s = load st (prepared st s) := by
    rw [loadOf, hs, load_prepared]
  refine ⟨_, hphase, ?_⟩
  cases hnext : givenUp (((wanState st).answered reply).run (prepared st s)).1 with
  | true =>
    refine .inl ⟨rfl, ?_⟩
    obtain ⟨t, ht⟩ := ends_wanState st (prepared st s)
    have hmove := makes_wanState (G := fun _ _ => True) st rfl rfl (prepared st s) rfl
      ((Prog.admits_true _ _).mono fun l u _ => guardOf_true l u)
    have hfamilies : (ledger ((wanState st).run (prepared st s)).2).families = 0 := by
      rw [ht] at hnext
      exact families_givenUp hmove hst hnext
    have hreply := ledger_blind.toLinkBlind.reply (.wanTransition t) ((wanState st).run (prepared st s)).2
    rw [← hfamilies, ← hreply, alone_running hs, ht]
    rfl
  | false =>
    refine .inr ⟨rfl, ?_⟩
    obtain hup | hless | ⟨hsame, hidle⟩ := progress_wanState hst hworking
    · rw [hup] at hnext; cases hnext
    · exact .inl (by rwa [hload, hbefore])
    · have halone : alone s = idle s := by
        rw [alone_running hs, hsame, hidle, idle, hs]
      refine .inr ⟨halone, ?_⟩
      rw [hload, hbefore, hsame, hidle]
      exact (load_comeUp_le st _).trans (load_order_le st _)

/-! ## The states of an interface that was given up -/

theorem cameUp_bne_down (x : LinkStatus) : (cameUp x != .down) = (x != .down) := by
  cases x <;> rfl

theorem linksStillUp_comeUp (s : Vism) : linksStillUp (comeUp s) = linksStillUp s := by
  simp only [linksStillUp, comeUp, Vism.mapVlan, Vism.mapPpp, Vism.mapVirtIf, cameUp_bne_down]

theorem linksStillUp_prepared (st : WanState) (s : Vism) :
    linksStillUp (prepared st s) = linksStillUp s := by
  by_cases henable : s.virtIf.ppp.enable = true <;>
    simp [linksStillUp, prepared, ipcMsgHandle, updateWanConfig, Vism.mapPpp, Vism.mapVirtIf, henable]

/-- Two idle ticks. -/
theorem settles_of_idle (hs : s.phase = .running st) (hsteady : Steady s) (hexit : st ≠ .exit)
    (h : alone s = idle s) (h' : alone (idle s) = idle (idle s)) : Settles alone s := by
  apply Settles.of_apply
  apply settles_of_fixed
  rw [h, h', idle_idle hs hsteady hexit]

theorem settles_exited (hs : s.phase = .exited) : Settles alone s :=
  settles_of_fixed (alone_gone (.inr hs))

theorem settles_exit (hs : s.phase = .running .exit) : Settles alone s := by
  apply Settles.of_apply
  apply settles_exited
  rw [alone_running hs]
  rfl

theorem closes_deconfiguringWan (p : Vism) :
    Closes (fun st' u => linksStillUp p = true ∧ st' = .deconfiguringWan ∧ u = comeUp p ∨
      linksStillUp p = false ∧ st' = .exit) wanStateDeconfiguringWan p := by
  apply closes_self
  split
  · next hup => exact closes_go (.inl ⟨hup, rfl, rfl⟩)
  · next hdown => exact closes_go (.inr ⟨by simpa using hdown, rfl⟩)

theorem settles_deconfiguringWan (hs : s.phase = .running .deconfiguringWan) (hsteady : Steady s) :
    Settles alone s := by
  have hkeep : ∀ u : Vism, u.phase = .running .deconfiguringWan → linksStillUp u = true →
      alone u = idle u := by
    intro u hu hup
    obtain ⟨st', v, halone, ⟨-, rfl, rfl⟩ | ⟨hdown, -⟩⟩ :=
      alone_of_closes hu (closes_deconfiguringWan _)
    · rw [halone, idle, hu]
      rfl
    · rw [linksStillUp_prepared, hup] at hdown
      cases hdown
  obtain ⟨st', u, halone, ⟨hup, rfl, rfl⟩ | ⟨-, rfl⟩⟩ :=
    alone_of_closes hs (closes_deconfiguringWan _)
  · rw [linksStillUp_prepared] at hup
    have hphase : (alone s).phase = .running .deconfiguringWan := by
      rw [halone]
      rfl
    have hidle := hkeep s hs hup
    have hup' : linksStillUp (alone s) = true := by
      rw [halone]
      exact (linksStillUp_comeUp _).trans ((linksStillUp_prepared _ s).trans hup)
    exact settles_of_idle hs hsteady (by simp) hidle (hidle ▸ hkeep _ hphase hup')
  · apply Settles.of_apply
    apply settles_exit
    rw [halone]
    rfl

/-! ## After a refresh -/

/-- `WAN_STATE_VLAN_CONFIGURING` to `WAN_STATE_OBTAINING_IP_ADDRESSES` -/
def withoutLease : WanState → Bool
  | .vlanConfiguring | .pppConfiguring | .validatingWan | .obtainingIpAddresses => true
  | _ => false

/-- A machine without leases that has no reason to give its interface up: there is no request, no
discovery is overdue, and the links it has been through are up. -/
structure Refreshed (st : WanState) (s : Vism) : Prop where
  withoutLease : withoutLease st = true
  usable : interfaceDown s = false
  reset : s.virtIf.reset = false
  timer : vlanTimerExpired s = false
  families : (ledger s).families = 0
  vlanLink : s.virtIf.vlan.status ≠ .configuring
  pppLink : s.virtIf.ppp.linkStatus ≠ .configuring
  vlanUp : st ≠ .vlanConfiguring → vlanDown s = false
  pppUp : st ≠ .vlanConfiguring → st ≠ .pppConfiguring → pppNotUp s = false

/-- What a machine without leases does not write, but for its PPP session. -/
def lasting (s : Vism) : Bool × Bool × Bool × Bool × LinkStatus :=
  (interfaceDown s, s.virtIf.reset, vlanTimerExpired s, vlanDown s, s.virtIf.vlan.status)

theorem lasting_fixedLeases : FixedLeases lasting where
  ip _ _ := rfl
  map _ _ := rfl
  status _ _ := rfl
  accounts _ _ _ _ _ := rfl

theorem ppp_fixedLeases : FixedLeases fun s => s.virtIf.ppp where
  ip _ _ := rfl
  map _ _ := rfl
  status _ _ := rfl
  accounts _ _ _ _ _ := rfl

section Refreshed

variable {p u : Vism}

theorem cameUp_ne (x : LinkStatus) : cameUp x ≠ .configuring := by
  cases x <;> simp [cameUp]

theorem cameUp_self {x : LinkStatus} (h : x ≠ .configuring) : cameUp x = x := if_neg h

/-- A transition to a state without a lease. -/
theorem Refreshed.next (h : Refreshed st p) (hst : InterfaceSm.withoutLease st' = true)
    (hlasting : lasting u = lasting p) (hfamilies : (ledger u).families = 0)
    (hvlan : st' ≠ .vlanConfiguring → vlanDown p = false)
    (hppp : st' ≠ .vlanConfiguring → st' ≠ .pppConfiguring → pppNotUp u = false) :
    Refreshed st' (comeUp u) := by
  simp only [lasting, Prod.mk.injEq] at hlasting
  obtain ⟨hdown, hreset, htimer, hvlanDown, hstatus⟩ := hlasting
  have hlink : vlanDown (comeUp u) = vlanDown u := by
    have hup : cameUp u.virtIf.vlan.status = u.virtIf.vlan.status :=
      cameUp_self (hstatus ▸ h.vlanLink)
    simp only [vlanDown, comeUp, Vism.mapVlan, Vism.mapPpp, Vism.mapVirtIf, hup]
  have hsession : pppNotUp u = false → pppNotUp (comeUp u) = false := by
    simp only [pppNotUp, comeUp, Vism.mapVlan, Vism.mapPpp, Vism.mapVirtIf]
    cases u.virtIf.ppp.linkStatus <;> simp [cameUp]
  exact {
    withoutLease := hst
    usable := hdown.trans h.usable
    reset := hreset.trans h.reset
    timer := htimer.trans h.timer
    families := hfamilies
    vlanLink := cameUp_ne _
    pppLink := cameUp_ne _
    vlanUp := fun hne => hlink.trans (hvlanDown.trans (hvlan hne))
    pppUp := fun hne hne' => hsession (hppp hne hne') }

/-- What is done without leaving the state. -/
theorem Refreshed.act (h : Refreshed st p) (hlasting : lasting u = lasting p)
    (hlink : u.virtIf.ppp.linkStatus = p.virtIf.ppp.linkStatus)
    (henable : u.virtIf.ppp.enable = p.virtIf.ppp.enable) (hfamilies : (ledger u).families = 0) :
    Refreshed st u := by
  simp only [lasting, Prod.mk.injEq] at hlasting
  obtain ⟨hdown, hreset, htimer, hvlanDown, hstatus⟩ := hlasting
  have hppp : pppNotUp u = pppNotUp p := by simp only [pppNotUp, hlink, henable]
  exact {
    withoutLease := h.withoutLease
    usable := hdown.trans h.usable
    reset := hreset.trans h.reset
    timer := htimer.trans h.timer
    families := hfamilies
    vlanLink := hstatus ▸ h.vlanLink
    pppLink := hlink ▸ h.pppLink
    vlanUp := fun hne => hvlanDown.trans (h.vlanUp hne)
    pppUp := fun hne hne' => hppp.trans (h.pppUp hne hne') }

theorem Refreshed.prepared (h : Refreshed st s) (hsteady : Steady s) : Refreshed st (prepared st s) := by
  have hlasting : lasting (InterfaceSm.prepared st s) = lasting s := by
    rw [InterfaceSm.prepared, updateWanConfig_self hsteady]
    rfl
  have hsession : (InterfaceSm.prepared st s).virtIf.ppp.linkStatus = s.virtIf.ppp.linkStatus ∧
      (InterfaceSm.prepared st s).virtIf.ppp.enable = s.virtIf.ppp.enable := by
    by_cases henable : s.virtIf.ppp.enable = true <;>
      simp [InterfaceSm.prepared, ipcMsgHandle, updateWanConfig, Vism.mapPpp, Vism.mapVirtIf, henable]
  exact h.act hlasting hsession.1 hsession.2 h.families

theorem refreshed_keep (h : Refreshed st p) : Closes Refreshed (keep st) p :=
  closes_go (h.next h.withoutLease rfl h.families h.vlanUp h.pppUp)

theorem no_lease (h : (ledger s).families = 0) : s.virtIf.ip.ipv4Status ≠ .up ∧
    s.virtIf.ip.ipv6Status ≠ .up ∧ s.virtIf.map.maptStatus ≠ .up := by
  rw [ipv4Status_eq, ipv6Status_eq, maptStatus_eq]
  unfold Ledger.families at h
  grind

theorem pppNotUp_setPpp (s : Vism) : pppNotUp (setPpp .up s) = false := by
  by_cases henable : s.virtIf.ppp.enable = true <;>
    simp [pppNotUp, setPpp, Vism.mapPpp, Vism.mapVirtIf, henable]

theorem refreshed_vlanConfiguring (h : Refreshed .vlanConfiguring p) :
    Closes Refreshed wanStateVlanConfiguring p := by
  apply closes_self
  rw [if_neg (by simp [h.usable]), if_neg (by simp [h.timer])]
  split
  · exact refreshed_keep h
  · next hup =>
    have hlink : vlanDown p = false := by
      unfold vlanDown
      by_cases henable : p.virtIf.vlan.enable = true <;> simp_all
    exact closes_go (h.next rfl rfl h.families (fun _ => hlink) fun _ hne => absurd rfl hne)

theorem refreshed_pppConfiguring (h : Refreshed .pppConfiguring p) :
    Closes Refreshed wanStatePppConfiguring p := by
  apply closes_self
  rw [if_neg (by simp [h.usable]), if_neg (by simp [h.timer])]
  split
  · exact refreshed_keep h
  · next hready =>
    have hsession : pppNotUp p = false := by
      unfold pppNotUp
      by_cases henable : p.virtIf.ppp.enable = true <;> simp_all [pppReady]
    exact closes_go (h.next rfl rfl h.families (fun _ => h.vlanUp (by simp)) fun _ _ => hsession)

theorem refreshed_wanValidated (h : Refreshed st p)
    (hst : st = .validatingWan ∨ st = .obtainingIpAddresses) :
    Closes Refreshed (go .wanValidated wanTransitionWanValidated) p := by
  have hfamilies : (ledger (wanTransitionWanValidated p).2).families = 0 :=
    Nat.le_zero.mp (h.families ▸ families_wanValidated p)
  have hlasting : lasting (wanTransitionWanValidated p).2 = lasting p :=
    wanValidated_of_fixedLeases lasting_fixedLeases (fetchPppStatus_of_mapPpp fun _ _ _ => rfl) p
  have hsession : pppNotUp (wanTransitionWanValidated p).2 = pppNotUp p := by
    refine wanValidated_of_fixedLeases ?_ (fetchPppStatus_of_mapPpp fun s g hg => ?_) p
    · exact { ip := fun _ _ => rfl, map := fun _ _ => rfl, status := fun _ _ => rfl,
              accounts := fun _ _ _ _ _ => rfl }
    · simp only [pppNotUp, Vism.mapPpp, Vism.mapVirtIf, (hg s.virtIf.ppp).1, (hg s.virtIf.ppp).2]
  have hup : vlanDown p = false ∧ pppNotUp p = false := by
    obtain rfl | rfl := hst
    · exact ⟨h.vlanUp (by simp), h.pppUp (by simp) (by simp)⟩
    · exact ⟨h.vlanUp (by simp), h.pppUp (by simp) (by simp)⟩
  exact closes_go (h.next rfl hlasting hfamilies (fun _ => hup.1) fun _ _ => hsession.trans hup.2)

theorem refreshed_validatingWan (h : Refreshed .validatingWan p) :
    Closes Refreshed wanStateValidatingWan p := by
  apply closes_self
  rw [if_neg (by simp [h.usable]), if_neg (by simp [h.timer])]
  exact refreshed_wanValidated h (.inl rfl)

theorem refreshed_maptSwitchedOn (h : Refreshed .obtainingIpAddresses p) :
    Closes Refreshed (maptSwitchedOn .obtainingIpAddresses) p := by
  apply closes_self
  split
  · apply closes_act
    have hcleared : Refreshed .obtainingIpAddresses { p with maptFeatureEnableChanged := false } :=
      h.act rfl rfl rfl h.families
    generalize ({ p with maptFeatureEnableChanged := false } : Vism) = v at hcleared
    have hlasting := lasting_fixedLeases.wanTransitionMaptFeatureRefresh v
    have hdown : (ledger (wanTransitionMaptFeatureRefresh v).2).families = 0 := by
      have hnone := hcleared.families
      have hless := Ledger.families_ipv6Down (b := ledger v)
      rw [ledger_featureRefresh]
      simp only [Ledger.featureRefresh, Ledger.families] at hless hnone ⊢
      grind
    apply closes_go
    have hst : (wanTransitionMaptFeatureRefresh v).1 = .obtainingIpAddresses := rfl
    rw [hst]
    generalize (wanTransitionMaptFeatureRefresh v).2 = w at hlasting hdown
    exact hcleared.next (u := setPpp .up w) rfl hlasting hdown (fun _ => hcleared.vlanUp (by simp))
      fun _ _ => pppNotUp_setPpp w
  · exact refreshed_keep h

theorem refreshed_obtainAddresses (h : Refreshed .obtainingIpAddresses p) :
    Closes Refreshed obtainAddresses p := by
  apply closes_self
  split
  · apply closes_act
    apply refreshed_keep
    have hsession := ppp_fixedLeases.clientBlind.refreshDhcpClients ppp_fixedLeases.status p
    refine h.act ?_ (congrArg (·.linkStatus) hsession) (congrArg (·.enable) hsession) ?_
    · exact lasting_fixedLeases.clientBlind.refreshDhcpClients lasting_fixedLeases.status p
    · have hblind := (ledger_blind.comp Ledger.families).toClientBlind
      exact (hblind.refreshDhcpClients (fun _ _ => rfl) p).trans h.families
  · apply closes_act
    have hmonitored : Refreshed .obtainingIpAddresses (monitorDhcpApps p) := by
      have hsession := ppp_fixedLeases.clientBlind.monitorDhcpApps p
      refine h.act (lasting_fixedLeases.clientBlind.monitorDhcpApps p)
        (congrArg (·.linkStatus) hsession) (congrArg (·.enable) hsession) ?_
      rw [ledger_monitorDhcpApps]
      exact h.families
    have hnone := no_lease hmonitored.families
    apply closes_self
    rw [if_neg hnone.1, if_neg hnone.2.1]
    split
    · exact refreshed_maptSwitchedOn hmonitored
    · exact refreshed_keep hmonitored

theorem refreshed_obtainMapt (h : Refreshed .obtainingIpAddresses p) :
    Closes Refreshed obtainMapt p := by
  have hnone := no_lease h.families
  apply closes_self
  rw [if_neg hnone.2.2]
  split
  · split
    · exact closes_act (refreshed_wanValidated (h.act rfl rfl rfl h.families) (.inr rfl))
    · exact refreshed_keep h
  · exact refreshed_obtainAddresses h

theorem refreshed_obtainingIpAddresses (h : Refreshed .obtainingIpAddresses p) :
    Closes Refreshed wanStateObtainingIpAddresses p := by
  have hvlan := h.vlanUp (by simp)
  have hppp := h.pppUp (by simp) (by simp)
  have hdown : (interfaceDown p || linksRestart p) = false := by
    simp [h.usable, linksRestart, h.vlanLink, h.pppLink, h.reset]
  have hlost : linksLost p = false := by
    have hsession : (p.virtIf.ppp.enable && p.virtIf.ppp.linkStatus == .down) = false := by
      unfold pppNotUp at hppp
      cases hstatus : p.virtIf.ppp.linkStatus <;> simp_all
    simp only [linksLost, h.timer, hvlan, hsession, Bool.or_self]
  apply closes_self
  rw [if_neg (by simp [hdown]), if_neg (by simp [hlost])]
  split
  · exact refreshed_obtainMapt h
  · exact refreshed_obtainAddresses h

theorem refreshed_wanState (h : Refreshed st p) : Closes Refreshed (wanState st) p := by
  cases st with
  | vlanConfiguring => exact refreshed_vlanConfiguring h
  | pppConfiguring => exact refreshed_pppConfiguring h
  | validatingWan => exact refreshed_validatingWan h
  | obtainingIpAddresses => exact refreshed_obtainingIpAddresses h
  | _ => exact absurd h.withoutLease (by simp [withoutLease])

end Refreshed

/-! ## A refresh -/

/-- The time for the discovery of a VLAN is over. -/
def timerRunOut (s : Vism) : Bool :=
  decide (s.virtIf.vlan.interfaceList.length > 1) &&
    decide (s.virtIf.vlan.timerStart + s.virtIf.vlan.timeout < s.now)

/-- A refresh with a timer that has run out starts a VLAN, and with it the timer. -/
def Rediscovers (s : Vism) : Prop :=
  s.phase = .running .refreshingWan → interfaceDown (prepared .refreshingWan s) = false →
    linksStillUp (prepared .refreshingWan s) = false →
      timerRunOut (prepared .refreshingWan s) = true → needsVlan (prepared .refreshingWan s) = true

instance (s : Vism) : Decidable (Rediscovers s) := by unfold Rediscovers; infer_instance

section Refresh

variable {p : Vism}

theorem interfaceDown_blind : Blind interfaceDown where
  vlan _ _ := rfl
  ppp _ _ := rfl
  ip _ _ _ := rfl
  config _ _ := rfl
  reset _ := rfl

theorem vlanTimerExpired_wanRefreshed (s : Vism) :
    vlanTimerExpired (wanTransitionWanRefreshed s).2 = (!needsVlan s && timerRunOut s) := by
  have hreset : ∀ u v : Vism, u.virtIf.vlan = v.virtIf.vlan → u.now = v.now →
      vlanTimerExpired ((u.mapVlan fun v => { v with reset := false, expired := false }).mapVirtIf
        fun v => { v with reset := false }) = timerRunOut v := by
    intro u v hvlan hnow
    simp only [vlanTimerExpired, timerRunOut, Vism.mapVlan, Vism.mapVirtIf, Bool.false_or]
    rw [← hnow]
    simp only [hvlan]
  have hstarted : ∀ u : Vism, timerRunOut (configureVlan true u) = false := by
    intro u
    unfold configureVlan
    split
    · have hnow : ¬ u.now + u.virtIf.vlan.timeout < u.now := Nat.not_lt.mpr (Nat.le_add_right _ _)
      simp only [timerRunOut, Vism.mapVlan, Vism.mapVirtIf, hnow, decide_false, Bool.and_false]
    · next hone => simp_all [timerRunOut]
  have hrescan : ∀ u : Vism, (if u.virtIf.reset then
      { u with config := { u.config with resetFailOverScan := true } } else u).virtIf.vlan =
        u.virtIf.vlan ∧ (if u.virtIf.reset then
      { u with config := { u.config with resetFailOverScan := true } } else u).now = u.now := by
    intro u
    split <;> exact ⟨rfl, rfl⟩
  simp only [wanTransitionWanRefreshed]
  rw [hreset _ _ (hrescan _).1 (hrescan _).2]
  cases needsVlan s with
  | true => exact hstarted _
  | false => rfl

theorem refreshes_fixedLeases : FixedLeases refreshes where
  ip _ _ := rfl
  map _ _ := rfl
  status _ _ := rfl
  accounts _ _ _ _ _ := rfl

theorem refreshes_linksDown (s : Vism) : refreshes (linksDown s) = refreshes s := by
  have hlink : ∀ v : VirtIfVlan,
      (if v.status = .configuring then { v with status := .down } else v).reset = v.reset ∧
        (if v.status = .configuring then { v with status := .down } else v).expired = v.expired := by
    intro v
    split <;> exact ⟨rfl, rfl⟩
  have hvlan : ∀ (u : Vism) (g : VirtIfVlan → VirtIfVlan),
      (∀ v, (g v).reset = v.reset ∧ (g v).expired = v.expired) →
        refreshes (u.mapVlan g) = refreshes u := by
    intro u g hg
    simp only [refreshes, Vism.mapVlan, Vism.mapVirtIf, hg]
  unfold linksDown
  simp only [configureVlan, Bool.false_and, Bool.false_eq_true, if_false]
  split
  · exact hvlan _ _ hlink
  · rfl

theorem refreshes_physicalInterfaceDown (s : Vism) : (wanTransitionPhysicalInterfaceDown s).1 =
    if refreshes s then .refreshingWan else .deconfiguringWan := by
  have hcheck : ∀ u : Vism, refreshes (stopConnectivityCheck (u.mapIp fun ip =>
      { ip with selectedModeTimerStatus := .notStarted })) = refreshes u := fun _ => rfl
  have hfst : ∀ u : Vism, (if refreshes u then (WanState.refreshingWan, u)
      else (.deconfiguringWan, u)).1 = if refreshes u then .refreshingWan else .deconfiguringWan := by
    intro u
    split <;> rfl
  simp only [wanTransitionPhysicalInterfaceDown]
  rw [hfst, refreshes_linksDown, hcheck, refreshes_fixedLeases.clientBlind.stopDhcpClients,
    refreshes_fixedLeases.familiesDown]

theorem closes_refreshingWan (p : Vism) : Closes (fun st' u =>
    interfaceDown p = true ∧ st' = .deconfiguringWan ∨
      interfaceDown p = false ∧ (linksStillUp p = true ∧ st' = .refreshingWan ∧ u = comeUp p ∨
        linksStillUp p = false ∧ st' = .vlanConfiguring ∧ u = comeUp (wanTransitionWanRefreshed p).2))
    wanStateRefreshingWan p := by
  apply closes_self
  split
  · next hdown =>
    apply closes_act
    have hcleared : refreshes ({ p.mapVlan fun v => { v with reset := false, expired := false } with
        virtIf.reset := false } : Vism) = false := rfl
    generalize ({ p.mapVlan fun v => { v with reset := false, expired := false } with
        virtIf.reset := false } : Vism) = v at hcleared
    have hfst := refreshes_physicalInterfaceDown v
    rw [hcleared] at hfst
    exact closes_go (.inl ⟨hdown, hfst⟩)
  next hdown =>
  have husable : interfaceDown p = false := by simpa using hdown
  split
  · next hup => exact closes_go (.inr ⟨husable, .inl ⟨hup, rfl, rfl⟩⟩)
  · next hlinks => exact closes_go (.inr ⟨husable, .inr ⟨by simpa using hlinks, rfl, rfl⟩⟩)

theorem reset_wanRefreshed (s : Vism) : (wanTransitionWanRefreshed s).2.virtIf.reset = false := rfl

/-- What a refresh starts has no reason to be given up. -/
theorem refreshed_wanRefreshed (hdown : interfaceDown p = false) (hfamilies : (ledger p).families = 0)
    (htimer : timerRunOut p = true → needsVlan p = true) :
    Refreshed .vlanConfiguring (comeUp (wanTransitionWanRefreshed p).2) := by
  have husable := (interfaceDown_blind.wanTransitionWanRefreshed p).trans hdown
  have hnone := (congrArg Ledger.families (ledger_wanTransitionWanRefreshed p)).trans hfamilies
  have hexpired : vlanTimerExpired (wanTransitionWanRefreshed p).2 = false := by
    rw [vlanTimerExpired_wanRefreshed]
    cases hout : timerRunOut p <;> simp_all
  have hreset := reset_wanRefreshed p
  generalize (wanTransitionWanRefreshed p).2 = u at husable hnone hexpired hreset
  exact {
    withoutLease := rfl
    usable := husable
    reset := hreset
    timer := hexpired
    families := hnone
    vlanLink := cameUp_ne _
    pppLink := cameUp_ne _
    vlanUp := fun hne => absurd rfl hne
    pppUp := fun hne => absurd rfl hne }

end Refresh

end Tick

end InterfaceSm
end WanManager
