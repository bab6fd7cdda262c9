import WanManager.InterfaceSmLedger

/-! # The state functions, as moves of the ledger

Whatever a state function of the interface state machine does, it ends with one `Move` of
the ledger; `vismTick_ticked` says so for a whole tick of the thread. -/

namespace WanManager
open Concurrency

namespace InterfaceSm

/-- A condition on the ledger a state function ends from, as a guard of a run. -/
def guardOf (G : WanTransition → Ledger → Prop) : Site → Vism → Prop
  | .wanTransition t, s => G t (ledger s)
  | _, _ => True

instance (G : WanTransition → Ledger → Prop) [∀ t b, Decidable (G t b)] (l : Site) (s : Vism) :
    Decidable (guardOf G l s) := by
  unfold guardOf
  split <;> infer_instance

theorem guardOf_true (l : Site) (s : Vism) : guardOf (fun _ _ => True) l s := by
  cases l <;> trivial

/-- From the interface `s`, `p` makes one move of the ledger `b`. -/
def Makes (G : WanTransition → Ledger → Prop) (st : WanState) (b : Ledger)
    (p : VismProg WanState) (s : Vism) : Prop :=
  Prog.Ensures (guardOf G) (· = s) p fun st' s' => Ledger.Move G st b st' (ledger s')

section Moves
open Ledger

variable {G : WanTransition → Ledger → Prop} {st st' : WanState} {b : Ledger} {s : Vism}

theorem makes_self {q : Vism → VismProg WanState} (h : Makes G st b (q s) s) :
    Makes G st b (self >>= q) s :=
  Prog.Ensures.critical_bind fun _ hs _ => hs ▸ h

theorem makes_act {f : Vism → Vism} {q : Unit → VismProg WanState}
    (h : Makes G st b (q ()) (f s)) : Makes G st b (act f >>= q) s :=
  Prog.Ensures.critical_bind fun _ hs _ => hs ▸ h

theorem makes_go {t : WanTransition} {f : Vism → WanState × Vism}
    (h : G t (ledger s) → Move G st b (entry (f s)).1 (entry (f s)).2) : Makes G st b (go t f) s :=
  Prog.Ensures.critical fun _ hs hg => hs ▸ h (hs ▸ hg)

theorem makes_keep (h : Stays st b (ledger s)) (hfound : Found st b) : Makes G st b (keep st) s :=
  makes_go fun hg => .keep hg h hfound

theorem makes_stay (h : ledger s = b) (hfound : Found st b) : Makes G st b (keep st) s := by
  subst h
  exact makes_keep (Stays.refl st (ledger s)) hfound

theorem makes_giveUp (h : ledger s = b) : Makes G st b giveUp s := by
  subst h
  apply makes_go
  intro hg
  have hdown := ledger_physicalInterfaceDown s
  have hnext : (wanTransitionPhysicalInterfaceDown s).1 = .refreshingWan ∨
      (wanTransitionPhysicalInterfaceDown s).1 = .deconfiguringWan := by
    simp only [wanTransitionPhysicalInterfaceDown]
    split
    · exact .inl rfl
    · exact .inr rfl
  rw [entry, hdown]
  rcases hnext with hst | hst <;> rw [hst]
  · exact .down hg
  · exact .giveUp hg

theorem makes_giveUpVlan (h : ledger s = b) : Makes G st b giveUpVlan s :=
  makes_act (makes_giveUp h)

theorem makes_refresh (h : ledger s = b)
    (hst : leased st = true ∨ st = .obtainingIpAddresses ∧ b.ipv4 ≠ .up) :
    Makes G st b (go .maptFeatureRefresh wanTransitionMaptFeatureRefresh) s := by
  subst h
  apply makes_go
  intro hg
  rw [entry, ledger_featureRefresh]
  exact .refresh hg hst

theorem makes_maptSwitchedOn (h : ledger s = b)
    (hst : leased st = true ∨ st = .obtainingIpAddresses ∧ b.ipv4 ≠ .up) (hfound : Found st b) :
    Makes G st b (maptSwitchedOn st) s := by
  apply makes_self
  split
  · exact makes_act (makes_refresh h hst)
  · exact makes_stay h hfound

theorem makes_ipv4Up (h : ledger s = b) (hst : st = .obtainingIpAddresses ∨ st = .ipv6Leased)
    (h4 : b.ipv4 = .up) : Makes G st b (go .ipv4Up wanTransitionIpv4Up) s := by
  subst h
  apply makes_go
  intro _
  rw [entry_ipv4Up]
  exact .ipv4Up hst h4

theorem makes_ipv6Up (h : ledger s = b) (hst : st = .obtainingIpAddresses ∨ st = .ipv4Leased)
    (h6 : b.ipv6 = .up) : Makes G st b (go .ipv6Up wanTransitionIpv6Up) s := by
  subst h
  apply makes_go
  intro _
  rw [entry_ipv6Up]
  exact .ipv6Up hst h6

theorem makes_standby (h : ledger s = b) (hup : b.ipv4 = .up ∨ b.ipv6 = .up) :
    Makes G .obtainingIpAddresses b (go .standby wanTransitionStandby) s := by
  subst h
  apply makes_go
  intro _
  rw [wanTransitionStandby, entry, ledger_startConnectivityCheck]
  exact .standby hup

theorem makes_ipv4Down (h : ledger s = b) (hst : leased st = true) :
    Makes G st b (go .ipv4Down wanTransitionIpv4Down) s := by
  subst h
  apply makes_go
  intro hg
  rw [entry_ipv4Down]
  exact .ipv4Down hg hst

theorem makes_ipv6Down (h : ledger s = b) (hst : leased st = true) :
    Makes G st b (go .ipv6Down wanTransitionIpv6Down) s := by
  subst h
  apply makes_go
  intro hg
  rw [entry_ipv6Down]
  exact .ipv6Down hg hst

theorem makes_standbyDeconfigIps (h : ledger s = b) (hst : leased st = true)
    (hfound : st = .maptActive ∨ Found st b) :
    Makes G st b (go .standbyDeconfigIps wanTransitionStandbyDeconfigIps) s := by
  subst h
  apply makes_go
  intro hg
  rw [entry, ledger_standbyDeconfigIps]
  exact .standbyDeconfig hg hst hfound

theorem makes_maptUp (h : ledger s = b) (hcur : b.current = st) (hm : b.mapt = .up)
    (hst : st = .ipv6Leased ∨ st = .dualStackActive) :
    Makes G st b (go .maptUp wanTransitionMaptUp) s := by
  subst h
  apply makes_go
  intro _
  obtain ⟨c, hup | hfail | hrefused⟩ := entry_maptUp s
  · rw [hup]
    exact .maptUp hst hm
  · rw [hfail, hcur]
    exact .maptFails hst hm
  · rw [hrefused, hcur]
    exact .maptRefused hst hm

theorem makes_vlanConfiguring (h : ledger s = b) :
    Makes G .vlanConfiguring b wanStateVlanConfiguring s := by
  apply makes_self
  split
  · exact makes_giveUp h
  split
  · exact makes_giveUpVlan h
  split
  · exact makes_stay h trivial
  · apply makes_go
    intro _
    rw [wanTransitionPppConfigure, entry_mk, ledger_mapPpp, h]
    exact .pppConfigure

theorem makes_pppConfiguring (h : ledger s = b) :
    Makes G .pppConfiguring b wanStatePppConfiguring s := by
  apply makes_self
  split
  · exact makes_giveUp h
  split
  · exact makes_giveUpVlan h
  split
  · exact makes_stay h trivial
  · apply makes_go
    intro _
    rw [wanTransitionWanUp, entry_mk, ledger_setStatus, h]
    exact .wanUp

theorem makes_validatingWan (h : ledger s = b) :
    Makes G .validatingWan b wanStateValidatingWan s := by
  apply makes_self
  split
  · exact makes_giveUp h
  split
  · exact makes_giveUpVlan h
  · subst h
    apply makes_go
    intro _
    refine .validated ?_ ?_ ?_ <;> rw [entry, ledger_wanValidated] <;> split <;> rfl

theorem stays_refreshDhcpClients (s : Vism) :
    Stays .obtainingIpAddresses (ledger s) (ledger (refreshDhcpClients s)) := by
  have hfollow : ∀ (uses started : Vism → Bool) (start stop : Vism → Vism),
      (∀ s, ledger (start s) = ledger s) → (∀ s, ledger (stop s) = ledger s) →
        ∀ s, ledger (followMode uses started start stop s) = ledger s := by
    intro uses started start stop hstart hstop s
    simp only [followMode, ledger_ite, hstart, hstop, ite_self]
  have hdone : ∀ s : Vism, ledger (s.mapIp fun ip => { ip with refreshDhcp := false }) = ledger s :=
    fun _ => rfl
  have h4 := hfollow usesDhcpv4 started4 _ _ ledger_startDhcpv4Client ledger_stopDhcpv4Client
  have h6 := hfollow usesDhcpv6 started6 _ _ ledger_startDhcpv6Client ledger_stopDhcpv6Client
  simp only [refreshDhcpClients, hdone, ledger_ite, ledger_setStatus, h6, h4]
  split
  · exact ⟨rfl, .inr rfl, rfl, rfl, rfl, fun _ => rfl, rfl, rfl⟩
  · exact Stays.refl _ _

theorem makes_obtainIpv6 (h : ledger s = b) (h6 : b.ipv6 = .up) :
    Makes G .obtainingIpAddresses b obtainIpv6 s := by
  apply makes_self
  split
  · exact makes_standby h (.inr h6)
  split
  · exact makes_act (makes_stay h trivial)
  split
  · exact makes_ipv6Up h (.inl rfl) h6
  · exact makes_stay h trivial

theorem makes_obtainLease (h : ledger s = b) : Makes G .obtainingIpAddresses b obtainLease s := by
  apply makes_act
  apply makes_self
  have hm : ledger (monitorDhcpApps s) = b := (ledger_monitorDhcpApps s).trans h
  rw [ipv4Status_eq, ipv6Status_eq, hm]
  split
  · next h4 =>
    split
    · exact makes_ipv4Up hm (.inl rfl) h4
    · exact makes_standby hm (.inl h4)
  · next h4 =>
    split
    · next h6 => exact makes_obtainIpv6 hm h6
    split
    · exact makes_maptSwitchedOn hm (.inr ⟨rfl, h4⟩) trivial
    · exact makes_stay hm trivial

theorem makes_obtainAddresses (h : ledger s = b) :
    Makes G .obtainingIpAddresses b obtainAddresses s := by
  apply makes_self
  split
  · subst h
    exact makes_act (makes_keep (stays_refreshDhcpClients s) trivial)
  · exact makes_obtainLease h

theorem makes_obtainMapt (h : ledger s = b) : Makes G .obtainingIpAddresses b obtainMapt s := by
  apply makes_self
  split
  · exact makes_act (makes_obtainAddresses h)
  split
  · split
    · apply makes_act
      apply makes_go
      intro hg
      rw [entry, ledger_wanValidated, if_neg fun hdhcp => hdhcp.2 rfl]
      subst h
      exact .expired hg
    · exact makes_stay h trivial
  · exact makes_obtainAddresses h

theorem makes_obtainingIpAddresses (h : ledger s = b) :
    Makes G .obtainingIpAddresses b wanStateObtainingIpAddresses s := by
  apply makes_self
  split
  · exact makes_giveUp h
  split
  · exact makes_giveUpVlan h
  split
  · exact makes_obtainMapt h
  · exact makes_obtainAddresses h

theorem makes_standbyState (h : ledger s = b) : Makes G .standby b wanStateStandby s := by
  apply makes_self
  split
  · exact makes_giveUp h
  apply makes_act
  apply makes_self
  have hm : ledger (monitorDhcpApps s) = b := (ledger_monitorDhcpApps s).trans h
  split
  · apply makes_go
    intro hg
    rw [hm] at hg
    rw [entry_mk, hm]
    exact .lost hg
  next hnot =>
  have hfound : Found .standby b := by
    rw [← hm]
    rintro ⟨h4, h6⟩
    rw [← ipv4Status_eq] at h4
    rw [← ipv6Status_eq] at h6
    exact hnot (by simp [standbyLost, h4, h6])
  split
  · apply makes_go
    intro hg
    obtain ⟨ready, hup⟩ := entry_activateStandby (monitorDhcpApps s)
    rw [hm] at hg hup
    rw [hup]
    exact .standbyUp hg hfound
  · apply makes_act
    refine makes_stay ?_ hfound
    rw [ledger_ite, ledger_startConnectivityCheck, ite_self, hm]

theorem stays_reconfigureIpv4 (hst : leased st = true) (s : Vism) :
    Stays st (ledger s) (ledger (reconfigureIpv4 s)) := by
  have hdone : ∀ s : Vism, ledger (s.mapIp fun ip => { ip with ipv4Changed := false }) = ledger s :=
    fun _ => rfl
  simp only [reconfigureIpv4, ledger_ite, hdone, ledger_sendMsgToConnectivityCheck,
    ledger_setUpIpv4, ledger_tearDownIpv4, ite_self]
  split <;> exact Stays.reconfigure hst _ _ _ _

theorem stays_reconfigureIpv6 (hst : leased st = true) {done : Vism → Vism}
    (hdone : ∀ s, ledger (done s) = ledger s) (s : Vism) :
    Stays st (ledger s) (ledger (reconfigureIpv6 done s)) := by
  have hclear : ∀ s : Vism,
      ledger (s.mapIp fun ip => { ip with ipv6Changed := false }) = ledger s := fun _ => rfl
  simp only [reconfigureIpv6, ledger_ite, hdone, hclear, ledger_sendMsgToConnectivityCheck,
    ledger_setUpIpv6, ledger_setUpLanPrefixIpv6, ledger_tearDownIpv6, ite_self]
  split
  · split <;> exact Stays.reconfigure hst _ _ _ _
  · exact Stays.reconfigure hst _ _ _ _

theorem ledger_maptFollows (s : Vism) : ledger (maptFollows s) = ledger s := by
  unfold maptFollows
  split <;> rfl

theorem stays_reconfigureMaptActive (hst : leased st = true) (s : Vism) :
    Stays st (ledger s) (ledger (reconfigureMaptActive s)) := by
  have hmapt : Stays st (ledger s) (ledger (reconfigureMapt s)) := by
    have hdone : ∀ s : Vism, ledger (s.mapMap fun m => { m with maptChanged := false }) = ledger s :=
      fun _ => rfl
    simp only [reconfigureMapt, ledger_ite, hdone, ledger_setUpMapt, ledger_tearDownMapt, ite_self]
    split <;> exact Stays.reconfigure hst _ _ _ _
  unfold reconfigureMaptActive
  split
  · exact stays_reconfigureIpv6 hst ledger_maptFollows s
  split
  · exact hmapt
  split
  · rw [ledger_renewIpv6]
    exact Stays.refl _ _
  · exact Stays.refl _ _

theorem makes_ipv4Leased (h : ledger s = b) : Makes G .ipv4Leased b wanStateIpv4Leased s := by
  apply makes_act
  apply makes_act
  apply makes_self
  have hm : ledger (monitorDhcpApps (joinDhcpv6 s)) = b := by
    rw [ledger_monitorDhcpApps, ledger_joinDhcpv6, h]
  generalize monitorDhcpApps (joinDhcpv6 s) = u at hm ⊢
  split
  · exact makes_giveUp hm
  split
  · exact makes_ipv4Down hm rfl
  next hup =>
  have hfound : Found .ipv4Leased b := by
    rw [← hm]
    intro hdown
    rw [← ipv4Status_eq] at hdown
    exact hup (by simp [hdown])
  split
  · exact makes_standbyDeconfigIps hm rfl (.inr hfound)
  split
  · subst hm
    exact makes_act (makes_keep (stays_reconfigureIpv4 rfl u) hfound)
  split
  · next h6 =>
    rw [ipv6Status_eq, hm] at h6
    apply makes_self
    split
    · exact makes_act (makes_stay hm hfound)
    split
    · exact makes_ipv6Up hm (.inr rfl) h6
    · exact makes_stay hm hfound
  split
  · exact makes_act (makes_stay ((ledger_renewIpv4 u).trans hm) hfound)
  split
  · exact makes_maptSwitchedOn hm (.inl rfl) hfound
  · exact makes_stay hm hfound

theorem makes_maptOffered (h : ledger s = b) (hcur : b.current = st) (hup : maptUpReady s = true)
    (hst : st = .ipv6Leased ∨ st = .dualStackActive) {q : VismProg WanState} (hq : Makes G st b q s) :
    Makes G st b (if s.outside.lanAddressReady then go .maptUp wanTransitionMaptUp else q) s := by
  have hm : b.mapt = .up := by
    rw [← h, ← maptStatus_eq]
    simp only [maptUpReady, Bool.and_eq_true, beq_iff_eq] at hup
    exact hup.2
  split
  · exact makes_maptUp h hcur hm hst
  · exact hq

theorem makes_ipv6Leased (h : ledger s = b) (hcur : b.current = .ipv6Leased) :
    Makes G .ipv6Leased b wanStateIpv6Leased s := by
  apply makes_act
  apply makes_act
  apply makes_self
  have hm : ledger (monitorDhcpApps (joinDhcpv4 s)) = b := by
    rw [ledger_monitorDhcpApps, ledger_joinDhcpv4, h]
  generalize monitorDhcpApps (joinDhcpv4 s) = u at hm ⊢
  split
  · exact makes_giveUp hm
  split
  · exact makes_ipv6Down hm rfl
  next hup =>
  have hfound : Found .ipv6Leased b := by
    rw [← hm]
    intro hdown
    rw [← ipv6Status_eq] at hdown
    exact hup (by simp [hdown])
  split
  · exact makes_standbyDeconfigIps hm rfl (.inr hfound)
  split
  · subst hm
    exact makes_act (makes_keep (stays_reconfigureIpv6 rfl (fun _ => rfl) u) hfound)
  split
  · next h4 =>
    rw [ipv4Status_eq, hm] at h4
    exact makes_ipv4Up hm (.inr rfl) h4
  split
  · next hup => exact makes_self (makes_maptOffered hm hcur hup (.inl rfl) (makes_stay hm hfound))
  split
  · exact makes_maptSwitchedOn hm (.inl rfl) hfound
  split
  · exact makes_act (makes_stay ((ledger_renewIpv6 u).trans hm) hfound)
  · exact makes_stay hm hfound

theorem makes_monitorAndKeep (h : Stays st b (ledger s)) (hfound : Found st b) :
    Makes G st b (monitorAndKeep st) s := by
  apply makes_act
  refine makes_keep ?_ hfound
  rw [ledger_monitorDhcpApps]
  exact h

theorem makes_monitorAndStay (h : ledger s = b) (hfound : Found st b) :
    Makes G st b (monitorAndKeep st) s := by
  subst h
  exact makes_monitorAndKeep (Stays.refl _ _) hfound

theorem makes_dualStackActive (h : ledger s = b) (hcur : b.current = .dualStackActive) :
    Makes G .dualStackActive b wanStateDualStackActive s := by
  apply makes_self
  split
  · exact makes_giveUp h
  split
  · subst h
    apply makes_go
    intro hg
    rw [entry, ledger_dualStackDown]
    exact .dualStackDown hg
  split
  · exact makes_ipv4Down h rfl
  next hup =>
  have hfound : Found .dualStackActive b := by
    rw [← h]
    intro hdown
    rw [← ipv4Status_eq] at hdown
    exact hup (by simp [hdown])
  split
  · exact makes_standbyDeconfigIps h rfl (.inr hfound)
  split
  · subst h
    exact makes_act (makes_monitorAndKeep (stays_reconfigureIpv4 rfl s) hfound)
  split
  · exact makes_ipv6Down h rfl
  split
  · subst h
    exact makes_act (makes_monitorAndKeep (stays_reconfigureIpv6 rfl (fun _ => rfl) s) hfound)
  apply makes_self
  split
  · next hup => exact makes_maptOffered h hcur hup (.inr rfl) (makes_monitorAndStay h hfound)
  split
  · split
    · exact makes_act (makes_refresh h (.inl rfl))
    · exact makes_monitorAndStay h hfound
  · apply makes_act
    refine makes_monitorAndStay ?_ hfound
    rw [ledger_ite, ledger_ite, ledger_renewIpv4, ledger_renewIpv6, ite_self, ite_self, h]

theorem makes_maptActive (h : ledger s = b) : Makes G .maptActive b wanStateMaptActive s := by
  apply makes_self
  split
  · exact makes_giveUp h
  split
  · exact makes_standbyDeconfigIps h rfl (.inl rfl)
  split
  · subst h
    apply makes_go
    intro hg
    rw [entry, ledger_maptDown]
    exact .maptDown hg
  next hheld =>
  have hfound : Found .maptActive b := by
    rw [← h, Found, ← maptStatus_eq]
    cases hm : s.virtIf.map.maptStatus with
    | up => rfl
    | down => exact absurd (by simp [maptLost, hm]) hheld
  split
  · split
    · exact makes_monitorAndStay h hfound
    · apply makes_act
      apply makes_go
      intro hg
      rw [entry, maptDownRefresh, ledger_featureRefresh, ledger_maptDown]
      subst h
      exact .maptDownRefresh hg
  · subst h
    exact makes_act (makes_monitorAndKeep (stays_reconfigureMaptActive rfl s) hfound)

theorem makes_refreshingWan (h : ledger s = b) : Makes G .refreshingWan b wanStateRefreshingWan s := by
  apply makes_self
  split
  · exact makes_act (makes_giveUp h)
  split
  · exact makes_stay h trivial
  · apply makes_go
    intro _
    rw [entry, ledger_wanTransitionWanRefreshed, h]
    exact .refreshed

theorem makes_deconfiguringWan (h : ledger s = b) :
    Makes G .deconfiguringWan b wanStateDeconfiguringWan s := by
  apply makes_self
  split
  · exact makes_stay h trivial
  · subst h
    apply makes_go
    intro _
    exact .exit

theorem makes_exit (h : ledger s = b) : Makes G .exit b wanStateExit s := by
  subst h
  apply makes_act
  apply makes_go
  intro _
  rw [entry, ledger_clearDhcpData]
  exact .exited rfl rfl rfl

/-- Every state function refines the ledger. -/
theorem makes_wanState (st : WanState) (h : ledger s = b) (hcur : b.current = st) :
    Makes G st b (wanState st) s := by
  cases st with
  | exit => exact makes_exit h
  | vlanConfiguring => exact makes_vlanConfiguring h
  | pppConfiguring => exact makes_pppConfiguring h
  | validatingWan => exact makes_validatingWan h
  | obtainingIpAddresses => exact makes_obtainingIpAddresses h
  | ipv4Leased => exact makes_ipv4Leased h
  | ipv6Leased => exact makes_ipv6Leased h hcur
  | dualStackActive => exact makes_dualStackActive h hcur
  | maptActive => exact makes_maptActive h
  | refreshingWan => exact makes_refreshingWan h
  | deconfiguringWan => exact makes_deconfiguringWan h
  | standby => exact makes_standbyState h

end Moves

/-! ## A tick -/

/-- The history a tick leaves behind that moved from `st` to `st'`. -/
def Ledger.arrive (st st' : WanState) (b : Ledger) : Ledger :=
  { b with leftLease := st' == .obtainingIpAddresses &&
      (leased st || (st == .obtainingIpAddresses && b.leftLease)) }

/-- What one iteration of the thread does. -/
inductive Ticked (G : WanTransition → Ledger → Prop) (s : Vism) : Vism → Prop
  | start {s'} : s.phase = .created → s'.phase = .running .vlanConfiguring →
      ledger s' = (ledger s).start → Ticked G s s'
  | move {st st' b s'} : s.phase = .running st →
      Ledger.Move G st { ledger s with current := st } st' b →
      s'.phase = (if st = .exit then .exited else .running st') →
      ledger s' = b.arrive st st' → Ticked G s s'
  | gone : s.phase = .absent ∨ s.phase = .exited → Ticked G s s

theorem ledger_restartFindExistingLink (s : Vism) :
    ledger (restartFindExistingLink s) = ledger s := ledger_blind.restartFindExistingLink s

theorem ledger_wanTransitionStart (s : Vism) :
    ledger (wanTransitionStart s).2 = (ledger s).start := by
  have hrun : ∀ s : Vism, ledger (s.mapVirtIf fun v => { v with interfaceSmRunning := true }) =
      { ledger s with smRunning := true } := fun _ => rfl
  simp only [wanTransitionStart, ledger_getSelectedIpMode, hrun, ledger_ite, startVlan,
    ledger_configureVlan, ledger_mapVlan, ite_self, ledger_restartFindExistingLink,
    ledger_setStatus]
  rfl

theorem vismTick_ticked (G : WanTransition → Ledger → Prop) (s : Vism) :
    Prog.Ensures (guardOf G) (· = s) vismTick fun _ s' => Ticked G s s' := by
  apply Prog.Ensures.critical_bind
  rintro s rfl -
  dsimp only [id]
  cases hphase : s.phase with
  | absent => exact Prog.Ensures.ret fun _ h => by rw [h]; exact .gone (.inl hphase)
  | exited => exact Prog.Ensures.ret fun _ h => by rw [h]; exact .gone (.inr hphase)
  | created =>
    apply Prog.Ensures.critical_bind
    rintro s rfl -
    exact Prog.Ensures.modify fun _ h _ =>
      h ▸ .start hphase rfl (ledger_wanTransitionStart s)
  | running st =>
    apply Prog.Ensures.critical_bind
    rintro s rfl -
    refine Prog.Ensures.bind (makes_wanState st rfl rfl) fun st' => ?_
    exact Prog.Ensures.modify fun s' hmove _ => .move hphase hmove rfl rfl

end InterfaceSm
end WanManager
