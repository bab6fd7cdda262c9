import WanManager.InterfaceSmLedger

/-! # What a tick leaves alone

The transitions of the interface state machine write its leases, its links and its accounts. A
`Fixed` function sees none of these, so every transition keeps it; the refresh of the WAN and the
last transition write a little more, which `FixedAll` does not see either. -/

namespace WanManager
open Concurrency

namespace InterfaceSm

/-- `f` sees nothing of the leases and what tearing a family down writes. -/
structure FixedLeases {β : Type} (f : Vism → β) : Prop where
  ip : ∀ s g, f (s.mapIp g) = f s
  map : ∀ s g, f (s.mapMap g) = f s
  status : ∀ s st, f (s.setStatus st) = f s
  accounts : ∀ s c4 c6 fams app, f { s with
    ipv4ConnectionState := c4, ipv6ConnectionState := c6, configured := fams, applied := app } = f s

/-- Nor does `f` see PPP and how the links are given up. -/
structure FixedLinks {β : Type} (f : Vism → β) : Prop extends FixedLeases f where
  linksDown : ∀ s, f (linksDown s) = f s
  ppp : ∀ s g, f (s.mapPpp g) = f s

/-- Nor does `f` see how often a family was set up. -/
structure FixedTick {β : Type} (f : Vism → β) : Prop extends FixedLinks f where
  setUps : ∀ s c4 c6 fams app n, f { s with
    ipv4ConnectionState := c4, ipv6ConnectionState := c6, configured := fams, applied := app
    setUps := n } = f s

/-- `f` sees nothing of the leases and the links. -/
structure FixedDown {β : Type} (f : Vism → β) : Prop extends FixedLeases f where
  vlan : ∀ s g, f (s.mapVlan g) = f s
  ppp : ∀ s g, f (s.mapPpp g) = f s

/-- Nor does `f` see how often a family was set up. -/
structure Fixed {β : Type} (f : Vism → β) : Prop extends FixedDown f where
  setUps : ∀ s c4 c6 fams app n, f { s with
    ipv4ConnectionState := c4, ipv6ConnectionState := c6, configured := fams, applied := app
    setUps := n } = f s

theorem FixedDown.snd_ite {β : Type} {f : Vism → β} {c : Prop} [Decidable c] {s : Vism}
    {r r' : WanState × Vism} (hr : f r.2 = f s) (hr' : f r'.2 = f s) :
    f (if c then r else r').2 = f s := by
  split
  · exact hr
  · exact hr'

namespace FixedLeases
open Blind (ite)
open FixedDown (snd_ite)

variable {β : Type} {f : Vism → β} (h : FixedLeases f)

include h

theorem clientBlind : ClientBlind f := ⟨fun s g _ => h.ip s g⟩

/-! ## Actions -/

theorem updateInterfaceStatus (s : Vism) (e : IfaceEvent) : f (updateInterfaceStatus s e) = f s := by
  cases e with
  | connectionUp | connectionDown | connectionIpv6Up =>
    rw [InterfaceSm.updateInterfaceStatus, h.ip]
  | connectionIpv6Down => exact (h.accounts _ _ _ _ _).trans ((h.map _ _).trans (h.ip _ _))
  | maptStart | maptStop => rw [InterfaceSm.updateInterfaceStatus, h.map]

theorem tearDownIpv4 (s : Vism) : f (tearDownIpv4 s) = f s := h.accounts _ _ _ _ _

theorem tearDownIpv6 (s : Vism) : f (tearDownIpv6 s) = f s := h.accounts _ _ _ _ _

theorem setUpLanPrefixIpv6 (s : Vism) : f (setUpLanPrefixIpv6 s) = f s :=
  (h.accounts _ _ _ _ _).trans (h.ip _ _)

theorem tearDownMapt (s : Vism) : f (tearDownMapt s) = f s := h.accounts _ _ _ _ _

theorem clearIpv6Changed (s : Vism) : f (clearIpv6Changed s) = f s :=
  (h.ip _ _).trans (h.setUpLanPrefixIpv6 _)

/-! ## Transitions -/

theorem wanTransitionIpv4Down (s : Vism) : f (wanTransitionIpv4Down s).2 = f s := by
  have hdown : f (InterfaceSm.updateInterfaceStatus (settleDhcpv4 s) .connectionDown) = f s :=
    (h.updateInterfaceStatus _ _).trans (h.clientBlind.settleDhcpv4 s)
  have htear : ∀ u, f (if u.virtIf.status = .up then InterfaceSm.tearDownIpv4 u else u) = f u :=
    fun u => ite (h.tearDownIpv4 u) rfl
  have hcheck := (h.clientBlind.sendMsgToConnectivityCheck _).trans ((htear _).trans hdown)
  exact snd_ite hcheck ((h.status _ _).trans hcheck)

theorem wanTransitionIpv6Down (s : Vism) : f (wanTransitionIpv6Down s).2 = f s := by
  have hdown : f (InterfaceSm.updateInterfaceStatus (settleDhcpv6 s) .connectionIpv6Down) = f s :=
    (h.updateInterfaceStatus _ _).trans (h.clientBlind.settleDhcpv6 s)
  have htear : ∀ u, f (if u.virtIf.status = .up then InterfaceSm.tearDownIpv6 u else u) = f u :=
    fun u => ite (h.tearDownIpv6 u) rfl
  have hcheck := (h.clientBlind.sendMsgToConnectivityCheck _).trans ((htear _).trans hdown)
  exact snd_ite hcheck ((h.status _ _).trans hcheck)

theorem wanTransitionDualStackDown (s : Vism) : f (wanTransitionDualStackDown s).2 = f s := by
  simp only [InterfaceSm.wanTransitionDualStackDown]
  rw [h.wanTransitionIpv6Down, h.wanTransitionIpv4Down, h.status]

theorem wanTransitionMaptDown (s : Vism) : f (wanTransitionMaptDown s).2 = f s := by
  have htear : ∀ u, f (if u.virtIf.status = .up then InterfaceSm.tearDownMapt u else u) = f u :=
    fun u => ite (h.tearDownMapt u) rfl
  exact (h.clientBlind.restartIpv4 _).trans ((h.ip _ _).trans
    ((h.updateInterfaceStatus _ _).trans ((htear _).trans (h.updateInterfaceStatus _ _))))

theorem wanTransitionMaptFeatureRefresh (s : Vism) :
    f (wanTransitionMaptFeatureRefresh s).2 = f s := by
  have hrestart : ∀ u, f (if usesDhcpv6 u then restartDhcpv6Client u else u) = f u :=
    fun u => ite (h.ip u _) rfl
  simp only [InterfaceSm.wanTransitionMaptFeatureRefresh]
  rw [hrestart, h.ip, h.wanTransitionIpv6Down]

theorem maptDownRefresh (s : Vism) : f (maptDownRefresh s).2 = f s :=
  (h.wanTransitionMaptFeatureRefresh _).trans (h.wanTransitionMaptDown s)

theorem familiesDown (s : Vism) : f (familiesDown s) = f s := by
  have hmapt : f (if s.virtIf.map.maptStatus = .up then (InterfaceSm.wanTransitionMaptDown s).2
      else s) = f s := ite (h.wanTransitionMaptDown s) rfl
  have h4 : ∀ u, f (if u.virtIf.ip.ipv4Status = .up then (InterfaceSm.wanTransitionIpv4Down u).2
      else u) = f u := fun u => ite (h.wanTransitionIpv4Down u) rfl
  exact (ite (h.wanTransitionIpv6Down _) rfl).trans ((h4 _).trans hmapt)

theorem startDhcpClients (s : Vism) : f (startDhcpClients s) = f s := by
  have h4 : f (if usesDhcpv4 s then startDhcpv4Client s else s) = f s := ite (h.ip _ _) rfl
  exact ite ((h.ip _ _).trans (h.ip _ _)) ((ite (h.ip _ _) rfl).trans h4)

theorem assignUlaAddr (s : Vism) : f (assignUlaAddr s) = f s := ite (h.ip _ _) rfl

theorem releaseIpv4 (s : Vism) : f (releaseIpv4 s) = f s := by
  have hstop : f (if s.virtIf.ip.dhcp4cStatus = .started then stopDhcpv4Client s else s) = f s :=
    ite (h.ip _ _) rfl
  exact (ite (h.wanTransitionIpv4Down _) rfl).trans hstop

theorem wanTransitionStandby (s : Vism) : f (wanTransitionStandby s).2 = f s :=
  (h.clientBlind.startConnectivityCheck _).trans (h.status _ _)

theorem wanTransitionStandbyDeconfigIps (s : Vism) :
    f (wanTransitionStandbyDeconfigIps s).2 = f s := by
  have hm : f (if s.virtIf.map.maptStatus = .up then InterfaceSm.tearDownMapt s else s) = f s :=
    ite (h.tearDownMapt s) rfl
  have hc : ∀ u, f (if u.virtIf.ip.connectivityCheckType = .ihc then stopConnectivityCheck u
      else u) = f u := fun u => ite (h.ip _ _) rfl
  have h4 : ∀ u, f (if u.virtIf.ip.ipv4Status = .up then InterfaceSm.tearDownIpv4 u else u) = f u :=
    fun u => ite (h.tearDownIpv4 u) rfl
  have h6 : ∀ u, f (if u.virtIf.ip.ipv6Status = .up then
      (InterfaceSm.tearDownIpv6 u).mapIp fun ip => { ip with ipv6Changed := true } else u) = f u :=
    fun u => ite ((h.ip _ _).trans (h.tearDownIpv6 u)) rfl
  exact (h.status _ _).trans ((h6 _).trans ((h4 _).trans ((hc _).trans hm)))

end FixedLeases

theorem vlan_fixedLeases : FixedLeases fun s => s.virtIf.vlan where
  ip _ _ := rfl
  map _ _ := rfl
  status _ _ := rfl
  accounts _ _ _ _ _ := rfl

/-- Validating touches neither the interface nor its links. -/
theorem wanValidated_of_fixedLeases {β : Type} {f : Vism → β} (h : FixedLeases f)
    (hppp : ∀ s, f (fetchPppStatus s) = f s) (s : Vism) : f (wanTransitionWanValidated s).2 = f s := by
  have hclear : f (if (s.virtIf.ip.ipv4Source = .dhcp ∨ s.virtIf.ip.ipv6Source = .dhcp) ∧
      s.virtIf.ip.selectedModeTimerStatus ≠ .expired then clearDhcpData s else s) = f s :=
    Blind.ite (h.ip _ _) rfl
  exact (h.assignUlaAddr _).trans ((hppp _).trans
    ((h.startDhcpClients _).trans ((h.ip _ _).trans hclear)))

/-- Before it gives the links up, the transition writes the leases only. -/
theorem physicalInterfaceDown_links (s : Vism) : ∃ u, (wanTransitionPhysicalInterfaceDown s).2 = linksDown u ∧
    ∀ {β : Type} {f : Vism → β}, FixedLeases f → f u = f s := by
  refine ⟨stopConnectivityCheck ((stopDhcpClients (familiesDown s)).mapIp fun ip =>
    { ip with selectedModeTimerStatus := .notStarted }), ?_, fun h => ?_⟩
  · simp only [wanTransitionPhysicalInterfaceDown]
    split <;> rfl
  · have hcheck : ∀ u, _ := fun u => h.ip u fun ip => { ip with connectivityCheckRunning := false }
    rw [stopConnectivityCheck, hcheck, h.ip, h.clientBlind.stopDhcpClients, h.familiesDown]

namespace FixedDown

variable {β : Type} {f : Vism → β} (h : FixedDown f)

include h

theorem linkBlind : LinkBlind f where
  toClientBlind := h.clientBlind
  vlan := h.vlan
  ppp := h.ppp

theorem expired (s : Vism) : f (s.mapVlan fun v => { v with expired := true }) = f s := h.vlan s _

theorem fixedLinks : FixedLinks f where
  toFixedLeases := h.toFixedLeases
  linksDown := h.linkBlind.linksDown
  ppp := h.ppp

end FixedDown

theorem Fixed.fixedTick {β : Type} {f : Vism → β} (h : Fixed f) : FixedTick f where
  toFixedLinks := h.fixedLinks
  setUps := h.setUps

namespace FixedLinks
open Blind (ite)

variable {β : Type} {f : Vism → β} (h : FixedLinks f)

include h

theorem wanTransitionPhysicalInterfaceDown (s : Vism) :
    f (wanTransitionPhysicalInterfaceDown s).2 = f s := by
  obtain ⟨u, hdown, hu⟩ := physicalInterfaceDown_links s
  rw [hdown, h.linksDown, hu h.toFixedLeases]

theorem wanTransitionWanValidated (s : Vism) : f (wanTransitionWanValidated s).2 = f s :=
  wanValidated_of_fixedLeases h.toFixedLeases (fetchPppStatus_of_mapPpp fun s g _ => h.ppp s g) s

end FixedLinks

namespace FixedTick
open Blind (ite)
open FixedDown (snd_ite)

variable {β : Type} {f : Vism → β} (h : FixedTick f)

include h

/-! ## Families that are set up -/

theorem setUpIpv4 (s : Vism) : f (setUpIpv4 s) = f s :=
  (h.clientBlind.startConnectivityCheck _).trans (h.setUps _ _ _ _ _ _)

theorem setUpIpv6 (s : Vism) : f (setUpIpv6 s) = f s :=
  (h.clientBlind.startConnectivityCheck _).trans (h.setUps _ _ _ _ _ _)

theorem setUpMapt (s : Vism) : f (setUpMapt s) = f s := h.setUps _ _ _ _ _ _

theorem wanTransitionIpv4Up (s : Vism) : f (wanTransitionIpv4Up s).2 = f s := by
  have hup : f ((InterfaceSm.sendMsgToConnectivityCheck (InterfaceSm.setUpIpv4 (s.setStatus .up))).mapIp
      fun ip => { ip with ipv4Changed := false, ipv4Renewed := false }) = f s :=
    (h.ip _ _).trans ((h.clientBlind.sendMsgToConnectivityCheck _).trans
      ((h.setUpIpv4 _).trans (h.status _ _)))
  exact snd_ite hup hup

theorem wanTransitionIpv6Up (s : Vism) : f (wanTransitionIpv6Up s).2 = f s := by
  have hup : f (InterfaceSm.sendMsgToConnectivityCheck (InterfaceSm.setUpIpv6 (s.setStatus .up))) = f s :=
    (h.clientBlind.sendMsgToConnectivityCheck _).trans ((h.setUpIpv6 _).trans (h.status _ _))
  exact snd_ite hup hup

theorem configureNewIpv4 (s : Vism) : f (configureNewIpv4 s) = f s :=
  ite (h.wanTransitionIpv4Up s) rfl

theorem replaced (s : Vism) : f (replaced s) = f s :=
  (h.releaseIpv4 _).trans ((h.setUpMapt _).trans ((h.configureNewIpv4 _).trans (h.map _ _)))

theorem wanTransitionMaptUp (s : Vism) : f (wanTransitionMaptUp s).2 = f s :=
  snd_ite (snd_ite (h.replaced s) (h.replaced s)) rfl

theorem activateStandby (s : Vism) : f (activateStandby s).2 = f s := by
  have hprefix : f (if s.virtIf.ip.ipv6Changed then InterfaceSm.clearIpv6Changed s else s) = f s :=
    ite (h.clearIpv6Changed s) rfl
  have h4 : ∀ r : WanState × Vism, f r.2 = f s →
      f (if r.2.virtIf.ip.ipv4Status = .up then InterfaceSm.wanTransitionIpv4Up r.2 else r).2 = f s :=
    fun r hr => snd_ite ((h.wanTransitionIpv4Up _).trans hr) hr
  exact h4 _ (snd_ite (snd_ite ((h.wanTransitionIpv6Up _).trans hprefix) hprefix) rfl)

/-! ## Reconfigurations -/

theorem reconfigureIpv4 (s : Vism) : f (reconfigureIpv4 s) = f s := by
  have hset := (h.setUpIpv4 _).trans (h.tearDownIpv4 s)
  have hdone := (h.clientBlind.sendMsgToConnectivityCheck _).trans hset
  exact ite (ite ((h.ip _ _).trans hdone) hset) (h.tearDownIpv4 s)

theorem reconfigureIpv6 {done : Vism → Vism} (hdone : ∀ s, f (done s) = f s) (s : Vism) :
    f (reconfigureIpv6 done s) = f s := by
  have hprefix := (h.setUpLanPrefixIpv6 _).trans (h.tearDownIpv6 s)
  have hset := (h.setUpIpv6 _).trans hprefix
  have hsent := (h.clientBlind.sendMsgToConnectivityCheck _).trans hset
  exact ite (ite (ite ((hdone _).trans ((h.ip _ _).trans hsent)) hset) hprefix) (h.tearDownIpv6 s)

theorem reconfigureMapt (s : Vism) : f (reconfigureMapt s) = f s := by
  have hset := (h.setUpMapt _).trans (h.tearDownMapt s)
  exact ite (ite ((h.map _ _).trans hset) hset) (h.tearDownMapt s)

theorem reconfigureMaptActive (s : Vism) : f (reconfigureMaptActive s) = f s :=
  ite (h.reconfigureIpv6 (fun _ => ite (h.map _ _) rfl) s)
    (ite (h.reconfigureMapt s) (ite (h.clientBlind.renewIpv6 s) rfl))

end FixedTick

/-! ## State functions -/

theorem run_self {α : Type} (q : Vism → VismProg α) (s : Vism) : (self >>= q).run s = (q s).run s := rfl

theorem run_act {α : Type} (f : Vism → Vism) (q : Unit → VismProg α) (s : Vism) :
    (act f >>= q).run s = (q ()).run (f s) := rfl

theorem run_go (t : WanTransition) (f : Vism → WanState × Vism) (s : Vism) : (go t f).run s = f s := rfl

theorem run_keep (st : WanState) (s : Vism) : (keep st).run s = (st, s) := rfl

/-- `p` leaves what `f` sees of `s` alone. -/
def Spares {α β : Type} (f : Vism → β) (p : VismProg α) (s : Vism) : Prop := f (p.run s).2 = f s

section Spares

variable {α β : Type} {f : Vism → β} {s : Vism}

theorem spares_self {q : Vism → VismProg α} (hq : Spares f (q s) s) : Spares f (self >>= q) s := hq

theorem spares_act {g : Vism → Vism} {q : Unit → VismProg α} (hg : f (g s) = f s)
    (hq : Spares f (q ()) (g s)) : Spares f (act g >>= q) s := Eq.trans hq hg

theorem spares_go {t : WanTransition} {g : Vism → WanState × Vism} (hg : f (g s).2 = f s) :
    Spares f (go t g) s := hg

theorem spares_keep {st : WanState} : Spares f (keep st) s := rfl

theorem spares_dite {c : Prop} [Decidable c] {p q : VismProg α} (hp : c → Spares f p s)
    (hq : ¬ c → Spares f q s) : Spares f (if c then p else q) s := by
  split
  · next h => exact hp h
  · next h => exact hq h

theorem spares_ite {c : Prop} [Decidable c] {p q : VismProg α} (hp : Spares f p s)
    (hq : Spares f q s) : Spares f (if c then p else q) s := spares_dite (fun _ => hp) fun _ => hq

end Spares

namespace FixedLinks

variable {β : Type} {f : Vism → β} (h : FixedLinks f)

include h

theorem giveUp (s : Vism) : Spares f giveUp s := spares_go (h.wanTransitionPhysicalInterfaceDown s)

variable (hexpired : ∀ s, f (s.mapVlan fun v => { v with expired := true }) = f s)

include hexpired

theorem giveUpVlan (s : Vism) : Spares f giveUpVlan s := spares_act (hexpired s) (h.giveUp _)

theorem wanStateVlanConfiguring (s : Vism) : Spares f wanStateVlanConfiguring s := by
  apply spares_self
  refine spares_ite (h.giveUp s) (spares_ite (h.giveUpVlan hexpired s) (spares_ite spares_keep ?_))
  exact spares_go (h.ppp _ _)

theorem wanStatePppConfiguring (s : Vism) : Spares f wanStatePppConfiguring s := by
  apply spares_self
  refine spares_ite (h.giveUp s) (spares_ite (h.giveUpVlan hexpired s) (spares_ite spares_keep ?_))
  exact spares_go (h.status _ _)

theorem wanStateValidatingWan (s : Vism) : Spares f wanStateValidatingWan s := by
  apply spares_self
  refine spares_ite (h.giveUp s) (spares_ite (h.giveUpVlan hexpired s) ?_)
  exact spares_go (h.wanTransitionWanValidated s)

end FixedLinks

namespace FixedTick

variable {β : Type} {f : Vism → β} (h : FixedTick f)

include h

variable (hfeature : ∀ s, s.outside.maptFeature = true →
  f { s with maptFeatureEnableChanged := false } = f s)

include hfeature

theorem maptSwitchedOn (st : WanState) (s : Vism) : Spares f (maptSwitchedOn st) s := by
  apply spares_self
  refine spares_dite (fun hon => spares_act (hfeature s hon) ?_) fun _ => spares_keep
  exact spares_go (h.wanTransitionMaptFeatureRefresh _)

omit hfeature in
theorem obtainIpv6 (s : Vism) : Spares f obtainIpv6 s := by
  apply spares_self
  refine spares_ite (spares_go (h.wanTransitionStandby s)) (spares_ite ?_ (spares_ite ?_ spares_keep))
  · exact spares_act (h.clearIpv6Changed s) spares_keep
  · exact spares_go (h.wanTransitionIpv6Up s)

theorem obtainLease (s : Vism) : Spares f obtainLease s := by
  apply spares_act (h.clientBlind.monitorDhcpApps s)
  apply spares_self
  refine spares_ite (spares_ite ?_ ?_) (spares_ite (h.obtainIpv6 _) (spares_ite ?_ spares_keep))
  · exact spares_go (h.wanTransitionIpv4Up _)
  · exact spares_go (h.wanTransitionStandby _)
  · exact h.maptSwitchedOn hfeature _ _

theorem obtainAddresses (s : Vism) : Spares f obtainAddresses s := by
  apply spares_self
  refine spares_ite (spares_act ?_ spares_keep) (h.obtainLease hfeature s)
  exact h.clientBlind.refreshDhcpClients h.status s

theorem obtainMapt (s : Vism) : Spares f obtainMapt s := by
  apply spares_self
  refine spares_ite (spares_act (h.ip _ _) (h.obtainAddresses hfeature _)) ?_
  refine spares_ite (spares_ite (spares_act (h.ip _ _) ?_) spares_keep) (h.obtainAddresses hfeature s)
  exact spares_go (h.wanTransitionWanValidated _)

theorem wanStateObtainingIpAddresses
    (hexpired : ∀ s, f (s.mapVlan fun v => { v with expired := true }) = f s) (s : Vism) :
    Spares f wanStateObtainingIpAddresses s := by
  apply spares_self
  refine spares_ite (h.giveUp s) (spares_ite (h.giveUpVlan hexpired s) ?_)
  exact spares_ite (h.obtainMapt hfeature s) (h.obtainAddresses hfeature s)

omit hfeature in
theorem wanStateStandby (s : Vism) : Spares f wanStateStandby s := by
  apply spares_self
  refine spares_ite (h.giveUp s) (spares_act (h.clientBlind.monitorDhcpApps s) (spares_self ?_))
  refine spares_ite spares_keep (spares_ite ?_ (spares_act ?_ spares_keep))
  · exact spares_go (h.activateStandby _)
  · exact Blind.ite (h.clientBlind.startConnectivityCheck _) rfl

omit hfeature in
theorem maptOffered (st : WanState) (s : Vism) : Spares f (maptOffered st) s :=
  spares_self (spares_ite (spares_go (h.wanTransitionMaptUp s)) spares_keep)

omit hfeature in
theorem leaseIpv6 (s : Vism) : Spares f leaseIpv6 s := by
  apply spares_self
  refine spares_ite (spares_act (h.clearIpv6Changed s) spares_keep) (spares_ite ?_ spares_keep)
  exact spares_go (h.wanTransitionIpv6Up s)

theorem wanStateIpv4Leased (s : Vism) : Spares f wanStateIpv4Leased s := by
  refine spares_act (h.clientBlind.joinDhcpv6 s) (spares_act (h.clientBlind.monitorDhcpApps _) ?_)
  apply spares_self
  refine spares_ite (h.giveUp _) (spares_ite ?_ (spares_ite ?_ (spares_ite ?_ ?_)))
  · exact spares_go (h.wanTransitionIpv4Down _)
  · exact spares_go (h.wanTransitionStandbyDeconfigIps _)
  · exact spares_act (h.reconfigureIpv4 _) spares_keep
  · refine spares_ite (h.leaseIpv6 _) (spares_ite ?_ (spares_ite ?_ spares_keep))
    · exact spares_act (h.clientBlind.renewIpv4 _) spares_keep
    · exact h.maptSwitchedOn hfeature _ _

theorem wanStateIpv6Leased (s : Vism) : Spares f wanStateIpv6Leased s := by
  refine spares_act (h.clientBlind.joinDhcpv4 s) (spares_act (h.clientBlind.monitorDhcpApps _) ?_)
  apply spares_self
  refine spares_ite (h.giveUp _) (spares_ite ?_ (spares_ite ?_ (spares_ite ?_ (spares_ite ?_ ?_))))
  · exact spares_go (h.wanTransitionIpv6Down _)
  · exact spares_go (h.wanTransitionStandbyDeconfigIps _)
  · exact spares_act (h.reconfigureIpv6 (fun _ => rfl) _) spares_keep
  · exact spares_go (h.wanTransitionIpv4Up _)
  · refine spares_ite (h.maptOffered _ _) (spares_ite ?_ (spares_ite ?_ spares_keep))
    · exact h.maptSwitchedOn hfeature _ _
    · exact spares_act (h.clientBlind.renewIpv6 _) spares_keep

omit hfeature in
theorem monitorAndKeep (st : WanState) (s : Vism) : Spares f (monitorAndKeep st) s :=
  spares_act (h.clientBlind.monitorDhcpApps s) spares_keep

theorem dualStackMapt (s : Vism) : Spares f dualStackMapt s := by
  apply spares_self
  refine spares_ite (spares_ite ?_ (h.monitorAndKeep _ s)) (spares_ite (spares_dite ?_ fun _ => ?_) ?_)
  · exact spares_go (h.wanTransitionMaptUp s)
  · intro hon
    exact spares_act (hfeature s hon) (spares_go (h.wanTransitionMaptFeatureRefresh _))
  · exact h.monitorAndKeep _ s
  · refine spares_act ?_ (h.monitorAndKeep _ _)
    exact Blind.ite (h.clientBlind.renewIpv4 s) (Blind.ite (h.clientBlind.renewIpv6 s) rfl)

theorem wanStateDualStackActive (s : Vism) : Spares f wanStateDualStackActive s := by
  apply spares_self
  refine spares_ite (h.giveUp s) (spares_ite ?_ (spares_ite ?_ (spares_ite ?_ (spares_ite ?_ ?_))))
  · exact spares_go (h.wanTransitionDualStackDown s)
  · exact spares_go (h.wanTransitionIpv4Down s)
  · exact spares_go (h.wanTransitionStandbyDeconfigIps s)
  · exact spares_act (h.reconfigureIpv4 s) (h.monitorAndKeep _ _)
  · refine spares_ite ?_ (spares_ite ?_ (h.dualStackMapt hfeature s))
    · exact spares_go (h.wanTransitionIpv6Down s)
    · exact spares_act (h.reconfigureIpv6 (fun _ => rfl) s) (h.monitorAndKeep _ _)

omit hfeature in
theorem wanStateMaptActive (hoff : ∀ s, s.outside.maptFeature = false →
    f { s with maptFeatureEnableChanged := false } = f s) (s : Vism) : Spares f wanStateMaptActive s := by
  apply spares_self
  refine spares_ite (h.giveUp s) (spares_ite ?_ (spares_ite ?_ (spares_ite (spares_dite ?_ ?_) ?_)))
  · exact spares_go (h.wanTransitionStandbyDeconfigIps s)
  · exact spares_go (h.wanTransitionMaptDown s)
  · exact fun _ => h.monitorAndKeep _ s
  · intro hfeature
    exact spares_act (hoff s (by simpa using hfeature)) (spares_go (h.maptDownRefresh _))
  · exact spares_act (h.reconfigureMaptActive s) (h.monitorAndKeep _ _)

/-- `f` may see a switch of the MAP-T feature as long as nothing but `MAPT_ACTIVE` takes it back
while the feature is off. -/
theorem wanState_of_ne (hexpired : ∀ s, f (s.mapVlan fun v => { v with expired := true }) = f s)
    {st : WanState} (hmapt : st ≠ .maptActive) (hrefresh : st ≠ .refreshingWan)
    (hexit : st ≠ .deconfiguringWan) (s : Vism) : Spares f (wanState st) s := by
  cases st with
  | vlanConfiguring => exact h.wanStateVlanConfiguring hexpired s
  | pppConfiguring => exact h.wanStatePppConfiguring hexpired s
  | validatingWan => exact h.wanStateValidatingWan hexpired s
  | obtainingIpAddresses => exact h.wanStateObtainingIpAddresses hfeature hexpired s
  | ipv4Leased => exact h.wanStateIpv4Leased hfeature s
  | ipv6Leased => exact h.wanStateIpv6Leased hfeature s
  | dualStackActive => exact h.wanStateDualStackActive hfeature s
  | standby => exact h.wanStateStandby s
  | exit => exact spares_act (h.ip _ _) spares_keep
  | maptActive => exact absurd rfl hmapt
  | refreshingWan => exact absurd rfl hrefresh
  | deconfiguringWan => exact absurd rfl hexit

omit hfeature in
theorem wanState (hexpired : ∀ s, f (s.mapVlan fun v => { v with expired := true }) = f s)
    (hfeature : ∀ s, f { s with maptFeatureEnableChanged := false } = f s)
    {st : WanState} (hrefresh : st ≠ .refreshingWan) (hexit : st ≠ .deconfiguringWan) (s : Vism) :
    Spares f (wanState st) s := by
  by_cases hst : st = .maptActive
  · subst hst
    exact h.wanStateMaptActive (fun s _ => hfeature s) s
  · exact h.wanState_of_ne (fun s _ => hfeature s) hexpired hst hrefresh hexit s

end FixedTick

theorem Fixed.wanTransitionStart {β : Type} {f : Vism → β} (h : Fixed f)
    (hrunning : ∀ s, f (s.mapVirtIf fun v => { v with interfaceSmRunning := true }) = f s) (s : Vism) :
    f (wanTransitionStart s).2 = f s := by
  have hlinks := (h.linkBlind.restartFindExistingLink _).trans ((h.status _ .initialising).trans
    ((h.map _ fun m => { m with maptStatus := .down }).trans
      (h.ip s fun ip => { ip with ipv4Status := .down, ipv6Status := .down })))
  simp only [InterfaceSm.wanTransitionStart, getSelectedIpMode]
  rw [h.ip, hrunning]
  exact Blind.ite ((h.linkBlind.startVlan _).trans hlinks) hlinks

/-- `f` sees nothing of the virtual interface, the accounts and a requested rescan. -/
structure FixedAll {β : Type} (f : Vism → β) : Prop where
  virtIf : ∀ s g, f (s.mapVirtIf g) = f s
  accounts : ∀ s c4 c6 fams app n, f { s with
    ipv4ConnectionState := c4, ipv6ConnectionState := c6, configured := fams, applied := app
    setUps := n } = f s
  rescan : ∀ s, f { s with config := { s.config with resetFailOverScan := true } } = f s

namespace FixedAll
open Blind (ite)

variable {β : Type} {f : Vism → β} (h : FixedAll f)

include h

theorem fixed : Fixed f where
  vlan _ _ := h.virtIf _ _
  ppp _ _ := h.virtIf _ _
  ip _ _ := h.virtIf _ _
  map _ _ := h.virtIf _ _
  status _ _ := h.virtIf _ _
  accounts _ _ _ _ _ := h.accounts _ _ _ _ _ _
  setUps := h.accounts

theorem wanTransitionStart (s : Vism) : f (wanTransitionStart s).2 = f s :=
  h.fixed.wanTransitionStart (fun _ => h.virtIf _ _) s

theorem wanTransitionWanRefreshed (s : Vism) : f (wanTransitionWanRefreshed s).2 = f s := by
  have hvlan : f (if needsVlan s then configureVlan true
      ((s.mapVlan fun v => if v.expired || v.reset then nextVlan v else v).mapVlan
        fun v => { v with status := .configuring }) else s) = f s :=
    ite ((h.fixed.linkBlind.configureVlan _ _).trans ((h.fixed.vlan _ _).trans (h.fixed.vlan _ _))) rfl
  have hrescan : ∀ u : Vism, f (if u.virtIf.reset then
      { u with config := { u.config with resetFailOverScan := true } } else u) = f u :=
    fun u => ite (h.rescan u) rfl
  simp only [InterfaceSm.wanTransitionWanRefreshed]
  rw [h.virtIf, h.fixed.vlan, hrescan, hvlan]

theorem wanTransitionExit (s : Vism) : f (wanTransitionExit s).2 = f s := by
  rw [InterfaceSm.wanTransitionExit, h.virtIf]

theorem wanStateRefreshingWan (s : Vism) : Spares f wanStateRefreshingWan s := by
  apply spares_self
  refine spares_ite (spares_act ?_ (h.fixed.fixedLinks.giveUp _)) (spares_ite spares_keep ?_)
  · exact (h.virtIf _ fun v => { v with reset := false }).trans (h.fixed.vlan _ _)
  · exact spares_go (h.wanTransitionWanRefreshed s)

theorem wanState_of_ne (hfeature : ∀ s, s.outside.maptFeature = true →
    f { s with maptFeatureEnableChanged := false } = f s) {st : WanState} (hst : st ≠ .maptActive)
    (s : Vism) : Spares f (wanState st) s := by
  by_cases hrefresh : st = .refreshingWan
  · subst hrefresh
    exact h.wanStateRefreshingWan s
  by_cases hexit : st = .deconfiguringWan
  · subst hexit
    exact spares_self (spares_ite spares_keep (spares_go (h.wanTransitionExit s)))
  · exact h.fixed.fixedTick.wanState_of_ne hfeature h.fixed.expired hst hrefresh hexit s

theorem wanState (hfeature : ∀ s, f { s with maptFeatureEnableChanged := false } = f s)
    (st : WanState) (s : Vism) : Spares f (wanState st) s := by
  by_cases hst : st = .maptActive
  · subst hst
    exact h.fixed.fixedTick.wanStateMaptActive (fun s _ => hfeature s) s
  · exact h.wanState_of_ne (fun s _ => hfeature s) hst s

end FixedAll

/-! ## A tick -/

/-- What the state function finds in a tick. -/
def prepared (st : WanState) (s : Vism) : Vism :=
  (ipcMsgHandle (updateWanConfig s)).mapVirtIf fun v => { v with eCurrentState := st }

theorem run_vismTick_running {st : WanState} {s : Vism} (hs : s.phase = .running st) :
    (vismTick.run s).2 = enter st ((wanState st).run (prepared st s)).1
      ((wanState st).run (prepared st s)).2 := by
  have htick : vismTick.run s = (vismLoop st).run s := by
    simp only [vismTick, Prog.run_bind, self, Prog.run_read, id, hs]
  rw [htick, vismLoop, Prog.run_bind, Prog.run_bind]
  rfl

theorem run_vismTick_created {s : Vism} (hs : s.phase = .created) :
    (vismTick.run s).2 =
      { (wanTransitionStart s).2 with phase := .running (wanTransitionStart s).1 } := by
  simp only [vismTick, Prog.run_bind, self, Prog.run_read, id, hs]
  rfl

/-- A thread that is not there does nothing. -/
theorem run_vismTick_gone {s : Vism} (hs : s.phase = .absent ∨ s.phase = .exited) :
    (vismTick.run s).2 = s := by
  obtain hs | hs := hs <;>
    simp only [vismTick, Prog.run_bind, self, Prog.run_read, id, hs, Prog.pure_eq_ret, Prog.run_ret]

end InterfaceSm
end WanManager
