import WanManager.MachineProgress

/-! # Progress, state by state

Every branch of a state function gives the interface up, goes to a place that is less far off, deals
with a signal, or is idle. -/

namespace WanManager
open Concurrency

namespace InterfaceSm

/-- Everything succeeds, and the networking mode stays as it is. -/
structure Working (s : Vism) : Prop where
  succeeds : Succeeds s.outside
  mode : s.deviceNwModeChanged = false

def given (s : Vism) : VismOutside × Bool := (s.outside, s.deviceNwModeChanged)

theorem given_fixedAll : FixedAll given where
  virtIf _ _ := rfl
  accounts _ _ _ _ _ _ := rfl
  rescan _ := rfl

theorem Working.of_given {s u : Vism} (h : Working s) (hu : given u = given s) : Working u := by
  obtain ⟨houtside, hmode⟩ := Prod.mk.injEq .. ▸ hu
  exact ⟨houtside ▸ h.succeeds, hmode.trans h.mode⟩

section States

variable {st : WanState} {p u : Vism}

/-! ## Before a lease -/

theorem progress_vlanConfiguring : Closes (Progress .vlanConfiguring p) wanStateVlanConfiguring p := by
  have hplace : ∀ active lost lost', (ledger p).place active lost' .pppConfiguring <
      (ledger p).place active lost .vlanConfiguring :=
    fun _ _ _ => Nat.add_lt_add_right (Nat.lt_succ_self 41) _
  apply closes_self
  split
  · exact progress_giveUp
  split
  · exact progress_giveUpVlan
  split
  · exact progress_keep (.inl rfl)
  · exact progress_place (Nat.le_refl _) rfl rfl fun _ _ => hplace _ _ _

theorem progress_pppConfiguring : Closes (Progress .pppConfiguring p) wanStatePppConfiguring p := by
  have hplace : ∀ active lost lost', { ledger p with status := .validating }.place active lost'
      .validatingWan < (ledger p).place active lost .pppConfiguring :=
    fun _ _ _ => Nat.add_lt_add_right (Nat.lt_succ_self 40) _
  apply closes_self
  split
  · exact progress_giveUp
  split
  · exact progress_giveUpVlan
  split
  · exact progress_keep (.inl rfl)
  · exact progress_place (Nat.le_refl _) rfl rfl fun _ _ => hplace _ _ _

/-- Validating can only take leases away. -/
theorem families_wanValidated (s : Vism) :
    (ledger (wanTransitionWanValidated s).2).families ≤ (ledger s).families := by
  rw [ledger_wanValidated]
  split
  · simp only [Ledger.families]
    grind
  · exact Nat.le_refl _

theorem progress_validatingWan : Closes (Progress .validatingWan p) wanStateValidatingWan p := by
  have hplace : ∀ active lost lost', (ledger (wanTransitionWanValidated p).2).place active lost'
      .obtainingIpAddresses < (ledger p).place active lost .validatingWan := by
    intro active lost lost'
    have hfamilies := families_wanValidated p
    simp only [Ledger.place, Ledger.rank]
    omega
  apply closes_self
  split
  · exact progress_giveUp
  split
  · exact progress_giveUpVlan
  · exact progress_place (Nat.le_refl _) (told_fixedAll.fixed.fixedTick.wanTransitionWanValidated p) rfl
      fun _ _ => hplace _ _ _

/-! ## Obtaining addresses -/

/-- The links of an interface that obtains addresses are up. -/
def linksUp (s : Vism) : Bool := !vlanDown s && !pppNotUp s

theorem linksUp_of_obtaining (hrestart : linksRestart p = false) (hlost : linksLost p = false) :
    linksUp p = true := by
  simp only [linksRestart, linksLost, Bool.or_eq_false_iff, beq_eq_false_iff_ne] at hrestart hlost
  obtain ⟨⟨-, hppp⟩, -⟩ := hrestart
  obtain ⟨⟨-, hvlan⟩, hdown⟩ := hlost
  have hup : pppNotUp p = false := by
    unfold pppNotUp
    cases hstatus : p.virtIf.ppp.linkStatus with
    | up => simp
    | configuring => exact absurd hstatus hppp
    | down => simpa [hstatus] using hdown
  simp [linksUp, hvlan, hup]

theorem linksUp_clientBlind : ClientBlind linksUp := ⟨fun _ _ _ => rfl⟩

theorem refreshDhcp_monitorDhcpApps (h : u.virtIf.ip.refreshDhcp = false) :
    (monitorDhcpApps u).virtIf.ip.refreshDhcp = false := by
  have hrestart : (restartConnectivityCheck u).virtIf.ip.refreshDhcp = false := by
    refine (signal_startConnectivityCheck (f := (·.refreshDhcp)) (fun _ => rfl) _).trans ?_
    split <;> exact h
  unfold monitorDhcpApps
  split
  · exact h
  rw [if_neg (by simp [h])]
  split
  · exact hrestart
  · exact h

/-- With its links and a lease, and no new IP mode, an interface can stand by. -/
theorem standbyLost_of_linksUp (hlinks : linksUp u = true) (hmode : u.virtIf.ip.refreshDhcp = false)
    (hlease : u.virtIf.ip.ipv4Status = .up ∨ u.virtIf.ip.ipv6Status = .up) :
    standbyLost u = false := by
  simp only [linksUp, Bool.and_eq_true, Bool.not_eq_true'] at hlinks
  obtain h | h := hlease <;> simp [standbyLost, hlinks, hmode, h]

theorem progress_obtainIpv6 (h : Reaches .obtainingIpAddresses p u) (hu : Working u)
    (h6 : u.virtIf.ip.ipv6Status = .up) (hlost : standbyLost u = false) :
    Closes (Progress .obtainingIpAddresses p) obtainIpv6 u := by
  apply closes_self
  split
  · next hother => exact progress_standby h rfl hother hlost
  next hactive =>
  have hactive : u.selection.status = .active := not_not.mp hactive
  split
  · next hchanged => exact closes_act (progress_keep (h.lower (clearIpv6Changed_lt (by simp) hchanged)))
  · rw [if_pos hu.succeeds.lanAddressReady]
    exact progress_ipv6Up h hactive h6 (.inl rfl)

theorem switched_changed (h : maptSwitched u = true) : u.maptFeatureEnableChanged = true := by
  simp only [maptSwitched, Bool.and_eq_true] at h
  exact h.1.2

theorem progress_obtainLease (h : Reaches .obtainingIpAddresses p u) (hu : Working u)
    (hlinks : linksUp u = true) (hmode : u.virtIf.ip.refreshDhcp = false) :
    Closes (Progress .obtainingIpAddresses p) obtainLease u := by
  have hmode' := refreshDhcp_monitorDhcpApps hmode
  have hlinks' := (linksUp_clientBlind.monitorDhcpApps u).trans hlinks
  have hu' := hu.of_given (given_fixedAll.fixed.clientBlind.monitorDhcpApps u)
  have h' := h.monitor
  apply closes_act
  apply closes_self
  split
  · next h4 =>
    split
    · next hactive => exact progress_ipv4Up h' hactive h4 (.inl rfl)
    · next hother =>
      exact progress_standby h' rfl hother (standbyLost_of_linksUp hlinks' hmode' (.inl h4))
  split
  · next h6 => exact progress_obtainIpv6 h' hu' h6 (standbyLost_of_linksUp hlinks' hmode' (.inr h6))
  split
  · next hswitched => exact progress_maptSwitchedOn h' (switched_changed hswitched)
  · exact progress_keep h'

theorem progress_obtainAddresses (h : Reaches .obtainingIpAddresses p u) (hu : Working u)
    (hlinks : linksUp u = true) : Closes (Progress .obtainingIpAddresses p) obtainAddresses u := by
  apply closes_self
  split
  · next hmode => exact closes_act (progress_keep (h.lower (refreshDhcpClients_lt (by simp) hmode)))
  · next hmode => exact progress_obtainLease h hu hlinks (by simpa using hmode)

/-- Once the timer has expired, validating starts clients and clears nothing. -/
theorem signals_wanValidated {s : Vism} (h : s.virtIf.ip.selectedModeTimerStatus = .expired) :
    signals (wanTransitionWanValidated s).2 = signals s := by
  have hula : ∀ v, signals (assignUlaAddr v) = signals v := by
    intro v
    unfold assignUlaAddr
    split <;> rfl
  have hppp : ∀ v, signals (fetchPppStatus v) = signals v := by
    intro v
    unfold fetchPppStatus
    split
    · split <;> rfl
    · rfl
  have hclients : ∀ v : Vism, v.virtIf.ip.selectedModeTimerStatus = .expired →
      signals (startDhcpClients v) = signals v := by
    intro v hv
    simp only [startDhcpClients, hv, ne_eq, not_true_eq_false, and_false, if_false]
    split <;> split <;> rfl
  have hclear : (if (s.virtIf.ip.ipv4Source = .dhcp ∨ s.virtIf.ip.ipv6Source = .dhcp) ∧
      s.virtIf.ip.selectedModeTimerStatus ≠ .expired then clearDhcpData s else s) = s :=
    if_neg fun hc => hc.2 h
  simp only [wanTransitionWanValidated, hclear]
  exact (hula _).trans ((hppp _).trans (hclients _ h))

/-- The wait for MAP-T ends. -/
theorem progress_expired (h : Reaches .obtainingIpAddresses p u)
    (hrunning : u.virtIf.ip.selectedModeTimerStatus = .running) :
    Closes (Progress .obtainingIpAddresses p)
      (act (fun s => s.mapIp fun ip => { ip with selectedModeTimerStatus := .expired }) >>= fun _ =>
        go .wanValidated wanTransitionWanValidated) u := by
  apply closes_act
  apply closes_go
  have hvalidated : ∀ v : Vism, v.virtIf.ip.selectedModeTimerStatus = .expired → told v = told u →
      ledger v = ledger u → signals v < signals u →
        load .obtainingIpAddresses (comeUp (wanTransitionWanValidated v).2) <
          load .obtainingIpAddresses u := by
    intro v hv htold hledger hsignals
    have hsame : ledger (wanTransitionWanValidated v).2 = ledger u := by
      rw [ledger_wanValidated, if_neg (fun hc => hc.2 hv), hledger]
    refine Nat.lt_of_le_of_lt (load_comeUp_le _ _) (load_lt_of_signals (by simp) ?_ ?_ ?_)
    · exact (told_fixedAll.fixed.fixedTick.wanTransitionWanValidated v).trans htold
    · exact place_of_ledger hsame
    · rwa [signals_wanValidated hv]
  refine .inr (.inl (Nat.lt_of_lt_of_le (hvalidated _ rfl rfl rfl ?_) h.le))
  simp [signals, Vism.mapIp, Vism.mapVirtIf, hrunning]

theorem progress_obtainMapt (hp : Working p) (hlinks : linksUp p = true)
    (hmapt : p.virtIf.ip.selectedMode = .mapt) :
    Closes (Progress .obtainingIpAddresses p) obtainMapt p := by
  apply closes_self
  split
  · next hup =>
    have hnoted : order .obtainingIpAddresses p =
        p.mapIp fun ip => { ip with selectedModeTimerStatus := .complete } := if_pos ⟨hmapt, hup⟩
    exact closes_act (progress_obtainAddresses (.inl hnoted.symm) (hp.of_given rfl) hlinks)
  next hdown =>
  have hnoted : order .obtainingIpAddresses p = p := if_neg fun h => hdown h.2
  split
  · next hrunning =>
    split
    · exact progress_expired (.inl hnoted.symm) hrunning
    · exact progress_keep (.inl hnoted.symm)
  · exact progress_obtainAddresses (.inl hnoted.symm) hp hlinks

theorem progress_obtainingIpAddresses (hp : Working p) :
    Closes (Progress .obtainingIpAddresses p) wanStateObtainingIpAddresses p := by
  apply closes_self
  split
  · exact progress_giveUp
  next hrestart =>
  split
  · exact progress_giveUpVlan
  next hlost =>
  simp only [Bool.or_eq_true, not_or, Bool.not_eq_true] at hrestart hlost
  have hlinks := linksUp_of_obtaining hrestart.2 hlost
  split
  · next hmapt => exact progress_obtainMapt hp hlinks hmapt
  · next hmapt =>
    have hnoted : order .obtainingIpAddresses p = p := if_neg fun h => hmapt h.1
    exact progress_obtainAddresses (.inl hnoted.symm) hp hlinks

/-! ## Standby -/

theorem progress_standbyState (hp : Working p) : Closes (Progress .standby p) wanStateStandby p := by
  have hmonitor := monitorDhcpApps_eases .standby p
  have hu := hp.of_given (given_fixedAll.fixed.clientBlind.monitorDhcpApps p)
  have hactive : (monitorDhcpApps p).selection = p.selection :=
    congrArg Prod.fst (told_fixedAll.fixed.clientBlind.monitorDhcpApps p)
  apply closes_self
  split
  · exact progress_giveUp
  apply closes_act
  generalize monitorDhcpApps p = u at hmonitor hu hactive
  have hle : load .standby u ≤ load .standby p := by
    obtain rfl | hlt := hmonitor
    · exact Nat.le_refl _
    · exact Nat.le_of_lt hlt
  have hreaches : u.selection.status = .active → Reaches .standby p u := by
    intro hstatus
    have hkept : order .standby p = p := if_neg fun h => h.1 (hactive ▸ hstatus)
    rw [Reaches, hkept]
    exact hmonitor
  apply closes_self
  split
  · next hlost => exact progress_lost hle hlost
  split
  · next hstatus => exact progress_activateStandby (hreaches hstatus) rfl hstatus hu.succeeds
  next hother =>
  apply closes_act
  apply progress_keep
  have hcheck : recheck u = if u.virtIf.ip.restartConnectivityCheck ∧
      u.virtIf.ip.connectivityCheckType = .tad then startConnectivityCheck u else u := by
    simp only [recheck, ne_eq, hother, not_false_eq_true, true_and]
  rw [← hcheck]
  obtain rfl | hlt := hmonitor
  · exact .inl rfl
  · exact .inr (Nat.lt_of_le_of_lt (load_order_le .standby u) hlt)

/-! ## Leased states -/

theorem progress_leaseIpv6 (h : Reaches .ipv4Leased p u) (hu : Working u)
    (hactive : u.selection.status = .active) (h6 : u.virtIf.ip.ipv6Status = .up) :
    Closes (Progress .ipv4Leased p) leaseIpv6 u := by
  apply closes_self
  split
  · next hchanged => exact closes_act (progress_keep (h.lower (clearIpv6Changed_lt (by simp) hchanged)))
  · rw [if_pos hu.succeeds.lanAddressReady]
    exact progress_ipv6Up h hactive h6 (.inr rfl)

theorem stays_active (h : ¬ leavesActive u = true) : u.selection.status = .active := by
  simp only [leavesActive, Bool.or_eq_true, bne_iff_ne, ne_eq, not_or, not_not] at h
  exact h.1

theorem progress_ipv4Leased (hp : Working p) : Closes (Progress .ipv4Leased p) wanStateIpv4Leased p := by
  have hgiven := given_fixedAll.fixed.clientBlind
  have hu := hp.of_given ((hgiven.monitorDhcpApps _).trans (hgiven.joinDhcpv6 p))
  have h : Reaches .ipv4Leased p (monitorDhcpApps (joinDhcpv6 p)) := Reaches.monitor (.inl rfl)
  apply closes_act
  apply closes_act
  apply closes_self
  generalize monitorDhcpApps (joinDhcpv6 p) = u at h hu
  split
  · exact progress_giveUp
  split
  · exact progress_ipv4Down h (.inl rfl)
  split
  · next hleaves => exact progress_standbyDeconfigIps h hu.mode hleaves rfl
  next hstays =>
  split
  · next hchanged =>
    exact closes_act (progress_keep (h.lower (reconfigureIpv4_lt (by simp) hu.succeeds hchanged)))
  split
  · next h6 => exact progress_leaseIpv6 h hu (stays_active hstays) h6
  split
  · next hrenewed => exact closes_act (progress_keep (h.lower (renewIpv4_lt (by simp) hrenewed)))
  split
  · next hswitched => exact progress_maptSwitchedOn h (switched_changed hswitched)
  · exact progress_keep h

theorem progress_maptOffered (h : Reaches st p u) (hu : Working u) (hup : maptUpReady u = true)
    (hst : st = .ipv6Leased ∨ st = .dualStackActive) :
    Closes (Progress st p) (maptOffered st) u := by
  apply closes_self
  rw [if_pos hu.succeeds.lanAddressReady]
  exact progress_maptUp h hu.succeeds hup hst

theorem reconfigureIpv6_id_lt (hst : st ≠ .standby) (hu : Working u)
    (hchanged : u.virtIf.ip.ipv6Changed = true) : load st (reconfigureIpv6 id u) < load st u :=
  reconfigureIpv6_lt hst hu.succeeds (fun _ => rfl) (fun _ => rfl) (fun _ => Nat.le_succ _) hchanged

theorem progress_ipv6Leased (hp : Working p) : Closes (Progress .ipv6Leased p) wanStateIpv6Leased p := by
  have hgiven := given_fixedAll.fixed.clientBlind
  have hu := hp.of_given ((hgiven.monitorDhcpApps _).trans (hgiven.joinDhcpv4 p))
  have h : Reaches .ipv6Leased p (monitorDhcpApps (joinDhcpv4 p)) := Reaches.monitor (.inl rfl)
  apply closes_act
  apply closes_act
  apply closes_self
  generalize monitorDhcpApps (joinDhcpv4 p) = u at h hu
  split
  · exact progress_giveUp
  split
  · exact progress_ipv6Down h (.inl rfl)
  split
  · next hleaves => exact progress_standbyDeconfigIps h hu.mode hleaves rfl
  next hstays =>
  split
  · next hchanged =>
    exact closes_act (progress_keep (h.lower (reconfigureIpv6_id_lt (by simp) hu hchanged)))
  split
  · next h4 => exact progress_ipv4Up h (stays_active hstays) h4 (.inr rfl)
  split
  · next hup => exact progress_maptOffered h hu hup (.inl rfl)
  split
  · next hswitched => exact progress_maptSwitchedOn h (switched_changed hswitched)
  split
  · next hrenewed => exact closes_act (progress_keep (h.lower (renewIpv6_lt (by simp) hrenewed)))
  · exact progress_keep h

theorem progress_dualStackMapt (hp : Working p) :
    Closes (Progress .dualStackActive p) dualStackMapt p := by
  have h : Reaches .dualStackActive p p := .inl rfl
  apply closes_self
  split
  · next hup =>
    rw [if_pos hp.succeeds.lanAddressReady]
    exact progress_maptUp h hp.succeeds hup (.inr rfl)
  split
  · next hswitched =>
    split
    · exact progress_switched h (switched_changed hswitched) fun v =>
        told_fixedAll.fixed.wanTransitionMaptFeatureRefresh v
    · exact progress_monitorAndKeep h
  apply closes_act
  apply progress_monitorAndKeep
  split
  · next hrenewed => exact h.lower (renewIpv4_lt (by simp) hrenewed)
  split
  · next hrenewed => exact h.lower (renewIpv6_lt (by simp) hrenewed)
  · exact h

theorem progress_dualStackActive (hp : Working p) :
    Closes (Progress .dualStackActive p) wanStateDualStackActive p := by
  have h : Reaches .dualStackActive p p := .inl rfl
  apply closes_self
  split
  · exact progress_giveUp
  split
  · exact progress_dualStackDown h rfl
  split
  · exact progress_ipv4Down h (.inr rfl)
  split
  · next hleaves => exact progress_standbyDeconfigIps h hp.mode hleaves rfl
  next hstays =>
  split
  · next hchanged =>
    exact closes_act (progress_monitorAndKeep
      (h.lower (reconfigureIpv4_lt (by simp) hp.succeeds hchanged)))
  split
  · exact progress_ipv6Down h (.inr rfl)
  split
  · next hchanged =>
    exact closes_act (progress_monitorAndKeep (h.lower (reconfigureIpv6_id_lt (by simp) hp hchanged)))
  · exact progress_dualStackMapt hp

/-- MAP-T is told of a new IPv6 configuration. -/
theorem signals_maptFollows (s : Vism) : signals (maptFollows s) ≤ signals s + 1 := by
  unfold maptFollows
  split
  · have hflag := Bool.toNat_le s.virtIf.map.maptChanged
    simp only [signals, Vism.mapMap, Vism.mapVirtIf, Bool.toNat_true]
    omega
  · exact Nat.le_succ _

theorem progress_reconfigureMaptActive (hp : Working p) :
    Reaches .maptActive p (reconfigureMaptActive p) := by
  have h : Reaches .maptActive p p := .inl rfl
  unfold reconfigureMaptActive
  split
  · next hchanged =>
    have hledger : ∀ s, ledger (maptFollows s) = ledger s := fun _ => Blind.ite rfl rfl
    have htold : ∀ s, told (maptFollows s) = told s := fun _ => Blind.ite rfl rfl
    exact h.lower (reconfigureIpv6_lt (by simp) hp.succeeds hledger htold signals_maptFollows hchanged)
  split
  · next hchanged => exact h.lower (reconfigureMapt_lt (by simp) hp.succeeds hchanged)
  split
  · next hrenewed => exact h.lower (renewIpv6_lt (by simp) hrenewed)
  · exact h

theorem progress_maptActive (hp : Working p) : Closes (Progress .maptActive p) wanStateMaptActive p := by
  have h : Reaches .maptActive p p := .inl rfl
  apply closes_self
  split
  · exact progress_giveUp
  split
  · next hleaves => exact progress_standbyDeconfigIps h hp.mode hleaves rfl
  split
  · exact progress_maptDown h rfl
  split
  · next hchanged =>
    split
    · exact progress_monitorAndKeep h
    · exact progress_switched h hchanged fun v => told_fixedAll.fixed.maptDownRefresh v
  · exact closes_act (progress_monitorAndKeep (progress_reconfigureMaptActive hp))

/-- A machine at work gives the interface up, has less ahead of it, or has been idle. -/
theorem progress_wanState (hst : givenUp st = false) (hp : Working p) :
    Closes (Progress st p) (wanState st) p := by
  cases st with
  | vlanConfiguring => exact progress_vlanConfiguring
  | pppConfiguring => exact progress_pppConfiguring
  | validatingWan => exact progress_validatingWan
  | obtainingIpAddresses => exact progress_obtainingIpAddresses hp
  | standby => exact progress_standbyState hp
  | ipv4Leased => exact progress_ipv4Leased hp
  | ipv6Leased => exact progress_ipv6Leased hp
  | dualStackActive => exact progress_dualStackActive hp
  | maptActive => exact progress_maptActive hp
  | refreshingWan | deconfiguringWan | exit => cases hst

end States

end InterfaceSm
end WanManager
