import WanManager.LeaseAccounts

/-! # The state functions keep the accounts

A state function clears `Ipv4Changed` and `Ipv6Changed` in many places, in some of them
whatever the calls answered. `SetsUp` says which answers matter: under it every state
function ends with the accounts of the state it ends in. -/

namespace WanManager
open Concurrency

namespace InterfaceSm

/-! ## Conditions -/

/-- The tick may call `setUpLanPrefixIPv6` and clear `Ipv6Changed` whatever it answers. -/
def delegates (s : Vism) : Bool :=
  (s.phase == .running .obtainingIpAddresses || s.phase == .running .ipv4Leased) &&
    s.virtIf.ip.ipv6Status == .up && s.virtIf.ip.ipv6Changed

/-- The calls whose failure is forgotten succeed. -/
def SetsUp : Site → Vism → Prop
  | .wanTransition .ipv4Up, s => s.outside.setUpIpv4 = true
  | .wanTransition .ipv6Up, s => s.outside.setUpIpv6 = true
  | .wanTransition .standbyUp, s =>
      (s.virtIf.ip.ipv6Status = .up → (s.virtIf.ip.ipv6Changed = true →
        s.outside.setUpLanPrefixIpv6 = true) ∧ s.outside.setUpIpv6 = true) ∧
      (s.virtIf.ip.ipv4Status = .up → s.outside.setUpIpv4 = true)
  | .vism, s => delegates s = true → s.outside.setUpLanPrefixIpv6 = true
  | _, _ => True

instance (l : Site) (s : Vism) : Decidable (SetsUp l s) := by
  unfold SetsUp
  split <;> infer_instance

/-- From the interface `s`, `p` ends with the accounts of the state it ends in. -/
def Leaves (p : VismProg WanState) (s : Vism) : Prop :=
  Prog.Ensures SetsUp (· = s) p Accounted

section Leaves

variable {st st' : WanState} {s : Vism}

theorem leaves_self {q : Vism → VismProg WanState} (h : SetsUp .vism s → Leaves (q s) s) :
    Leaves (self >>= q) s :=
  Prog.Ensures.critical_bind fun _ hs hg => hs ▸ h (hs ▸ hg)

theorem leaves_act {f : Vism → Vism} {q : Unit → VismProg WanState}
    (h : SetsUp .vism s → Leaves (q ()) (f s)) : Leaves (act f >>= q) s :=
  Prog.Ensures.critical_bind fun _ hs hg => hs ▸ h (hs ▸ hg)

theorem leaves_go {t : WanTransition} {f : Vism → WanState × Vism}
    (h : SetsUp (.wanTransition t) s → Accounted (f s).1 (f s).2) : Leaves (go t f) s :=
  Prog.Ensures.critical fun _ hs hg => hs ▸ h (hs ▸ hg)

theorem leaves_keep (h : Accounted st s) : Leaves (keep st) s := leaves_go fun _ => h

/-- A change nothing leased depends on, and the state is kept. -/
theorem leaves_quiet {f : Vism → Vism} (h : Accounted st s)
    (hf : ∀ {β : Type} {g : Vism → β}, Blind g → g (f s) = g s) : Leaves (act f >>= fun _ => keep st) s :=
  leaves_act fun _ => leaves_keep (h.quiet hf)

/-! ## Giving up -/

theorem ipv6_familiesDown (b : Ledger) (h : b.ipv6 ≠ .unknown) : b.familiesDown.ipv6 = .down := by
  obtain ⟨cur, status, i4, i6, m, c4, c6, f, l⟩ := b
  simp only [Ledger.familiesDown, Ledger.maptDown, Ledger.ipv4Down, Ledger.ipv6Down, Ledger.ifUp,
    Ledger.tearDown4, Ledger.tearDown6, Ledger.tearDownM] at h ⊢
  cases i6 <;> grind

theorem conn6_familiesDown (b : Ledger) (h : b.conn6 = true → b.ipv6 = .up) :
    b.familiesDown.conn6 = false := by
  obtain ⟨cur, status, i4, i6, m, c4, c6, f, l⟩ := b
  simp only [Ledger.familiesDown, Ledger.maptDown, Ledger.ipv4Down, Ledger.ipv6Down, Ledger.ifUp,
    Ledger.tearDown4, Ledger.tearDown6, Ledger.tearDownM] at h ⊢
  cases m <;> grind

theorem timer_physicalInterfaceDown (s : Vism) :
    (account6 (wanTransitionPhysicalInterfaceDown s).2).timer = .notStarted := by
  have htimer : ∀ s : Vism, (account6 (linksDown (stopConnectivityCheck (s.mapIp fun ip =>
      { ip with selectedModeTimerStatus := .notStarted })))).timer = .notStarted := by
    intro s
    rw [account6_blind.linksDown]
    rfl
  simp only [wanTransitionPhysicalInterfaceDown]
  split
  · dsimp only
    exact htimer _
  · dsimp only
    exact htimer _

theorem leaves_giveUp (h : Accounted st s) : Leaves giveUp s := by
  apply leaves_go
  intro _
  have hledger := ledger_physicalInterfaceDown s
  have h6 : (account6 (wanTransitionPhysicalInterfaceDown s).2).status = .down := by
    show (ledger _).ipv6 = .down
    rw [hledger]
    exact ipv6_familiesDown _ h.ipv6.known
  have hconn : (account6 (wanTransitionPhysicalInterfaceDown s).2).conn = false := by
    show (ledger _).conn6 = false
    rw [hledger]
    exact conn6_familiesDown _ fun hc => (h.ipv6.conn hc).1
  refine ⟨Accounted4.idle ?_, Accounted6.down h6 hconn ?_⟩
  · simp only [wanTransitionPhysicalInterfaceDown]
    split <;> rfl
  · rw [timer_physicalInterfaceDown]
    exact TimerStatus.noConfusion

theorem leaves_giveUpVlan (h : Accounted st s) : Leaves giveUpVlan s :=
  leaves_act fun _ => leaves_giveUp (h.congr (account4_blind.vlan _ _) (account6_blind.vlan _ _))

/-! ## Before addresses are obtained -/

/-- To another state that has looked at no lease yet. -/
theorem Accounted.early (h : Accounted st s) (hst : mayBeUsable st = false)
    (hst' : mayBeUsable st' = false) : Accounted st' s := by
  have hleased : ∀ {st : WanState}, mayBeUsable st = false → leased st = false := by
    intro st hno
    cases st <;> first | rfl | cases hno
  have hholds : ∀ {st : WanState}, mayBeUsable st = false → holdsIpv6 st = false := by
    intro st hno
    cases st <;> first | rfl | cases hno
  refine ⟨Accounted4.idle (hleased hst'), h.ipv6.leave (h.ipv6.timer_ne ?_)
    (h.ipv6.conn_false (hholds hst)) (hholds hst') fun _ => hst⟩
  rintro rfl
  cases hst

theorem leaves_vlanConfiguring (h : Accounted .vlanConfiguring s) : Leaves wanStateVlanConfiguring s := by
  apply leaves_self
  intro _
  split
  · exact leaves_giveUp h
  split
  · exact leaves_giveUpVlan h
  split
  · exact leaves_keep h
  · exact leaves_go fun _ => (h.early rfl rfl).congr rfl rfl

theorem leaves_pppConfiguring (h : Accounted .pppConfiguring s) : Leaves wanStatePppConfiguring s := by
  apply leaves_self
  intro _
  split
  · exact leaves_giveUp h
  split
  · exact leaves_giveUpVlan h
  split
  · exact leaves_keep h
  · exact leaves_go fun _ => (h.early rfl rfl).congr rfl rfl

/-- An interface whose IPv6 lease, if it has one, was not looked at. -/
structure Unseen (a : Account6) : Prop where
  known : a.status ≠ .unknown
  conn : a.conn = false
  changed : a.status = .up → a.changed = true
  timer : a.timer = .running → a.selectedMode = .mapt

theorem Unseen.accounted {a : Account6} (h : Unseen a) : Accounted6 .obtainingIpAddresses a where
  known := h.known
  conn hc := by rw [h.conn] at hc; cases hc
  lanPrefix hup := .inl (h.changed hup)
  applied hno := by cases hno
  unseen _ hup := h.changed hup
  timer hrun := ⟨rfl, h.timer hrun⟩

theorem unseen_clearDhcpData (h : Unseen (account6 s)) : Unseen (account6 (clearDhcpData s)) where
  known := LeaseStatus.noConfusion
  conn := h.conn
  changed hup := by cases hup
  timer := h.timer

theorem unseen_startDhcpClients (h : Unseen (account6 s)) : Unseen (account6 (startDhcpClients s)) := by
  simp only [startDhcpClients]
  split
  · next hmapt => exact ⟨h.known, h.conn, h.changed, fun _ => hmapt.1⟩
  · have hstart : account6 (if usesDhcpv4 s then startDhcpv4Client s else s) = account6 s :=
      Blind.ite rfl rfl
    have hboth : ∀ u : Vism, account6 (if usesDhcpv6 u ∧ u.virtIf.ip.dhcp6cStatus ≠ .started then
        startDhcpv6Client u else u) = account6 u := fun _ => Blind.ite rfl rfl
    rw [hboth, hstart]
    exact h

theorem unseen_assignUlaAddr (h : Unseen (account6 s)) : Unseen (account6 (assignUlaAddr s)) := by
  unfold assignUlaAddr
  split
  · exact ⟨h.known, h.conn, h.changed, h.timer⟩
  · exact h

theorem unseen_wanValidated (h : Unseen (account6 s)) :
    Unseen (account6 (wanTransitionWanValidated s).2) := by
  have hclear : Unseen (account6 (if (s.virtIf.ip.ipv4Source = .dhcp ∨ s.virtIf.ip.ipv6Source = .dhcp) ∧
      s.virtIf.ip.selectedModeTimerStatus ≠ .expired then clearDhcpData s else s)) := by
    split
    · exact unseen_clearDhcpData h
    · exact h
  apply unseen_assignUlaAddr
  rw [fetchPppStatus_of_mapPpp fun s g _ => account6_blind.ppp s g]
  apply unseen_startDhcpClients
  rw [account6_blind.ip _ _ rfl]
  exact hclear

theorem accounted_wanValidated (h : Unseen (account6 s)) :
    Accounted (wanTransitionWanValidated s).1 (wanTransitionWanValidated s).2 :=
  ⟨Accounted4.idle rfl, (unseen_wanValidated h).accounted⟩

theorem leaves_validatingWan (h : Accounted .validatingWan s) : Leaves wanStateValidatingWan s := by
  apply leaves_self
  intro _
  split
  · exact leaves_giveUp h
  split
  · exact leaves_giveUpVlan h
  · apply leaves_go
    intro _
    exact accounted_wanValidated ⟨h.ipv6.known, h.ipv6.conn_false rfl, h.ipv6.unseen (.inl rfl),
      fun hrun => (h.ipv6.timer hrun).2⟩

/-! ## Obtaining addresses -/

/-- IPv4 comes up, from a state without IPv6 or on top of IPv6. -/
theorem accounted_ipv4Up (h : Accounted6 st (account6 s))
    (ht : s.virtIf.ip.selectedModeTimerStatus ≠ .running) (hok : s.outside.setUpIpv4 = true) :
    Accounted (wanTransitionIpv4Up s).1 (wanTransitionIpv4Up s).2 := by
  have hnext : (wanTransitionIpv4Up s).1 =
      if (account6 s).status = .up ∧ (account6 s).conn = true then .dualStackActive else .ipv4Leased := by
    have hup := congrArg Prod.fst (entry_ipv4Up s)
    rw [Ledger.ipv4Up, apply_ite Prod.fst] at hup
    exact hup
  refine ⟨fun _ _ => ?_, ?_⟩
  · rw [account4_ipv4Up s hok]
    exact .inr rfl
  · rw [account6_ipv4Up, hnext]
    exact h.branch ht rfl rfl rfl

/-- IPv6 comes up, its LAN prefix being set up. -/
theorem accounted_ipv6Up (hdelegated : s.virtIf.ip.ipv6Changed = true ∨
      s.applied.lanPrefix = some s.virtIf.ip.ipv6Data.toIpv6Lease)
    (h6 : s.virtIf.ip.ipv6Status = .up) (ht : s.virtIf.ip.selectedModeTimerStatus ≠ .running)
    (hok : s.outside.setUpIpv6 = true) :
    Accounted6 (wanTransitionIpv6Up s).1 (account6 (wanTransitionIpv6Up s).2) ∧
      leased (wanTransitionIpv6Up s).1 = true := by
  have hnext : (wanTransitionIpv6Up s).1 = .dualStackActive ∨ (wanTransitionIpv6Up s).1 = .ipv6Leased := by
    have hup := congrArg Prod.fst (entry_ipv6Up s)
    rw [show (wanTransitionIpv6Up s).1 = (ledger s).ipv6Up.1 from hup]
    exact Ledger.ipv6Up_fst _
  have hholds : holdsIpv6 (wanTransitionIpv6Up s).1 = true := by
    rcases hnext with h | h <;> rw [h] <;> rfl
  refine ⟨?_, holdsIpv6_leased hholds⟩
  rw [account6_ipv6Up s hok]
  have hknown : s.virtIf.ip.ipv6Status ≠ .unknown := by
    rw [h6]
    exact LeaseStatus.noConfusion
  refine ⟨hknown, fun _ => ⟨h6, hholds⟩, fun _ => hdelegated, fun _ _ => .inr rfl, ?_,
    fun hrun => absurd hrun ht⟩
  rintro (hno | hrun)
  · rw [mayBeUsable_leased (holdsIpv6_leased hholds)] at hno
    cases hno
  · exact absurd hrun ht

theorem lease_lanAddress (d : Ipv6Data) : (lanAddress d).toIpv6Lease = d.toIpv6Lease := by
  unfold lanAddress
  split <;> rfl

/-- The LAN prefix is set up for the lease that is there. -/
theorem account6_clearIpv6Changed (s : Vism) (hok : s.outside.setUpLanPrefixIpv6 = true) :
    account6 (clearIpv6Changed s) =
      { account6 s with changed := false, lanPrefix := some s.virtIf.ip.ipv6Data.toIpv6Lease } := by
  simp only [account6, clearIpv6Changed, setUpLanPrefixIpv6, Vism.mapIp, Vism.mapVirtIf, onSuccess,
    hok, if_true, lease_lanAddress]

theorem accounted6_clearIpv6Changed (h : Accounted6 st (account6 s)) (hst : holdsIpv6 st = false)
    (hseen : mayBeUsable st = true) (ht : s.virtIf.ip.selectedModeTimerStatus ≠ .running)
    (hok : s.outside.setUpLanPrefixIpv6 = true) :
    Accounted6 st (account6 (clearIpv6Changed s)) := by
  rw [account6_clearIpv6Changed s hok]
  refine ⟨h.known, h.conn, fun _ => .inr rfl, fun hno => ?_, ?_, h.timer⟩
  · rw [hst] at hno; cases hno
  rintro (hno | hrun)
  · rw [hseen] at hno; cases hno
  · exact absurd hrun ht

theorem leaves_standby (h : Accounted .obtainingIpAddresses s)
    (ht : s.virtIf.ip.selectedModeTimerStatus ≠ .running) :
    Leaves (go .standby wanTransitionStandby) s := by
  apply leaves_go
  intro _
  have h6 : account6 (wanTransitionStandby s).2 = account6 s :=
    account6_blind.startConnectivityCheck _
  refine ⟨Accounted4.idle rfl, ?_⟩
  rw [h6]
  exact h.ipv6.leave ht (h.ipv6.conn_false rfl) rfl fun hno => by cases hno

theorem leaves_ipv4Up (h : Accounted6 st (account6 s))
    (ht : s.virtIf.ip.selectedModeTimerStatus ≠ .running) :
    Leaves (go .ipv4Up wanTransitionIpv4Up) s :=
  leaves_go fun hok => accounted_ipv4Up h ht hok

theorem leaves_ipv6Up (h : Accounted6 st (account6 s))
    (h4 : s.virtIf.ip.ipv4Status = .up →
      s.virtIf.ip.ipv4Changed = true ∨ s.applied.ipv4 = some s.virtIf.ip.ipv4Data.toIpv4Lease)
    (h6 : s.virtIf.ip.ipv6Status = .up) (ht : s.virtIf.ip.selectedModeTimerStatus ≠ .running) :
    Leaves (go .ipv6Up wanTransitionIpv6Up) s := by
  apply leaves_go
  intro hok
  refine ⟨fun _ => ?_, (accounted_ipv6Up (h.lanPrefix h6) h6 ht hok).1⟩
  rw [account4_ipv6Up]
  exact h4

theorem timer_ipv6Down (s : Vism) :
    (account6 (wanTransitionIpv6Down s).2).timer = (account6 s).timer := by
  have htimer : Blind (fun s => (account6 s).timer) := account6_blind.comp Account6.timer
  have hdown : ∀ s : Vism, (account6 (updateInterfaceStatus s .connectionIpv6Down)).timer =
      (account6 s).timer := fun _ => rfl
  have htear : ∀ s : Vism, (account6 (tearDownIpv6 s)).timer = (account6 s).timer := fun _ => rfl
  have hstatus : ∀ (s : Vism) (st : IfaceStatus), (account6 (s.setStatus st)).timer =
      (account6 s).timer := fun _ _ => rfl
  simp only [wanTransitionIpv6Down, snd_ite, account6_ite, apply_ite Account6.timer, hstatus, htear,
    hdown, ite_self, htimer.sendMsgToConnectivityCheck, htimer.settleDhcpv6]

theorem conn6_ipv6Down (b : Ledger) : b.ipv6Down.2.conn6 = false := by
  simp only [Ledger.ipv6Down, Ledger.ifUp, Ledger.tearDown6]
  grind

theorem ipv6_ipv6Down (b : Ledger) : b.ipv6Down.2.ipv6 = .down := by
  simp only [Ledger.ipv6Down, Ledger.ifUp, Ledger.tearDown6]
  grind

theorem ipv4_ipv4Down (b : Ledger) : b.ipv4Down.2.ipv4 = .down := by
  simp only [Ledger.ipv4Down, Ledger.ifUp, Ledger.tearDown4]
  grind

/-- IPv6 going down settles its account, in whatever state that ends. -/
theorem accounted6_ipv6Down (ht : s.virtIf.ip.selectedModeTimerStatus ≠ .running) :
    Accounted6 st' (account6 (wanTransitionIpv6Down s).2) := by
  apply Accounted6.down
  · show (ledger (wanTransitionIpv6Down s).2).ipv6 = .down
    rw [ledger_ipv6Down, ipv6_ipv6Down]
  · show (ledger (wanTransitionIpv6Down s).2).conn6 = false
    rw [ledger_ipv6Down, conn6_ipv6Down]
  · rw [timer_ipv6Down]
    exact ht

theorem accounted_featureRefresh (ht : s.virtIf.ip.selectedModeTimerStatus ≠ .running) :
    Accounted (wanTransitionMaptFeatureRefresh s).1 (wanTransitionMaptFeatureRefresh s).2 := by
  have hlost : ∀ s : Vism, account6 (s.mapIp fun ip => { ip with
      ipv6Status := .down, ipv6Changed := false, ipv6Renewed := false, ipv6Data := {} }) =
        { account6 s with status := .down, changed := false, lease := {} } := fun _ => rfl
  have h6 : account6 (wanTransitionMaptFeatureRefresh s).2 =
      { account6 (wanTransitionIpv6Down s).2 with status := .down, changed := false, lease := {} } := by
    rw [← hlost]
    exact Blind.ite (account6_blind.ip _ _ rfl) rfl
  refine ⟨Accounted4.idle rfl, ?_⟩
  rw [h6]
  refine Accounted6.down rfl ?_ ?_
  · show (ledger (wanTransitionIpv6Down s).2).conn6 = false
    rw [ledger_ipv6Down, conn6_ipv6Down]
  · show (account6 (wanTransitionIpv6Down s).2).timer ≠ .running
    rw [timer_ipv6Down]
    exact ht

theorem leaves_maptSwitchedOn (h : Accounted st s)
    (ht : s.virtIf.ip.selectedModeTimerStatus ≠ .running) : Leaves (maptSwitchedOn st) s := by
  apply leaves_self
  intro _
  split
  · exact leaves_act fun _ => leaves_go fun _ => accounted_featureRefresh ht
  · exact leaves_keep h

theorem setsUp_delegates (hg : SetsUp .vism s)
    (hphase : s.phase = .running .obtainingIpAddresses ∨ s.phase = .running .ipv4Leased)
    (h6 : s.virtIf.ip.ipv6Status = .up) (hc : s.virtIf.ip.ipv6Changed = true) :
    s.outside.setUpLanPrefixIpv6 = true := by
  apply hg
  rw [delegates, h6, hc]
  rcases hphase with h | h <;> rw [h] <;> rfl

theorem leaves_obtainIpv6 (h : Accounted .obtainingIpAddresses s)
    (ht : s.virtIf.ip.selectedModeTimerStatus ≠ .running)
    (hphase : s.phase = .running .obtainingIpAddresses)
    (h4 : s.virtIf.ip.ipv4Status ≠ .up) (h6 : s.virtIf.ip.ipv6Status = .up) : Leaves obtainIpv6 s := by
  apply leaves_self
  intro hg
  split
  · exact leaves_standby h ht
  split
  · next hc =>
    apply leaves_act
    intro _
    apply leaves_keep
    exact ⟨Accounted4.idle rfl, accounted6_clearIpv6Changed h.ipv6 rfl rfl ht
      (setsUp_delegates hg (.inl hphase) h6 hc)⟩
  split
  · exact leaves_ipv6Up h.ipv6 (fun hup => absurd hup h4) h6 ht
  · exact leaves_keep h

theorem leaves_obtainLease (h : Accounted .obtainingIpAddresses s)
    (ht : s.virtIf.ip.selectedModeTimerStatus ≠ .running)
    (hphase : s.phase = .running .obtainingIpAddresses) : Leaves obtainLease s := by
  apply leaves_act
  intro _
  have hm : Accounted .obtainingIpAddresses (monitorDhcpApps s) := h.quiet fun hg => hg.monitorDhcpApps s
  have htm : (monitorDhcpApps s).virtIf.ip.selectedModeTimerStatus ≠ .running := by
    rw [show (monitorDhcpApps s).virtIf.ip.selectedModeTimerStatus = _ from
      congrArg Account6.timer (account6_blind.monitorDhcpApps s)]
    exact ht
  have hpm : (monitorDhcpApps s).phase = .running .obtainingIpAddresses :=
    (congrArg Prod.fst (place_blind.monitorDhcpApps s)).trans hphase
  generalize monitorDhcpApps s = u at hm htm hpm ⊢
  apply leaves_self
  intro _
  split
  · split
    · exact leaves_ipv4Up hm.ipv6 htm
    · exact leaves_standby hm htm
  · next h4 =>
    split
    · next h6 => exact leaves_obtainIpv6 hm htm hpm h4 h6
    split
    · exact leaves_maptSwitchedOn hm htm
    · exact leaves_keep hm

theorem leaves_obtainAddresses (h : Accounted .obtainingIpAddresses s)
    (ht : s.virtIf.ip.selectedModeTimerStatus ≠ .running)
    (hphase : s.phase = .running .obtainingIpAddresses) : Leaves obtainAddresses s := by
  apply leaves_self
  intro _
  split
  · apply leaves_act
    intro _
    apply leaves_keep
    exact h.congr (account4_blind.refreshDhcpClients (fun _ _ => rfl) s)
      (account6_blind.refreshDhcpClients (fun _ _ => rfl) s)
  · exact leaves_obtainLease h ht hphase

theorem leaves_obtainMapt (h : Accounted .obtainingIpAddresses s)
    (hphase : s.phase = .running .obtainingIpAddresses) : Leaves obtainMapt s := by
  have hdone : ∀ (s : Vism) (t : TimerStatus), account6 (s.mapIp fun ip =>
      { ip with selectedModeTimerStatus := t }) = { account6 s with timer := t } := fun _ _ => rfl
  apply leaves_self
  intro _
  split
  · apply leaves_act
    intro _
    refine leaves_obtainAddresses ⟨Accounted4.idle rfl, ?_⟩ TimerStatus.noConfusion hphase
    rw [hdone]
    refine ⟨h.ipv6.known, h.ipv6.conn, h.ipv6.lanPrefix, h.ipv6.applied, ?_, fun hrun => by cases hrun⟩
    rintro (hno | hrun)
    · cases hno
    · cases hrun
  split
  · next hrun =>
    split
    · apply leaves_act
      intro _
      apply leaves_go
      intro _
      apply accounted_wanValidated
      rw [hdone]
      exact ⟨h.ipv6.known, h.ipv6.conn_false rfl, h.ipv6.unseen (.inr hrun), fun hno => by cases hno⟩
    · exact leaves_keep h
  · next ht => exact leaves_obtainAddresses h ht hphase

theorem leaves_obtainingIpAddresses (h : Accounted .obtainingIpAddresses s)
    (hphase : s.phase = .running .obtainingIpAddresses) : Leaves wanStateObtainingIpAddresses s := by
  apply leaves_self
  intro _
  split
  · exact leaves_giveUp h
  split
  · exact leaves_giveUpVlan h
  split
  · exact leaves_obtainMapt h hphase
  · next hmapt => exact leaves_obtainAddresses h (fun hrun => hmapt (h.ipv6.timer hrun).2) hphase

/-! ## Standby -/

/-- What the IPv6 part of `wan_state_standby` hands on to its IPv4 part. -/
structure StandbyIpv6 (s : Vism) (r : WanState × Vism) : Prop where
  ipv6 : Accounted6 r.1 (account6 r.2)
  ipv4 : account4 r.2 = account4 s
  next : r.1 ≠ .obtainingIpAddresses
  outside : r.2.outside = s.outside

theorem standbyIpv6_ipv6Up (h6 : s.virtIf.ip.ipv6Status = .up) (h : Accounted6 .standby (account6 s))
    (hok : s.outside.setUpIpv6 = true) : StandbyIpv6 s (wanTransitionIpv6Up s) := by
  have ht : s.virtIf.ip.selectedModeTimerStatus ≠ .running := h.timer_ne WanState.noConfusion
  obtain ⟨hacc, hleased⟩ := accounted_ipv6Up (h.lanPrefix h6) h6 ht hok
  refine ⟨hacc, account4_ipv6Up s, ?_, ?_⟩
  · intro hno
    rw [hno] at hleased
    cases hleased
  · have hset : (setUpIpv6 (s.setStatus .up)).outside = s.outside :=
      outside_blind.startConnectivityCheck _
    simp only [wanTransitionIpv6Up, snd_ite, ite_self]
    exact (outside_blind.sendMsgToConnectivityCheck _).trans hset

theorem StandbyIpv6.accounted {r : WanState × Vism} (h : StandbyIpv6 s r)
    (hok : s.virtIf.ip.ipv4Status = .up → s.outside.setUpIpv4 = true) :
    Accounted (if r.2.virtIf.ip.ipv4Status = .up then wanTransitionIpv4Up r.2 else r).1
      (if r.2.virtIf.ip.ipv4Status = .up then wanTransitionIpv4Up r.2 else r).2 := by
  have h4 : r.2.virtIf.ip.ipv4Status = s.virtIf.ip.ipv4Status := congrArg Account4.status h.ipv4
  split
  · next hup =>
    refine accounted_ipv4Up h.ipv6 (h.ipv6.timer_ne h.next) ?_
    rw [h.outside]
    exact hok (h4 ▸ hup)
  · next hno => exact ⟨Accounted4.down hno, h.ipv6⟩

theorem accounted_activateStandby (h : Accounted .standby s)
    (hg : SetsUp (.wanTransition .standbyUp) s) :
    Accounted (activateStandby s).1 (activateStandby s).2 := by
  obtain ⟨hg6, hg4⟩ := hg
  have ht : s.virtIf.ip.selectedModeTimerStatus ≠ .running := h.ipv6.timer_ne WanState.noConfusion
  refine StandbyIpv6.accounted ?_ hg4
  split
  · next h6 =>
    obtain ⟨hlan, hset⟩ := hg6 h6
    have hclear : Accounted6 .standby
        (account6 (if s.virtIf.ip.ipv6Changed then clearIpv6Changed s else s)) := by
      split
      · next hc => exact accounted6_clearIpv6Changed h.ipv6 rfl rfl ht (hlan hc)
      · exact h.ipv6
    have h4 : account4 (if s.virtIf.ip.ipv6Changed then clearIpv6Changed s else s) = account4 s :=
      Blind.ite rfl rfl
    have hout : (if s.virtIf.ip.ipv6Changed then clearIpv6Changed s else s).outside = s.outside := by
      split <;> rfl
    have hup : (if s.virtIf.ip.ipv6Changed then clearIpv6Changed s else s).virtIf.ip.ipv6Status = .up := by
      split
      · exact h6
      · exact h6
    generalize (if s.virtIf.ip.ipv6Changed then clearIpv6Changed s else s) = u at hclear h4 hout hup ⊢
    have hsame : ∀ r, StandbyIpv6 u r → StandbyIpv6 s r := fun r hr =>
      ⟨hr.ipv6, hr.ipv4.trans h4, hr.next, hr.outside.trans hout⟩
    apply hsame
    show StandbyIpv6 u (if u.outside.lanAddressReady = true then wanTransitionIpv6Up u else (.standby, u))
    split
    · exact standbyIpv6_ipv6Up hup hclear (hout ▸ hset)
    · exact ⟨hclear, rfl, WanState.noConfusion, rfl⟩
  · exact ⟨h.ipv6, rfl, WanState.noConfusion, rfl⟩

theorem leaves_standbyState (h : Accounted .standby s) : Leaves wanStateStandby s := by
  apply leaves_self
  intro _
  split
  · exact leaves_giveUp h
  apply leaves_act
  intro _
  have hm : Accounted .standby (monitorDhcpApps s) := h.quiet fun hg => hg.monitorDhcpApps s
  generalize monitorDhcpApps s = u at hm ⊢
  apply leaves_self
  intro _
  split
  · apply leaves_go
    intro _
    refine ⟨Accounted4.idle rfl, ?_⟩
    exact hm.ipv6.leave (hm.ipv6.timer_ne WanState.noConfusion) (hm.ipv6.conn_false rfl) rfl
      fun hno => by cases hno
  split
  · exact leaves_go fun hg => accounted_activateStandby hm hg
  · exact leaves_quiet hm fun hg => Blind.ite (hg.startConnectivityCheck u) rfl

/-! ## Leased states -/

theorem leaves_ipv4Down (h : Accounted st s) (hst : leased st = true) :
    Leaves (go .ipv4Down wanTransitionIpv4Down) s := by
  apply leaves_go
  intro _
  have hnext : (wanTransitionIpv4Down s).1 =
      if (account6 s).status = .up ∧ (account6 s).conn = true then .ipv6Leased
      else .obtainingIpAddresses :=
    (congrArg Prod.fst (entry_ipv4Down s)).trans (Ledger.ipv4Down_fst _)
  refine ⟨Accounted4.down ?_, ?_⟩
  · show (ledger (wanTransitionIpv4Down s).2).ipv4 ≠ .up
    rw [ledger_ipv4Down, ipv4_ipv4Down]
    exact LeaseStatus.noConfusion
  · rw [account6_ipv4Down, hnext]
    refine h.ipv6.branch (h.ipv6.timer_ne ?_) rfl rfl rfl
    rintro rfl
    cases hst

theorem leaves_ipv6Down (h : Accounted st s) (hst : leased st = true) :
    Leaves (go .ipv6Down wanTransitionIpv6Down) s := by
  apply leaves_go
  intro _
  refine ⟨?_, accounted6_ipv6Down (h.ipv6.timer_ne ?_)⟩
  · rw [account4_ipv6Down]
    exact h.ipv4.move hst
  · rintro rfl
    cases hst

/-- Deconfigured IPv6 is to be configured anew. -/
theorem account6_standbyDeconfigIps (s : Vism) :
    account6 (wanTransitionStandbyDeconfigIps s).2 =
      if (account6 s).status = .up then
        { account6 s with conn := false, lanPrefix := none, applied := none, changed := true }
      else account6 s := by
  have hm : ∀ s : Vism, account6 (if s.virtIf.map.maptStatus = .up then tearDownMapt s else s) =
      account6 s := fun _ => Blind.ite rfl rfl
  have hc : ∀ s : Vism, account6 (if s.virtIf.ip.connectivityCheckType = .ihc then
      stopConnectivityCheck s else s) = account6 s := fun _ => Blind.ite rfl rfl
  have h4 : ∀ s : Vism, account6 (if s.virtIf.ip.ipv4Status = .up then tearDownIpv4 s else s) =
      account6 s := fun _ => Blind.ite rfl rfl
  have h6 : ∀ s : Vism, account6 (if s.virtIf.ip.ipv6Status = .up then
      (tearDownIpv6 s).mapIp fun ip => { ip with ipv6Changed := true } else s) =
      if (account6 s).status = .up then
        { account6 s with conn := false, lanPrefix := none, applied := none, changed := true }
      else account6 s := fun _ => account6_ite _ _ _
  have hstatus : ∀ s : Vism, account6 (s.setStatus .standby) = account6 s := fun _ => rfl
  simp only [wanTransitionStandbyDeconfigIps, hstatus, h6, h4, hc, hm]

theorem leaves_standbyDeconfigIps (h : Accounted st s) (hst : leased st = true) :
    Leaves (go .standbyDeconfigIps wanTransitionStandbyDeconfigIps) s := by
  apply leaves_go
  intro _
  have ht : s.virtIf.ip.selectedModeTimerStatus ≠ .running := by
    apply h.ipv6.timer_ne
    rintro rfl
    cases hst
  refine ⟨Accounted4.idle rfl, ?_⟩
  rw [account6_standbyDeconfigIps]
  split
  · exact Accounted6.retry h.ipv6.known rfl (fun _ => rfl) ht
  · next hdown =>
    refine Accounted6.retry h.ipv6.known ?_ (fun hup => absurd hup hdown) ht
    cases hc : (account6 s).conn with
    | false => rfl
    | true => exact absurd (h.ipv6.conn hc).1 hdown

theorem account6_replaced (s : Vism) : account6 (replaced s) = account6 s := by
  have hnew : ∀ s : Vism, account6 (configureNewIpv4 s) = account6 s := fun s =>
    Blind.ite (account6_ipv4Up s) rfl
  have hstop : ∀ s : Vism, account6 (if s.virtIf.ip.dhcp4cStatus = .started then stopDhcpv4Client s
      else s) = account6 s := fun _ => Blind.ite rfl rfl
  have hdown : ∀ s : Vism, account6 (if s.virtIf.ip.ipv4Status = .up then (wanTransitionIpv4Down s).2
      else s) = account6 s := fun s => Blind.ite (account6_ipv4Down s) rfl
  have hset : ∀ s : Vism, account6 (setUpMapt s) = account6 s := fun _ => rfl
  simp only [replaced, releaseIpv4, hdown, hstop, hset, hnew]
  rfl

/-- MAP-T leaves no IPv4 lease. -/
theorem ipv4_releaseIpv4 (s : Vism) : (releaseIpv4 s).virtIf.ip.ipv4Status ≠ .up := by
  show (ledger (releaseIpv4 s)).ipv4 ≠ .up
  rw [ledger_releaseIpv4]
  split
  · rw [ipv4_ipv4Down]
    exact LeaseStatus.noConfusion
  · next hdown => exact hdown

theorem leaves_maptUp (h : Accounted st s) (hst : holdsIpv6 st = true)
    (hcur : s.virtIf.eCurrentState = st) : Leaves (go .maptUp wanTransitionMaptUp) s := by
  apply leaves_go
  intro _
  by_cases hverify : s.outside.verifyMapt = true
  · rw [wanTransitionMaptUp_verified hverify]
    have h4 : (replaced s).virtIf.ip.ipv4Status ≠ .up := ipv4_releaseIpv4 _
    split
    · refine ⟨Accounted4.down h4, ?_⟩
      rw [account6_replaced]
      exact h.ipv6.hold hst rfl
    · refine ⟨Accounted4.down h4, ?_⟩
      rw [account6_replaced, current_replaced, hcur]
      exact h.ipv6
  · rw [wanTransitionMaptUp, if_neg hverify, hcur]
    exact h

theorem leaves_maptOffered (h : Accounted st s) (hst : holdsIpv6 st = true)
    (hcur : s.virtIf.eCurrentState = st) {q : VismProg WanState} (hq : Leaves q s) :
    Leaves (if s.outside.lanAddressReady then go .maptUp wanTransitionMaptUp else q) s := by
  split
  · exact leaves_maptUp h hst hcur
  · exact hq

theorem accounted_reconfigureIpv4 (h : Accounted st s) (hc : s.virtIf.ip.ipv4Changed = true) :
    Accounted st (reconfigureIpv4 s) := by
  have hset : account4 (setUpIpv4 (tearDownIpv4 s)) =
      { account4 s with applied := onSuccess s.outside.setUpIpv4 s.virtIf.ip.ipv4Data.toIpv4Lease } :=
    account4_blind.startConnectivityCheck _
  have hset6 : account6 (setUpIpv4 (tearDownIpv4 s)) = account6 s := account6_setUpIpv4 _
  simp only [reconfigureIpv4]
  split
  · split
    · next hok =>
      have hdone : ∀ s : Vism, account4 (s.mapIp fun ip => { ip with ipv4Changed := false }) =
          { account4 s with changed := false } := fun _ => rfl
      have hdone6 : ∀ s : Vism, account6 (s.mapIp fun ip => { ip with ipv4Changed := false }) =
          account6 s := fun _ => rfl
      constructor
      · rw [hdone, account4_blind.sendMsgToConnectivityCheck, hset, hok]
        exact fun _ _ => .inr rfl
      · rw [hdone6, account6_blind.sendMsgToConnectivityCheck, hset6]
        exact h.ipv6
    · constructor
      · rw [hset]
        exact fun _ _ => .inl hc
      · rw [hset6]
        exact h.ipv6
  · exact ⟨fun _ _ => .inl hc, h.ipv6⟩

/-- A lease of IPv6 that is not down is up. -/
theorem Accounted6.up {a : Account6} (h : Accounted6 st a) (hdown : a.status ≠ .down) :
    a.status = .up := by
  cases hs : a.status with
  | up => rfl
  | down => exact absurd hs hdown
  | unknown => exact absurd hs h.known

/-- A reconfiguration that failed is tried again, in the same state. -/
theorem Accounted6.again {a a' : Account6} (h : Accounted6 st a) (hst : holdsIpv6 st = true)
    (hup : a.status = .up) (hstatus : a'.status = a.status) (hc : a'.changed = true)
    (htimer : a'.timer = a.timer) : Accounted6 st a' where
  known := hstatus ▸ h.known
  conn _ := ⟨hstatus.trans hup, hst⟩
  lanPrefix _ := .inl hc
  applied _ _ := .inl hc
  unseen _ _ := hc
  timer hrun := by
    rw [htimer] at hrun
    rw [(h.timer hrun).1] at hst
    cases hst

/-- The account of IPv6 once it was set up anew. -/
theorem account6_reconfigureIpv6 (s : Vism) (hlan : s.outside.setUpLanPrefixIpv6 = true)
    (hset : s.outside.setUpIpv6 = true) :
    account6 ((sendMsgToConnectivityCheck (setUpIpv6 (setUpLanPrefixIpv6 (tearDownIpv6 s)))).mapIp
      fun ip => { ip with ipv6Changed := false }) =
    { account6 s with
      changed := false, conn := true
      lanPrefix := some s.virtIf.ip.ipv6Data.toIpv6Lease
      applied := some s.virtIf.ip.ipv6Data.toIpv6Lease } := by
  have hdone : ∀ s : Vism, account6 (s.mapIp fun ip => { ip with ipv6Changed := false }) =
      { account6 s with changed := false } := fun _ => rfl
  rw [hdone, account6_blind.sendMsgToConnectivityCheck, setUpIpv6, account6_blind.startConnectivityCheck]
  simp only [account6, setUpLanPrefixIpv6, tearDownIpv6, Vism.mapIp, Vism.mapVirtIf, onSuccess,
    lease_lanAddress, hlan, hset, if_true]

theorem accounted_reconfigureIpv6 (h : Accounted st s) (hst : holdsIpv6 st = true)
    (hc : s.virtIf.ip.ipv6Changed = true) (hup : s.virtIf.ip.ipv6Status = .up) {done : Vism → Vism}
    (hdone4 : ∀ s, account4 (done s) = account4 s) (hdone6 : ∀ s, account6 (done s) = account6 s) :
    Accounted st (reconfigureIpv6 done s) := by
  have hclear : ∀ s : Vism, account4 (s.mapIp fun ip => { ip with ipv6Changed := false }) = account4 s :=
    fun _ => rfl
  have hset : account4 (setUpIpv6 (setUpLanPrefixIpv6 (tearDownIpv6 s))) = account4 s :=
    account4_setUpIpv6 _
  have hset6 : account6 (setUpIpv6 (setUpLanPrefixIpv6 (tearDownIpv6 s))) =
      account6 { setUpLanPrefixIpv6 (tearDownIpv6 s) with
        ipv6ConnectionState := true
        applied := { (setUpLanPrefixIpv6 (tearDownIpv6 s)).applied with
          ipv6 := onSuccess s.outside.setUpIpv6 (lanAddress s.virtIf.ip.ipv6Data).toIpv6Lease } } :=
    account6_blind.startConnectivityCheck _
  simp only [reconfigureIpv6]
  split
  · split
    · next hlan =>
      split
      · next hok =>
        constructor
        · rw [hdone4, hclear, account4_blind.sendMsgToConnectivityCheck, hset]
          exact h.ipv4
        · rw [hdone6, account6_reconfigureIpv6 s hlan hok]
          refine ⟨h.ipv6.known, fun _ => ⟨hup, hst⟩, fun _ => .inr rfl, fun _ _ => .inr rfl, ?_, h.ipv6.timer⟩
          rintro (hno | hrun)
          · rw [mayBeUsable_leased (holdsIpv6_leased hst)] at hno
            cases hno
          · rw [(h.ipv6.timer hrun).1] at hst
            cases hst
      · constructor
        · rw [hset]
          exact h.ipv4
        · rw [hset6]
          exact h.ipv6.again hst hup rfl hc rfl
    · exact ⟨h.ipv4, h.ipv6.again hst hup rfl hc rfl⟩
  · exact ⟨h.ipv4, h.ipv6.again hst hup rfl hc rfl⟩

theorem leaves_monitorAndKeep (h : Accounted st s) : Leaves (monitorAndKeep st) s :=
  leaves_quiet h fun hg => hg.monitorDhcpApps s

theorem leaves_ipv4Leased (h : Accounted .ipv4Leased s) (hphase : s.phase = .running .ipv4Leased) :
    Leaves wanStateIpv4Leased s := by
  apply leaves_act
  intro _
  apply leaves_act
  intro _
  have hm : Accounted .ipv4Leased (monitorDhcpApps (joinDhcpv6 s)) :=
    (h.quiet fun hg => hg.joinDhcpv6 s).quiet fun hg => hg.monitorDhcpApps _
  have hpm : (monitorDhcpApps (joinDhcpv6 s)).phase = .running .ipv4Leased :=
    (congrArg Prod.fst ((place_blind.monitorDhcpApps _).trans (place_blind.joinDhcpv6 s))).trans hphase
  generalize monitorDhcpApps (joinDhcpv6 s) = u at hm hpm ⊢
  have ht : u.virtIf.ip.selectedModeTimerStatus ≠ .running := hm.ipv6.timer_ne WanState.noConfusion
  apply leaves_self
  intro hg
  split
  · exact leaves_giveUp hm
  split
  · exact leaves_ipv4Down hm rfl
  split
  · exact leaves_standbyDeconfigIps hm rfl
  split
  · next hc => exact leaves_act fun _ => leaves_keep (accounted_reconfigureIpv4 hm hc)
  split
  · next h6 =>
    apply leaves_self
    intro _
    split
    · next hc =>
      apply leaves_act
      intro _
      exact leaves_keep ⟨hm.ipv4, accounted6_clearIpv6Changed hm.ipv6 rfl rfl ht
        (setsUp_delegates hg (.inr hpm) h6 hc)⟩
    split
    · exact leaves_ipv6Up hm.ipv6 (hm.ipv4 rfl) h6 ht
    · exact leaves_keep hm
  split
  · exact leaves_quiet hm fun hg => hg.renewIpv4 u
  split
  · exact leaves_maptSwitchedOn hm ht
  · exact leaves_keep hm

theorem leaves_ipv6Leased (h : Accounted .ipv6Leased s) (hcur : s.virtIf.eCurrentState = .ipv6Leased) :
    Leaves wanStateIpv6Leased s := by
  apply leaves_act
  intro _
  apply leaves_act
  intro _
  have hm : Accounted .ipv6Leased (monitorDhcpApps (joinDhcpv4 s)) :=
    (h.quiet fun hg => hg.joinDhcpv4 s).quiet fun hg => hg.monitorDhcpApps _
  have hcm : (monitorDhcpApps (joinDhcpv4 s)).virtIf.eCurrentState = .ipv6Leased :=
    (congrArg Prod.snd ((place_blind.monitorDhcpApps _).trans (place_blind.joinDhcpv4 s))).trans hcur
  generalize monitorDhcpApps (joinDhcpv4 s) = u at hm hcm ⊢
  have ht : u.virtIf.ip.selectedModeTimerStatus ≠ .running := hm.ipv6.timer_ne WanState.noConfusion
  apply leaves_self
  intro _
  split
  · exact leaves_giveUp hm
  split
  · exact leaves_ipv6Down hm rfl
  next hlost =>
  have hup : u.virtIf.ip.ipv6Status = .up := by
    apply hm.ipv6.up
    intro hdown
    apply hlost
    rw [show u.virtIf.ip.ipv6Status = .down from hdown]
    simp only [decide_true, Bool.true_or]
  split
  · exact leaves_standbyDeconfigIps hm rfl
  split
  · next hc =>
    exact leaves_act fun _ => leaves_keep
      (accounted_reconfigureIpv6 hm rfl hc hup (fun _ => rfl) fun _ => rfl)
  split
  · exact leaves_ipv4Up hm.ipv6 ht
  split
  · exact leaves_self fun _ => leaves_maptOffered hm rfl hcm (leaves_keep hm)
  split
  · exact leaves_maptSwitchedOn hm ht
  split
  · exact leaves_quiet hm fun hg => hg.renewIpv6 u
  · exact leaves_keep hm

theorem leaves_dualStackDown (h : Accounted .dualStackActive s) :
    Leaves (go .dualStackDown wanTransitionDualStackDown) s := by
  apply leaves_go
  intro _
  have ht : s.virtIf.ip.selectedModeTimerStatus ≠ .running := h.ipv6.timer_ne WanState.noConfusion
  simp only [wanTransitionDualStackDown]
  refine ⟨Accounted4.idle rfl, accounted6_ipv6Down ?_⟩
  rw [show (wanTransitionIpv4Down (s.setStatus .validating)).2.virtIf.ip.selectedModeTimerStatus = _ from
    congrArg Account6.timer (account6_ipv4Down (s.setStatus .validating))]
  exact ht

theorem leaves_dualStackMapt (h : Accounted .dualStackActive s)
    (hcur : s.virtIf.eCurrentState = .dualStackActive) : Leaves dualStackMapt s := by
  apply leaves_self
  intro _
  split
  · exact leaves_maptOffered h rfl hcur (leaves_monitorAndKeep h)
  split
  · split
    · exact leaves_act fun _ => leaves_go fun _ =>
        accounted_featureRefresh (h.ipv6.timer_ne WanState.noConfusion)
    · exact leaves_monitorAndKeep h
  · apply leaves_act
    intro _
    apply leaves_monitorAndKeep
    split
    · exact h.quiet fun hg => hg.renewIpv4 s
    split
    · exact h.quiet fun hg => hg.renewIpv6 s
    · exact h

theorem leaves_dualStackActive (h : Accounted .dualStackActive s)
    (hcur : s.virtIf.eCurrentState = .dualStackActive) : Leaves wanStateDualStackActive s := by
  apply leaves_self
  intro _
  split
  · exact leaves_giveUp h
  split
  · exact leaves_dualStackDown h
  split
  · exact leaves_ipv4Down h rfl
  split
  · exact leaves_standbyDeconfigIps h rfl
  split
  · next hc => exact leaves_act fun _ => leaves_monitorAndKeep (accounted_reconfigureIpv4 h hc)
  split
  · exact leaves_ipv6Down h rfl
  next hlost =>
  have hup : s.virtIf.ip.ipv6Status = .up := by
    apply h.ipv6.up
    intro hdown
    apply hlost
    rw [show s.virtIf.ip.ipv6Status = .down from hdown]
    simp only [decide_true, Bool.true_or]
  split
  · next hc =>
    exact leaves_act fun _ => leaves_monitorAndKeep
      (accounted_reconfigureIpv6 h rfl hc hup (fun _ => rfl) fun _ => rfl)
  · exact leaves_dualStackMapt h hcur

theorem accounted_maptDown (h : Accounted .maptActive s) :
    Accounted (wanTransitionMaptDown s).1 (wanTransitionMaptDown s).2 := by
  refine ⟨Accounted4.down ?_, ?_⟩
  · show (ledger (wanTransitionMaptDown s).2).ipv4 ≠ .up
    rw [ledger_maptDown]
    exact LeaseStatus.noConfusion
  · rw [account6_maptDown]
    exact h.ipv6.hold rfl rfl

theorem accounted_reconfigureMaptActive (h : Accounted .maptActive s)
    (hup : s.virtIf.ip.ipv6Status = .up) : Accounted .maptActive (reconfigureMaptActive s) := by
  have hfollows4 : ∀ s : Vism, account4 (maptFollows s) = account4 s := fun _ => Blind.ite rfl rfl
  have hfollows6 : ∀ s : Vism, account6 (maptFollows s) = account6 s := fun _ => Blind.ite rfl rfl
  unfold reconfigureMaptActive
  split
  · next hc => exact accounted_reconfigureIpv6 h rfl hc hup hfollows4 hfollows6
  split
  · refine h.congr ?_ ?_
    · exact Blind.ite (Blind.ite rfl rfl) rfl
    · exact Blind.ite (Blind.ite rfl rfl) rfl
  split
  · exact h.quiet fun hg => hg.renewIpv6 s
  · exact h

theorem leaves_maptActive (h : Accounted .maptActive s) : Leaves wanStateMaptActive s := by
  have ht : s.virtIf.ip.selectedModeTimerStatus ≠ .running := h.ipv6.timer_ne WanState.noConfusion
  apply leaves_self
  intro _
  split
  · exact leaves_giveUp h
  split
  · exact leaves_standbyDeconfigIps h rfl
  split
  · exact leaves_go fun _ => accounted_maptDown h
  next hlost =>
  have hup : s.virtIf.ip.ipv6Status = .up := by
    apply h.ipv6.up
    intro hdown
    apply hlost
    rw [maptLost, show s.virtIf.ip.ipv6Status = .down from hdown]
    simp
  split
  · split
    · exact leaves_monitorAndKeep h
    · apply leaves_act
      intro _
      apply leaves_go
      intro _
      apply accounted_featureRefresh
      rw [show (wanTransitionMaptDown _).2.virtIf.ip.selectedModeTimerStatus = _ from
        congrArg Account6.timer (account6_maptDown _)]
      exact ht
  · exact leaves_act fun _ => leaves_monitorAndKeep (accounted_reconfigureMaptActive h hup)

/-! ## The end of an interface -/

theorem leaves_refreshingWan (h : Accounted .refreshingWan s) : Leaves wanStateRefreshingWan s := by
  apply leaves_self
  intro _
  split
  · exact leaves_act fun _ => leaves_giveUp (h.congr rfl rfl)
  split
  · exact leaves_keep h
  · apply leaves_go
    intro _
    exact (h.early rfl rfl).quiet (f := fun s => (wanTransitionWanRefreshed s).2)
      fun hg => hg.wanTransitionWanRefreshed s

theorem leaves_deconfiguringWan (h : Accounted .deconfiguringWan s) :
    Leaves wanStateDeconfiguringWan s := by
  apply leaves_self
  intro _
  split
  · exact leaves_keep h
  · exact leaves_go fun _ => (h.early rfl rfl).congr rfl rfl

theorem leaves_exit (h : Accounted .exit s) : Leaves wanStateExit s := by
  apply leaves_act
  intro _
  exact leaves_keep ⟨Accounted4.idle rfl,
    Accounted6.down rfl (h.ipv6.conn_false rfl) (h.ipv6.timer_ne WanState.noConfusion)⟩

/-- Every state function keeps the accounts. -/
theorem leaves_wanState (st : WanState) (h : Accounted st s) (hphase : s.phase = .running st)
    (hcur : s.virtIf.eCurrentState = st) : Leaves (wanState st) s := by
  cases st with
  | exit => exact leaves_exit h
  | vlanConfiguring => exact leaves_vlanConfiguring h
  | pppConfiguring => exact leaves_pppConfiguring h
  | validatingWan => exact leaves_validatingWan h
  | obtainingIpAddresses => exact leaves_obtainingIpAddresses h hphase
  | ipv4Leased => exact leaves_ipv4Leased h hphase
  | ipv6Leased => exact leaves_ipv6Leased h hcur
  | dualStackActive => exact leaves_dualStackActive h hcur
  | maptActive => exact leaves_maptActive h
  | refreshingWan => exact leaves_refreshingWan h
  | deconfiguringWan => exact leaves_deconfiguringWan h
  | standby => exact leaves_standbyState h

end Leaves

end InterfaceSm
end WanManager
