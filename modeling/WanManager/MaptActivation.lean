import WanManager.LinkReplies

/-! # A set-up of MAP-T that fails

`wan_transition_mapt_up` gives IPv4 up for MAP-T before the last of its steps: the DHCPv4 client is
stopped, the family torn down and the PPP session ended. Nothing of it is undone if
`WanManager_ProcessMAPTConfiguration` fails, and the answer of `wan_setUpMapt` is only traced. -/

namespace WanManager
open Concurrency

namespace InterfaceSm

/-- `wan_transition_mapt_up`, with what it asks of the PPP session. -/
def maptUp (s : Vism) : WanState × Vism :=
  ((wanTransitionMaptUp s).1, linked .maptUp (wanTransitionMaptUp s).2)

/-- `s'` agrees with the state `st` that a failure in `s` returns. -/
structure Agrees (s : Vism) (st : WanState) (s' : Vism) : Prop where
  /-- MAP-T is not set up: it was not before, and the call of `wan_setUpMapt` failed. -/
  mapt : s'.configured.mapt = true → s.configured.mapt = false ∧ s.outside.setUpMapt = false
  ipv4 : s'.configured.ipv4 = true ↔ st = .dualStackActive
  dhcpv4 : s'.virtIf.ip.dhcp4cStatus = s.virtIf.ip.dhcp4cStatus
  ppp : s'.virtIf.ppp.linkStatus = s.virtIf.ppp.linkStatus
  maptChanged : s'.virtIf.map.maptChanged = s.virtIf.map.maptChanged

/-- A failure changes nothing, and MAP-T is active only after a success. -/
def AllOrNothing (s : Vism) : Prop :=
  ((maptUp s).1 ≠ .maptActive → Agrees s (maptUp s).1 (maptUp s).2) ∧
    ((maptUp s).1 = .maptActive → s.outside.setUpMapt = true ∧ s.outside.processMapt = true)

/-- The transition is called: by one of two states, for an interface that was offered MAP-T. -/
structure CallsMaptUp (s : Vism) : Prop where
  state : s.virtIf.eCurrentState = .ipv6Leased ∨ s.virtIf.eCurrentState = .dualStackActive
  offered : maptUpReady s = true

/-! ## What replacing IPv4 leaves -/

/-- `f` sees nothing of the IPv4 lease and what is configured. -/
structure Beside {β : Type} (f : Vism → β) : Prop where
  ip : ∀ s g, f (s.mapIp g) = f s
  status : ∀ s st, f (s.setStatus st) = f s
  accounts : ∀ s c4 c6 fams app n, f { s with
    ipv4ConnectionState := c4, ipv6ConnectionState := c6, configured := fams, applied := app
    setUps := n } = f s

namespace Beside
variable {β : Type} {f : Vism → β} (h : Beside f)

include h

theorem clientBlind : ClientBlind f := ⟨fun s g _ => h.ip s g⟩

theorem wanTransitionIpv4Down (s : Vism) : f (wanTransitionIpv4Down s).2 = f s := by
  have hdown : f (updateInterfaceStatus (settleDhcpv4 s) .connectionDown) = f s := by
    rw [updateInterfaceStatus, h.ip]
    exact h.clientBlind.settleDhcpv4 s
  have htear : ∀ u, f (if u.virtIf.status = .up then tearDownIpv4 u else u) = f u :=
    fun u => Blind.ite (h.accounts u _ _ _ _ _) rfl
  have hcheck := (h.clientBlind.sendMsgToConnectivityCheck _).trans ((htear _).trans hdown)
  exact FixedDown.snd_ite hcheck ((h.status _ _).trans hcheck)

theorem releaseIpv4 (s : Vism) : f (releaseIpv4 s) = f s := by
  have hstop : f (if s.virtIf.ip.dhcp4cStatus = .started then stopDhcpv4Client s else s) = f s :=
    Blind.ite (h.ip _ _) rfl
  exact (Blind.ite (h.wanTransitionIpv4Down _) rfl).trans hstop

theorem configureNewIpv4 (s : Vism) : f (configureNewIpv4 s) = f s := by
  have hset : f (setUpIpv4 (s.setStatus .up)) = f s :=
    (h.clientBlind.startConnectivityCheck _).trans ((h.accounts _ _ _ _ _ _).trans (h.status _ _))
  have hup : f ((sendMsgToConnectivityCheck (setUpIpv4 (s.setStatus .up))).mapIp fun ip =>
      { ip with ipv4Changed := false, ipv4Renewed := false }) = f s :=
    (h.ip _ _).trans ((h.clientBlind.sendMsgToConnectivityCheck _).trans hset)
  exact Blind.ite (FixedDown.snd_ite hup hup) rfl

theorem replaced (s : Vism) :
    f (replaced s) = f (s.mapMap fun m => { m with maptChanged := false }) :=
  (h.releaseIpv4 _).trans ((h.accounts _ _ _ _ _ _).trans (h.configureNewIpv4 _))

end Beside

theorem beside_outside : Beside Vism.outside :=
  ⟨fun _ _ => rfl, fun _ _ => rfl, fun _ _ _ _ _ _ => rfl⟩

theorem beside_maptUpReady : Beside maptUpReady :=
  ⟨fun _ _ => rfl, fun _ _ => rfl, fun _ _ _ _ _ _ => rfl⟩

section Replaced

variable {s : Vism}

theorem outside_replaced : (replaced s).outside = s.outside := beside_outside.replaced s

theorem ppp_replaced : (replaced s).virtIf.ppp = s.virtIf.ppp :=
  Beside.replaced (f := fun s => s.virtIf.ppp)
    ⟨fun _ _ => rfl, fun _ _ => rfl, fun _ _ _ _ _ _ => rfl⟩ s

theorem maptChanged_replaced : (replaced s).virtIf.map.maptChanged = false :=
  Beside.replaced (f := fun s => s.virtIf.map.maptChanged)
    ⟨fun _ _ => rfl, fun _ _ => rfl, fun _ _ _ _ _ _ => rfl⟩ s

theorem mapt_replaced : (replaced s).configured.mapt = true := by
  have h : ∀ (c : Bool) (b : Ledger), (b.maptReplaces c).configured.mapt = true := by
    intro c b
    simp only [Ledger.maptReplaces, Ledger.ipv4Down, Ledger.ifUp, Ledger.setUpM, Ledger.tearDown4]
    grind
  exact (congrArg (·.configured.mapt) (ledger_replaced s)).trans (h _ _)

/-- IPv4 stays configured unless its lease is up and the interface too, if only for the lease. -/
def keepsIpv4 (s : Vism) : Bool :=
  s.configured.ipv4 &&
    !(s.virtIf.ip.ipv4Status == .up && (s.virtIf.ip.ipv4Changed || s.virtIf.status == .up))

theorem ipv4_replaced : (replaced s).configured.ipv4 = keepsIpv4 s := by
  have h : ∀ (c : Bool) (b : Ledger), (b.maptReplaces c).configured.ipv4 =
      (b.configured.ipv4 && !(b.ipv4 == .up && (c || b.status == .up))) := by
    intro c b
    simp only [Ledger.maptReplaces, Ledger.ipv4Down, Ledger.ifUp, Ledger.setUpM, Ledger.ipv4Up,
      Ledger.setUp4, Ledger.tearDown4]
    grind
  exact (congrArg (·.configured.ipv4) (ledger_replaced s)).trans (h _ _)

end Replaced

/-! ## The DHCPv4 client -/

/-- A client that runs, after it was asked to stop. -/
def clientStopped (s : Vism) : DhcpcStatus :=
  if s.virtIf.ip.dhcp4cStatus = .started ∧ s.outside.stopDhcpv4 = true then .stopped
  else s.virtIf.ip.dhcp4cStatus

section Client

variable {s : Vism}

theorem client_startConnectivityCheck (s : Vism) :
    (startConnectivityCheck s).virtIf.ip.dhcp4cStatus = s.virtIf.ip.dhcp4cStatus := by
  simp only [startConnectivityCheck]
  split
  · rfl
  split <;> rfl

theorem client_sendMsgToConnectivityCheck (s : Vism) :
    (sendMsgToConnectivityCheck s).virtIf.ip.dhcp4cStatus = s.virtIf.ip.dhcp4cStatus := by
  simp only [sendMsgToConnectivityCheck]
  split
  · rfl
  · exact client_startConnectivityCheck s

theorem client_configureNewIpv4 (s : Vism) :
    (configureNewIpv4 s).virtIf.ip.dhcp4cStatus = s.virtIf.ip.dhcp4cStatus := by
  have hup : (sendMsgToConnectivityCheck (setUpIpv4 (s.setStatus .up))).virtIf.ip.dhcp4cStatus =
      s.virtIf.ip.dhcp4cStatus :=
    (client_sendMsgToConnectivityCheck _).trans (client_startConnectivityCheck _)
  simp only [configureNewIpv4, wanTransitionIpv4Up]
  split
  · split <;> exact hup
  · rfl

/-- For an interface that has MAP-T no client is started, and one that could not be stopped is not
stopped now. -/
theorem client_settleDhcpv4 (hoffered : maptUpReady s = true)
    (hstop : s.virtIf.ip.dhcp4cStatus = .started → s.outside.stopDhcpv4 = false) :
    (settleDhcpv4 s).virtIf.ip.dhcp4cStatus = s.virtIf.ip.dhcp4cStatus := by
  simp only [maptUpReady, Bool.and_eq_true, beq_iff_eq, and_assoc] at hoffered
  simp only [settleDhcpv4]
  split
  · split
    · next hstarted =>
      show (if s.outside.stopDhcpv4 then _ else _) = _
      rw [hstop hstarted]
      rfl
    · rfl
  · rw [if_neg fun h => h.2.2 hoffered]

theorem client_ipv4Down (hoffered : maptUpReady s = true)
    (hstop : s.virtIf.ip.dhcp4cStatus = .started → s.outside.stopDhcpv4 = false) :
    (wanTransitionIpv4Down s).2.virtIf.ip.dhcp4cStatus = s.virtIf.ip.dhcp4cStatus := by
  have htear : ∀ u : Vism, (if u.virtIf.status = .up then tearDownIpv4 u
      else u).virtIf.ip.dhcp4cStatus = u.virtIf.ip.dhcp4cStatus := by
    intro u
    split <;> rfl
  have hdown := (client_sendMsgToConnectivityCheck _).trans
    ((htear (updateInterfaceStatus (settleDhcpv4 s) .connectionDown)).trans
      (client_settleDhcpv4 hoffered hstop))
  exact FixedDown.snd_ite (f := fun u => u.virtIf.ip.dhcp4cStatus) hdown hdown

theorem client_releaseIpv4 (hoffered : maptUpReady s = true) :
    (releaseIpv4 s).virtIf.ip.dhcp4cStatus = clientStopped s := by
  have hstop : (if s.virtIf.ip.dhcp4cStatus = .started then stopDhcpv4Client s
      else s).virtIf.ip.dhcp4cStatus = clientStopped s := by
    unfold clientStopped
    split
    · next hstarted =>
      show (if s.outside.stopDhcpv4 then _ else _) = _
      simp [hstarted]
    · next hidle => rw [if_neg fun h => hidle h.1]
  have hready : maptUpReady (if s.virtIf.ip.dhcp4cStatus = .started then stopDhcpv4Client s
      else s) = true := by
    split <;> exact hoffered
  have hout : (if s.virtIf.ip.dhcp4cStatus = .started then stopDhcpv4Client s else s).outside =
      s.outside := by
    split <;> rfl
  simp only [releaseIpv4]
  generalize (if s.virtIf.ip.dhcp4cStatus = .started then stopDhcpv4Client s else s) = u at *
  split
  · rw [client_ipv4Down hready, hstop]
    intro hstarted
    rw [hstop, clientStopped] at hstarted
    rw [hout]
    by_contra hans
    grind
  · exact hstop

theorem client_replaced (hoffered : maptUpReady s = true) :
    (replaced s).virtIf.ip.dhcp4cStatus = clientStopped s := by
  have hready : maptUpReady (setUpMapt (configureNewIpv4
      (s.mapMap fun m => { m with maptChanged := false }))) = true :=
    (beside_maptUpReady.accounts _ _ _ _ _ _).trans
      ((beside_maptUpReady.configureNewIpv4 _).trans hoffered)
  have hout : (configureNewIpv4 (s.mapMap fun m => { m with maptChanged := false })).outside = s.outside :=
    beside_outside.configureNewIpv4 _
  have hclient := client_configureNewIpv4 (s.mapMap fun m => { m with maptChanged := false })
  rw [replaced, client_releaseIpv4 hready]
  unfold clientStopped setUpMapt
  rw [hout, hclient]
  rfl

end Client

/-! ## When a failure changes nothing -/

section Outcome

variable {s : Vism}

theorem maptUp_refused (h : s.outside.verifyMapt = false) : maptUp s = (s.virtIf.eCurrentState, s) := by
  simp [maptUp, wanTransitionMaptUp, linked, h]

theorem maptUp_verified (h : s.outside.verifyMapt = true) :
    maptUp s = (if s.outside.processMapt then .maptActive else s.virtIf.eCurrentState,
      setPpp .down (replaced s)) := by
  have hcall : wanTransitionMaptUp s =
      (if s.outside.processMapt then .maptActive else s.virtIf.eCurrentState, replaced s) := by
    rw [wanTransitionMaptUp_verified h, outside_replaced, current_replaced]
    split <;> rfl
  rw [maptUp, hcall]
  simp [linked, outside_replaced, h]

/-- There is nothing that the steps before the last one change. -/
structure NothingToUndo (s : Vism) : Prop where
  mapt : s.configured.mapt = false ∧ s.outside.setUpMapt = false
  ipv4 : keepsIpv4 s = true ↔ s.virtIf.eCurrentState = .dualStackActive
  dhcpv4 : s.virtIf.ip.dhcp4cStatus = .started → s.outside.stopDhcpv4 = false
  ppp : s.virtIf.ppp.enable = true → s.virtIf.ppp.linkStatus = .down
  maptChanged : s.virtIf.map.maptChanged = false

/-- The state agreed before the call with what is configured. -/
structure AgreedBefore (s : Vism) : Prop where
  mapt : s.configured.mapt = false
  ipv4 : s.configured.ipv4 = true ↔ s.virtIf.eCurrentState = .dualStackActive

theorem agrees_refused : Agrees s s.virtIf.eCurrentState s ↔ AgreedBefore s := by
  constructor
  · intro h
    refine ⟨?_, h.ipv4⟩
    cases hm : s.configured.mapt with
    | false => rfl
    | true => exact hm.symm.trans (h.mapt hm).1
  · intro h
    refine ⟨fun hm => ?_, h.ipv4, rfl, rfl, rfl⟩
    rw [h.mapt] at hm
    cases hm

theorem clientStopped_eq_iff : clientStopped s = s.virtIf.ip.dhcp4cStatus ↔
    (s.virtIf.ip.dhcp4cStatus = .started → s.outside.stopDhcpv4 = false) := by
  unfold clientStopped
  cases s.outside.stopDhcpv4 with
  | false => simp
  | true => cases s.virtIf.ip.dhcp4cStatus <;> decide

theorem pppDown_eq_iff (p : PppData) : (if p.enable then LinkStatus.down else p.linkStatus) = p.linkStatus ↔
    (p.enable = true → p.linkStatus = .down) := by
  cases p.enable with
  | false => simp
  | true => simpa using eq_comm

/-- The answer on the PPP session writes nothing else. -/
theorem agrees_setPpp {st : WanState} {u : Vism} : Agrees s st (setPpp .down u) ↔
    (u.configured.mapt = true → s.configured.mapt = false ∧ s.outside.setUpMapt = false) ∧
      (u.configured.ipv4 = true ↔ st = .dualStackActive) ∧
      u.virtIf.ip.dhcp4cStatus = s.virtIf.ip.dhcp4cStatus ∧
      (if u.virtIf.ppp.enable then .down else u.virtIf.ppp.linkStatus) = s.virtIf.ppp.linkStatus ∧
      u.virtIf.map.maptChanged = s.virtIf.map.maptChanged :=
  ⟨fun h => ⟨h.mapt, h.ipv4, h.dhcpv4, h.ppp, h.maptChanged⟩,
    fun ⟨hmapt, hipv4, hdhcpv4, hppp, hchanged⟩ => ⟨hmapt, hipv4, hdhcpv4, hppp, hchanged⟩⟩

theorem agrees_unprocessed (hoffered : maptUpReady s = true) :
    Agrees s s.virtIf.eCurrentState (setPpp .down (replaced s)) ↔ NothingToUndo s := by
  rw [agrees_setPpp, ppp_replaced, ipv4_replaced, client_replaced hoffered, maptChanged_replaced,
    clientStopped_eq_iff, pppDown_eq_iff]
  constructor
  · rintro ⟨hmapt, hipv4, hdhcpv4, hppp, hchanged⟩
    exact ⟨hmapt mapt_replaced, hipv4, hdhcpv4, hppp, hchanged.symm⟩
  · rintro ⟨hmapt, hipv4, hdhcpv4, hppp, hchanged⟩
    exact ⟨fun _ => hmapt, hipv4, hdhcpv4, hppp, hchanged.symm⟩

/-- A call keeps what the state says exactly if all its steps succeed, if it is refused where the
state was right before, or if nothing is there that the earlier steps change. -/
theorem allOrNothing_iff (h : CallsMaptUp s) : AllOrNothing s ↔
    if s.outside.verifyMapt then
      if s.outside.processMapt then s.outside.setUpMapt = true else NothingToUndo s
    else AgreedBefore s := by
  have hcur : s.virtIf.eCurrentState ≠ .maptActive := by
    obtain hst | hst := h.state <;> rw [hst] <;> exact WanState.noConfusion
  unfold AllOrNothing
  cases hverify : s.outside.verifyMapt with
  | false =>
    rw [maptUp_refused hverify, if_neg Bool.false_ne_true, ← agrees_refused]
    exact ⟨fun hall => hall.1 hcur, fun hall => ⟨fun _ => hall, fun hst => absurd hst hcur⟩⟩
  | true =>
    rw [maptUp_verified hverify, if_pos rfl]
    cases hprocess : s.outside.processMapt with
    | false =>
      simp only [Bool.false_eq_true, if_false, ← agrees_unprocessed h.offered]
      exact ⟨fun hall => hall.1 hcur, fun hall => ⟨fun _ => hall, fun hst => absurd hst hcur⟩⟩
    | true => simp

end Outcome

/-! ## A MAP-T configuration that is not taken -/

/-- A dual stack interface that was offered MAP-T. -/
def offeredDual (o : VismOutside) : Vism where
  wanEnable := true
  selection := { enable := true, status := .active }
  virtIf :=
    { enable := true, status := .up, eCurrentState := .dualStackActive, enableMapt := true
      ip := { ipv4Status := .up, ipv6Status := .up, dhcp4cStatus := .started, dhcp6cStatus := .started }
      map := { maptStatus := .up, maptChanged := true } }
  ipv4ConnectionState := true
  ipv6ConnectionState := true
  configured := { ipv4 := true, ipv6 := true }
  outside := o

theorem callsMaptUp_offeredDual (o : VismOutside) : CallsMaptUp (offeredDual o) := ⟨.inr rfl, rfl⟩

theorem allOrNothing_iff_offeredDual : CallsMaptUp (offeredDual {}) ∧ AllOrNothing (offeredDual {}) :=
  ⟨callsMaptUp_offeredDual _, (allOrNothing_iff (callsMaptUp_offeredDual {})).mpr rfl⟩

/-- The interface stays in `DUAL_STACK_ACTIVE` without IPv4, and becomes `MAPT_ACTIVE` without the
MAP-T module. -/
theorem half_done :
    (wanStateDualStackActive.run (offeredDual { processMapt := false }) =
        wanTransitionMaptUp (offeredDual { processMapt := false }) ∧
      ¬ AllOrNothing (offeredDual { processMapt := false })) ∧
    (wanStateDualStackActive.run (offeredDual { setUpMapt := false }) =
        wanTransitionMaptUp (offeredDual { setUpMapt := false }) ∧
      ¬ AllOrNothing (offeredDual { setUpMapt := false })) := by
  refine ⟨⟨by decide +kernel, fun h => ?_⟩, ⟨by decide +kernel, fun h => ?_⟩⟩
  · have hipv4 := (h.1 (by decide +kernel)).ipv4
    revert hipv4
    decide +kernel
  · have hset := (h.2 (by decide +kernel)).1
    revert hset
    decide +kernel

end InterfaceSm
end WanManager
