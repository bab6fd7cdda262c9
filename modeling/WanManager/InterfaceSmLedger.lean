import WanManager.InterfaceSm

/-! # The lease accounts of an interface state machine

`Ledger` is the part of an interface state machine that says which leases it holds and
which families it has configured, with the operations its transitions amount to. The
state functions refine it: whatever they do to the DHCP clients, the links and the
connectivity check, they end with one `Move` of the ledger.
-/

namespace WanManager
open Concurrency

namespace InterfaceSm

structure Ledger where
  current : WanState := .exit
  status : IfaceStatus := .disabled
  ipv4 : LeaseStatus := .down
  ipv6 : LeaseStatus := .down
  mapt : MaptStatus := .down
  conn4 : Bool := false
  conn6 : Bool := false
  configured : Families := {}
  leftLease : Bool := false
  smRunning : Bool := false
  deriving DecidableEq, Repr

def ledger (s : Vism) : Ledger where
  current := s.virtIf.eCurrentState
  status := s.virtIf.status
  ipv4 := s.virtIf.ip.ipv4Status
  ipv6 := s.virtIf.ip.ipv6Status
  mapt := s.virtIf.map.maptStatus
  conn4 := s.ipv4ConnectionState
  conn6 := s.ipv6ConnectionState
  configured := s.configured
  leftLease := s.leftLease
  smRunning := s.virtIf.interfaceSmRunning

namespace Ledger

/-! ## Operations -/

/-- `wan_transition_start` -/
def start (b : Ledger) : Ledger :=
  { b with status := .initialising, ipv4 := .down, ipv6 := .down, mapt := .down, smRunning := true }

def setUp4 (b : Ledger) : Ledger :=
  { b with conn4 := true, configured := { b.configured with ipv4 := true } }

def tearDown4 (b : Ledger) : Ledger :=
  { b with conn4 := false, configured := { b.configured with ipv4 := false } }

def setUp6 (b : Ledger) : Ledger :=
  { b with conn6 := true, configured := { b.configured with ipv6 := true } }

def tearDown6 (b : Ledger) : Ledger :=
  { b with conn6 := false, configured := { b.configured with ipv6 := false } }

def setUpM (b : Ledger) : Ledger := { b with configured := { b.configured with mapt := true } }

def tearDownM (b : Ledger) : Ledger := { b with configured := { b.configured with mapt := false } }

/-- The teardown of a family is skipped unless the interface is `UP`. -/
def ifUp (f : Ledger → Ledger) (b : Ledger) : Ledger := if b.status = .up then f b else b

def ipv4Down (b : Ledger) : WanState × Ledger :=
  let b := ifUp tearDown4 { b with ipv4 := .down }
  if b.ipv6 = .up ∧ b.conn6 then (.ipv6Leased, b)
  else (.obtainingIpAddresses, { b with status := .validating })

def ipv6Down (b : Ledger) : WanState × Ledger :=
  let b := ifUp tearDown6 { b with ipv6 := .down, mapt := .down, conn6 := false }
  if b.ipv4 = .up ∧ b.conn4 then (.ipv4Leased, b)
  else (.obtainingIpAddresses, { b with status := .validating })

def maptDown (b : Ledger) : Ledger :=
  { ifUp tearDownM { b with mapt := .down } with ipv4 := .down }

def dualStackDown (b : Ledger) : Ledger := ({ b with status := .validating }.ipv4Down.2).ipv6Down.2

def featureRefresh (b : Ledger) : Ledger := { b.ipv6Down.2 with ipv6 := .down }

def familiesDown (b : Ledger) : Ledger :=
  let b := if b.mapt = .up then b.maptDown else b
  let b := if b.ipv4 = .up then b.ipv4Down.2 else b
  if b.ipv6 = .up then b.ipv6Down.2 else b

def ipv4Up (b : Ledger) : WanState × Ledger :=
  let b := setUp4 { b with status := .up }
  if b.ipv6 = .up ∧ b.conn6 then (.dualStackActive, b) else (.ipv4Leased, b)

def ipv6Up (b : Ledger) : WanState × Ledger :=
  let b := setUp6 { b with status := .up }
  if b.ipv4 = .up ∧ b.conn4 then (.dualStackActive, b) else (.ipv6Leased, b)

/-- MAP-T replaces IPv4; `changed` is whether the IPv4 lease is configured first. -/
def maptReplaces (changed : Bool) (b : Ledger) : Ledger :=
  let b := setUpM (if changed ∧ b.ipv4 = .up then b.ipv4Up.2 else b)
  if b.ipv4 = .up then b.ipv4Down.2 else b

/-- The interface becomes active; `ready` is whether its IPv6 address can be used. -/
def standbyUp (ready : Bool) (b : Ledger) : WanState × Ledger :=
  let r := if b.ipv6 = .up ∧ ready then b.ipv6Up else (.standby, b)
  if r.2.ipv4 = .up then r.2.ipv4Up else r

def standbyDeconfig (b : Ledger) : Ledger :=
  let b := if b.mapt = .up then tearDownM b else b
  let b := if b.ipv4 = .up then tearDown4 b else b
  let b := if b.ipv6 = .up then tearDown6 b else b
  { b with status := .standby }

/-- The leases of a ledger and its status, which a state function that stays where it is
can at most take back. -/
structure Stays (st : WanState) (b b' : Ledger) : Prop where
  current : b'.current = b.current
  status : b'.status = b.status ∨ b'.status = .validating
  ipv4 : b'.ipv4 = b.ipv4
  ipv6 : b'.ipv6 = b.ipv6
  mapt : b'.mapt = b.mapt
  configured : leased st = false → b'.configured = b.configured
  leftLease : b'.leftLease = b.leftLease
  smRunning : b'.smRunning = b.smRunning

theorem Stays.refl (st : WanState) (b : Ledger) : Stays st b b :=
  ⟨rfl, .inl rfl, rfl, rfl, rfl, fun _ => rfl, rfl, rfl⟩

/-- A lease that is configured again stays what it is. -/
theorem Stays.reconfigure {st : WanState} (hst : leased st = true) (b : Ledger) (c4 c6 : Bool)
    (f : Families) : Stays st b { b with conn4 := c4, conn6 := c6, configured := f } :=
  ⟨rfl, .inl rfl, rfl, rfl, rfl, fun h => (by rw [hst] at h; cases h), rfl, rfl⟩

/-- What a state has tested before it keeps to its leases. -/
def Found : WanState → Ledger → Prop
  | .ipv4Leased, b | .dualStackActive, b => b.ipv4 ≠ .down
  | .ipv6Leased, b => b.ipv6 ≠ .down
  | .maptActive, b => b.mapt = .up
  | .standby, b => ¬ (b.ipv4 = .down ∧ b.ipv6 = .down)
  | _, _ => True

/-- What a state function does to the ledger. Each end of it was admitted by `G`, and
carries the tests of the source it is reached by. -/
inductive Move (G : WanTransition → Ledger → Prop) :
    WanState → Ledger → WanState → Ledger → Prop
  | down {st b} : G .physicalInterfaceDown b → Move G st b .refreshingWan b.familiesDown
  | giveUp {st b} : G .physicalInterfaceDown b → Move G st b .deconfiguringWan b.familiesDown
  | keep {st b b'} : G .keep b' → Stays st b b' → Found st b → Move G st b st b'
  | lost {b} : G .keep b → Move G .standby b .obtainingIpAddresses b
  | pppConfigure {b} : Move G .vlanConfiguring b .pppConfiguring b
  | wanUp {b} : Move G .pppConfiguring b .validatingWan { b with status := .validating }
  | validated {b b'} : b'.status = b.status → b'.configured = b.configured →
      b'.smRunning = b.smRunning → Move G .validatingWan b .obtainingIpAddresses b'
  | expired {b} : G .wanValidated b → Move G .obtainingIpAddresses b .obtainingIpAddresses b
  | ipv4Up {st b} : st = .obtainingIpAddresses ∨ st = .ipv6Leased → b.ipv4 = .up →
      Move G st b b.ipv4Up.1 b.ipv4Up.2
  | ipv6Up {st b} : st = .obtainingIpAddresses ∨ st = .ipv4Leased → b.ipv6 = .up →
      Move G st b b.ipv6Up.1 b.ipv6Up.2
  | standby {b} : b.ipv4 = .up ∨ b.ipv6 = .up →
      Move G .obtainingIpAddresses b .standby { b with status := .standby }
  | standbyUp {b ready} : G .standbyUp b → Found .standby b →
      Move G .standby b (b.standbyUp ready).1 (b.standbyUp ready).2
  | refresh {st b} : G .maptFeatureRefresh b →
      leased st = true ∨ st = .obtainingIpAddresses ∧ b.ipv4 ≠ .up →
      Move G st b .obtainingIpAddresses b.featureRefresh
  | ipv4Down {st b} : G .ipv4Down b → leased st = true → Move G st b b.ipv4Down.1 b.ipv4Down.2
  | ipv6Down {st b} : G .ipv6Down b → leased st = true → Move G st b b.ipv6Down.1 b.ipv6Down.2
  | dualStackDown {b} : G .dualStackDown b →
      Move G .dualStackActive b .obtainingIpAddresses b.dualStackDown
  | standbyDeconfig {st b} : G .standbyDeconfigIps b → leased st = true → st = .maptActive ∨ Found st b →
      Move G st b .standby b.standbyDeconfig
  | maptUp {st b changed} : st = .ipv6Leased ∨ st = .dualStackActive → b.mapt = .up →
      Move G st b .maptActive (b.maptReplaces changed)
  | maptFails {st b changed} : st = .ipv6Leased ∨ st = .dualStackActive → b.mapt = .up →
      Move G st b st (b.maptReplaces changed)
  | maptRefused {st b} : st = .ipv6Leased ∨ st = .dualStackActive → b.mapt = .up → Move G st b st b
  | maptDown {b} : G .maptDown b → Move G .maptActive b .ipv6Leased b.maptDown
  | maptDownRefresh {b} : G .maptDownRefresh b →
      Move G .maptActive b .obtainingIpAddresses b.maptDown.featureRefresh
  | refreshed {b} : Move G .refreshingWan b .vlanConfiguring b
  | exit {b} : Move G .deconfiguringWan b .exit { b with status := .disabled, smRunning := false }
  | exited {b b'} : b'.status = b.status → b'.configured = b.configured →
      b'.smRunning = b.smRunning → Move G .exit b .exit b'

end Ledger

/-! ## The rest of the interface

Most of what a tick does concerns the links, the DHCP clients and the connectivity check. -/

/-- The fields of the IP data that say which leases there are and how they are waited for. -/
def leaseFields (ip : IfaceIp) : IfaceIp where
  ipv4Status := ip.ipv4Status
  ipv6Status := ip.ipv6Status
  ipv4Changed := ip.ipv4Changed
  ipv6Changed := ip.ipv6Changed
  ipv4Data := ip.ipv4Data
  ipv6Data := ip.ipv6Data
  selectedMode := ip.selectedMode
  selectedModeTimerStatus := ip.selectedModeTimerStatus

/-- `f` sees nothing of the DHCP clients and the connectivity check. -/
structure ClientBlind {β : Type} (f : Vism → β) : Prop where
  ip : ∀ s g, leaseFields (g s.virtIf.ip) = leaseFields s.virtIf.ip → f (s.mapIp g) = f s

/-- Nor does `f` see the links. -/
structure LinkBlind {β : Type} (f : Vism → β) : Prop extends ClientBlind f where
  vlan : ∀ s g, f (s.mapVlan g) = f s
  ppp : ∀ s g, f (s.mapPpp g) = f s

/-- Nor does `f` see the configuration and the end of a refresh. -/
structure Blind {β : Type} (f : Vism → β) : Prop extends LinkBlind f where
  config : ∀ s c, f { s with config := c } = f s
  reset : ∀ s, f (s.mapVirtIf fun v => { v with reset := false }) = f s

theorem Blind.ite {β : Type} {f : Vism → β} {c : Prop} [Decidable c] {s u v : Vism} (hu : f u = f s)
    (hv : f v = f s) : f (if c then u else v) = f s := by
  split
  · exact hu
  · exact hv

theorem Blind.comp {β γ : Type} {f : Vism → β} (h : Blind f) (g : β → γ) : Blind (g ∘ f) where
  vlan s k := congrArg g (h.vlan s k)
  ppp s k := congrArg g (h.ppp s k)
  ip s k hk := congrArg g (h.ip s k hk)
  config s c := congrArg g (h.config s c)
  reset s := congrArg g (h.reset s)

namespace ClientBlind
open Blind (ite)

variable {β : Type} {f : Vism → β} (h : ClientBlind f)

include h

theorem startConnectivityCheck (s : Vism) : f (startConnectivityCheck s) = f s :=
  ite rfl (ite (h.ip _ _ rfl) rfl)

theorem sendMsgToConnectivityCheck (s : Vism) : f (sendMsgToConnectivityCheck s) = f s :=
  ite rfl (h.startConnectivityCheck s)

theorem restartConnectivityCheck (s : Vism) : f (restartConnectivityCheck s) = f s := by
  rw [InterfaceSm.restartConnectivityCheck, h.ip _ _ rfl, h.startConnectivityCheck]
  exact ite (h.ip _ _ rfl) rfl

theorem monitorDhcpApps (s : Vism) : f (monitorDhcpApps s) = f s :=
  ite rfl (ite (ite (h.ip _ _ rfl) rfl) (ite (h.restartConnectivityCheck s) rfl))

theorem settleDhcpv4 (s : Vism) : f (settleDhcpv4 s) = f s :=
  ite (ite (h.ip _ _ rfl) rfl) (ite (h.ip _ _ rfl) rfl)

theorem settleDhcpv6 (s : Vism) : f (settleDhcpv6 s) = f s :=
  ite (h.ip _ _ rfl) (ite (h.ip _ _ rfl) rfl)

theorem restartIpv4 (s : Vism) : f (restartIpv4 s) = f s := ite (h.ip _ _ rfl) rfl

theorem stopDhcpClients (s : Vism) : f (stopDhcpClients s) = f s := by
  have hstop : f (if s.virtIf.ip.dhcp4cStatus = .started then stopDhcpv4Client s else s) = f s :=
    ite (h.ip _ _ rfl) rfl
  rw [InterfaceSm.stopDhcpClients, ← hstop]
  exact ite (h.ip _ _ rfl) rfl

theorem refreshDhcpClients (hstatus : ∀ s st, f (s.setStatus st) = f s) (s : Vism) :
    f (refreshDhcpClients s) = f s := by
  have h4 : f (followMode usesDhcpv4 started4 startDhcpv4Client stopDhcpv4Client s) = f s :=
    ite (ite rfl (h.ip _ _ rfl)) (ite (h.ip _ _ rfl) rfl)
  have h6 : ∀ s, f (followMode usesDhcpv6 started6 startDhcpv6Client stopDhcpv6Client s) = f s :=
    fun s => ite (ite rfl (h.ip _ _ rfl)) (ite (h.ip _ _ rfl) rfl)
  rw [InterfaceSm.refreshDhcpClients, h.ip _ _ rfl]
  exact (ite (hstatus _ _) rfl).trans ((h6 _).trans h4)

theorem joinDhcpv4 (s : Vism) : f (joinDhcpv4 s) = f s := ite (h.ip _ _ rfl) rfl

theorem joinDhcpv6 (s : Vism) : f (joinDhcpv6 s) = f s := ite (h.ip _ _ rfl) rfl

theorem renewIpv4 (s : Vism) : f (renewIpv4 s) = f s :=
  (h.ip _ _ rfl).trans (h.sendMsgToConnectivityCheck s)

theorem renewIpv6 (s : Vism) : f (renewIpv6 s) = f s :=
  (h.ip _ _ rfl).trans (h.sendMsgToConnectivityCheck s)

end ClientBlind

namespace LinkBlind
open Blind (ite)

variable {β : Type} {f : Vism → β} (h : LinkBlind f)

include h

theorem configureVlan (e : Bool) (s : Vism) : f (configureVlan e s) = f s := ite (h.vlan _ _) rfl

theorem startVlan (s : Vism) : f (startVlan s) = f s := by
  rw [InterfaceSm.startVlan, h.configureVlan, h.vlan, h.vlan]

theorem restartFindExistingLink (s : Vism) : f (restartFindExistingLink s) = f s := by
  have hcell : ∀ s, f (if strstr s.baseInterface "Cellular" && s.outside.cellularUp then
      s.mapVlan fun v => { v with status := .up } else s) = f s := fun _ => ite (h.vlan _ _) rfl
  have hppp : ∀ s, f (if s.virtIf.ppp.enable && s.virtIf.ppp.interface != "" && s.outside.pppUp then
      s.mapPpp fun p => { p with linkStatus := .up, ipv6cpStatus := .up } else s) = f s :=
    fun _ => ite (h.ppp _ _) rfl
  exact (ite (h.vlan _ _) rfl).trans ((hppp _).trans (hcell s))

theorem linksDown (s : Vism) : f (linksDown s) = f s := by
  rw [InterfaceSm.linksDown, ← h.ppp s fun p =>
    if p.enable && p.linkStatus = .configuring then { p with linkStatus := .down } else p]
  exact ite ((h.vlan _ _).trans (h.configureVlan _ _)) rfl

end LinkBlind

theorem fetchPppStatus_of_mapPpp {β : Type} {f : Vism → β}
    (h : ∀ s g, (∀ q, (g q).enable = q.enable ∧ (g q).linkStatus = q.linkStatus) →
      f (s.mapPpp g) = f s)
    (s : Vism) : f (fetchPppStatus s) = f s := by
  unfold fetchPppStatus
  split
  · split
    · rfl
    · exact h _ _ fun _ => ⟨rfl, rfl⟩
    · exact h _ _ fun _ => ⟨rfl, rfl⟩
  · rfl

theorem Blind.wanTransitionWanRefreshed {β : Type} {f : Vism → β} (h : Blind f) (s : Vism) :
    f (wanTransitionWanRefreshed s).2 = f s := by
  have hvlan : f (if needsVlan s then InterfaceSm.configureVlan true
      ((s.mapVlan fun v => if v.expired || v.reset then nextVlan v else v).mapVlan
        fun v => { v with status := .configuring }) else s) = f s := by
    refine ite ?_ rfl
    rw [h.configureVlan, h.vlan, h.vlan]
  rw [InterfaceSm.wanTransitionWanRefreshed]
  refine (h.reset _).trans ((h.vlan _ _).trans ?_)
  rw [← hvlan]
  exact ite (h.config _ _) rfl

/-! ## What leaves the ledger alone -/

/-! The tests of the source, as tests of the ledger. -/

theorem status_eq (s : Vism) : s.virtIf.status = (ledger s).status := rfl
theorem ipv4Status_eq (s : Vism) : s.virtIf.ip.ipv4Status = (ledger s).ipv4 := rfl
theorem ipv6Status_eq (s : Vism) : s.virtIf.ip.ipv6Status = (ledger s).ipv6 := rfl
theorem maptStatus_eq (s : Vism) : s.virtIf.map.maptStatus = (ledger s).mapt := rfl
theorem ipv4ConnectionState_eq (s : Vism) : s.ipv4ConnectionState = (ledger s).conn4 := rfl
theorem ipv6ConnectionState_eq (s : Vism) : s.ipv6ConnectionState = (ledger s).conn6 := rfl
theorem eCurrentState_eq (s : Vism) : s.virtIf.eCurrentState = (ledger s).current := rfl

@[simp] theorem ledger_mapVlan (s : Vism) (f : VirtIfVlan → VirtIfVlan) :
    ledger (s.mapVlan f) = ledger s := rfl

@[simp] theorem ledger_mapPpp (s : Vism) (f : PppData → PppData) :
    ledger (s.mapPpp f) = ledger s := rfl

@[simp] theorem ledger_setStatus (s : Vism) (st : IfaceStatus) :
    ledger (s.setStatus st) = { ledger s with status := st } := rfl

/-- A change of the IP data that leaves the two leases alone. -/
theorem ledger_mapIp {s : Vism} {f : IfaceIp → IfaceIp}
    (h4 : (f s.virtIf.ip).ipv4Status = s.virtIf.ip.ipv4Status)
    (h6 : (f s.virtIf.ip).ipv6Status = s.virtIf.ip.ipv6Status) :
    ledger (s.mapIp f) = ledger s := by
  simp only [ledger, Vism.mapIp, Vism.mapVirtIf, h4, h6]

theorem ledger_blind : Blind ledger where
  vlan _ _ := rfl
  ppp _ _ := rfl
  ip s g h :=
    have h4 : (leaseFields (g s.virtIf.ip)).ipv4Status = s.virtIf.ip.ipv4Status := by rw [h]; rfl
    have h6 : (leaseFields (g s.virtIf.ip)).ipv6Status = s.virtIf.ip.ipv6Status := by rw [h]; rfl
    ledger_mapIp h4 h6
  config _ _ := rfl
  reset _ := rfl

@[simp] theorem ledger_startDhcpv4Client (s : Vism) : ledger (startDhcpv4Client s) = ledger s := rfl
@[simp] theorem ledger_stopDhcpv4Client (s : Vism) : ledger (stopDhcpv4Client s) = ledger s := rfl
@[simp] theorem ledger_startDhcpv6Client (s : Vism) : ledger (startDhcpv6Client s) = ledger s := rfl
@[simp] theorem ledger_stopDhcpv6Client (s : Vism) : ledger (stopDhcpv6Client s) = ledger s := rfl
@[simp] theorem ledger_restartDhcpv6Client (s : Vism) :
    ledger (restartDhcpv6Client s) = ledger s := rfl
@[simp] theorem ledger_stopConnectivityCheck (s : Vism) :
    ledger (stopConnectivityCheck s) = ledger s := rfl
@[simp] theorem ledger_setUpLanPrefixIpv6 (s : Vism) :
    ledger (setUpLanPrefixIpv6 s) = ledger s := rfl
@[simp] theorem ledger_clearIpv6Changed (s : Vism) : ledger (clearIpv6Changed s) = ledger s := rfl
@[simp] theorem ledger_getSelectedIpMode (s : Vism) : ledger (getSelectedIpMode s) = ledger s := rfl

@[simp] theorem ledger_startConnectivityCheck (s : Vism) :
    ledger (startConnectivityCheck s) = ledger s := ledger_blind.startConnectivityCheck s

@[simp] theorem ledger_sendMsgToConnectivityCheck (s : Vism) :
    ledger (sendMsgToConnectivityCheck s) = ledger s := ledger_blind.sendMsgToConnectivityCheck s

@[simp] theorem ledger_monitorDhcpApps (s : Vism) : ledger (monitorDhcpApps s) = ledger s :=
  ledger_blind.monitorDhcpApps s

@[simp] theorem ledger_configureVlan (e : Bool) (s : Vism) : ledger (configureVlan e s) = ledger s :=
  ledger_blind.configureVlan e s

@[simp] theorem ledger_settleDhcpv4 (s : Vism) : ledger (settleDhcpv4 s) = ledger s :=
  ledger_blind.settleDhcpv4 s

@[simp] theorem ledger_settleDhcpv6 (s : Vism) : ledger (settleDhcpv6 s) = ledger s :=
  ledger_blind.settleDhcpv6 s

@[simp] theorem ledger_restartIpv4 (s : Vism) : ledger (restartIpv4 s) = ledger s :=
  ledger_blind.restartIpv4 s

@[simp] theorem ledger_stopDhcpClients (s : Vism) : ledger (stopDhcpClients s) = ledger s :=
  ledger_blind.stopDhcpClients s

@[simp] theorem ledger_linksDown (s : Vism) : ledger (linksDown s) = ledger s :=
  ledger_blind.linksDown s

@[simp] theorem ledger_fetchPppStatus (s : Vism) : ledger (fetchPppStatus s) = ledger s :=
  fetchPppStatus_of_mapPpp (fun s g _ => ledger_blind.ppp s g) s

@[simp] theorem ledger_joinDhcpv4 (s : Vism) : ledger (joinDhcpv4 s) = ledger s :=
  ledger_blind.joinDhcpv4 s

@[simp] theorem ledger_joinDhcpv6 (s : Vism) : ledger (joinDhcpv6 s) = ledger s :=
  ledger_blind.joinDhcpv6 s

@[simp] theorem ledger_renewIpv4 (s : Vism) : ledger (renewIpv4 s) = ledger s :=
  ledger_blind.renewIpv4 s

@[simp] theorem ledger_renewIpv6 (s : Vism) : ledger (renewIpv6 s) = ledger s :=
  ledger_blind.renewIpv6 s

@[simp] theorem ledger_wanTransitionWanRefreshed (s : Vism) :
    ledger (wanTransitionWanRefreshed s).2 = ledger s := ledger_blind.wanTransitionWanRefreshed s

@[simp] theorem ledger_startDhcpClients (s : Vism) : ledger (startDhcpClients s) = ledger s := by
  simp only [startDhcpClients]
  split
  · rfl
  · split <;> split <;> rfl

@[simp] theorem ledger_assignUlaAddr (s : Vism) : ledger (assignUlaAddr s) = ledger s := by
  unfold assignUlaAddr
  split <;> rfl

/-- The ledger of a result. -/
def entry (r : WanState × Vism) : WanState × Ledger := (r.1, ledger r.2)

theorem entry_mk (st : WanState) (s : Vism) : entry (st, s) = (st, ledger s) := rfl

theorem entry_ite (c : Prop) [Decidable c] (a b : WanState × Vism) :
    entry (if c then a else b) = if c then entry a else entry b := apply_ite entry c a b

theorem ledger_ite (c : Prop) [Decidable c] (a b : Vism) :
    ledger (if c then a else b) = if c then ledger a else ledger b := apply_ite ledger c a b

/-! ## The transitions, as operations of the ledger -/

@[simp] theorem ledger_setUpIpv4 (s : Vism) : ledger (setUpIpv4 s) = (ledger s).setUp4 := by
  rw [setUpIpv4, ledger_startConnectivityCheck]
  rfl

@[simp] theorem ledger_setUpIpv6 (s : Vism) : ledger (setUpIpv6 s) = (ledger s).setUp6 := by
  rw [setUpIpv6, ledger_startConnectivityCheck]
  rfl

@[simp] theorem ledger_tearDownIpv4 (s : Vism) : ledger (tearDownIpv4 s) = (ledger s).tearDown4 := rfl
@[simp] theorem ledger_tearDownIpv6 (s : Vism) : ledger (tearDownIpv6 s) = (ledger s).tearDown6 := rfl
@[simp] theorem ledger_setUpMapt (s : Vism) : ledger (setUpMapt s) = (ledger s).setUpM := rfl
@[simp] theorem ledger_tearDownMapt (s : Vism) : ledger (tearDownMapt s) = (ledger s).tearDownM := rfl

@[simp] theorem ledger_connectionDown (s : Vism) :
    ledger (updateInterfaceStatus s .connectionDown) = { ledger s with ipv4 := .down } := rfl

@[simp] theorem ledger_connectionIpv6Down (s : Vism) :
    ledger (updateInterfaceStatus s .connectionIpv6Down) =
      { ledger s with ipv6 := .down, mapt := .down, conn6 := false } := rfl

@[simp] theorem ledger_maptStop (s : Vism) :
    ledger (updateInterfaceStatus s .maptStop) = { ledger s with mapt := .down } := rfl

/-- A step behind a test. -/
theorem ledger_when {s s' : Vism} {c d : Prop} [Decidable c] [Decidable d] {b : Ledger}
    (hc : c ↔ d) (h : ledger s' = b) :
    ledger (if c then s' else s) = if d then b else ledger s := by
  by_cases hd : d
  · rw [if_pos (hc.mpr hd), if_pos hd, h]
  · rw [if_neg (hd ∘ hc.mp), if_neg hd]

theorem ledger_clearDhcpData (s : Vism) :
    ledger (clearDhcpData s) = { ledger s with ipv4 := .down, ipv6 := .down } := rfl

/-- Validating forgets the leases of DHCP, unless it is done for an expired timer. -/
theorem ledger_wanValidated (s : Vism) :
    ledger (wanTransitionWanValidated s).2 =
      if (s.virtIf.ip.ipv4Source = .dhcp ∨ s.virtIf.ip.ipv6Source = .dhcp) ∧
          s.virtIf.ip.selectedModeTimerStatus ≠ .expired then
        { ledger s with ipv4 := .down, ipv6 := .down }
      else ledger s := by
  have hup : ∀ s : Vism, ledger (s.mapIp fun ip =>
      { ip with ipv4ConnectivityStatus := .up, ipv6ConnectivityStatus := .up }) = ledger s :=
    fun _ => rfl
  rw [wanTransitionWanValidated, ledger_assignUlaAddr, ledger_fetchPppStatus,
    ledger_startDhcpClients, hup, ledger_ite, ledger_clearDhcpData]

/-- A teardown behind the status test. -/
theorem ledger_ifUp {s : Vism} {f : Vism → Vism} {g : Ledger → Ledger}
    (h : ∀ s, ledger (f s) = g (ledger s)) :
    ledger (if s.virtIf.status = .up then f s else s) = (ledger s).ifUp g := by
  rw [status_eq, Ledger.ifUp, apply_ite ledger, h]

theorem entry_ipv4Down (s : Vism) : entry (wanTransitionIpv4Down s) = (ledger s).ipv4Down := by
  simp only [wanTransitionIpv4Down, entry_ite, ipv6Status_eq, ipv6ConnectionState_eq, entry_mk,
    ledger_setStatus, ledger_sendMsgToConnectivityCheck, ledger_ifUp ledger_tearDownIpv4,
    ledger_connectionDown, ledger_settleDhcpv4]
  rfl

theorem entry_ipv6Down (s : Vism) : entry (wanTransitionIpv6Down s) = (ledger s).ipv6Down := by
  simp only [wanTransitionIpv6Down, entry_ite, ipv4Status_eq, ipv4ConnectionState_eq, entry_mk,
    ledger_setStatus, ledger_sendMsgToConnectivityCheck, ledger_ifUp ledger_tearDownIpv6,
    ledger_connectionIpv6Down, ledger_settleDhcpv6]
  rfl

@[simp] theorem ledger_ipv4Down (s : Vism) :
    ledger (wanTransitionIpv4Down s).2 = (ledger s).ipv4Down.2 := congrArg Prod.snd (entry_ipv4Down s)

@[simp] theorem ledger_ipv6Down (s : Vism) :
    ledger (wanTransitionIpv6Down s).2 = (ledger s).ipv6Down.2 := congrArg Prod.snd (entry_ipv6Down s)

@[simp] theorem ledger_maptDown (s : Vism) :
    ledger (wanTransitionMaptDown s).2 = (ledger s).maptDown := by
  have hdata : ∀ s : Vism, ledger (s.mapIp fun ip => { ip with ipv4Data := {} }) = ledger s :=
    fun _ => rfl
  simp only [wanTransitionMaptDown, ledger_restartIpv4, hdata, ledger_connectionDown,
    ledger_ifUp ledger_tearDownMapt, ledger_maptStop]
  rfl

@[simp] theorem ledger_dualStackDown (s : Vism) :
    ledger (wanTransitionDualStackDown s).2 = (ledger s).dualStackDown := by
  simp only [wanTransitionDualStackDown, ledger_ipv6Down, ledger_ipv4Down, ledger_setStatus]
  rfl

@[simp] theorem ledger_featureRefresh (s : Vism) :
    ledger (wanTransitionMaptFeatureRefresh s).2 = (ledger s).featureRefresh := by
  have hlost : ∀ s : Vism, ledger (s.mapIp fun ip => { ip with
      ipv6Status := .down, ipv6Changed := false, ipv6Renewed := false, ipv6Data := {} }) =
        { ledger s with ipv6 := .down } := fun _ => rfl
  simp only [wanTransitionMaptFeatureRefresh, ledger_ite, ledger_restartDhcpv6Client, hlost,
    ledger_ipv6Down, ite_self]
  rfl

@[simp] theorem ledger_familiesDown (s : Vism) :
    ledger (familiesDown s) = (ledger s).familiesDown := by
  have hm : ∀ s : Vism, ledger (if s.virtIf.map.maptStatus = .up then (wanTransitionMaptDown s).2 else s) =
      if (ledger s).mapt = .up then (ledger s).maptDown else ledger s :=
    fun s => ledger_when Iff.rfl (ledger_maptDown s)
  have h4 : ∀ s : Vism, ledger (if s.virtIf.ip.ipv4Status = .up then (wanTransitionIpv4Down s).2 else s) =
      if (ledger s).ipv4 = .up then (ledger s).ipv4Down.2 else ledger s :=
    fun s => ledger_when Iff.rfl (ledger_ipv4Down s)
  have h6 : ∀ s : Vism, ledger (if s.virtIf.ip.ipv6Status = .up then (wanTransitionIpv6Down s).2 else s) =
      if (ledger s).ipv6 = .up then (ledger s).ipv6Down.2 else ledger s :=
    fun s => ledger_when Iff.rfl (ledger_ipv6Down s)
  simp only [familiesDown, h6, h4, hm]
  rfl

@[simp] theorem ledger_physicalInterfaceDown (s : Vism) :
    ledger (wanTransitionPhysicalInterfaceDown s).2 = (ledger s).familiesDown := by
  have hdown : ∀ s : Vism, ledger (linksDown (stopConnectivityCheck (s.mapIp fun ip =>
      { ip with selectedModeTimerStatus := .notStarted }))) = ledger s := by
    intro s
    rw [ledger_linksDown, ledger_stopConnectivityCheck]
    rfl
  simp only [wanTransitionPhysicalInterfaceDown]
  split <;> rw [hdown, ledger_stopDhcpClients, ledger_familiesDown]

theorem entry_ipv4Up (s : Vism) : entry (wanTransitionIpv4Up s) = (ledger s).ipv4Up := by
  have hdone : ∀ s : Vism, ledger (s.mapIp fun ip =>
      { ip with ipv4Changed := false, ipv4Renewed := false }) = ledger s := fun _ => rfl
  simp only [wanTransitionIpv4Up, entry_ite, ipv6Status_eq, ipv6ConnectionState_eq, entry_mk, hdone,
    ledger_sendMsgToConnectivityCheck, ledger_setUpIpv4, ledger_setStatus]
  rfl

theorem entry_ipv6Up (s : Vism) : entry (wanTransitionIpv6Up s) = (ledger s).ipv6Up := by
  simp only [wanTransitionIpv6Up, entry_ite, ipv4Status_eq, ipv4ConnectionState_eq, entry_mk,
    ledger_sendMsgToConnectivityCheck, ledger_setUpIpv6, ledger_setStatus]
  rfl

@[simp] theorem ledger_ipv4Up (s : Vism) :
    ledger (wanTransitionIpv4Up s).2 = (ledger s).ipv4Up.2 := congrArg Prod.snd (entry_ipv4Up s)

@[simp] theorem ledger_standbyDeconfigIps (s : Vism) :
    ledger (wanTransitionStandbyDeconfigIps s).2 = (ledger s).standbyDeconfig := by
  have hm : ∀ s : Vism, ledger (if s.virtIf.map.maptStatus = .up then tearDownMapt s else s) =
      if (ledger s).mapt = .up then (ledger s).tearDownM else ledger s :=
    fun s => ledger_when Iff.rfl (ledger_tearDownMapt s)
  have hc : ∀ s : Vism, ledger (if s.virtIf.ip.connectivityCheckType = .ihc then
      stopConnectivityCheck s else s) = ledger s := by
    intro s
    rw [ledger_ite, ledger_stopConnectivityCheck, ite_self]
  have h4 : ∀ s : Vism, ledger (if s.virtIf.ip.ipv4Status = .up then tearDownIpv4 s else s) =
      if (ledger s).ipv4 = .up then (ledger s).tearDown4 else ledger s :=
    fun s => ledger_when Iff.rfl (ledger_tearDownIpv4 s)
  have h6 : ∀ s : Vism, ledger (if s.virtIf.ip.ipv6Status = .up then
      (tearDownIpv6 s).mapIp fun ip => { ip with ipv6Changed := true } else s) =
      if (ledger s).ipv6 = .up then (ledger s).tearDown6 else ledger s :=
    fun s => ledger_when Iff.rfl rfl
  simp only [wanTransitionStandbyDeconfigIps, ledger_setStatus, h6, h4, hc, hm]
  rfl

@[simp] theorem ledger_configureNewIpv4 (s : Vism) :
    ledger (configureNewIpv4 s) =
      if s.virtIf.ip.ipv4Changed ∧ (ledger s).ipv4 = .up then (ledger s).ipv4Up.2 else ledger s :=
  ledger_when Iff.rfl (ledger_ipv4Up s)

@[simp] theorem ledger_releaseIpv4 (s : Vism) :
    ledger (releaseIpv4 s) =
      if (ledger s).ipv4 = .up then (ledger s).ipv4Down.2 else ledger s := by
  have hstop : ∀ s : Vism, ledger (if s.virtIf.ip.dhcp4cStatus = .started then
      stopDhcpv4Client s else s) = ledger s := by
    intro s
    rw [ledger_ite, ledger_stopDhcpv4Client, ite_self]
  have h4 : ∀ s : Vism, ledger (if s.virtIf.ip.ipv4Status = .up then (wanTransitionIpv4Down s).2 else s) =
      if (ledger s).ipv4 = .up then (ledger s).ipv4Down.2 else ledger s :=
    fun s => ledger_when Iff.rfl (ledger_ipv4Down s)
  simp only [releaseIpv4, h4, hstop]

theorem current_maptReplaces (c : Bool) (b : Ledger) : (b.maptReplaces c).current = b.current := by
  simp only [Ledger.maptReplaces, Ledger.ipv4Down, Ledger.ifUp, Ledger.setUpM, Ledger.ipv4Up,
    Ledger.setUp4, Ledger.tearDown4]
  grind

theorem ledger_replaced (s : Vism) :
    ledger (replaced s) = (ledger s).maptReplaces s.virtIf.ip.ipv4Changed := by
  rw [replaced, ledger_releaseIpv4, ledger_setUpMapt, ledger_configureNewIpv4]
  rfl

theorem current_replaced (s : Vism) : (replaced s).virtIf.eCurrentState = s.virtIf.eCurrentState := by
  rw [eCurrentState_eq, ledger_replaced]
  exact current_maptReplaces _ _

/-- `wan_transition_mapt_up` leaves the IPv4 lease for MAP-T, unless MAP-T is refused; it
only reports success if the MAP-T configuration went through. -/
theorem entry_maptUp (s : Vism) :
    ∃ c, entry (wanTransitionMaptUp s) = (.maptActive, (ledger s).maptReplaces c) ∨
      entry (wanTransitionMaptUp s) = ((ledger s).current, (ledger s).maptReplaces c) ∨
      entry (wanTransitionMaptUp s) = ((ledger s).current, ledger s) := by
  refine ⟨s.virtIf.ip.ipv4Changed, ?_⟩
  by_cases hverify : s.outside.verifyMapt = true
  · rw [wanTransitionMaptUp_verified hverify, entry_ite, entry_mk, entry_mk, ledger_replaced,
      current_replaced, eCurrentState_eq]
    split
    · exact .inl rfl
    · exact .inr (.inl rfl)
  · rw [wanTransitionMaptUp, if_neg hverify]
    exact .inr (.inr rfl)

theorem entry_activateStandby (s : Vism) :
    ∃ ready, entry (activateStandby s) = (ledger s).standbyUp ready := by
  have h4 : ∀ r : WanState × Vism,
      entry (if r.2.virtIf.ip.ipv4Status = .up then wanTransitionIpv4Up r.2 else r) =
        if (entry r).2.ipv4 = .up then (entry r).2.ipv4Up else entry r := by
    intro r
    rw [entry_ite, entry_ipv4Up]
    rfl
  have hclear : ledger (if s.virtIf.ip.ipv6Changed then clearIpv6Changed s else s) = ledger s := by
    rw [ledger_ite, ledger_clearIpv6Changed, ite_self]
  refine ⟨(if s.virtIf.ip.ipv6Changed then clearIpv6Changed s else s).outside.lanAddressReady, ?_⟩
  simp only [activateStandby, h4, entry_ite, entry_ipv6Up, entry_mk, hclear, Ledger.standbyUp,
    ite_and]
  rfl

end InterfaceSm
end WanManager
