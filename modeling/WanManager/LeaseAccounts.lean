import WanManager.LeaseMessages

/-! # The accounts of the leases

For each family, the lease an interface holds, whether it is still to be configured, and
what the last calls configured. The transitions change one account or the other. -/

namespace WanManager
open Concurrency

namespace InterfaceSm

/-! ## Accounts -/

/-- The states in which IPv6 is configured. -/
def holdsIpv6 : WanState → Bool
  | .ipv6Leased | .dualStackActive | .maptActive => true
  | _ => false

/-- In a leased state, an IPv4 lease that is up is configured or still to be configured. -/
def Accounted4 (st : WanState) (a : Account4) : Prop :=
  leased st = true → a.status = .up → a.changed = true ∨ a.applied = some a.lease

/-- The same of IPv6. Its LAN prefix is set up earlier, and `ipv6_connection_state` says
whether it is configured. A lease that came before addresses are obtained, or while MAP-T
is waited for, was not looked at yet. -/
structure Accounted6 (st : WanState) (a : Account6) : Prop where
  known : a.status ≠ .unknown
  conn : a.conn = true → a.status = .up ∧ holdsIpv6 st = true
  lanPrefix : a.status = .up → a.changed = true ∨ a.lanPrefix = some a.lease
  applied : holdsIpv6 st = true → a.status = .up → a.changed = true ∨ a.applied = some a.lease
  unseen : mayBeUsable st = false ∨ a.timer = .running → a.status = .up → a.changed = true
  timer : a.timer = .running → st = .obtainingIpAddresses ∧ a.selectedMode = .mapt

theorem holdsIpv6_leased {st : WanState} (h : holdsIpv6 st = true) : leased st = true := by
  cases st <;> first | rfl | cases h

theorem mayBeUsable_leased {st : WanState} (h : leased st = true) : mayBeUsable st = true := by
  cases st <;> first | rfl | cases h

theorem Accounted4.down {st : WanState} {a : Account4} (h : a.status ≠ .up) : Accounted4 st a :=
  fun _ hup => absurd hup h

theorem Accounted4.idle {st : WanState} {a : Account4} (h : leased st = false) :
    Accounted4 st a := by
  intro hst
  rw [h] at hst
  cases hst

theorem Accounted4.move {st st' : WanState} {a : Account4} (h : Accounted4 st a)
    (hst : leased st = true) : Accounted4 st' a := fun _ hup => h hst hup

namespace Accounted6

variable {st st' : WanState} {a : Account6}

/-- The lease is to be configured anew. -/
theorem retry (hknown : a.status ≠ .unknown) (hconn : a.conn = false)
    (hchanged : a.status = .up → a.changed = true) (ht : a.timer ≠ .running) : Accounted6 st a where
  known := hknown
  conn hc := by rw [hconn] at hc; cases hc
  lanPrefix hup := .inl (hchanged hup)
  applied _ hup := .inl (hchanged hup)
  unseen _ hup := hchanged hup
  timer hrun := absurd hrun ht

theorem down (h : a.status = .down) (hconn : a.conn = false) (ht : a.timer ≠ .running) :
    Accounted6 st a := by
  refine retry ?_ hconn ?_ ht <;> rw [h]
  · exact LeaseStatus.noConfusion
  · exact LeaseStatus.noConfusion

theorem conn_false (h : Accounted6 st a) (hst : holdsIpv6 st = false) : a.conn = false := by
  cases hconn : a.conn with
  | false => rfl
  | true => rw [(h.conn hconn).2] at hst; cases hst

theorem timer_ne (h : Accounted6 st a) (hst : st ≠ .obtainingIpAddresses) : a.timer ≠ .running :=
  fun hrun => hst (h.timer hrun).1

/-- From one state that holds IPv6 to another. -/
theorem hold (h : Accounted6 st a) (hst : holdsIpv6 st = true) (hst' : holdsIpv6 st' = true) :
    Accounted6 st' a := by
  have ht : a.timer ≠ .running := by
    apply h.timer_ne
    rintro rfl
    cases hst
  refine ⟨h.known, fun hc => ⟨(h.conn hc).1, hst'⟩, h.lanPrefix, fun _ => h.applied hst, ?_,
    fun hrun => absurd hrun ht⟩
  rintro (hnot | hrun)
  · rw [mayBeUsable_leased (holdsIpv6_leased hst')] at hnot
    cases hnot
  · exact absurd hrun ht

/-- To a state that does not hold IPv6, without IPv6 configured. -/
theorem leave (h : Accounted6 st a) (ht : a.timer ≠ .running) (hconn : a.conn = false)
    (hst' : holdsIpv6 st' = false) (hseen : mayBeUsable st' = false → mayBeUsable st = false) :
    Accounted6 st' a := by
  refine ⟨h.known, fun hc => ?_, h.lanPrefix, fun hnot => ?_, ?_, fun hrun => absurd hrun ht⟩
  · rw [hconn] at hc; cases hc
  · rw [hst'] at hnot; cases hnot
  rintro (hnot | hrun)
  · exact h.unseen (.inl (hseen hnot))
  · exact absurd hrun ht

/-- What follows the test of `ipv6_connection_state` that three transitions end with. -/
theorem branch (h : Accounted6 st a) (ht : a.timer ≠ .running) {x y : WanState}
    (hx : holdsIpv6 x = true) (hy : holdsIpv6 y = false) (hseen : mayBeUsable y = true) :
    Accounted6 (if a.status = .up ∧ a.conn = true then x else y) a := by
  split
  · next hup => exact h.hold (h.conn hup.2).2 hx
  · next hnot =>
    have hconn : a.conn = false := by
      cases hc : a.conn with
      | false => rfl
      | true => exact absurd ⟨(h.conn hc).1, hc⟩ hnot
    refine h.leave ht hconn hy fun hno => ?_
    rw [hseen] at hno
    cases hno

end Accounted6

/-- The accounts of an interface whose machine is in `st`. -/
structure Accounted (st : WanState) (s : Vism) : Prop where
  ipv4 : Accounted4 st (account4 s)
  ipv6 : Accounted6 st (account6 s)

theorem Accounted.congr {st : WanState} {s u : Vism} (h : Accounted st s)
    (h4 : account4 u = account4 s) (h6 : account6 u = account6 s) : Accounted st u :=
  ⟨h4 ▸ h.ipv4, h6 ▸ h.ipv6⟩

/-! ## What leaves the accounts alone -/

theorem account4_blind : Blind account4 where
  vlan _ _ := rfl
  ppp _ _ := rfl
  ip s g h := by
    have hip : account4 (s.mapIp g) = account4 (s.mapIp fun _ => leaseFields (g s.virtIf.ip)) := rfl
    rw [hip, h]
    rfl
  config _ _ := rfl
  reset _ := rfl

theorem account6_blind : Blind account6 where
  vlan _ _ := rfl
  ppp _ _ := rfl
  ip s g h := by
    have hip : account6 (s.mapIp g) = account6 (s.mapIp fun _ => leaseFields (g s.virtIf.ip)) := rfl
    rw [hip, h]
    rfl
  config _ _ := rfl
  reset _ := rfl

/-- The thread of an interface, and the state it has published. -/
def place (s : Vism) : VismPhase × WanState := (s.phase, s.virtIf.eCurrentState)

theorem place_blind : Blind place where
  vlan _ _ := rfl
  ppp _ _ := rfl
  ip _ _ _ := rfl
  config _ _ := rfl
  reset _ := rfl

theorem outside_blind : Blind Vism.outside where
  vlan _ _ := rfl
  ppp _ _ := rfl
  ip _ _ _ := rfl
  config _ _ := rfl
  reset _ := rfl

/-- A change both accounts are blind to. -/
theorem Accounted.quiet {st : WanState} {s : Vism} {f : Vism → Vism} (h : Accounted st s)
    (hf : ∀ {β : Type} {g : Vism → β}, Blind g → g (f s) = g s) : Accounted st (f s) :=
  h.congr (hf account4_blind) (hf account6_blind)

/-! ## The transitions, as changes of one account -/

theorem account4_ite (c : Prop) [Decidable c] (s u : Vism) :
    account4 (if c then s else u) = if c then account4 s else account4 u := apply_ite account4 c s u

theorem account6_ite (c : Prop) [Decidable c] (s u : Vism) :
    account6 (if c then s else u) = if c then account6 s else account6 u := apply_ite account6 c s u

theorem snd_ite (c : Prop) [Decidable c] (r q : WanState × Vism) :
    (if c then r else q).2 = if c then r.2 else q.2 := apply_ite Prod.snd c r q

theorem account6_setUpIpv4 (s : Vism) : account6 (setUpIpv4 s) = account6 s :=
  account6_blind.startConnectivityCheck _

theorem account4_setUpIpv6 (s : Vism) : account4 (setUpIpv6 s) = account4 s :=
  account4_blind.startConnectivityCheck _

/-- IPv4 going down is nothing to IPv6. -/
theorem account6_ipv4Down (s : Vism) : account6 (wanTransitionIpv4Down s).2 = account6 s := by
  have hdown : ∀ s : Vism, account6 (updateInterfaceStatus s .connectionDown) = account6 s :=
    fun _ => rfl
  have htear : ∀ s : Vism, account6 (tearDownIpv4 s) = account6 s := fun _ => rfl
  have hstatus : ∀ (s : Vism) (st : IfaceStatus), account6 (s.setStatus st) = account6 s :=
    fun _ _ => rfl
  simp only [wanTransitionIpv4Down, snd_ite, account6_ite, hstatus, htear, hdown, ite_self,
    account6_blind.sendMsgToConnectivityCheck, account6_blind.settleDhcpv4]

theorem account4_ipv6Down (s : Vism) : account4 (wanTransitionIpv6Down s).2 = account4 s := by
  have hdown : ∀ s : Vism, account4 (updateInterfaceStatus s .connectionIpv6Down) = account4 s :=
    fun _ => rfl
  have htear : ∀ s : Vism, account4 (tearDownIpv6 s) = account4 s := fun _ => rfl
  have hstatus : ∀ (s : Vism) (st : IfaceStatus), account4 (s.setStatus st) = account4 s :=
    fun _ _ => rfl
  simp only [wanTransitionIpv6Down, snd_ite, account4_ite, hstatus, htear, hdown, ite_self,
    account4_blind.sendMsgToConnectivityCheck, account4_blind.settleDhcpv6]

theorem account6_ipv4Up (s : Vism) : account6 (wanTransitionIpv4Up s).2 = account6 s := by
  have hdone : ∀ s : Vism, account6 (s.mapIp fun ip =>
      { ip with ipv4Changed := false, ipv4Renewed := false }) = account6 s := fun _ => rfl
  have hstatus : ∀ (s : Vism) (st : IfaceStatus), account6 (s.setStatus st) = account6 s :=
    fun _ _ => rfl
  simp only [wanTransitionIpv4Up, snd_ite, hdone, hstatus, ite_self, account6_setUpIpv4,
    account6_blind.sendMsgToConnectivityCheck]

theorem account4_ipv6Up (s : Vism) : account4 (wanTransitionIpv6Up s).2 = account4 s := by
  have hstatus : ∀ (s : Vism) (st : IfaceStatus), account4 (s.setStatus st) = account4 s :=
    fun _ _ => rfl
  simp only [wanTransitionIpv6Up, snd_ite, hstatus, ite_self, account4_setUpIpv6,
    account4_blind.sendMsgToConnectivityCheck]

/-- A successful `wan_setUpIPv4` settles the account. -/
theorem account4_ipv4Up (s : Vism) (hok : s.outside.setUpIpv4 = true) :
    account4 (wanTransitionIpv4Up s).2 =
      { account4 s with changed := false, applied := some s.virtIf.ip.ipv4Data.toIpv4Lease } := by
  have hdone : ∀ s : Vism, account4 (s.mapIp fun ip =>
      { ip with ipv4Changed := false, ipv4Renewed := false }) = { account4 s with changed := false } :=
    fun _ => rfl
  have hset : account4 (setUpIpv4 (s.setStatus .up)) =
      { account4 s with applied := some s.virtIf.ip.ipv4Data.toIpv4Lease } := by
    rw [setUpIpv4, account4_blind.startConnectivityCheck]
    simp only [account4, Vism.setStatus, Vism.mapVirtIf, onSuccess, hok, if_true]
  simp only [wanTransitionIpv4Up, snd_ite, hdone, ite_self, hset,
    account4_blind.sendMsgToConnectivityCheck]

theorem account6_ipv6Up (s : Vism) (hok : s.outside.setUpIpv6 = true) :
    account6 (wanTransitionIpv6Up s).2 =
      { account6 s with conn := true, applied := some s.virtIf.ip.ipv6Data.toIpv6Lease } := by
  have hset : account6 (setUpIpv6 (s.setStatus .up)) =
      { account6 s with conn := true, applied := some s.virtIf.ip.ipv6Data.toIpv6Lease } := by
    rw [setUpIpv6, account6_blind.startConnectivityCheck]
    simp only [account6, Vism.setStatus, Vism.mapVirtIf, onSuccess, hok, if_true]
  simp only [wanTransitionIpv6Up, snd_ite, ite_self, hset,
    account6_blind.sendMsgToConnectivityCheck]

theorem account6_maptDown (s : Vism) : account6 (wanTransitionMaptDown s).2 = account6 s := by
  have hdata : ∀ s : Vism, account6 (s.mapIp fun ip => { ip with ipv4Data := {} }) = account6 s :=
    fun _ => rfl
  have hdown : ∀ s : Vism, account6 (updateInterfaceStatus s .connectionDown) = account6 s :=
    fun _ => rfl
  have hstop : ∀ s : Vism, account6 (updateInterfaceStatus s .maptStop) = account6 s := fun _ => rfl
  have htear : ∀ s : Vism, account6 (tearDownMapt s) = account6 s := fun _ => rfl
  simp only [wanTransitionMaptDown, account6_blind.restartIpv4, hdata, hdown, account6_ite, htear,
    hstop, ite_self]

end InterfaceSm
end WanManager
