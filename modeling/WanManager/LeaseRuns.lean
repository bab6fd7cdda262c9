import WanManager.LeaseStates

/-! # What is configured is what is leased

In the runs of an interface state machine whose lease events are `Timely` and whose calls
answer as `SetsUp` asks, the leases it shows are the ones it has configured, or it still
has to configure them. -/

namespace WanManager
open Concurrency

namespace InterfaceSm

/-! ## Ticks -/

/-- The accounts of a machine, in each phase of its life. -/
def Kept (s : Vism) : Prop :=
  match s.phase with
  | .created => s.ipv6ConnectionState = false ∧ s.virtIf.ip.selectedModeTimerStatus ≠ .running
  | .running st => Accounted st s
  | .absent | .exited => True

theorem timer_wanTransitionStart (s : Vism) :
    (account6 (wanTransitionStart s).2).timer = (account6 s).timer := by
  have htimer : Blind (fun s => (account6 s).timer) := account6_blind.comp Account6.timer
  have hvlan : ∀ s : Vism, (account6 (if needsVlan s then startVlan s else s)).timer =
      (account6 s).timer := fun s => Blind.ite (f := fun s => (account6 s).timer) (htimer.startVlan s) rfl
  have hmode : ∀ s : Vism, (account6 (getSelectedIpMode (s.mapVirtIf fun v =>
      { v with interfaceSmRunning := true }))).timer = (account6 s).timer := fun _ => rfl
  have hfind : ∀ s : Vism, (account6 (restartFindExistingLink s)).timer = (account6 s).timer :=
    htimer.restartFindExistingLink
  rw [wanTransitionStart, hmode, hvlan, hfind]
  rfl

theorem accounted_start {s : Vism} (hconn : s.ipv6ConnectionState = false)
    (ht : s.virtIf.ip.selectedModeTimerStatus ≠ .running) :
    Accounted (wanTransitionStart s).1 (wanTransitionStart s).2 := by
  refine ⟨Accounted4.idle rfl, Accounted6.down ?_ ?_ ?_⟩
  · show (ledger (wanTransitionStart s).2).ipv6 = .down
    rw [ledger_wanTransitionStart]
    rfl
  · show (ledger (wanTransitionStart s).2).conn6 = false
    rw [ledger_wanTransitionStart]
    exact hconn
  · rw [timer_wanTransitionStart]
    exact ht

theorem vismTick_kept {s : Vism} (hs : Kept s) :
    Prog.Ensures SetsUp (· = s) vismTick fun _ => Kept := by
  apply Prog.Ensures.critical_bind
  rintro s rfl -
  show Prog.Ensures _ (· = s) (match s.phase with
    | .created => vismStart
    | .running st => vismLoop st
    | .absent | .exited => return ()) _
  unfold Kept at hs
  cases hphase : s.phase with
  | absent =>
    refine Prog.Ensures.ret fun u hu => ?_
    rw [hu, Kept, hphase]
    trivial
  | exited =>
    refine Prog.Ensures.ret fun u hu => ?_
    rw [hu, Kept, hphase]
    trivial
  | created =>
    rw [hphase] at hs
    apply Prog.Ensures.critical_bind
    rintro s rfl -
    exact Prog.Ensures.modify fun _ h _ => h ▸ (accounted_start hs.1 hs.2).congr rfl rfl
  | running st =>
    rw [hphase] at hs
    apply Prog.Ensures.critical_bind
    rintro s rfl -
    refine Prog.Ensures.bind (leaves_wanState st (hs.congr rfl rfl) hphase rfl) fun st' => ?_
    refine Prog.Ensures.modify fun u hu _ => ?_
    show Kept (enter st st' u)
    by_cases hexit : st = .exit
    · simp only [Kept, enter, hexit, if_true]
    · simp only [Kept, enter, if_neg hexit]
      exact hu.congr rfl rfl

/-! ## Lease events -/

/-- The events that keep the accounts: a lease that does not raise its flag repeats the
lease of a family that is up, the data model is not used to bring a family up or to take
configured IPv6 down, and `ipv6_connection_state` is not set up by anyone else. -/
def Timely : LeaseEvent → Vism → Prop
  | .message .dhcpv4Renew, s => s.virtIf.ip.ipv4Status = .up
  | .message .dhcpv6Renew, s => s.virtIf.ip.ipv6Status = .up
  | .message (.ipcDhcpv4 m), s =>
      m.addressAssigned = true → m.toIpv4Lease = s.virtIf.ip.ipv4Data.toIpv4Lease →
        s.virtIf.ip.ipv4Status = .up
  | .message (.ipcDhcpv6 m), s =>
      m.connects s.virtIf.ip.ipv6Data = true → raisesIpv6Changed m s = false →
        s.virtIf.ip.ipv6Status = .up ∧
          (newIpv6Data m s).toIpv6Lease = s.virtIf.ip.ipv6Data.toIpv6Lease
  | .writeIpv4Status up, s => up = true → s.virtIf.ip.ipv4Status = .up
  | .writeIpv6Status up, s =>
      if up then s.virtIf.ip.ipv6Status = .up else s.ipv6ConnectionState = false
  | .ipv6ConnectionState up, _ => up = false
  | _, _ => True

/-- What an event does to the account of IPv4. -/
inductive Event4 (a a' : Account4) : Prop
  | same : a' = a → Event4 a a'
  | lost : a'.status ≠ .up → Event4 a a'
  | flagged : a'.changed = true → Event4 a a'

/-- What an event does to the account of IPv6; the wait for MAP-T is not concerned. -/
structure Event6 (a a' : Account6) : Prop where
  wait : a'.selectedMode = a.selectedMode ∧ a'.timer = a.timer
  lease : (a'.status = a.status ∧ a'.changed = a.changed ∧ a'.lease = a.lease ∧
      a'.lanPrefix = a.lanPrefix ∧ a'.applied = a.applied ∧ (a'.conn = true → a.conn = true)) ∨
    (a'.status = .down ∧ a'.conn = false) ∨
    (a'.status = .up ∧ a'.changed = true ∧ (a'.conn = true → a.conn = true))

theorem Event6.same {a a' : Account6} (h : a' = a) : Event6 a a' := by
  subst h
  exact ⟨⟨rfl, rfl⟩, .inl ⟨rfl, rfl, rfl, rfl, rfl, id⟩⟩

theorem Event4.accounted {st : WanState} {a a' : Account4} (h : Event4 a a') (ha : Accounted4 st a) :
    Accounted4 st a' := by
  cases h with
  | same h => exact h ▸ ha
  | lost h => exact Accounted4.down h
  | flagged h => exact fun _ _ => .inl h

theorem Event6.conn_false {a a' : Account6} (h : Event6 a a') (ha : a.conn = false) :
    a'.conn = false := by
  have hno : (a'.conn = true → a.conn = true) → a'.conn = false := by
    intro hconn
    cases hc : a'.conn with
    | false => rfl
    | true => rw [hconn hc] at ha; cases ha
  rcases h.lease with ⟨-, -, -, -, -, hconn⟩ | ⟨-, hconn⟩ | ⟨-, -, hconn⟩
  · exact hno hconn
  · exact hconn
  · exact hno hconn

theorem Event6.accounted {st : WanState} {a a' : Account6} (h : Event6 a a') (ha : Accounted6 st a) :
    Accounted6 st a' := by
  obtain ⟨⟨hmode, htimer⟩, hlease⟩ := h
  rcases hlease with ⟨hs, hc, hl, hp, hap, hconn⟩ | ⟨hs, hconn⟩ | ⟨hs, hc, hconn⟩
  · constructor
    · rw [hs]; exact ha.known
    · rw [hs]; exact fun hup => ha.conn (hconn hup)
    · rw [hs, hc, hp, hl]; exact ha.lanPrefix
    · rw [hs, hc, hap, hl]; exact ha.applied
    · rw [hs, hc, htimer]; exact ha.unseen
    · rw [hmode, htimer]; exact ha.timer
  · constructor
    · rw [hs]; exact LeaseStatus.noConfusion
    · rw [hconn]; exact fun hup => by cases hup
    · rw [hs]; exact fun hup => by cases hup
    · rw [hs]; exact fun _ hup => by cases hup
    · rw [hs]; exact fun _ hup => by cases hup
    · rw [hmode, htimer]; exact ha.timer
  · constructor
    · rw [hs]; exact LeaseStatus.noConfusion
    · exact fun hup => ⟨hs, (ha.conn (hconn hup)).2⟩
    · exact fun _ => .inl hc
    · exact fun _ _ => .inl hc
    · exact fun _ _ => hc
    · rw [hmode, htimer]; exact ha.timer

/-- IPv4 and IPv6 after an event. -/
structure Evented (s u : Vism) : Prop where
  phase : u.phase = s.phase
  ipv4 : Event4 (account4 s) (account4 u)
  ipv6 : Event6 (account6 s) (account6 u)

theorem Evented.refl (s : Vism) : Evented s s := ⟨rfl, .same rfl, .same rfl⟩

/-- The interface after a family was reported up or down. -/
theorem account4_connectionUp (s : Vism) :
    account4 (updateInterfaceStatus s .connectionUp) = { account4 s with status := .up } := rfl

theorem account6_connectionUp (s : Vism) :
    account6 (updateInterfaceStatus s .connectionUp) = account6 s := rfl

theorem evented_ipv6Down (s : Vism) : Evented s (updateInterfaceStatus s .connectionIpv6Down) :=
  ⟨rfl, .same rfl, ⟨⟨rfl, rfl⟩, .inr (.inl ⟨rfl, rfl⟩)⟩⟩

theorem evented_ipv4Down (s : Vism) : Evented s (updateInterfaceStatus s .connectionDown) :=
  ⟨rfl, .lost LeaseStatus.noConfusion, .same rfl⟩

/-- The MAP-T part of a lease is nothing to the accounts. -/
theorem Evented.takeMaptOffer {s u : Vism} (h : Evented s u) (m : MaptOffer) (d : Ipv6Terms) :
    Evented s (takeMaptOffer m d u) := by
  unfold InterfaceSm.takeMaptOffer
  split
  · exact ⟨h.phase, h.ipv4, h.ipv6⟩
  split
  · exact ⟨h.phase, h.ipv4, h.ipv6⟩
  · exact h

/-- A lease that is stored raises the flag or repeats the one that is up. -/
theorem event4_stored (a : Account4) (l : Ipv4Lease) (c : Bool)
    (hsame : c = false → l = a.lease ∧ a.status = .up) :
    Event4 a { a with lease := l, changed := a.changed || c, status := .up } := by
  cases c with
  | true => exact .flagged (Bool.or_true _)
  | false =>
    obtain ⟨rfl, hup⟩ := hsame rfl
    apply Event4.same
    rw [Bool.or_false, ← hup]

/-- The changes `wanmgr_handle_dhcpv4_event_data` makes to the IP data. -/
theorem account6_ipv4Lease (s : Vism) (f : Ipv4Data → Ipv4Data) (c c' r : Bool) :
    account6 ((s.mapIp fun ip => { ip with
      restartConnectivityCheck := ip.restartConnectivityCheck || c }).mapIp fun ip => { ip with
        ipv4Changed := ip.ipv4Changed || c', ipv4Renewed := ip.ipv4Renewed || r
        ipv4Data := f ip.ipv4Data }) = account6 s := rfl

theorem account4_ipv4Lease (s : Vism) (f : Ipv4Data → Ipv4Data) (c c' r : Bool) :
    account4 ((s.mapIp fun ip => { ip with
      restartConnectivityCheck := ip.restartConnectivityCheck || c }).mapIp fun ip => { ip with
        ipv4Changed := ip.ipv4Changed || c', ipv4Renewed := ip.ipv4Renewed || r
        ipv4Data := f ip.ipv4Data }) =
    { account4 s with
      changed := (account4 s).changed || c', lease := (f s.virtIf.ip.ipv4Data).toIpv4Lease } := rfl

theorem evented_ipcDhcpv4 (m : Dhcpv4Msg) (s : Vism) (h : Timely (.message (.ipcDhcpv4 m)) s) :
    Evented s (handleDhcpv4EventData m s) := by
  have hdown : ∀ (s : Vism) (f : Ipv4Data → Ipv4Data),
      (account4 (updateInterfaceStatus (s.mapIp fun ip => { ip with ipv4Data := f ip.ipv4Data })
        .connectionDown)).status = .down := fun _ _ => rfl
  have hdown6 : ∀ (s : Vism) (f : Ipv4Data → Ipv4Data),
      account6 (updateInterfaceStatus (s.mapIp fun ip => { ip with ipv4Data := f ip.ipv4Data })
        .connectionDown) = account6 s := fun _ _ => rfl
  rw [handleDhcpv4EventData]
  split
  · split
    · exact ⟨rfl, .same rfl, .same rfl⟩
    · exact Evented.refl s
  split
  · next hassigned =>
    refine ⟨rfl, ?_, .same ?_⟩
    · rw [account4_connectionUp, account4_ipv4Lease s fun d =>
        { m.getIpcMsgInfo d with leaseReceivedTime := s.now }]
      refine event4_stored _ _ _ fun hc => ?_
      have hlease : m.toIpv4Lease = s.virtIf.ip.ipv4Data.toIpv4Lease :=
        (not_not.mp (of_decide_eq_false hc)).symm
      exact ⟨hlease, h hassigned hlease⟩
    · rw [account6_connectionUp, account6_ipv4Lease s fun d =>
        { m.getIpcMsgInfo d with leaseReceivedTime := s.now }]
  split
  · refine ⟨rfl, .lost ?_, .same ?_⟩
    · rw [hdown _ m.getIpcMsgInfo]
      exact LeaseStatus.noConfusion
    · rw [hdown6 _ m.getIpcMsgInfo]
      rfl
  · exact ⟨rfl, .same rfl, .same rfl⟩

/-- What a connecting DHCPv6 message does to the account of IPv6. -/
theorem account6_connects (m : Dhcpv6Msg) (s u : Vism) (c : Bool) :
    account6 (u.mapIp fun ip => { ip with
      ipv6Changed := ip.ipv6Changed || c
      restartConnectivityCheck := ip.restartConnectivityCheck || c
      ipv6Renewed := ip.ipv6Renewed || !c
      ipv6Data := newIpv6Data m s
      ipv6Status := .up }) =
    { account6 u with
      changed := (account6 u).changed || c
      lease := (newIpv6Data m s).toIpv6Lease, status := .up } := rfl

theorem account4_connects (m : Dhcpv6Msg) (s u : Vism) (c : Bool) :
    account4 (u.mapIp fun ip => { ip with
      ipv6Changed := ip.ipv6Changed || c
      restartConnectivityCheck := ip.restartConnectivityCheck || c
      ipv6Renewed := ip.ipv6Renewed || !c
      ipv6Data := newIpv6Data m s
      ipv6Status := .up }) = account4 u := rfl

theorem evented_removePrefix (m : Dhcpv6Msg) (s : Vism) : Evented s (removePrefix m s) := by
  unfold removePrefix
  split
  · exact evented_ipv6Down s
  · exact Evented.refl s

/-- A prefix that is taken back is a change. -/
theorem raisesIpv6Changed_removes (m : Dhcpv6Msg) (s : Vism)
    (h : m.removes s.virtIf.ip.ipv6Data = true) : raisesIpv6Changed m s = true := by
  have hnamed : hasPrefix m.toIpv6Terms = true := by
    simp only [Dhcpv6Msg.removes, Bool.and_eq_true] at h
    exact h.1.1
  have hne : m.sitePrefix ≠ "" := by
    simp only [hasPrefix, Bool.and_eq_true, bne_iff_ne] at hnamed
    exact hnamed.2
  have hkept : ∀ cur : Ipv6Data, (keepAddress cur m.getIpcMsgInfo).sitePrefix = m.sitePrefix ∧
      (keepAddress cur m.getIpcMsgInfo).prefixAssigned = m.prefixAssigned := by
    intro cur
    unfold keepAddress
    split
    · exact ⟨rfl, rfl⟩
    · exact ⟨rfl, rfl⟩
  have hmerged : ∀ cur : Ipv6Data, (m.merged cur).sitePrefix = m.sitePrefix := by
    intro cur
    have hstill : hasPrefix (keepAddress cur m.getIpcMsgInfo).toIpv6Terms = true := by
      rw [hasPrefix, (hkept cur).1, (hkept cur).2]
      exact hnamed
    rw [Dhcpv6Msg.merged, keepPrefix, hstill]
    exact (hkept cur).1
  have hnew : (newIpv6Data m s).sitePrefix = m.sitePrefix := by
    rw [newIpv6Data, ← hmerged s.virtIf.ip.ipv6Data]
    unfold adoptGlobalAddr
    split
    · rfl
    · split <;> rfl
  have hcur : (removePrefix m s).virtIf.ip.ipv6Data.sitePrefix = "" := by
    rw [removePrefix, if_pos h]
    rfl
  simp only [raisesIpv6Changed, ipv6ConfigChanged, hnew, hcur, Bool.or_eq_true, Bool.and_eq_true,
    bne_iff_ne]
  exact .inl (.inl (.inr ⟨hne, hne⟩))

theorem evented_connects (m : Dhcpv6Msg) (s : Vism)
    (h : raisesIpv6Changed m s = false → s.virtIf.ip.ipv6Status = .up ∧
      (newIpv6Data m s).toIpv6Lease = s.virtIf.ip.ipv6Data.toIpv6Lease) :
    Evented s ((removePrefix m s).mapIp fun ip => { ip with
      ipv6Changed := ip.ipv6Changed || raisesIpv6Changed m s
      restartConnectivityCheck := ip.restartConnectivityCheck || raisesIpv6Changed m s
      ipv6Renewed := ip.ipv6Renewed || !raisesIpv6Changed m s
      ipv6Data := newIpv6Data m s
      ipv6Status := .up }) := by
  have hremoved := evented_removePrefix m s
  refine ⟨hremoved.phase, ?_, ?_⟩
  · rw [account4_connects]
    exact hremoved.ipv4
  rw [account6_connects]
  cases hc : raisesIpv6Changed m s with
  | true =>
    refine ⟨hremoved.ipv6.wait, .inr (.inr ⟨rfl, Bool.or_true _, ?_⟩)⟩
    rcases hremoved.ipv6.lease with ⟨-, -, -, -, -, hconn⟩ | ⟨-, hconn⟩ | ⟨-, -, hconn⟩
    · exact hconn
    · intro hup
      rw [show (account6 (removePrefix m s)).conn = true from hup] at hconn
      cases hconn
    · exact hconn
  | false =>
    obtain ⟨hup, hlease⟩ := h hc
    have hkept : removePrefix m s = s := by
      apply if_neg
      intro hremoves
      rw [raisesIpv6Changed_removes m s hremoves] at hc
      cases hc
    apply Event6.same
    rw [hkept, hlease, Bool.or_false]
    simp only [account6, hup]

theorem evented_ipcDhcpv6 (m : Dhcpv6Msg) (s : Vism) (h : Timely (.message (.ipcDhcpv6 m)) s) :
    Evented s (handleDhcpv6EventData m s) := by
  rw [handleDhcpv6EventData]
  split
  · exact evented_ipv6Down s
  apply Evented.takeMaptOffer
  split
  · next hconnects => exact evented_connects m s (h hconnects)
  · exact evented_removePrefix m s

theorem evented_message (m : LeaseMessage) (s : Vism) (h : Timely (.message m) s) :
    Evented s (m.handle s) := by
  cases m with
  | dhcpv4Client st => exact ⟨rfl, .same rfl, .same rfl⟩
  | dhcpv4Renew =>
    have hup : { account4 s with status := .up } = account4 s := by
      rw [show LeaseStatus.up = s.virtIf.ip.ipv4Status from h.symm]
      rfl
    exact ⟨rfl, .same hup, .same rfl⟩
  | dhcpv4Del => exact evented_ipv4Down s
  | dhcpv4Update d => exact ⟨rfl, .flagged rfl, .same rfl⟩
  | dhcpv6Client st => exact ⟨rfl, .same rfl, .same rfl⟩
  | dhcpv6Renew =>
    have hup : { account6 s with status := .up } = account6 s := by
      rw [show LeaseStatus.up = s.virtIf.ip.ipv6Status from h.symm]
      rfl
    exact ⟨rfl, .same rfl, .same hup⟩
  | dhcpv6Del => exact evented_ipv6Down s
  | dhcpv6Update d mapt =>
    apply Evented.takeMaptOffer
    exact ⟨rfl, .same rfl, ⟨rfl, rfl⟩, .inr (.inr ⟨rfl, rfl, id⟩)⟩
  | ipcDhcpv4 m => exact evented_ipcDhcpv4 m s h
  | ipcDhcpv6 m => exact evented_ipcDhcpv6 m s h

theorem evented_apply (e : LeaseEvent) (s : Vism) (h : Timely e s) : Evented s (e.apply s) := by
  cases e with
  | message m =>
    show Evented s (deliver m s)
    unfold deliver
    split
    · exact evented_message m s h
    · exact Evented.refl s
  | prefixClear => exact evented_ipv6Down s
  | writeIpv4Status up =>
    cases up with
    | false => exact ⟨rfl, .lost LeaseStatus.noConfusion, .same rfl⟩
    | true =>
      have hup : { account4 s with status := .up } = account4 s := by
        rw [show LeaseStatus.up = s.virtIf.ip.ipv4Status from (h rfl).symm]
        rfl
      exact ⟨rfl, .same hup, .same rfl⟩
  | writeIpv6Status up =>
    cases up with
    | false => exact ⟨rfl, .same rfl, ⟨rfl, rfl⟩, .inr (.inl ⟨rfl, h⟩)⟩
    | true =>
      have hup : { account6 s with status := .up } = account6 s := by
        rw [show LeaseStatus.up = s.virtIf.ip.ipv6Status from h.symm]
        rfl
      exact ⟨rfl, .same rfl, .same hup⟩
  | ipv6ConnectionState up =>
    rw [show up = false from h]
    exact ⟨rfl, .same rfl, ⟨rfl, rfl⟩, .inl ⟨rfl, rfl, rfl, rfl, rfl, fun hno => by cases hno⟩⟩

theorem Evented.kept {s u : Vism} (h : Evented s u) (hs : Kept s) : Kept u := by
  unfold Kept at hs ⊢
  rw [h.phase]
  cases hphase : s.phase with
  | created =>
    rw [hphase] at hs
    exact ⟨h.ipv6.conn_false hs.1, fun hrun => hs.2 (h.ipv6.wait.2.symm.trans hrun)⟩
  | running st =>
    rw [hphase] at hs
    exact ⟨h.ipv4.accounted hs.ipv4, h.ipv6.accounted hs.ipv6⟩
  | absent => trivial
  | exited => trivial

theorem Surround.kept {s u : Vism} (h : Surround Timely s u) (hs : Kept s) : Kept u := by
  cases h with
  | event e htimely => exact (evented_apply e s htimely).kept hs
  | other hphase h4 h6 => exact Evented.kept ⟨hphase, .same h4, .same h6⟩ hs

theorem Surround.kept_many {s u : Vism} (h : Relation.ReflTransGen (Surround Timely) s u)
    (hs : Kept s) : Kept u := by
  induction h with
  | refl => exact hs
  | tail _ hstep ih => exact hstep.kept ih

/-! ## Runs -/

/-- A machine that is about to start, on an interface without IPv6. -/
def Created (s : Vism) : Prop :=
  s.phase = .created ∧ s.ipv6ConnectionState = false ∧ s.virtIf.ip.selectedModeTimerStatus ≠ .running

instance (s : Vism) : Decidable (Created s) := inferInstanceAs (Decidable (_ ∧ _ ∧ _))

/-- A lease that is up in a state for its family is configured, or is still to be. -/
structure ConfiguredAsLeased (s : Vism) : Prop where
  ipv4 : s.phase = .running .ipv4Leased ∨ s.phase = .running .dualStackActive →
    s.virtIf.ip.ipv4Status = .up →
      s.virtIf.ip.ipv4Changed = true ∨ s.applied.ipv4 = some s.virtIf.ip.ipv4Data.toIpv4Lease
  ipv6 : s.phase = .running .ipv6Leased ∨ s.phase = .running .dualStackActive →
    s.virtIf.ip.ipv6Status = .up →
      s.virtIf.ip.ipv6Changed = true ∨
        (s.applied.lanPrefix = some s.virtIf.ip.ipv6Data.toIpv6Lease ∧
          s.applied.ipv6 = some s.virtIf.ip.ipv6Data.toIpv6Lease)

theorem Kept.configuredAsLeased {s : Vism} (h : Kept s) : ConfiguredAsLeased s where
  ipv4 hphase hup := by
    unfold Kept at h
    rcases hphase with hphase | hphase <;> rw [hphase] at h <;> exact h.ipv4 rfl hup
  ipv6 hphase hup := by
    unfold Kept at h
    rcases hphase with hphase | hphase <;> rw [hphase] at h
    · exact (h.ipv6.lanPrefix hup).elim .inl fun hlan => (h.ipv6.applied rfl hup).imp_right (⟨hlan, ·⟩)
    · exact (h.ipv6.lanPrefix hup).elim .inl fun hlan => (h.ipv6.applied rfl hup).imp_right (⟨hlan, ·⟩)

/-- What is configured is what is leased, in the runs whose events are timely and whose
set-up calls succeed where a failure is forgotten. -/
theorem configured_is_leased {s : Vism} (hr : (vismLeasing Timely).Reach SetsUp Created s) :
    ConfiguredAsLeased s := by
  have hkept : Kept s := by
    refine hr.invariant (fun s hs => ?_) fun s hs u henv hadm => ?_
    · unfold Kept
      rw [hs.1]
      exact hs.2
    · exact vismTick_kept (Surround.kept_many henv hs) u rfl hadm
  exact hkept.configuredAsLeased

namespace Example

/-- An IPv4 lease arrives; `ok` is what `wan_setUpIPv4` answers. -/
def leaseArrives (allowed : LeaseEvent → Vism → Prop) (d : Ipv4Terms) (ok : Bool)
    (h : ∀ s, allowed (.message (.dhcpv4Update d)) s) : (vismLeasing allowed).Change where
  edit s := deliver (.dhcpv4Update d) { s with outside := { s.outside with setUpIpv4 := ok } }
  allowed s :=
    .tail (.single (.other (u := { s with outside := { s.outside with setUpIpv4 := ok } }) rfl rfl rfl))
      (.event (.message (.dhcpv4Update d)) (h _))

/-- Nothing happens between two ticks. -/
def undisturbed (allowed : LeaseEvent → Vism → Prop) : (vismLeasing allowed).Change where
  edit := id
  allowed _ := .refl

def activated : Vism where
  selection := { status := .active }

def address : Ipv4Terms where
  ip := "192.0.2.10"
  mask := "255.255.255.0"
  gateway := "192.0.2.1"

/-- Four ticks to the state that obtains addresses, and a lease. -/
def leasingRun (allowed : LeaseEvent → Vism → Prop) (ok : Bool)
    (h : ∀ s, allowed (.message (.dhcpv4Update address)) s) : List (vismLeasing allowed).Change :=
  List.replicate 4 (undisturbed allowed) ++ [leaseArrives allowed address ok h]

end Example

open Example in
theorem configured_is_leased_run :
    ConfiguredAsLeased ((vismLeasing Timely).play (leasingRun Timely true fun _ => trivial) activated) :=
  configured_is_leased (.play (.start (by decide +kernel)) (by decide +kernel))

open Example in
/-- An IPv4 lease whose configuration failed is taken for configured. -/
theorem leased_not_configured :
    ¬ ∀ s, (vismLeasing fun _ _ => True).Reach (fun _ _ => True) Created s → ConfiguredAsLeased s := by
  intro h
  have hrun := h _ (.play (m := leasingRun _ false fun _ => trivial) (.start (s := activated)
    (by decide +kernel)) (Reactive.plays_true _ _))
  have hleased := hrun.ipv4 (.inl (by decide +kernel)) (by decide +kernel)
  exact absurd hleased (by decide +kernel)

end InterfaceSm
end WanManager
