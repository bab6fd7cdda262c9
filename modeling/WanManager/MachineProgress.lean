import WanManager.MachineLoad

/-! # Every tick makes progress

With the replies, a tick of a machine at work gives the interface up, lowers the load, or is idle.
The proofs walk through the state functions, and at every section `Reaches` says how far the tick has
come. -/

namespace WanManager
open Concurrency

namespace InterfaceSm

/-- With the replies, `p` ends in a state and a store that meet `Q`. -/
def Closes (Q : WanState → Vism → Prop) (p : VismProg WanState) (s : Vism) : Prop :=
  Q ((p.answered reply).run s).1 ((p.answered reply).run s).2

/-- A tick from `st`, which found `p`, has given the interface up, lowered the load or been idle. -/
def Progress (st : WanState) (p : Vism) (st' : WanState) (s' : Vism) : Prop :=
  givenUp st' = true ∨ load st' s' < load st p ∨ st' = st ∧ s' = comeUp (order st p)

/-- The tick has put things in order, and no more, or has lowered the load. -/
def Reaches (st : WanState) (p u : Vism) : Prop := u = order st p ∨ load st u < load st p

section Sections

variable {st st' : WanState} {p s u : Vism} {Q : WanState → Vism → Prop}

theorem closes_self {q : Vism → VismProg WanState} (h : Closes Q (q s) s) : Closes Q (self >>= q) s := h

theorem closes_act {g : Vism → Vism} {q : Unit → VismProg WanState} (h : Closes Q (q ()) (g s)) :
    Closes Q (act g >>= q) s := h

theorem closes_go {t : WanTransition} {g : Vism → WanState × Vism}
    (h : Q (g s).1 (comeUp (linked t (g s).2))) : Closes Q (go t g) s := h

theorem Reaches.le (h : Reaches st p u) : load st u ≤ load st p := by
  obtain rfl | hlt := h
  · exact load_order_le st p
  · exact Nat.le_of_lt hlt

theorem Reaches.lower {v : Vism} (h : Reaches st p u) (hlt : load st v < load st u) : Reaches st p v :=
  .inr (Nat.lt_of_lt_of_le hlt h.le)

theorem Reaches.monitor (h : Reaches st p u) : Reaches st p (monitorDhcpApps u) := by
  obtain hsame | hlt := monitorDhcpApps_eases st u
  · rwa [hsame]
  · exact h.lower hlt

theorem progress_giveUp : Closes (Progress st p) giveUp u :=
  closes_go (.inl (givenUp_physicalInterfaceDown u))

theorem progress_giveUpVlan : Closes (Progress st p) giveUpVlan u := closes_act progress_giveUp

/-- A transition that finds nothing to do. -/
theorem progress_unchanged (h : Reaches st p u) {t : WanTransition} {f : Vism → WanState × Vism}
    (hf : f u = (st, u)) (ht : linked t u = u) : Closes (Progress st p) (go t f) u := by
  apply closes_go
  rw [hf, ht]
  obtain rfl | hlt := h
  · exact .inr (.inr ⟨rfl, rfl⟩)
  · exact .inr (.inl (Nat.lt_of_le_of_lt (load_comeUp_le st u) hlt))

theorem progress_keep (h : Reaches st p u) : Closes (Progress st p) (keep st) u :=
  progress_unchanged h rfl rfl

theorem progress_monitorAndKeep (h : Reaches st p u) : Closes (Progress st p) (monitorAndKeep st) u :=
  closes_act (progress_keep h.monitor)

/-- A transition to a place that is less far off. -/
theorem progress_place (hle : load st u ≤ load st p) {t : WanTransition} {f : Vism → WanState × Vism}
    {r : WanState × Ledger} (htold : told (f u).2 = told u) (hentry : entry (f u) = r)
    (hplace : ∀ lost', (lost' = true → standbyLost (linked t (f u).2) = true) →
      r.2.place (u.selection.status == .active) lost' r.1 <
        (ledger u).place (u.selection.status == .active) (standbyLost u) st) :
    Closes (Progress st p) (go t f) u := by
  apply closes_go
  have hreply : ∀ v, told (comeUp (linked t v)) = told v :=
    fun v => told_fixedAll.fixed.linkBlind.reply (.wanTransition t) v
  have hledger : ∀ v, ledger (comeUp (linked t v)) = ledger v :=
    fun v => ledger_blind.toLinkBlind.reply (.wanTransition t) v
  subst hentry
  have hlt : load (f u).1 (comeUp (linked t (f u).2)) < load st u := by
    refine load_lt_of_place ((hreply _).trans htold) ?_
    rw [hledger]
    exact hplace _ standbyLost_comeUp
  exact .inr (.inl (Nat.lt_of_lt_of_le hlt hle))

/-- The switch of the MAP-T feature is dealt with. -/
theorem progress_switched (h : Reaches st p u) {t : WanTransition} {f : Vism → WanState × Vism}
    (hchanged : u.maptFeatureEnableChanged = true)
    (htold : ∀ v, told (f v).2 = told v) :
    Closes (Progress st p) (act (fun s => { s with maptFeatureEnableChanged := false }) >>= fun _ => go t f)
      u := by
  apply closes_act
  apply closes_go
  have hreply : ∀ v, told (comeUp (linked t v)) = told v :=
    fun v => told_fixedAll.fixed.linkBlind.reply (.wanTransition t) v
  have hlt : ∀ v : Vism, v.maptFeatureEnableChanged = false →
      load (f v).1 (comeUp (linked t (f v).2)) < load st u := fun v hv =>
    load_lt_of_switched hchanged ((congrArg Prod.snd ((hreply _).trans (htold v))).trans hv)
  exact .inr (.inl (Nat.lt_of_lt_of_le (hlt _ rfl) h.le))

end Sections

/-! ## Transitions -/

theorem outside_fixedAll : FixedAll Vism.outside where
  virtIf _ _ := rfl
  accounts _ _ _ _ _ _ := rfl
  rescan _ := rfl

section Transitions

variable {st : WanState} {p u : Vism} (h : Reaches st p u)

include h

theorem progress_ipv4Down (hst : st = .ipv4Leased ∨ st = .dualStackActive) :
    Closes (Progress st p) (go .ipv4Down wanTransitionIpv4Down) u :=
  progress_place h.le (told_fixedAll.fixed.wanTransitionIpv4Down u) (entry_ipv4Down u)
    fun _ _ => Ledger.place_ipv4Down hst

theorem progress_ipv6Down (hst : st = .ipv6Leased ∨ st = .dualStackActive) :
    Closes (Progress st p) (go .ipv6Down wanTransitionIpv6Down) u :=
  progress_place h.le (told_fixedAll.fixed.wanTransitionIpv6Down u) (entry_ipv6Down u)
    fun _ _ => Ledger.place_ipv6Down hst

theorem progress_ipv4Up (hactive : u.selection.status = .active) (h4 : u.virtIf.ip.ipv4Status = .up)
    (hst : st = .obtainingIpAddresses ∨ st = .ipv6Leased) :
    Closes (Progress st p) (go .ipv4Up wanTransitionIpv4Up) u := by
  refine progress_place h.le (told_fixedAll.fixed.fixedTick.wanTransitionIpv4Up u) (entry_ipv4Up u) ?_
  rw [hactive]
  exact fun _ _ => Ledger.place_ipv4Up hst h4

theorem progress_ipv6Up (hactive : u.selection.status = .active) (h6 : u.virtIf.ip.ipv6Status = .up)
    (hst : st = .obtainingIpAddresses ∨ st = .ipv4Leased) :
    Closes (Progress st p) (go .ipv6Up wanTransitionIpv6Up) u := by
  refine progress_place h.le (told_fixedAll.fixed.fixedTick.wanTransitionIpv6Up u) (entry_ipv6Up u) ?_
  rw [hactive]
  exact fun _ _ => Ledger.place_ipv6Up hst h6

theorem progress_standbyDeconfigIps (hmode : u.deviceNwModeChanged = false)
    (hleaves : leavesActive u = true) (hst : leased st = true) :
    Closes (Progress st p) (go .standbyDeconfigIps wanTransitionStandbyDeconfigIps) u := by
  have hentry : entry (wanTransitionStandbyDeconfigIps u) = (.standby, (ledger u).standbyDeconfig) := by
    rw [entry, ledger_standbyDeconfigIps]
    rfl
  have hactive : (u.selection.status == .active) = false := by
    simpa [leavesActive, hmode] using hleaves
  refine progress_place h.le (told_fixedAll.fixed.wanTransitionStandbyDeconfigIps u) hentry ?_
  rw [hactive]
  exact fun _ _ => Ledger.place_standbyDeconfig hst

omit h in
/-- MAP-T that is verified and configured becomes active. -/
theorem entry_maptUp_succeeds (ho : Succeeds u.outside) :
    entry (wanTransitionMaptUp u) =
      (.maptActive, (ledger u).maptReplaces u.virtIf.ip.ipv4Changed) := by
  have hout : (replaced u).outside = u.outside := outside_fixedAll.fixed.fixedTick.replaced u
  rw [wanTransitionMaptUp_verified ho.verifyMapt, hout, if_pos ho.processMapt, entry_mk,
    ledger_replaced]

theorem progress_maptUp (ho : Succeeds u.outside) (hup : maptUpReady u = true)
    (hst : st = .ipv6Leased ∨ st = .dualStackActive) :
    Closes (Progress st p) (go .maptUp wanTransitionMaptUp) u := by
  have hm : (ledger u).mapt = .up := by
    simp only [maptUpReady, Bool.and_eq_true, beq_iff_eq] at hup
    exact hup.2
  have htold := told_fixedAll.fixed.fixedTick.wanTransitionMaptUp u
  refine progress_place h.le htold (entry_maptUp_succeeds ho) ?_
  exact fun _ _ => Ledger.place_maptReplaces hst hm

theorem progress_dualStackDown (hst : st = .dualStackActive) :
    Closes (Progress st p) (go .dualStackDown wanTransitionDualStackDown) u := by
  subst hst
  have hentry : entry (wanTransitionDualStackDown u) =
      (.obtainingIpAddresses, (ledger u).dualStackDown) := by
    rw [entry, ledger_dualStackDown]
    rfl
  exact progress_place h.le (told_fixedAll.fixed.wanTransitionDualStackDown u) hentry
    fun _ _ => Ledger.place_dualStackDown

theorem progress_maptDown (hst : st = .maptActive) :
    Closes (Progress st p) (go .maptDown wanTransitionMaptDown) u := by
  subst hst
  have hentry : entry (wanTransitionMaptDown u) = (.ipv6Leased, (ledger u).maptDown) := by
    rw [entry, ledger_maptDown]
    rfl
  exact progress_place h.le (told_fixedAll.fixed.wanTransitionMaptDown u) hentry
    fun _ _ => Ledger.place_maptDown

/-- An interface whose links and leases are there stands by. -/
theorem progress_standby (hst : st = .obtainingIpAddresses) (hactive : u.selection.status ≠ .active)
    (hlost : standbyLost u = false) : Closes (Progress st p) (go .standby wanTransitionStandby) u := by
  subst hst
  have hledger : ledger (wanTransitionStandby u).2 = { ledger u with status := .standby } := by
    rw [wanTransitionStandby, ledger_startConnectivityCheck]
    rfl
  have hentry : entry (wanTransitionStandby u) = (.standby, { ledger u with status := .standby }) := by
    rw [entry, hledger]
    rfl
  have hkept : standbyLost (wanTransitionStandby u).2 = standbyLost u := by
    simp only [wanTransitionStandby, startConnectivityCheck]
    split
    · rfl
    · split <;> rfl
  refine progress_place h.le (told_fixedAll.fixed.wanTransitionStandby u) hentry fun lost' hlost' => ?_
  have hnot : lost' = false := by
    by_contra hno
    have hfound : standbyLost (wanTransitionStandby u).2 = true := hlost' (by simpa using hno)
    rw [hkept, hlost] at hfound
    cases hfound
  have hother : (u.selection.status == .active) = false := by simpa using hactive
  rw [hnot, hother]
  exact Ledger.place_standby .standby

omit h in
theorem progress_lost (hle : load .standby u ≤ load .standby p) (hlost : standbyLost u = true) :
    Closes (Progress .standby p) (keep .obtainingIpAddresses) u := by
  refine progress_place hle rfl rfl fun lost' _ => ?_
  rw [hlost]
  exact Ledger.place_lost

omit h in
theorem leased_activateStandby (ho : Succeeds u.outside)
    (hup : u.virtIf.ip.ipv4Status = .up ∨ u.virtIf.ip.ipv6Status = .up) :
    leased (activateStandby u).1 = true := by
  have h4 : ∀ v, leased (wanTransitionIpv4Up v).1 = true := by
    intro v
    simp only [wanTransitionIpv4Up]
    split <;> rfl
  have h6 : ∀ v, leased (wanTransitionIpv6Up v).1 = true := by
    intro v
    simp only [wanTransitionIpv6Up]
    split <;> rfl
  have hlast : ∀ r : WanState × Vism, leased r.1 = true →
      leased (if r.2.virtIf.ip.ipv4Status = .up then wanTransitionIpv4Up r.2 else r).1 = true := by
    intro r hr
    split
    · exact h4 _
    · exact hr
  have hready : (if u.virtIf.ip.ipv6Changed then clearIpv6Changed u else u).outside.lanAddressReady =
      true := by
    split <;> exact ho.lanAddressReady
  by_cases hup6 : u.virtIf.ip.ipv6Status = .up
  · simp only [activateStandby, if_pos hup6, if_pos hready]
    exact hlast _ (h6 _)
  · have hup4 := hup.resolve_right hup6
    simp only [activateStandby, if_neg hup6, if_pos hup4]
    exact h4 _

/-- An interface that became active takes up its leases, if it has any. -/
theorem progress_activateStandby (hst : st = .standby) (hactive : u.selection.status = .active)
    (ho : Succeeds u.outside) : Closes (Progress st p) (go .standbyUp activateStandby) u := by
  subst hst
  by_cases hup : u.virtIf.ip.ipv4Status = .up ∨ u.virtIf.ip.ipv6Status = .up
  · obtain ⟨ready, hentry⟩ := entry_activateStandby u
    have hleased : leased ((ledger u).standbyUp ready).1 = true := by
      rw [← congrArg Prod.fst hentry]
      exact leased_activateStandby ho hup
    refine progress_place h.le (told_fixedAll.fixed.fixedTick.activateStandby u) hentry ?_
    rw [hactive]
    exact fun _ _ => Ledger.place_standbyUp hleased
  · obtain ⟨h4, h6⟩ := not_or.mp hup
    have hnone : activateStandby u = (.standby, u) := by
      simp only [activateStandby, if_neg h4, if_neg h6]
    exact progress_unchanged h hnone rfl

theorem progress_maptSwitchedOn (hchanged : u.maptFeatureEnableChanged = true) :
    Closes (Progress st p) (maptSwitchedOn st) u := by
  apply closes_self
  split
  · exact progress_switched h hchanged fun v => told_fixedAll.fixed.wanTransitionMaptFeatureRefresh v
  · exact progress_keep h

end Transitions

/-! ## What is dealt with in a state -/

section Signals

variable {st : WanState} {s : Vism}

/-- A signal that is dealt with outside standby. -/
theorem load_lt_of_signals {u : Vism} (hst : st ≠ .standby) (htold : told u = told s)
    (hplace : ∀ active lost, (ledger u).place active lost st ≤ (ledger s).place active lost st)
    (hsignals : signals u < signals s) : load st u < load st s := by
  have hselection : u.selection = s.selection := congrArg Prod.fst htold
  have hswitched : u.maptFeatureEnableChanged = s.maptFeatureEnableChanged := congrArg Prod.snd htold
  have hlost : (ledger u).place (s.selection.status == .active) (standbyLost u) st =
      (ledger u).place (s.selection.status == .active) (standbyLost s) st := by
    unfold Ledger.place
    cases st with
    | standby => exact absurd rfl hst
    | _ => rfl
  have hplace := hplace (s.selection.status == .active) (standbyLost s)
  unfold load
  rw [hselection, hswitched, hlost]
  omega

theorem place_of_ledger {u : Vism} (h : ledger u = ledger s) (active lost : Bool) :
    (ledger u).place active lost st ≤ (ledger s).place active lost st := h ▸ Nat.le_refl _

theorem clearIpv6Changed_lt (hst : st ≠ .standby) (h6 : s.virtIf.ip.ipv6Changed = true) :
    load st (clearIpv6Changed s) < load st s := by
  refine load_lt_of_signals hst rfl (place_of_ledger (ledger_clearIpv6Changed s)) ?_
  simp [signals, clearIpv6Changed, setUpLanPrefixIpv6, Vism.mapIp, Vism.mapVirtIf, h6]

theorem signals_setUpIpv4 (s : Vism) : signals (setUpIpv4 s) = signals s :=
  signals_startConnectivityCheck _

theorem signals_setUpIpv6 (s : Vism) : signals (setUpIpv6 s) = signals s :=
  signals_startConnectivityCheck _

theorem signal_startConnectivityCheck {β : Type} {f : IfaceIp → β}
    (hf : ∀ ip, f { ip with connectivityCheckRunning := true } = f ip) (s : Vism) :
    f (startConnectivityCheck s).virtIf.ip = f s.virtIf.ip := by
  unfold startConnectivityCheck
  split
  · rfl
  split
  · exact hf _
  · rfl

theorem signal_sendMsgToConnectivityCheck {β : Type} {f : IfaceIp → β}
    (hf : ∀ ip, f { ip with connectivityCheckRunning := true } = f ip) (s : Vism) :
    f (sendMsgToConnectivityCheck s).virtIf.ip = f s.virtIf.ip := by
  unfold sendMsgToConnectivityCheck
  split
  · rfl
  · exact signal_startConnectivityCheck hf s

theorem renewIpv4_lt (hst : st ≠ .standby) (h4 : s.virtIf.ip.ipv4Renewed = true) :
    load st (renewIpv4 s) < load st s := by
  have hsent := signals_sendMsgToConnectivityCheck s
  have hset := (signal_sendMsgToConnectivityCheck (f := (·.ipv4Renewed)) (fun _ => rfl) s).trans h4
  refine load_lt_of_signals hst (told_fixedAll.fixed.linkBlind.renewIpv4 s)
    (place_of_ledger (ledger_renewIpv4 s)) ?_
  rw [← hsent]
  simp [signals, renewIpv4, Vism.mapIp, Vism.mapVirtIf, hset]

theorem renewIpv6_lt (hst : st ≠ .standby) (h6 : s.virtIf.ip.ipv6Renewed = true) :
    load st (renewIpv6 s) < load st s := by
  have hsent := signals_sendMsgToConnectivityCheck s
  have hset := (signal_sendMsgToConnectivityCheck (f := (·.ipv6Renewed)) (fun _ => rfl) s).trans h6
  refine load_lt_of_signals hst (told_fixedAll.fixed.linkBlind.renewIpv6 s)
    (place_of_ledger (ledger_renewIpv6 s)) ?_
  rw [← hsent]
  simp [signals, renewIpv6, Vism.mapIp, Vism.mapVirtIf, hset]

theorem reconfigureIpv4_lt (hst : st ≠ .standby) (ho : Succeeds s.outside)
    (h4 : s.virtIf.ip.ipv4Changed = true) : load st (reconfigureIpv4 s) < load st s := by
  have hset : reconfigureIpv4 s =
      (sendMsgToConnectivityCheck (setUpIpv4 (tearDownIpv4 s))).mapIp fun ip =>
        { ip with ipv4Changed := false } := by
    simp only [reconfigureIpv4, if_pos ho.tearDownIpv4, if_pos ho.setUpIpv4]
  have htold : told (reconfigureIpv4 s) = told s := told_fixedAll.fixed.fixedTick.reconfigureIpv4 s
  rw [hset] at htold ⊢
  have hledger : ledger ((sendMsgToConnectivityCheck (setUpIpv4 (tearDownIpv4 s))).mapIp fun ip =>
      { ip with ipv4Changed := false }) = (ledger s).tearDown4.setUp4 := by
    rw [ledger_mapIp rfl rfl, ledger_sendMsgToConnectivityCheck, ledger_setUpIpv4, ledger_tearDownIpv4]
  have hsent : signals (sendMsgToConnectivityCheck (setUpIpv4 (tearDownIpv4 s))) = signals s :=
    (signals_sendMsgToConnectivityCheck _).trans (signals_setUpIpv4 _)
  have hset : (sendMsgToConnectivityCheck (setUpIpv4 (tearDownIpv4 s))).virtIf.ip.ipv4Changed = true :=
    (signal_sendMsgToConnectivityCheck (f := (·.ipv4Changed)) (fun _ => rfl) _).trans
      ((signal_startConnectivityCheck (f := (·.ipv4Changed)) (fun _ => rfl) _).trans h4)
  refine load_lt_of_signals hst htold (fun active lost => ?_) ?_
  · rw [hledger]
    exact Ledger.place_conn_le (b := ledger s) rfl rfl rfl (fun _ => rfl) id
  · rw [← hsent]
    simp [signals, Vism.mapIp, Vism.mapVirtIf, hset]

/-- `done` may tell the machine of one thing more. -/
theorem reconfigureIpv6_lt {done : Vism → Vism} (hst : st ≠ .standby) (ho : Succeeds s.outside)
    (hledger : ∀ u, ledger (done u) = ledger u) (htold : ∀ u, told (done u) = told u)
    (hsignals : ∀ u, signals (done u) ≤ signals u + 1) (h6 : s.virtIf.ip.ipv6Changed = true) :
    load st (reconfigureIpv6 done s) < load st s := by
  have hset : reconfigureIpv6 done s =
      done ((sendMsgToConnectivityCheck (setUpIpv6 (setUpLanPrefixIpv6 (tearDownIpv6 s)))).mapIp
        fun ip => { ip with ipv6Changed := false }) := by
    simp only [reconfigureIpv6, if_pos ho.tearDownIpv6, if_pos ho.setUpLanPrefixIpv6,
      if_pos ho.setUpIpv6]
  have hkept : told (reconfigureIpv6 done s) = told s := told_fixedAll.fixed.fixedTick.reconfigureIpv6 htold s
  rw [hset] at hkept ⊢
  have hup : ledger ((sendMsgToConnectivityCheck (setUpIpv6 (setUpLanPrefixIpv6
      (tearDownIpv6 s)))).mapIp fun ip => { ip with ipv6Changed := false }) =
        (ledger s).tearDown6.setUp6 := by
    rw [ledger_mapIp rfl rfl, ledger_sendMsgToConnectivityCheck, ledger_setUpIpv6,
      ledger_setUpLanPrefixIpv6, ledger_tearDownIpv6]
  have hsent : signals (sendMsgToConnectivityCheck (setUpIpv6 (setUpLanPrefixIpv6
      (tearDownIpv6 s)))) = signals s :=
    (signals_sendMsgToConnectivityCheck _).trans (signals_setUpIpv6 _)
  have hchanged : (sendMsgToConnectivityCheck (setUpIpv6 (setUpLanPrefixIpv6
      (tearDownIpv6 s)))).virtIf.ip.ipv6Changed = true :=
    (signal_sendMsgToConnectivityCheck (f := (·.ipv6Changed)) (fun _ => rfl) _).trans
      ((signal_startConnectivityCheck (f := (·.ipv6Changed)) (fun _ => rfl) _).trans h6)
  have hcleared : signals ((sendMsgToConnectivityCheck (setUpIpv6 (setUpLanPrefixIpv6
      (tearDownIpv6 s)))).mapIp fun ip => { ip with ipv6Changed := false }) + 2 = signals s := by
    rw [← hsent]
    simp only [signals, Vism.mapIp, Vism.mapVirtIf, hchanged, Bool.toNat_true, Bool.toNat_false]
    omega
  refine load_lt_of_signals hst hkept (fun active lost => ?_) ?_
  · rw [hledger, hup]
    exact Ledger.place_conn_le (b := ledger s) rfl rfl rfl id fun _ => rfl
  · exact Nat.lt_of_le_of_lt (hsignals _) (by omega)

theorem reconfigureMapt_lt (hst : st ≠ .standby) (ho : Succeeds s.outside)
    (hm : s.virtIf.map.maptChanged = true) : load st (reconfigureMapt s) < load st s := by
  have hset : reconfigureMapt s =
      (setUpMapt (tearDownMapt s)).mapMap fun m => { m with maptChanged := false } := by
    simp [reconfigureMapt, ho.tearDownMapt, ho.setUpMapt, ho.verifyMapt, ho.processMapt]
  rw [hset]
  refine load_lt_of_signals hst rfl (fun active lost => ?_) ?_
  · exact Ledger.place_conn_le (b := ledger s) rfl rfl rfl id id
  · simp [signals, setUpMapt, tearDownMapt, Vism.mapMap, Vism.mapVirtIf, hm]

theorem refreshDhcpClients_lt (hst : st ≠ .standby) (hrefresh : s.virtIf.ip.refreshDhcp = true) :
    load st (refreshDhcpClients s) < load st s := by
  have h4 : ∀ u, signals u = signals s ∧ u.virtIf.ip.refreshDhcp = true →
      signals (followMode usesDhcpv4 started4 startDhcpv4Client stopDhcpv4Client u) = signals s ∧
        (followMode usesDhcpv4 started4 startDhcpv4Client stopDhcpv4Client u).virtIf.ip.refreshDhcp =
          true := by
    intro u hu
    unfold followMode
    split_ifs <;> exact hu
  have h6 : ∀ u, signals u = signals s ∧ u.virtIf.ip.refreshDhcp = true →
      signals (followMode usesDhcpv6 started6 startDhcpv6Client stopDhcpv6Client u) = signals s ∧
        (followMode usesDhcpv6 started6 startDhcpv6Client stopDhcpv6Client u).virtIf.ip.refreshDhcp =
          true := by
    intro u hu
    unfold followMode
    split_ifs <;> exact hu
  have hdone : ∀ u, signals u = signals s ∧ u.virtIf.ip.refreshDhcp = true →
      signals ((if !started4 u && !started6 u then u.setStatus .validating else u).mapIp fun ip =>
        { ip with refreshDhcp := false }) < signals s := by
    intro u hu
    rw [← hu.1]
    split <;> simp [signals, Vism.setStatus, Vism.mapIp, Vism.mapVirtIf, hu.2]
  refine load_lt_of_signals hst ?_ (fun active lost => ?_) (hdone _ (h6 _ (h4 s ⟨rfl, hrefresh⟩)))
  · exact told_fixedAll.fixed.clientBlind.refreshDhcpClients told_fixedAll.fixed.status s
  · have hblind := (ledger_blind.comp fun b => b.place active lost st).toClientBlind
    exact Nat.le_of_eq (hblind.refreshDhcpClients (fun _ _ => rfl) s)

end Signals

end InterfaceSm
end WanManager
