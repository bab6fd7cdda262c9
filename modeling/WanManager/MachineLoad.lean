import WanManager.MachineIdle
import WanManager.InterfaceSmTeardown

/-! # The work a machine has ahead

Without lease messages the families of a machine can only be lost, and what it has been told can
only be dealt with. `load` counts both, and the place of the machine on its way to a state it can
stay in. -/

namespace WanManager
open Concurrency

namespace InterfaceSm

/-- Every set-up, every tear-down and every readiness check succeeds. -/
structure Succeeds (o : VismOutside) : Prop where
  setUpIpv4 : o.setUpIpv4 = true
  tearDownIpv4 : o.tearDownIpv4 = true
  setUpIpv6 : o.setUpIpv6 = true
  tearDownIpv6 : o.tearDownIpv6 = true
  setUpLanPrefixIpv6 : o.setUpLanPrefixIpv6 = true
  setUpMapt : o.setUpMapt = true
  tearDownMapt : o.tearDownMapt = true
  verifyMapt : o.verifyMapt = true
  processMapt : o.processMapt = true
  lanAddressReady : o.lanAddressReady = true

/-! ## The load -/

/-- What the machine has been told and has not dealt with. A new IPv6 configuration may be followed
by one of MAP-T. -/
def signals (s : Vism) : Nat :=
  s.virtIf.ip.ipv4Changed.toNat + 2 * s.virtIf.ip.ipv6Changed.toNat + s.virtIf.map.maptChanged.toNat +
    s.virtIf.ip.ipv4Renewed.toNat + s.virtIf.ip.ipv6Renewed.toNat + s.virtIf.ip.refreshDhcp.toNat +
    s.virtIf.ip.wccTypeChanged.toNat + (s.virtIf.ip.selectedModeTimerStatus == .running).toNat

theorem signals_le (s : Vism) : signals s ≤ 9 := by
  have hflag : ∀ b : Bool, b.toNat ≤ 1 := Bool.toNat_le
  have h4 := hflag s.virtIf.ip.ipv4Changed
  have h6 := hflag s.virtIf.ip.ipv6Changed
  have hm := hflag s.virtIf.map.maptChanged
  have h4' := hflag s.virtIf.ip.ipv4Renewed
  have h6' := hflag s.virtIf.ip.ipv6Renewed
  have hr := hflag s.virtIf.ip.refreshDhcp
  have hw := hflag s.virtIf.ip.wccTypeChanged
  have ht := hflag (s.virtIf.ip.selectedModeTimerStatus == .running)
  unfold signals
  omega

namespace Ledger

/-- How many families have a lease. -/
def families (b : Ledger) : Nat :=
  (if b.ipv4 = .up then 1 else 0) + (if b.ipv6 = .up then 1 else 0) + if b.mapt = .up then 1 else 0

/-- An interface that is not the active one leaves its leased states. -/
def away (active : Bool) : Nat := if active then 0 else 20

/-- How far the state is from one the machine can stay in: that of an active machine is the state
that its leases call for, and that of another one is `WAN_STATE_STANDBY`, unless it is `lost`. -/
def rank (active lost : Bool) (b : Ledger) : WanState → Nat
  | .vlanConfiguring => 42
  | .pppConfiguring => 41
  | .validatingWan => 40
  | .obtainingIpAddresses => 5
  | .standby => if active || lost then 9 else 0
  | .ipv4Leased => away active + if b.ipv4 = .up then (if b.conn4 then 3 else 4) else 7
  | .ipv6Leased => away active + if b.ipv6 = .up then (if b.conn6 then 3 else 4) else 7
  | .dualStackActive => away active + if b.ipv4 = .up ∧ b.ipv6 = .up then 2 else 7
  | .maptActive => away active + if b.mapt = .up then 1 else 8
  | .refreshingWan | .deconfiguringWan | .exit => 0

/-- A family that is lost counts more than any state. -/
def place (active lost : Bool) (b : Ledger) (st : WanState) : Nat :=
  b.rank active lost st + 50 * b.families

section Place

variable {active lost lost' : Bool} {b : Ledger} {st : WanState}

theorem away_le (active : Bool) : away active ≤ 20 := by
  unfold away
  split <;> omega

theorem families_le (b : Ledger) : b.families ≤ 3 := by
  unfold families
  split_ifs <;> omega

theorem rank_leased_le (hst : leased st = true) : b.rank active lost st ≤ away active + 8 := by
  cases st with
  | ipv4Leased | ipv6Leased | dualStackActive | maptActive =>
    simp only [rank]
    split_ifs <;> omega
  | _ => cases hst

theorem rank_le (active lost : Bool) (b : Ledger) (st : WanState) : b.rank active lost st ≤ 42 := by
  have haway := away_le active
  cases st with
  | ipv4Leased | ipv6Leased | dualStackActive | maptActive =>
    exact (rank_leased_le rfl).trans (by omega)
  | standby =>
    simp only [rank]
    split <;> omega
  | _ => simp [rank]

theorem place_le (active lost : Bool) (b : Ledger) (st : WanState) : b.place active lost st ≤ 192 := by
  have hrank := b.rank_le active lost st
  have hfamilies := b.families_le
  unfold place
  omega

/-- The leases stay, and no family loses its connection. -/
theorem place_conn_le {b' : Ledger} (h4 : b'.ipv4 = b.ipv4) (h6 : b'.ipv6 = b.ipv6)
    (hm : b'.mapt = b.mapt) (hc4 : b.conn4 = true → b'.conn4 = true)
    (hc6 : b.conn6 = true → b'.conn6 = true) : b'.place active lost st ≤ b.place active lost st := by
  have hfamilies : b'.families = b.families := by simp only [families, h4, h6, hm]
  have hrank : b'.rank active lost st ≤ b.rank active lost st := by
    cases st with
    | ipv4Leased | ipv6Leased =>
      simp only [rank, h4, h6]
      grind
    | dualStackActive | maptActive =>
      simp only [rank, h4, h6, hm]
      exact Nat.le_refl _
    | _ => exact Nat.le_refl _
  unfold place
  omega

/-! ### Families that are lost -/

theorem families_ipv4Down :
    b.ipv4Down.2.families + (if b.ipv4 = .up then 1 else 0) = b.families := by
  simp only [ipv4Down, ifUp, tearDown4, families]
  grind

theorem families_ipv6Down : b.ipv6Down.2.families + (if b.ipv6 = .up then 1 else 0) +
    (if b.mapt = .up then 1 else 0) = b.families := by
  simp only [ipv6Down, ifUp, tearDown6, families]
  grind

theorem families_maptDown : b.maptDown.families + (if b.ipv4 = .up then 1 else 0) +
    (if b.mapt = .up then 1 else 0) = b.families := by
  simp only [maptDown, ifUp, tearDownM, families]
  grind

/-- Giving the interface up takes every family down. -/
theorem families_familiesDown : b.familiesDown.families = 0 := by
  have hm : ∀ b : Ledger, (if b.mapt = .up then b.maptDown else b).mapt ≠ .up := by
    intro b
    simp only [maptDown, ifUp, tearDownM]
    grind
  have h4 : ∀ b : Ledger, b.mapt ≠ .up → (if b.ipv4 = .up then b.ipv4Down.2 else b).mapt ≠ .up ∧
      (if b.ipv4 = .up then b.ipv4Down.2 else b).ipv4 ≠ .up := by
    intro b hb
    simp only [ipv4Down, ifUp, tearDown4]
    grind
  have h6 : ∀ b : Ledger, b.mapt ≠ .up ∧ b.ipv4 ≠ .up →
      (if b.ipv6 = .up then b.ipv6Down.2 else b).families = 0 := by
    intro b hb
    simp only [ipv6Down, ifUp, tearDown6, families]
    grind
  exact h6 _ (h4 _ (hm b))

theorem rank_ipv4Down_le : b.ipv4Down.2.rank active lost b.ipv4Down.1 ≤ away active + 5 := by
  simp only [ipv4Down, ifUp, tearDown4]
  grind [rank]

theorem rank_ipv6Down_le : b.ipv6Down.2.rank active lost b.ipv6Down.1 ≤ away active + 5 := by
  simp only [ipv6Down, ifUp, tearDown6]
  grind [rank]

/-- The state calls for a lease that is not there. -/
theorem rank_without_ipv4 (hst : st = .ipv4Leased ∨ st = .dualStackActive) (h4 : b.ipv4 ≠ .up) :
    b.rank active lost st = away active + 7 := by
  obtain rfl | rfl := hst <;> simp [rank, h4]

theorem rank_without_ipv6 (hst : st = .ipv6Leased ∨ st = .dualStackActive) (h6 : b.ipv6 ≠ .up) :
    b.rank active lost st = away active + 7 := by
  obtain rfl | rfl := hst <;> simp [rank, h6]

theorem place_ipv4Down (hst : st = .ipv4Leased ∨ st = .dualStackActive) :
    b.ipv4Down.2.place active lost' b.ipv4Down.1 < b.place active lost st := by
  have hfamilies := families_ipv4Down (b := b)
  have hrank : b.ipv4Down.2.rank active lost' b.ipv4Down.1 ≤ away active + 5 := rank_ipv4Down_le
  have haway := away_le active
  unfold place
  by_cases h4 : b.ipv4 = .up
  · rw [if_pos h4] at hfamilies
    omega
  · rw [rank_without_ipv4 hst h4]
    omega

theorem place_ipv6Down (hst : st = .ipv6Leased ∨ st = .dualStackActive) :
    b.ipv6Down.2.place active lost' b.ipv6Down.1 < b.place active lost st := by
  have hfamilies := families_ipv6Down (b := b)
  have hrank : b.ipv6Down.2.rank active lost' b.ipv6Down.1 ≤ away active + 5 := rank_ipv6Down_le
  have haway := away_le active
  unfold place
  by_cases h6 : b.ipv6 = .up
  · rw [if_pos h6] at hfamilies
    omega
  · rw [rank_without_ipv6 hst h6]
    omega

theorem place_dualStackDown :
    b.dualStackDown.place active lost' .obtainingIpAddresses < b.place active lost .dualStackActive := by
  have hnone : b.dualStackDown.families = 0 := by
    simp only [dualStackDown, ipv4Down, ipv6Down, ifUp, tearDown4, tearDown6, families]
    grind
  have hrank : b.rank active lost .dualStackActive = away active + 7 ∨ 1 ≤ b.families := by
    by_cases h4 : b.ipv4 = .up
    · refine .inr ?_
      rw [families, if_pos h4]
      omega
    · exact .inl (rank_without_ipv4 (.inr rfl) h4)
  unfold place
  rw [hnone]
  have hnext : b.dualStackDown.rank active lost' .obtainingIpAddresses = 5 := rfl
  omega

theorem place_maptDown :
    b.maptDown.place active lost' .ipv6Leased < b.place active lost .maptActive := by
  have hfamilies := families_maptDown (b := b)
  have haway := away_le active
  have hnext : b.maptDown.rank active lost' .ipv6Leased ≤ away active + 7 := by
    simp only [rank]
    split_ifs <;> omega
  unfold place
  by_cases hm : b.mapt = .up
  · rw [if_pos hm] at hfamilies
    omega
  · have hrank : b.rank active lost .maptActive = away active + 8 := by simp [rank, hm]
    omega

/-! ### Families that are set up -/

/-- An active interface that sets a family up comes closer to the state for its leases. -/
theorem place_ipv4Up (hst : st = .obtainingIpAddresses ∨ st = .ipv6Leased) (h4 : b.ipv4 = .up) :
    b.ipv4Up.2.place true lost' b.ipv4Up.1 < b.place true lost st := by
  have hfamilies : b.ipv4Up.2.families = b.families := by
    simp only [ipv4Up, setUp4, families]
    grind
  have hrank : b.ipv4Up.2.rank true lost' b.ipv4Up.1 < b.rank true lost st := by
    simp only [ipv4Up, setUp4]
    obtain rfl | rfl := hst <;> simp only [rank, away] <;> grind
  unfold place
  omega

theorem place_ipv6Up (hst : st = .obtainingIpAddresses ∨ st = .ipv4Leased) (h6 : b.ipv6 = .up) :
    b.ipv6Up.2.place true lost' b.ipv6Up.1 < b.place true lost st := by
  have hfamilies : b.ipv6Up.2.families = b.families := by
    simp only [ipv6Up, setUp6, families]
    grind
  have hrank : b.ipv6Up.2.rank true lost' b.ipv6Up.1 < b.rank true lost st := by
    simp only [ipv6Up, setUp6]
    obtain rfl | rfl := hst <;> simp only [rank, away] <;> grind
  unfold place
  omega

theorem place_maptReplaces {changed : Bool} (hst : st = .ipv6Leased ∨ st = .dualStackActive)
    (hm : b.mapt = .up) :
    (b.maptReplaces changed).place active lost' .maptActive < b.place active lost st := by
  have hfamilies : (b.maptReplaces changed).families ≤ b.families ∧
      (b.maptReplaces changed).mapt = .up := by
    simp only [maptReplaces, setUpM, ipv4Up, setUp4, ipv4Down, ifUp, tearDown4, families]
    grind
  have hrank : 2 + away active ≤ b.rank active lost st := by
    obtain rfl | rfl := hst <;> simp only [rank] <;> split_ifs <;> omega
  have hnext : (b.maptReplaces changed).rank active lost' .maptActive = away active + 1 := by
    simp [rank, hfamilies.2]
  unfold place
  omega

theorem place_standbyUp {ready : Bool} (hst : leased (b.standbyUp ready).1 = true) :
    (b.standbyUp ready).2.place true lost' (b.standbyUp ready).1 < b.place true lost .standby := by
  have hfamilies : (b.standbyUp ready).2.families = b.families := by
    simp only [standbyUp, ipv4Up, setUp4, ipv6Up, setUp6, families]
    grind
  have hrank : (b.standbyUp ready).2.rank true lost' (b.standbyUp ready).1 ≤ away true + 8 :=
    rank_leased_le hst
  have haway : away true = 0 := rfl
  have hstandby : b.rank true lost .standby = 9 := rfl
  unfold place
  omega

/-! ### Standby -/

/-- An interface that is not the active one and has what it needs stands by. -/
theorem place_standby (status : IfaceStatus) :
    { b with status }.place false false .standby < b.place false lost .obtainingIpAddresses := by
  have hfamilies : { b with status }.families = b.families := rfl
  have hrank : { b with status }.rank false false .standby = 0 := rfl
  have hobtaining : b.rank false lost .obtainingIpAddresses = 5 := rfl
  unfold place
  omega

/-- One that lost it obtains it again. -/
theorem place_lost : b.place active lost' .obtainingIpAddresses < b.place active true .standby := by
  have hstandby : b.rank active true .standby = 9 := by simp [rank]
  have hobtaining : b.rank active lost' .obtainingIpAddresses = 5 := rfl
  unfold place
  omega

theorem place_standbyDeconfig (hst : leased st = true) :
    b.standbyDeconfig.place false lost' .standby < b.place false lost st := by
  have hfamilies : b.standbyDeconfig.families = b.families := by
    simp only [standbyDeconfig, tearDownM, tearDown4, tearDown6, families]
    grind
  have hrank : b.standbyDeconfig.rank false lost' .standby ≤ 9 := by
    simp only [rank]
    split <;> omega
  have haway : away false = 20 := rfl
  have hleased : 20 ≤ b.rank false lost st := by
    cases st with
    | ipv4Leased | ipv6Leased | dualStackActive | maptActive =>
      simp only [rank]
      omega
    | _ => cases hst
  unfold place
  omega

end Place

end Ledger

/-- What the state and the signals of a machine weigh. A switch of the MAP-T feature outweighs the
rest. -/
def load (st : WanState) (s : Vism) : Nat :=
  signals s + 10 * (ledger s).place (s.selection.status == .active) (standbyLost s) st +
    2000 * s.maptFeatureEnableChanged.toNat

/-- What a transition takes from others and does not change. -/
def told (s : Vism) : IfaceSelection × Bool := (s.selection, s.maptFeatureEnableChanged)

theorem told_fixedAll : FixedAll told where
  virtIf _ _ := rfl
  accounts _ _ _ _ _ _ := rfl
  rescan _ := rfl

section Load

variable {st st' : WanState} {s u : Vism}

theorem load_lt_of_place (htold : told u = told s)
    (h : (ledger u).place (s.selection.status == .active) (standbyLost u) st' <
      (ledger s).place (s.selection.status == .active) (standbyLost s) st) : load st' u < load st s := by
  have hsignals := signals_le u
  have hselection : u.selection = s.selection := congrArg Prod.fst htold
  have hswitched : u.maptFeatureEnableChanged = s.maptFeatureEnableChanged := congrArg Prod.snd htold
  unfold load
  rw [hselection, hswitched]
  omega

theorem load_lt_of_switched (hs : s.maptFeatureEnableChanged = true)
    (hu : u.maptFeatureEnableChanged = false) : load st' u < load st s := by
  have hsignals := signals_le u
  have hplace := (ledger u).place_le (u.selection.status == .active) (standbyLost u) st'
  unfold load
  rw [hs, hu, Bool.toNat_true, Bool.toNat_false]
  omega

theorem Ledger.place_mono {active : Bool} {b : Ledger} {lost lost' : Bool} (h : lost = true → lost' = true)
    (st : WanState) : b.place active lost st ≤ b.place active lost' st := by
  have hrank : b.rank active lost st ≤ b.rank active lost' st := by
    cases st with
    | standby =>
      simp only [rank]
      grind
    | _ => exact Nat.le_refl _
  unfold place
  omega

/-- In `st`, `u` is nowhere farther off than `s`. -/
structure Eases (st : WanState) (s u : Vism) : Prop where
  place : ∀ active lost, (ledger u).place active lost st ≤ (ledger s).place active lost st
  told : told u = told s
  lost : standbyLost u = true → standbyLost s = true

theorem Eases.load_add (h : Eases st s u) : load st u + signals s ≤ load st s + signals u := by
  have hselection : u.selection = s.selection := congrArg Prod.fst h.told
  have hswitched : u.maptFeatureEnableChanged = s.maptFeatureEnableChanged := congrArg Prod.snd h.told
  have hplace := (h.place (s.selection.status == .active) (standbyLost u)).trans
    (Ledger.place_mono h.lost st)
  unfold load
  rw [hselection, hswitched]
  omega

theorem Eases.of_ledger (hledger : ledger u = ledger s) (htold : InterfaceSm.told u = InterfaceSm.told s)
    (hlost : standbyLost u = true → standbyLost s = true) : Eases st s u :=
  ⟨fun _ _ => hledger ▸ Nat.le_refl _, htold, hlost⟩

end Load

/-! ## What stays to be done on a tick -/

section Tick

variable {st : WanState} {s : Vism}

theorem signals_startConnectivityCheck (s : Vism) : signals (startConnectivityCheck s) = signals s := by
  unfold startConnectivityCheck
  split
  · rfl
  · split <;> rfl

theorem signals_sendMsgToConnectivityCheck (s : Vism) :
    signals (sendMsgToConnectivityCheck s) = signals s := by
  unfold sendMsgToConnectivityCheck
  split
  · rfl
  · exact signals_startConnectivityCheck s

theorem standbyLost_comeUp (h : standbyLost (comeUp s) = true) : standbyLost s = true := by
  have hvlan : vlanDown (comeUp s) = true → vlanDown s = true := by
    simp only [vlanDown, comeUp, cameUp, Vism.mapPpp, Vism.mapVlan, Vism.mapVirtIf]
    grind
  have hppp : pppNotUp (comeUp s) = true → pppNotUp s = true := by
    simp only [pppNotUp, comeUp, cameUp, Vism.mapPpp, Vism.mapVlan, Vism.mapVirtIf]
    grind
  simp only [standbyLost, Bool.or_eq_true] at h ⊢
  obtain ((h | h) | h) | h := h
  · exact .inl (.inl (.inl (hvlan h)))
  · exact .inl (.inl (.inr (hppp h)))
  · exact .inl (.inr h)
  · exact .inr h

theorem load_comeUp_le (st : WanState) (s : Vism) : load st (comeUp s) ≤ load st s := by
  have h : Eases st s (comeUp s) := .of_ledger rfl rfl standbyLost_comeUp
  have hload := h.load_add
  have hsignals : signals (comeUp s) = signals s := rfl
  omega

theorem load_ite_le {c : Prop} [Decidable c] {u v : Vism} {n : Nat} (hu : load st u ≤ n)
    (hv : load st v ≤ n) : load st (if c then u else v) ≤ n := by
  split
  · exact hu
  · exact hv

theorem eases_mapIp {g : IfaceIp → IfaceIp} (h4 : (g s.virtIf.ip).ipv4Status = s.virtIf.ip.ipv4Status)
    (h6 : (g s.virtIf.ip).ipv6Status = s.virtIf.ip.ipv6Status)
    (hr : (g s.virtIf.ip).refreshDhcp = true → s.virtIf.ip.refreshDhcp = true) :
    Eases st s (s.mapIp g) := by
  refine .of_ledger (ledger_mapIp h4 h6) rfl ?_
  simp only [standbyLost, vlanDown, pppNotUp, Vism.mapIp, Vism.mapVirtIf, h4, h6]
  grind

theorem load_mapIp_le {g : IfaceIp → IfaceIp} (h : Eases st s (s.mapIp g))
    (hsignals : signals (s.mapIp g) ≤ signals s) : load st (s.mapIp g) ≤ load st s := by
  have hload := h.load_add
  omega

theorem load_startConnectivityCheck_le (st : WanState) (s : Vism) :
    load st (startConnectivityCheck s) ≤ load st s :=
  load_ite_le (Nat.le_refl _) (load_ite_le (load_mapIp_le (eases_mapIp rfl rfl id) (Nat.le_refl _))
    (Nat.le_refl _))

theorem load_order_le (st : WanState) (s : Vism) : load st (order st s) ≤ load st s := by
  have hclient : ∀ g : IfaceIp → IfaceIp, Eases st s (s.mapIp g) → signals (s.mapIp g) = signals s →
      load st (s.mapIp g) ≤ load st s := fun g h hsignals => load_mapIp_le h (Nat.le_of_eq hsignals)
  cases st with
  | ipv4Leased | ipv6Leased =>
    exact load_ite_le (hclient _ (eases_mapIp rfl rfl id) rfl) (Nat.le_refl _)
  | standby => exact load_ite_le (load_startConnectivityCheck_le _ s) (Nat.le_refl _)
  | obtainingIpAddresses =>
    refine load_ite_le (load_mapIp_le (eases_mapIp rfl rfl id) ?_) (Nat.le_refl _)
    simp [signals, Vism.mapIp, Vism.mapVirtIf]
    exact Nat.zero_le _
  | _ => exact Nat.le_refl _

/-- A signal that was dealt with. -/
theorem load_signal_lt {g : IfaceIp → IfaceIp} (h : Eases st s (s.mapIp g))
    (hsignals : signals (s.mapIp g) < signals s) : load st (s.mapIp g) < load st s := by
  have hload := h.load_add
  omega

theorem load_restartConnectivityCheck_lt (hwcc : s.virtIf.ip.wccTypeChanged = true) :
    load st (restartConnectivityCheck s) < load st s := by
  have hstop : ∀ u, u = (if s.virtIf.ip.connectivityCheckRunning then
        s.mapIp fun ip => { ip with
          connectivityCheckRunning := false
          ipv4ConnectivityStatus := .up
          ipv6ConnectivityStatus := .up }
      else s) → load st u ≤ load st s ∧ u.virtIf.ip.wccTypeChanged = true := by
    intro u hu
    split at hu <;> subst hu
    · exact ⟨load_mapIp_le (eases_mapIp rfl rfl id) (Nat.le_refl _), hwcc⟩
    · exact ⟨Nat.le_refl _, hwcc⟩
  have hstart : ∀ u, u.virtIf.ip.wccTypeChanged = true →
      (startConnectivityCheck u).virtIf.ip.wccTypeChanged = true := by
    intro u hu
    unfold startConnectivityCheck
    split
    · exact hu
    · split <;> exact hu
  have hdone : ∀ u : Vism, u.virtIf.ip.wccTypeChanged = true →
      load st (u.mapIp fun ip => { ip with wccTypeChanged := false }) < load st u := by
    intro u hu
    refine load_signal_lt (eases_mapIp rfl rfl id) ?_
    simp [signals, Vism.mapIp, Vism.mapVirtIf, hu]
  obtain ⟨hle, hwcc'⟩ := hstop _ rfl
  exact Nat.lt_of_lt_of_le (hdone _ (hstart _ hwcc'))
    ((load_startConnectivityCheck_le st _).trans hle)

/-- Checking on the DHCP clients and the connectivity check changes nothing or deals with a
signal. -/
theorem monitorDhcpApps_eases (st : WanState) (s : Vism) :
    monitorDhcpApps s = s ∨ load st (monitorDhcpApps s) < load st s := by
  unfold monitorDhcpApps
  split
  · exact .inl rfl
  split
  · next hrefresh =>
    split
    · refine .inr (load_signal_lt (eases_mapIp rfl rfl fun h => Bool.noConfusion h) ?_)
      simp [signals, Vism.mapIp, Vism.mapVirtIf, hrefresh]
    · exact .inl rfl
  split
  · next hwcc => exact .inr (load_restartConnectivityCheck_lt hwcc)
  · exact .inl rfl

end Tick

end InterfaceSm
end WanManager
