import WanManager.MachineTicks
import WanManager.InterfaceSmTeardown

/-! # A requested refresh of the WAN

`Reset` asks a machine to take its interface down and to bring it up anew. The states that hold a
lease and the one that obtains it look at the request; `WAN_STATE_STANDBY` does not, so a request
made there is put off until the interface becomes active, and the families are set up first. -/

namespace WanManager
open Concurrency

namespace InterfaceSm

/-- The machine is in a state between `WAN_STATE_VLAN_CONFIGURING` and `WAN_STATE_MAPT_ACTIVE`. -/
def atWork (s : Vism) : Bool :=
  match s.phase with
  | .running st => !givenUp st
  | _ => false

theorem atWork_iff {s : Vism} : atWork s = true ↔ ∃ st, s.phase = .running st ∧ givenUp st = false := by
  unfold atWork
  split <;> simp_all

/-- An activation would set up IPv6. -/
def setsUpIpv6 (s : Vism) : Bool := s.virtIf.ip.ipv6Status == .up && s.outside.lanAddressReady

/-- What an activation would set up: a family whose lease is up, and that is ready. -/
def setsUp (s : Vism) : Bool := s.virtIf.ip.ipv4Status == .up || setsUpIpv6 s

/-- The run goes on until `wan_transition_wan_refreshed`. -/
def untilRefreshed (l : Site) (_ : Vism) : Prop := l ≠ .wanTransition .wanRefreshed

instance (l : Site) (s : Vism) : Decidable (untilRefreshed l s) := inferInstanceAs (Decidable (_ ≠ _))

/-- Meanwhile it activates no standby interface that it sets up. -/
def heldBack (l : Site) (s : Vism) : Prop :=
  untilRefreshed l s ∧ (l = .wanTransition .standbyUp → setsUp s = false)

instance (l : Site) (s : Vism) : Decidable (heldBack l s) := inferInstanceAs (Decidable (_ ∧ _))

/-- Between two ticks anything may happen but that the request is withdrawn. -/
def vismRefreshing : Reactive Site Vism where
  tick := vismTick
  env s u := u.phase = s.phase ∧ u.setUps = s.setUps ∧ (s.virtIf.reset = true → u.virtIf.reset = true)

/-- A refresh is requested of a machine at work. -/
def Requested (s : Vism) : Prop := atWork s = true ∧ s.virtIf.reset = true

instance (s : Vism) : Decidable (Requested s) := inferInstanceAs (Decidable (_ ∧ _))

/-! ## Families that are set up -/

theorem setUps_fixedDown : FixedDown (·.setUps) where
  vlan _ _ := rfl
  ppp _ _ := rfl
  ip _ _ := rfl
  map _ _ := rfl
  status _ _ := rfl
  accounts _ _ _ _ _ := rfl

theorem reset_fixed : Fixed fun s => s.virtIf.reset where
  vlan _ _ := rfl
  ppp _ _ := rfl
  ip _ _ := rfl
  map _ _ := rfl
  status _ _ := rfl
  accounts _ _ _ _ _ := rfl
  setUps _ _ _ _ _ _ := rfl

theorem ipv4Status_linkBlind : LinkBlind fun s => s.virtIf.ip.ipv4Status where
  vlan _ _ := rfl
  ppp _ _ := rfl
  ip _ _ h := congrArg (·.ipv4Status) h

section SetUps

variable (s : Vism)

theorem setUps_setUpIpv4 : (setUpIpv4 s).setUps = s.setUps + 1 :=
  setUps_fixedDown.linkBlind.startConnectivityCheck _

theorem setUps_setUpIpv6 : (setUpIpv6 s).setUps = s.setUps + 1 :=
  setUps_fixedDown.linkBlind.startConnectivityCheck _

theorem setUps_wanTransitionIpv4Up : (wanTransitionIpv4Up s).2.setUps = s.setUps + 1 := by
  have hset : ∀ u, (sendMsgToConnectivityCheck (setUpIpv4 u)).setUps = u.setUps + 1 := fun u =>
    (setUps_fixedDown.linkBlind.sendMsgToConnectivityCheck _).trans (setUps_setUpIpv4 u)
  simp only [wanTransitionIpv4Up]
  split <;> exact hset _

theorem setUps_wanTransitionIpv6Up : (wanTransitionIpv6Up s).2.setUps = s.setUps + 1 := by
  have hset : ∀ u, (sendMsgToConnectivityCheck (setUpIpv6 u)).setUps = u.setUps + 1 := fun u =>
    (setUps_fixedDown.linkBlind.sendMsgToConnectivityCheck _).trans (setUps_setUpIpv6 u)
  simp only [wanTransitionIpv6Up]
  split <;> exact hset _

theorem ipv4Status_wanTransitionIpv6Up :
    (wanTransitionIpv6Up s).2.virtIf.ip.ipv4Status = s.virtIf.ip.ipv4Status := by
  have hset := (ipv4Status_linkBlind.sendMsgToConnectivityCheck
    (setUpIpv6 (s.setStatus .up))).trans (ipv4Status_linkBlind.startConnectivityCheck _)
  simp only [wanTransitionIpv6Up]
  split <;> exact hset

/-- An activation sets up the families that `setsUp` looks at. -/
theorem setUps_activateStandby : (activateStandby s).2.setUps =
    s.setUps + (if setsUpIpv6 s then 1 else 0) + if s.virtIf.ip.ipv4Status = .up then 1 else 0 := by
  have hprefix : ∀ u, u = (if s.virtIf.ip.ipv6Changed then clearIpv6Changed s else s) →
      u.setUps = s.setUps ∧ u.virtIf.ip.ipv4Status = s.virtIf.ip.ipv4Status ∧ u.outside = s.outside := by
    intro u hu
    split at hu <;> subst hu <;> exact ⟨rfl, rfl, rfl⟩
  have h4 : ∀ r : WanState × Vism, r.2.setUps = s.setUps + (if setsUpIpv6 s then 1 else 0) →
      r.2.virtIf.ip.ipv4Status = s.virtIf.ip.ipv4Status →
      (if r.2.virtIf.ip.ipv4Status = .up then wanTransitionIpv4Up r.2 else r).2.setUps =
        s.setUps + (if setsUpIpv6 s then 1 else 0) + if s.virtIf.ip.ipv4Status = .up then 1 else 0 := by
    intro r hsetUps hstatus
    rw [hstatus, ← hsetUps]
    split
    · exact setUps_wanTransitionIpv4Up _
    · rfl
  obtain ⟨hsetUps, hstatus, hout⟩ := hprefix _ rfl
  apply h4
  · split
    · next hup =>
      simp only [hout]
      split
      · next hready =>
        rw [setUps_wanTransitionIpv6Up, hsetUps, if_pos (by simp [setsUpIpv6, hup, hready])]
      · next hready =>
        rw [hsetUps, if_neg (by simp [setsUpIpv6, hready]), Nat.add_zero]
    · next hdown =>
      rw [if_neg (by simp [setsUpIpv6, hdown]), Nat.add_zero]
  · split
    · simp only [hout]
      split
      · rw [ipv4Status_wanTransitionIpv6Up, hstatus]
      · exact hstatus
    · rfl

end SetUps

/-! ## A tick with a request -/

section Tick

variable {s : Vism}

theorem givenUp_giveUp : givenUp (giveUp.run s).1 = true := by
  rw [giveUp, run_go]
  exact givenUp_physicalInterfaceDown s

theorem spares_giveUp : Spares (·.setUps) giveUp s := setUps_fixedDown.fixedLinks.giveUp s

/-- A standby machine with a request sets nothing up that the guard does not admit. -/
theorem setUps_wanStateStandby (hadm : wanStateStandby.Admits heldBack s) :
    Spares (·.setUps) wanStateStandby s := by
  rw [wanStateStandby, admits_self] at hadm
  apply spares_self
  by_cases hdown : interfaceDown s = true
  · rw [if_pos hdown]
    exact spares_giveUp
  rw [if_neg hdown, admits_act, admits_self] at hadm
  rw [if_neg hdown]
  obtain ⟨-, -, -, hadm⟩ := hadm
  refine spares_act (setUps_fixedDown.linkBlind.monitorDhcpApps s) (spares_self ?_)
  by_cases hlost : standbyLost (monitorDhcpApps s) = true
  · rw [if_pos hlost]
    exact spares_keep
  rw [if_neg hlost] at hadm ⊢
  by_cases hactive : (monitorDhcpApps s).selection.status = .active
  · rw [if_pos hactive, admits_go] at hadm
    rw [if_pos hactive]
    have hnone := hadm.2 rfl
    simp only [setsUp, Bool.or_eq_false_iff, beq_eq_false_iff_ne] at hnone
    apply spares_go
    rw [setUps_activateStandby, if_neg hnone.1, if_neg (by simp [hnone.2])]
    rw [Nat.add_zero]
  · rw [if_neg hactive]
    refine spares_act (Blind.ite ?_ rfl) spares_keep
    exact setUps_fixedDown.linkBlind.startConnectivityCheck _

/-- Before the refresh a machine with a request gives its interface up, goes on without a set-up,
or stands by. -/
theorem setUps_wanState {st : WanState} (hreset : givenUp st = false → s.virtIf.reset = true)
    (hadm : (wanState st).Admits heldBack s) : Spares (·.setUps) (wanState st) s := by
  have hjoin : ∀ f : Vism → Vism, (f s).virtIf.reset = s.virtIf.reset → s.virtIf.reset = true →
      leasedInterfaceDown (monitorDhcpApps (f s)) = true := by
    intro f hf h
    have hmonitor := (reset_fixed.linkBlind.monitorDhcpApps (f s)).trans (hf.trans h)
    simp [leasedInterfaceDown, hmonitor]
  cases st with
  | vlanConfiguring => exact setUps_fixedDown.fixedLinks.wanStateVlanConfiguring setUps_fixedDown.expired s
  | pppConfiguring => exact setUps_fixedDown.fixedLinks.wanStatePppConfiguring setUps_fixedDown.expired s
  | validatingWan => exact setUps_fixedDown.fixedLinks.wanStateValidatingWan setUps_fixedDown.expired s
  | obtainingIpAddresses =>
    apply spares_self
    rw [if_pos (by simp [linksRestart, hreset rfl])]
    exact spares_giveUp
  | ipv4Leased =>
    refine spares_act (setUps_fixedDown.linkBlind.joinDhcpv6 s)
      (spares_act (setUps_fixedDown.linkBlind.monitorDhcpApps _) (spares_self ?_))
    rw [if_pos (hjoin joinDhcpv6 (reset_fixed.linkBlind.joinDhcpv6 s) (hreset rfl))]
    exact spares_giveUp
  | ipv6Leased =>
    refine spares_act (setUps_fixedDown.linkBlind.joinDhcpv4 s)
      (spares_act (setUps_fixedDown.linkBlind.monitorDhcpApps _) (spares_self ?_))
    rw [if_pos (hjoin joinDhcpv4 (reset_fixed.linkBlind.joinDhcpv4 s) (hreset rfl))]
    exact spares_giveUp
  | dualStackActive | maptActive =>
    apply spares_self
    rw [if_pos (by simp [leasedInterfaceDown, hreset rfl])]
    exact spares_giveUp
  | standby => exact setUps_wanStateStandby hadm
  | refreshingWan =>
    rw [wanState, wanStateRefreshingWan, admits_self] at hadm
    apply spares_self
    by_cases hdown : interfaceDown s = true
    · rw [if_pos hdown]
      exact spares_act rfl spares_giveUp
    obtain ⟨-, hadm⟩ := hadm
    rw [if_neg hdown] at hadm ⊢
    by_cases hup : linksStillUp s = true
    · rw [if_pos hup]
      exact spares_keep
    · rw [if_neg hup, admits_go] at hadm
      exact absurd rfl hadm.1
  | deconfiguringWan => exact spares_self (spares_ite spares_keep (spares_go rfl))
  | exit => exact spares_act rfl spares_keep

/-- A machine that was given up does not go back to work before the refresh. -/
theorem givenUp_wanState {st : WanState} (hst : givenUp st = true)
    (hadm : (wanState st).Admits heldBack s) : givenUp ((wanState st).run s).1 = true := by
  cases st with
  | refreshingWan =>
    rw [wanState, wanStateRefreshingWan, admits_self] at hadm
    simp only [wanState, wanStateRefreshingWan, run_self]
    by_cases hdown : interfaceDown s = true
    · rw [if_pos hdown, run_act]
      exact givenUp_giveUp
    obtain ⟨-, hadm⟩ := hadm
    rw [if_neg hdown] at hadm ⊢
    by_cases hup : linksStillUp s = true
    · rw [if_pos hup]
      rfl
    · rw [if_neg hup, admits_go] at hadm
      exact absurd rfl hadm.1
  | deconfiguringWan =>
    simp only [wanState, wanStateDeconfiguringWan, run_self]
    split <;> rfl
  | exit => rfl
  | _ => cases hst

end Tick

/-! ## A run with a request -/

/-- No family was set up since `n`, and the request is pending while the machine is at work. -/
structure Pending (n : Nat) (s : Vism) : Prop where
  kept : s.setUps = n
  begun : s.phase ≠ .created
  pending : atWork s = true → s.virtIf.reset = true

theorem Pending.tick {n : Nat} {s : Vism} (hs : Pending n s) :
    Prog.Ensures heldBack (vismRefreshing.env s) vismTick fun _ => Pending n := by
  intro u ⟨hphase, hsetUps, hrequest⟩ hadm
  have hu : Pending n u := by
    refine ⟨hsetUps.trans hs.kept, hphase ▸ hs.begun, fun hwork => hrequest (hs.pending ?_)⟩
    rw [atWork_iff] at hwork ⊢
    rwa [← hphase]
  cases hrun : u.phase with
  | created => exact absurd hrun hu.begun
  | absent => rwa [run_vismTick_gone (.inl hrun)]
  | exited => rwa [run_vismTick_gone (.inr hrun)]
  | running st =>
    have hadm := ((admits_vismTick hrun).mp hadm).2.2.1
    have hreset : givenUp st = false → (prepared st u).virtIf.reset = true :=
      fun hst => hu.pending (atWork_iff.mpr ⟨st, hrun, hst⟩)
    rw [run_vismTick_running hrun]
    refine ⟨(setUps_wanState hreset hadm).trans hu.kept, ?_, ?_⟩
    · unfold enter
      split <;> simp
    · intro hwork
      obtain ⟨st', hphase', hst'⟩ := atWork_iff.mp hwork
      have hnext : st' = ((wanState st).run (prepared st u)).1 := by
        unfold enter at hphase'
        split at hphase' <;> simp_all
      have hst : givenUp st = false := by
        by_contra hgiven
        have hgiven := givenUp_wanState (Bool.not_eq_false _ ▸ hgiven) hadm
        rw [← hnext, hst'] at hgiven
        cases hgiven
      have hrefresh : st ≠ .refreshingWan := fun h => by simp [h, givenUp] at hst
      have hexit : st ≠ .deconfiguringWan := fun h => by simp [h, givenUp] at hst
      have hkept := reset_fixed.fixedTick.wanState reset_fixed.expired (fun _ => rfl) hrefresh hexit
      exact (hkept (prepared st u)).trans (hreset hst)

/-! ## What clears a request -/

/-- A request is cleared by the refresh, which asks for a rescan; when the interface is lost or not
used any more; or with the machine. -/
def Clears (u : Vism) : Prop :=
  u.phase = .running .refreshingWan ∧
      (interfaceDown (prepared .refreshingWan u) = true ∨
        Takes .wanRefreshed vismTick u ∧ (vismTick.run u).2.config.resetFailOverScan = true) ∨
    u.phase = .running .deconfiguringWan ∧ Takes .exit vismTick u

theorem rescan_wanTransitionWanRefreshed {s : Vism} (hs : s.virtIf.reset = true) :
    (wanTransitionWanRefreshed s).2.config.resetFailOverScan = true := by
  have hreset : (if needsVlan s then configureVlan true
      ((s.mapVlan fun v => if v.expired || v.reset then nextVlan v else v).mapVlan
        fun v => { v with status := .configuring }) else s).virtIf.reset = true := by
    split
    · exact (reset_fixed.linkBlind.configureVlan _ _).trans hs
    · exact hs
  simp only [wanTransitionWanRefreshed]
  rw [if_pos hreset]
  rfl

theorem clears_of_cleared {u : Vism} (hu : u.virtIf.reset = true)
    (hcleared : (vismTick.run u).2.virtIf.reset = false) : Clears u := by
  have hkept : ∀ s : Vism, s.virtIf.reset = u.virtIf.reset → s.virtIf.reset ≠ false := fun s hs => by
    simp [hs, hu]
  cases hrun : u.phase with
  | created =>
    rw [run_vismTick_created hrun] at hcleared
    exact absurd hcleared (hkept _ (reset_fixed.wanTransitionStart (fun _ => rfl) u))
  | absent => exact absurd hcleared (by rw [run_vismTick_gone (.inl hrun)]; exact hkept u rfl)
  | exited => exact absurd hcleared (by rw [run_vismTick_gone (.inr hrun)]; exact hkept u rfl)
  | running st =>
    rw [run_vismTick_running hrun] at hcleared
    by_cases hrefresh : st = .refreshingWan
    · subst hrefresh
      refine .inl ⟨hrun, ?_⟩
      by_cases hdown : interfaceDown (prepared .refreshingWan u) = true
      · exact .inl hdown
      refine .inr ?_
      rw [takes_vismTick hrun, run_vismTick_running hrun]
      simp only [wanState, wanStateRefreshingWan, run_self, takes_self, if_neg hdown] at hcleared ⊢
      by_cases hup : linksStillUp (prepared .refreshingWan u) = true
      · rw [if_pos hup] at hcleared
        exact absurd hcleared (hkept _ rfl)
      · rw [if_neg hup]
        exact ⟨takes_go.mpr rfl, rescan_wanTransitionWanRefreshed hu⟩
    by_cases hexit : st = .deconfiguringWan
    · subst hexit
      refine .inr ⟨hrun, ?_⟩
      rw [takes_vismTick hrun]
      simp only [wanState, wanStateDeconfiguringWan, run_self, takes_self] at hcleared ⊢
      by_cases hup : linksStillUp (prepared .deconfiguringWan u) = true
      · rw [if_pos hup] at hcleared
        exact absurd hcleared (hkept _ rfl)
      · rw [if_neg hup]
        exact takes_go.mpr rfl
    · have hsame := reset_fixed.fixedTick.wanState reset_fixed.expired (fun _ => rfl) hrefresh hexit
      exact absurd hcleared (hkept _ (hsame _))

/-- Until the refresh a requested machine sets no family up and keeps the request, in the runs that
activate no standby interface with a family to set up; and only `Clears` clears a request. -/
theorem refreshed_before_setUp {s₀ s : Vism} (h₀ : Requested s₀)
    (hr : vismRefreshing.Reach heldBack (· = s₀) s) :
    (s.setUps = s₀.setUps ∧ (atWork s = true → s.virtIf.reset = true)) ∧
      ∀ u, u.virtIf.reset = true → (vismTick.run u).2.virtIf.reset = false → Clears u := by
  have hpending : Pending s₀.setUps s := by
    refine hr.invariant ?_ fun u hu => hu.tick
    rintro _ rfl
    obtain ⟨hwork, hreset⟩ := h₀
    obtain ⟨st, hst, -⟩ := atWork_iff.mp hwork
    exact ⟨rfl, by simp [hst], fun _ => hreset⟩
  exact ⟨⟨hpending.kept, hpending.pending⟩, fun _ => clears_of_cleared⟩

namespace Example

/-- A selected interface that is not the active one. -/
def notActive : Vism := { selection := { status := .selected } }

def quiet : vismRefreshing.Change := ⟨id, fun _ => ⟨rfl, rfl, id⟩⟩

def ipv4Arrives : vismRefreshing.Change where
  edit s := s.mapIp fun ip => { ip with ipv4Status := .up }
  allowed _ := ⟨rfl, rfl, id⟩

def requestRefresh : vismRefreshing.Change where
  edit s := s.mapVirtIf fun v => { v with reset := true }
  allowed _ := ⟨rfl, rfl, fun _ => rfl⟩

def becomesActive : vismRefreshing.Change where
  edit s := { s with selection.status := .active }
  allowed _ := ⟨rfl, rfl, id⟩

/-- The interface stands by with an IPv4 lease, and its refresh is requested. -/
def standsBy : Vism :=
  vismRefreshing.play [quiet, quiet, quiet, quiet, ipv4Arrives, requestRefresh] notActive

end Example

open Example in
theorem refreshed_before_setUp_standby :
    (vismRefreshing.play [quiet, quiet] standsBy).setUps = standsBy.setUps := by
  have hrequested : Requested standsBy := by decide +kernel
  obtain ⟨⟨hsetUps, -⟩, -⟩ := refreshed_before_setUp hrequested
    (.play (m := [quiet, quiet]) (.start rfl) (by decide +kernel))
  exact hsetUps

open Example in
/-- The standby interface becomes the active one, and is set up before it is refreshed. -/
theorem standby_set_up_first :
    ¬ ∀ s₀ s, vismRefreshing.Reach (fun _ _ => True) (·.phase = .created) s₀ → Requested s₀ →
      vismRefreshing.Reach untilRefreshed (· = s₀) s →
      (s.setUps = s₀.setUps ∧ (atWork s = true → s.virtIf.reset = true)) ∧
        ∀ u, u.virtIf.reset = true → (vismTick.run u).2.virtIf.reset = false → Clears u := by
  intro h
  obtain ⟨⟨hsetUps, -⟩, -⟩ := h standsBy (vismRefreshing.play [becomesActive] standsBy)
    (.play (.start (s := notActive) rfl) (Reactive.plays_true _ _)) (by decide +kernel)
    (.play (m := [becomesActive]) (.start rfl) (by decide +kernel))
  have hset : (vismRefreshing.play [becomesActive] standsBy).setUps ≠ standsBy.setUps := by
    decide +kernel
  exact hset hsetUps

end InterfaceSm
end WanManager
