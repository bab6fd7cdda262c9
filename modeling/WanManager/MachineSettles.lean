import WanManager.MachineRefresh

/-! # When a machine settles

A machine that is left alone settles, unless it is refreshed with a discovery timer that has run out
and is not started anew: the refresh starts the timer only with a VLAN, and
`WAN_STATE_VLAN_CONFIGURING` looks at it whether there is a VLAN or not. -/

namespace WanManager
open Concurrency

namespace InterfaceSm

section Settles

variable {st st' : WanState} {s : Vism}

/-! ## Machines that settle -/

/-- Where a machine is after a refresh. -/
def AfterRefresh (s : Vism) : Prop :=
  ∃ st, s.phase = .running st ∧ Refreshed st s ∧ Steady s ∧ Succeeds s.outside

theorem givenUp_of_withoutLease (h : withoutLease st = true) : givenUp st = false := by
  cases st <;> first | rfl | cases h

theorem AfterRefresh.alone (h : AfterRefresh s) : AfterRefresh (alone s) ∧
    (loadOf (InterfaceSm.alone s) < loadOf s ∨
      InterfaceSm.alone s = idle s ∧ loadOf (InterfaceSm.alone s) ≤ loadOf s) := by
  obtain ⟨st, hs, hrefreshed, hsteady, ho⟩ := h
  have hst := givenUp_of_withoutLease hrefreshed.withoutLease
  have hexit : st ≠ .exit := by
    rintro rfl
    cases hst
  obtain ⟨st', u, halone, hu⟩ := alone_of_closes hs (refreshed_wanState (hrefreshed.prepared hsteady))
  have hphase : (InterfaceSm.alone s).phase = .running st' := by
    rw [halone]
    exact if_neg hexit
  have hnext : Refreshed st' (InterfaceSm.alone s) := by
    rw [halone]
    exact hu.act rfl rfl rfl hu.families
  have hout : Succeeds (InterfaceSm.alone s).outside := outside_alone hs ▸ ho
  obtain ⟨st'', hphase', hgave⟩ := alone_atWork hs hst hsteady ho
  obtain rfl : st' = st'' := by simpa [hphase] using hphase'
  refine ⟨⟨st', hphase, hnext, steady_alone hs hsteady.taken, hout⟩, ?_⟩
  obtain ⟨hgave, -⟩ | ⟨-, hless⟩ := hgave
  · rw [givenUp_of_withoutLease hnext.withoutLease] at hgave
    cases hgave
  · exact hless

theorem settles_afterRefresh (h : AfterRefresh s) : Settles alone s := by
  have hidle : ∀ u, AfterRefresh u → idle (idle u) = idle u := by
    rintro u ⟨st, hu, hrefreshed, hsteady, -⟩
    refine idle_idle hu hsteady ?_
    rintro rfl
    exact absurd hrefreshed.withoutLease (by simp [withoutLease])
  exact settles_of_load hidle (fun u hu => .inr hu.alone) h

theorem settles_refreshingWan (hs : s.phase = .running .refreshingWan) (hsteady : Steady s)
    (hrefreshed : ∀ u, u = comeUp (wanTransitionWanRefreshed (prepared .refreshingWan s)).2 →
      interfaceDown (prepared .refreshingWan s) = false →
        linksStillUp (prepared .refreshingWan s) = false →
          alone s = enter .refreshingWan .vlanConfiguring u → Settles alone (alone s)) :
    Settles alone s := by
  have hkeep : ∀ u : Vism, u.phase = .running .refreshingWan →
      interfaceDown (prepared .refreshingWan u) = false → linksStillUp u = true → alone u = idle u := by
    intro u hu husable hup
    obtain ⟨st', v, halone, ⟨hdown, -⟩ | ⟨-, ⟨-, rfl, rfl⟩ | ⟨hdown, -⟩⟩⟩ :=
      alone_of_closes hu (closes_refreshingWan _)
    · rw [husable] at hdown
      cases hdown
    · rw [halone, idle, hu]
      rfl
    · rw [linksStillUp_prepared, hup] at hdown
      cases hdown
  have hnext := steady_alone hs hsteady.taken
  obtain ⟨st', u, halone, ⟨-, rfl⟩ | ⟨husable, ⟨hup, rfl, rfl⟩ | ⟨hdown, rfl, rfl⟩⟩⟩ :=
    alone_of_closes hs (closes_refreshingWan _)
  · apply Settles.of_apply
    refine settles_deconfiguringWan ?_ hnext
    rw [halone]
    rfl
  · have hphase : (alone s).phase = .running .refreshingWan := by
      rw [halone]
      rfl
    have hidle := hkeep s hs husable (linksStillUp_prepared _ s ▸ hup)
    have hup' : linksStillUp (alone s) = true := by
      rw [halone]
      exact (linksStillUp_comeUp _).trans hup
    have husable' : interfaceDown (prepared .refreshingWan (alone s)) = false := by
      rw [prepared, updateWanConfig_self hnext, halone]
      exact husable
    exact settles_of_idle hs hsteady (by simp) hidle (hidle ▸ hkeep _ hphase husable' hup')
  · exact (hrefreshed _ rfl husable hdown halone).of_apply

theorem settles_givenUp (hs : s.phase = .running st) (hst : givenUp st = true) (hsteady : Steady s)
    (ho : Succeeds s.outside) (hfamilies : (ledger s).families = 0) (htimer : Rediscovers s) :
    Settles alone s := by
  cases st with
  | refreshingWan =>
    refine settles_refreshingWan hs hsteady fun u hu husable hdown halone => ?_
    have hrefreshed := refreshed_wanRefreshed husable hfamilies (htimer hs husable hdown)
    rw [← hu] at hrefreshed
    apply settles_afterRefresh
    refine ⟨.vlanConfiguring, ?_, ?_, steady_alone hs hsteady.taken, outside_alone hs ▸ ho⟩
    · rw [halone]
      rfl
    · rw [halone]
      exact hrefreshed.act rfl rfl rfl hrefreshed.families
  | deconfiguringWan => exact settles_deconfiguringWan hs hsteady
  | exit => exact settles_exit hs
  | _ => cases hst

/-- A machine between `WAN_STATE_VLAN_CONFIGURING` and `WAN_STATE_MAPT_ACTIVE`. -/
structure Busy (s : Vism) : Prop where
  atWork : ∃ st, s.phase = .running st ∧ givenUp st = false
  steady : Steady s
  succeeds : Succeeds s.outside
  rediscovers : Throughout alone Rediscovers s

theorem settles_busy (h : Busy s) : Settles alone s := by
  have hidle : ∀ u, Busy u → idle (idle u) = idle u := by
    intro u hu
    obtain ⟨st, hphase, hst⟩ := hu.atWork
    refine idle_idle hphase hu.steady ?_
    rintro rfl
    cases hst
  have hstep : ∀ u, Busy u → Settles alone (alone u) ∨ Busy (alone u) ∧
      (loadOf (alone u) < loadOf u ∨ alone u = idle u ∧ loadOf (alone u) ≤ loadOf u) := by
    intro u hu
    obtain ⟨st, hphase, hst⟩ := hu.atWork
    have hsteady := steady_alone hphase hu.steady.taken
    have ho : Succeeds (alone u).outside := outside_alone hphase ▸ hu.succeeds
    obtain ⟨st', hphase', ⟨hst', hfamilies⟩ | ⟨hst', hless⟩⟩ :=
      alone_atWork hphase hst hu.steady hu.succeeds
    · exact .inl (settles_givenUp hphase' hst' hsteady ho hfamilies hu.rediscovers.apply.here)
    · exact .inr ⟨⟨⟨st', hphase', hst'⟩, hsteady, ho, hu.rediscovers.apply⟩, hless⟩
  exact settles_of_load hidle hstep h

theorem settles_steady (hs : s.phase = .running st) (hsteady : Steady s) (ho : Succeeds s.outside)
    (h : Throughout alone Rediscovers s) : Settles alone s := by
  cases hst : givenUp st with
  | false => exact settles_busy ⟨⟨st, hs, hst⟩, hsteady, ho, h⟩
  | true =>
    cases st with
    | refreshingWan =>
      refine settles_refreshingWan hs hsteady fun u _ _ _ halone => ?_
      have hphase : (alone s).phase = .running .vlanConfiguring := by
        rw [halone]
        rfl
      exact settles_busy
        ⟨⟨_, hphase, rfl⟩, steady_alone hs hsteady.taken, outside_alone hs ▸ ho, h.apply⟩
    | deconfiguringWan => exact settles_deconfiguringWan hs hsteady
    | exit => exact settles_exit hs
    | _ => cases hst

/-- The first tick takes the configuration over, the second the networking mode. -/
theorem settles_running (hs : s.phase = .running st) (ho : Succeeds s.outside)
    (h : Throughout alone Rediscovers s) : Settles alone s := by
  by_cases hexit : st = .exit
  · subst hexit
    exact settles_exit hs
  have hphase := phase_alone hs hexit
  generalize (((wanState st).answered reply).run (prepared st s)).1 = st' at hphase
  apply Settles.of_apply
  by_cases hexit' : st' = .exit
  · subst hexit'
    exact settles_exit hphase
  have ho' : Succeeds (alone s).outside := outside_alone hs ▸ ho
  have ho'' : Succeeds (alone (alone s)).outside := outside_alone hphase ▸ ho'
  apply Settles.of_apply
  exact settles_steady (phase_alone hphase hexit') (steady_alone hphase (taken_alone hs)) ho''
    h.apply.apply

theorem settles_of_rediscovers (ho : Succeeds s.outside) (h : Throughout alone Rediscovers s) :
    Settles alone s := by
  cases hs : s.phase with
  | absent => exact settles_of_fixed (alone_gone (.inl hs))
  | exited => exact settles_exited hs
  | running st => exact settles_running hs ho h
  | created =>
    have hphase : (alone s).phase = .running .vlanConfiguring := by rw [alone_created hs]
    have hout : (alone s).outside = (comeUp (wanTransitionStart s).2).outside := by
      rw [alone_created hs]
    rw [outside_fixedAll.fixed.linkBlind.comeUp, outside_fixedAll.wanTransitionStart] at hout
    exact (settles_running hphase (hout ▸ ho) h.apply).of_apply

/-! ## Machines that go round -/

/-- Nothing stops the rounds between `WAN_STATE_VLAN_CONFIGURING` and `WAN_STATE_REFRESHING_WAN`. -/
structure Stuck (s : Vism) : Prop where
  taken : s.wanEnable = s.config.enable
  usable : interfaceDown s = false
  timer : timerRunOut s = true
  session : s.virtIf.ppp.enable = true → s.virtIf.ppp.linkStatus = .down
  vlan : s.virtIf.vlan.enable = true → s.ifaceType = .remote ∧ s.virtIf.vlan.status = .down

section Stuck

variable {p u : Vism}

theorem Stuck.linksDown (h : Stuck p) : linksStillUp p = false := by
  simp only [linksStillUp, Bool.or_eq_false_iff, Bool.and_eq_false_imp, bne_eq_false_iff_eq]
  exact ⟨h.session, fun henable => (h.vlan henable).2⟩

theorem Stuck.needsNoVlan (h : Stuck p) : needsVlan p = false := by
  simp only [needsVlan, vlanDown, Bool.and_eq_false_imp, Bool.and_eq_true, bne_eq_false_iff_eq]
  exact fun hlink => (h.vlan hlink.1).1

/-- A refresh that does not start the timer anew. -/
theorem stuck_of_not_rediscovers (h : ¬ Rediscovers s) :
    s.phase = .running .refreshingWan ∧ Stuck (prepared .refreshingWan s) := by
  simp only [Rediscovers, Classical.not_imp, Bool.not_eq_true] at h
  obtain ⟨hs, husable, hlinks, htimer, hneeds⟩ := h
  refine ⟨hs, rfl, husable, htimer, ?_, ?_⟩
  all_goals
    intro henable
    simp_all [linksStillUp, needsVlan, vlanDown]

/-- What a round changes neither in the interface nor in its links. -/
def standing (s : Vism) : (Bool × Bool) × Bool × Bool × Bool × Bool × IfaceType :=
  ((s.wanEnable, s.config.enable), interfaceDown s, timerRunOut s, s.virtIf.ppp.enable,
    s.virtIf.vlan.enable, s.ifaceType)

/-- The links are down where a round needs them to be. -/
theorem Stuck.of_standing (h : Stuck p) (hu : standing u = standing p)
    (hsession : u.virtIf.ppp.enable = true → u.virtIf.ppp.linkStatus = .down)
    (hvlan : u.virtIf.vlan.enable = true → u.ifaceType = .remote → u.virtIf.vlan.status = .down) :
    Stuck u := by
  simp only [standing, Prod.mk.injEq] at hu
  obtain ⟨⟨hwan, hconfig⟩, hdown, htimer, -, henable, htype⟩ := hu
  exact {
    taken := hwan.trans (h.taken.trans hconfig.symm)
    usable := hdown.trans h.usable
    timer := htimer.trans h.timer
    session := hsession
    vlan := fun hon =>
      have hremote : u.ifaceType = .remote := htype.trans (h.vlan (henable ▸ hon)).1
      ⟨hremote, hvlan hon hremote⟩ }

theorem standing_fixedLeases : FixedLeases standing where
  ip _ _ := rfl
  map _ _ := rfl
  status _ _ := rfl
  accounts _ _ _ _ _ := rfl

theorem standing_comeUp (s : Vism) : standing (comeUp s) = standing s := rfl

theorem Stuck.prepared (h : Stuck p) (st : WanState) : Stuck (prepared st p) := by
  have hsession : (InterfaceSm.prepared st p).virtIf.ppp.enable = p.virtIf.ppp.enable ∧
      (InterfaceSm.prepared st p).virtIf.ppp.linkStatus = p.virtIf.ppp.linkStatus := by
    by_cases henable : p.virtIf.ppp.enable = true <;>
      simp [InterfaceSm.prepared, ipcMsgHandle, updateWanConfig, Vism.mapPpp, Vism.mapVirtIf, henable]
  refine ⟨rfl, ?_, h.timer, ?_, h.vlan⟩
  · have husable := h.usable
    unfold interfaceDown at husable ⊢
    rw [h.taken] at husable
    exact husable
  · rw [hsession.1, hsession.2]
    exact h.session

theorem wanRefreshed_of_not_needsVlan (h : needsVlan s = false) :
    standing (wanTransitionWanRefreshed s).2 = standing s ∧
      (wanTransitionWanRefreshed s).2.virtIf.ppp = s.virtIf.ppp ∧
        (wanTransitionWanRefreshed s).2.virtIf.vlan.status = s.virtIf.vlan.status := by
  simp only [wanTransitionWanRefreshed, h, Bool.false_eq_true, if_false]
  split <;> exact ⟨rfl, rfl, rfl⟩

theorem cameUp_down {x : LinkStatus} (h : x = .down) : cameUp x = .down := by
  rw [h]
  rfl

theorem Stuck.comeUp (h : Stuck p) : Stuck (comeUp p) :=
  h.of_standing (standing_comeUp p) (fun henable => cameUp_down (h.session henable))
    fun henable _ => cameUp_down (h.vlan henable).2

theorem stuck_refreshingWan (h : Stuck p) :
    Closes (fun st' u => st' = .vlanConfiguring ∧ Stuck u) wanStateRefreshingWan p := by
  obtain ⟨hstanding, hppp, hvlan⟩ := wanRefreshed_of_not_needsVlan h.needsNoVlan
  have hnext : Stuck (wanTransitionWanRefreshed p).2 := by
    refine h.of_standing hstanding (hppp ▸ h.session) fun henable _ => hvlan.trans (h.vlan ?_).2
    exact (congrArg (fun v => v.2.2.2.2.1) hstanding).symm.trans henable
  apply closes_self
  rw [if_neg (by simp [h.usable]), if_neg (by simp [h.linksDown])]
  exact closes_go ⟨rfl, hnext.comeUp⟩

theorem standing_mapPpp {g : PppData → PppData} (hg : (g s.virtIf.ppp).enable = s.virtIf.ppp.enable) :
    standing (s.mapPpp g) = standing s := by
  simp only [standing, Vism.mapPpp, Vism.mapVirtIf, hg]
  rfl

/-- Giving the interface up takes the links down that it waits for. -/
theorem Stuck.linksGivenUp (h : Stuck p) : Stuck (InterfaceSm.linksDown p) := by
  have hsession : ∀ q : PppData, (if q.enable && q.linkStatus = .configuring then
      { q with linkStatus := .down } else q).enable = q.enable ∧ (q.linkStatus = .down →
        (if q.enable && q.linkStatus = .configuring then { q with linkStatus := .down } else q).linkStatus =
          .down) := by
    intro q
    split
    · exact ⟨rfl, fun _ => rfl⟩
    · exact ⟨rfl, id⟩
  have hdown : Stuck (p.mapPpp fun q =>
      if q.enable && q.linkStatus = .configuring then { q with linkStatus := .down } else q) := by
    refine h.of_standing (standing_mapPpp (hsession _).1) (fun henable => ?_) fun henable _ =>
      (h.vlan henable).2
    exact (hsession _).2 (h.session ((hsession _).1.symm.trans henable))
  simp only [InterfaceSm.linksDown]
  rw [if_neg fun hlocal => hlocal.2 (hdown.vlan hlocal.1).1]
  exact hdown

theorem Stuck.linked (h : Stuck p) : Stuck (linked .physicalInterfaceDown p) := by
  have hsession : (setPpp .down p).virtIf.ppp.enable = true →
      (setPpp .down p).virtIf.ppp.linkStatus = .down := fun henable => if_pos henable
  have hset : Stuck (setPpp .down p) :=
    h.of_standing (standing_mapPpp rfl) hsession fun henable _ => (h.vlan henable).2
  refine hset.of_standing rfl hset.session fun henable hremote => ?_
  have hkept : ¬ (p.virtIf.vlan.enable = true ∧ p.ifaceType ≠ .remote) := fun hlocal => hlocal.2 hremote
  exact (if_neg hkept).trans (h.vlan henable).2

theorem Stuck.of_fixedLeases (h : Stuck p)
    (hu : ∀ {β : Type} {f : Vism → β}, FixedLeases f → f u = f p) : Stuck u := by
  have hppp := hu ppp_fixedLeases
  have hvlan := hu vlan_fixedLeases
  exact h.of_standing (hu standing_fixedLeases) (hppp ▸ h.session) fun henable _ =>
    (congrArg (·.status) hvlan).trans (h.vlan (hvlan ▸ henable)).2

theorem Stuck.physicalInterfaceDown (h : Stuck p) :
    Stuck (InterfaceSm.comeUp (InterfaceSm.linked .physicalInterfaceDown
      (wanTransitionPhysicalInterfaceDown p).2)) := by
  obtain ⟨u, hdown, hu⟩ := physicalInterfaceDown_links p
  rw [hdown]
  exact (h.of_fixedLeases hu).linksGivenUp.linked.comeUp

theorem stuck_vlanConfiguring (h : Stuck p) :
    Closes (fun st' u => st' = .refreshingWan ∧ Stuck u) wanStateVlanConfiguring p := by
  have hexpired : vlanTimerExpired p = true := by
    have htimer := h.timer
    simp only [timerRunOut, Bool.and_eq_true] at htimer
    simp only [vlanTimerExpired, htimer.1, htimer.2, Bool.or_true, Bool.and_self]
  apply closes_self
  rw [if_neg (by simp [h.usable]), if_pos hexpired]
  apply closes_act
  have hgiven : Stuck (p.mapVlan fun v => { v with expired := true }) := by
    exact h.of_standing rfl h.session fun henable _ => (h.vlan henable).2
  have hrefreshes : refreshes (p.mapVlan fun v => { v with expired := true }) = true := Bool.or_true _
  generalize p.mapVlan (fun v => { v with expired := true }) = v at hgiven hrefreshes
  have hst := refreshes_physicalInterfaceDown v
  rw [hrefreshes] at hst
  exact closes_go ⟨hst, hgiven.physicalInterfaceDown⟩

/-- The machine is in `st`, on its rounds. -/
def GoesRound (st : WanState) (s : Vism) : Prop := s.phase = .running st ∧ Stuck (prepared st s)

theorem Stuck.enter (h : Stuck p) (st st' : WanState) : Stuck (enter st st' p) :=
  h.of_standing rfl h.session fun henable _ => (h.vlan henable).2

theorem not_settles_of_goesRound (h : GoesRound .refreshingWan s) : ¬ Settles alone s := by
  refine not_settles_of_turns (Q := GoesRound .vlanConfiguring) ?_ ?_ ?_ h
  · rintro u ⟨hu, hstuck⟩
    obtain ⟨st', v, halone, rfl, hv⟩ := alone_of_closes hu (stuck_refreshingWan hstuck)
    rw [halone]
    exact ⟨rfl, (hv.enter _ _).prepared _⟩
  · rintro u ⟨hu, hstuck⟩
    obtain ⟨st', v, halone, rfl, hv⟩ := alone_of_closes hu (stuck_vlanConfiguring hstuck)
    rw [halone]
    exact ⟨rfl, (hv.enter _ _).prepared _⟩
  · rintro u ⟨hu, -⟩ ⟨hu', -⟩
    rw [hu] at hu'
    cases hu'

/-- A machine whose links, set-ups and tear-downs succeed settles if and only if no refresh leaves a
discovery timer as it is that has run out. -/
theorem settles_iff {s : Vism} (h : Succeeds s.outside) :
    Settles alone s ↔ Throughout alone Rediscovers s := by
  refine ⟨fun hsettles n => ?_, settles_of_rediscovers h⟩
  by_contra hnot
  exact not_settles_of_goesRound (stuck_of_not_rediscovers hnot) (hsettles.iterate n)

/-- An interface without a VLAN that lists two of them, long after it was enabled. -/
def listed : Vism where
  phase := .created
  config := { enable := true }
  selection := { enable := true, status := .active }
  baseInterfaceStatus := .up
  now := 1000
  virtIf := { enable := true, vlan := { interfaceList := ["eth0.100", "eth0.200"], timeout := 30 } }
  outside := {
    setUpIpv4 := true, tearDownIpv4 := true, setUpIpv6 := true, tearDownIpv6 := true
    setUpLanPrefixIpv6 := true, setUpMapt := true, tearDownMapt := true, verifyMapt := true
    processMapt := true, lanAddressReady := true }

theorem settles_iff_listed : Settles alone listed ↔ Throughout alone Rediscovers listed :=
  settles_iff ⟨rfl, rfl, rfl, rfl, rfl, rfl, rfl, rfl, rfl, rfl⟩

/-- It takes turns between `WAN_STATE_VLAN_CONFIGURING` and `WAN_STATE_REFRESHING_WAN` for ever. -/
theorem listed_goes_round : listed.phase = .created ∧ Succeeds listed.outside ∧
    ¬ Settles alone listed := by
  refine ⟨rfl, ⟨rfl, rfl, rfl, rfl, rfl, rfl, rfl, rfl, rfl, rfl⟩, fun hsettles => ?_⟩
  have hround : GoesRound .refreshingWan (alone^[2] listed) := by
    refine ⟨by decide +kernel, ?_, ?_, ?_, ?_, ?_⟩
    all_goals decide +kernel
  exact not_settles_of_goesRound hround (hsettles.iterate 2)

end Stuck

end Settles

end InterfaceSm
end WanManager
