import WanManager.Concurrency.Labelled
import WanManager.InterfaceSmFrame

/-! # The timer of a VLAN discovery

`WanMgr_RdkBus_ConfigureVlan` starts the timer when the machine enables an entry of the VLAN list, and
the states that wait for a lease give the entry up once it has run out. A history beside the machine says
since when the entry is tried and when a lease was lost. -/

namespace WanManager
open Concurrency

namespace InterfaceSm

/-! ## The history -/

/-- When the current entry was enabled or found up, whether the machine has enabled it, and when a lease
was last lost. -/
structure EntryHistory where
  since : Option Nat := none
  enabled : Bool := false
  lost : Option Nat := none
  deriving DecidableEq, Repr

/-- A family had a lease and has none. -/
def losesLease (u s : Vism) : Bool :=
  (u.virtIf.ip.ipv4Status == .up && s.virtIf.ip.ipv4Status != .up) ||
    (u.virtIf.ip.ipv6Status == .up && s.virtIf.ip.ipv6Status != .up)

/-- `wan_transition_start` and `wan_transition_wan_refreshed` enable the entry. -/
def enables (u s : Vism) : Bool :=
  (u.phase == .created || u.phase == .running .refreshingWan) && u.virtIf.vlan.status == .down &&
    s.virtIf.vlan.status == .configuring

/-- The machine starts with a link that is up. -/
def findsUp (u s : Vism) : Bool := u.phase == .created && s.virtIf.vlan.status == .up

namespace EntryHistory

def afterLease (h : EntryHistory) (u s : Vism) : EntryHistory :=
  if losesLease u s then { h with lost := some s.now } else h

def afterTick (h : EntryHistory) (u s : Vism) : EntryHistory :=
  if enables u s then { h.afterLease u s with since := some s.now, enabled := true }
  else if findsUp u s then { h.afterLease u s with since := some s.now, enabled := false }
  else h.afterLease u s

end EntryHistory

/-! ## The system -/

/-- A machine with its history. -/
structure Discovery where
  sm : Vism
  history : EntryHistory := {}

def Discovery.tick (s : Discovery) : Discovery :=
  ⟨(vismTick.run s.sm).2, s.history.afterTick s.sm (vismTick.run s.sm).2⟩

inductive DiscoveryEvent where
  | tick
  /-- a link, a lease, the selection, the clock -/
  | outside
  /-- the manager starts again, with nothing of the timer -/
  | restart
  deriving DecidableEq

/-- Runs of one machine. What is outside of it leaves the list and the timer alone. -/
def discovery : Labelled DiscoveryEvent Discovery where
  step
    | .tick, s, s' => s' = s.tick
    | .outside, s, s' => s.sm.now ≤ s'.sm.now ∧
        s'.sm.virtIf.vlan.interfaceList = s.sm.virtIf.vlan.interfaceList ∧
        s'.sm.virtIf.vlan.timerStart = s.sm.virtIf.vlan.timerStart ∧
        s'.history = s.history.afterLease s.sm s'.sm
    | .restart, s, s' => s.sm.now ≤ s'.sm.now ∧ s'.sm.phase = .created ∧
        s'.sm.virtIf.vlan.timerStart = 0 ∧
        s'.history = { s.history.afterLease s.sm s'.sm with since := none, enabled := false }

/-! ## The expiry -/

/-- A state function gives the VLAN up for the next one. -/
def givesVlanUp (st : WanState) (s : Vism) : Bool :=
  match st with
  | .vlanConfiguring | .pppConfiguring | .validatingWan => !interfaceDown s && vlanTimerExpired s
  | .obtainingIpAddresses => !(interfaceDown s || linksRestart s) && linksLost s
  | _ => false

/-- It does so after a look at the timer, which is only taken without a reset. -/
def timerExpires (st : WanState) (s : Vism) : Bool :=
  givesVlanUp st s && vlanTimerExpired s && !s.virtIf.vlan.reset

/-- The next tick sets `Expired` on account of the timer. -/
def ExpiresByTimer (u : Vism) : Prop := ∃ st, u.phase = .running st ∧ timerExpires st (prepared st u) = true

/-- The expiry comes when the entry has had its full time, and as long again after a lease. -/
structure InTime (s : Discovery) : Prop where
  enable : s.sm.virtIf.vlan.enable = true
  since : ∃ t, s.history.since = some t ∧ t + s.sm.virtIf.vlan.timeout < s.sm.now
  lost : ∀ t ∈ s.history.lost, t + s.sm.virtIf.vlan.timeout < s.sm.now

/-- The machine has enabled the entry itself, and no lease was lost since. -/
structure Fresh (s : Discovery) : Prop where
  enable : s.sm.virtIf.vlan.enable = true
  enabled : s.history.enabled = true
  lost : ∀ t ∈ s.history.lost, ∀ t' ∈ s.history.since, t ≤ t'

/-- The timer only runs out for an entry that is fresh. -/
def Timed (e : DiscoveryEvent) (s : Discovery) : Prop := e = .tick → ExpiresByTimer s.sm → Fresh s

/-! ## What a tick does with the timer -/

section Tick

variable {u s : Vism} {st : WanState}

/-- The list, the timer and the clock. -/
def timerView (s : Vism) : List String × Nat × Nat :=
  (s.virtIf.vlan.interfaceList, s.virtIf.vlan.timerStart, s.now)

/-- Giving the links up only takes a link down that is not there yet. -/
theorem linksDown_vlan (s : Vism) : (linksDown s).virtIf.vlan = s.virtIf.vlan ∨
    (linksDown s).virtIf.vlan = { s.virtIf.vlan with status := .down } := by
  unfold linksDown
  dsimp only
  split
  · by_cases h : s.virtIf.vlan.status = .configuring
    · exact .inr (if_pos h)
    · exact .inl (if_neg h)
  · exact .inl rfl

theorem now_linkBlind : LinkBlind fun s => s.now where
  vlan _ _ := rfl
  ppp _ _ := rfl
  ip _ _ _ := rfl

theorem timerView_fixedTick : FixedTick timerView where
  ip _ _ := rfl
  map _ _ := rfl
  status _ _ := rfl
  accounts _ _ _ _ _ := rfl
  linksDown s := by
    unfold timerView
    rw [now_linkBlind.linksDown]
    obtain h | h := linksDown_vlan s <;> rw [h]
  ppp _ _ := rfl
  setUps _ _ _ _ _ _ := rfl

theorem timerView_prepared (st : WanState) (s : Vism) : timerView (prepared st s) = timerView s := rfl

theorem timerView_enter {st' : WanState} : timerView (enter st st' s) = timerView s := rfl

/-- Only the refresh and the start of the machine write the timer. -/
theorem timerView_tick (hst : u.phase = .running st) (hrefresh : st ≠ .refreshingWan) :
    timerView (vismTick.run u).2 = timerView u := by
  rw [run_vismTick_running hst, timerView_enter, ← timerView_prepared st u]
  by_cases hexit : st = .deconfiguringWan
  · subst hexit
    exact spares_self (spares_ite spares_keep (spares_go rfl))
  · exact timerView_fixedTick.wanState (fun _ => rfl) (fun _ => rfl) hrefresh hexit _

/-- What `startVlan` and the refresh make of a link that is down. -/
theorem timerView_configureVlan (s : Vism) : timerView (configureVlan true s) =
    (s.virtIf.vlan.interfaceList,
      if s.virtIf.vlan.interfaceList.length > 1 then s.now else s.virtIf.vlan.timerStart, s.now) := by
  unfold configureVlan
  by_cases h : s.virtIf.vlan.interfaceList.length > 1
  · rw [if_pos (by simpa using h), if_pos h]
    rfl
  · rw [if_neg (by simpa using h), if_neg h]
    rfl

/-- The timer that a tick leaves: it is started when the entry is enabled. -/
structure TimerKept (u s : Vism) : Prop where
  list : s.virtIf.vlan.interfaceList = u.virtIf.vlan.interfaceList
  now : s.now = u.now
  started : enables u s = true → s.virtIf.vlan.interfaceList.length > 1 → s.virtIf.vlan.timerStart = s.now
  kept : enables u s = false → s.virtIf.vlan.timerStart = u.virtIf.vlan.timerStart

theorem TimerKept.of_timerView (h : timerView s = timerView u) (hnot : enables u s = false) :
    TimerKept u s := by
  simp only [timerView, Prod.mk.injEq] at h
  exact ⟨h.1, h.2.2, fun hyes => absurd (hnot.symm.trans hyes) (by decide), fun _ => h.2.1⟩

/-- The link after the interface is given up. -/
theorem physicalInterfaceDown_vlan (s : Vism) :
    (wanTransitionPhysicalInterfaceDown s).2.virtIf.vlan = s.virtIf.vlan ∨
      (wanTransitionPhysicalInterfaceDown s).2.virtIf.vlan = { s.virtIf.vlan with status := .down } := by
  obtain ⟨u, hdown, hu⟩ := physicalInterfaceDown_links s
  rw [hdown, ← hu vlan_fixedLeases]
  exact linksDown_vlan u

/-- An entry that is chosen and enabled: choosing leaves the list and the timer alone. -/
theorem configureVlan_chosen {g : VirtIfVlan → VirtIfVlan}
    (hg : ∀ v, (g v).interfaceList = v.interfaceList ∧ (g v).timerStart = v.timerStart) (s : Vism) :
    timerView (configureVlan true ((s.mapVlan g).mapVlan fun v => { v with status := .configuring })) =
      timerView (configureVlan true s) ∧
      (configureVlan true ((s.mapVlan g).mapVlan fun v =>
        { v with status := .configuring })).virtIf.vlan.status = .configuring := by
  obtain ⟨hlist, hstart⟩ := hg s.virtIf.vlan
  constructor
  · simp only [timerView_configureVlan, Vism.mapVlan, Vism.mapVirtIf, hlist, hstart]
  · unfold configureVlan
    split <;> rfl

theorem startVlan_vlan (s : Vism) : timerView (startVlan s) = timerView (configureVlan true s) ∧
    (startVlan s).virtIf.vlan.status = .configuring := by
  apply configureVlan_chosen
  intro v
  split <;> exact ⟨rfl, rfl⟩

/-- The refresh of an interface that needs its VLAN enables the entry. -/
theorem wanRefreshed_of_needsVlan (h : needsVlan s = true) :
    timerView (wanTransitionWanRefreshed s).2 = timerView (configureVlan true s) ∧
      (wanTransitionWanRefreshed s).2.virtIf.vlan.status = .configuring := by
  have hchosen := configureVlan_chosen (g := fun v => if v.expired || v.reset then nextVlan v else v)
    (fun v => by split <;> exact ⟨rfl, rfl⟩) s
  rw [← hchosen.1]
  refine ⟨?_, ?_⟩
  · simp only [wanTransitionWanRefreshed, h, if_true]
    split <;> rfl
  · simp only [wanTransitionWanRefreshed, h, if_true]
    split <;> exact hchosen.2

theorem wanRefreshed_of_needsNoVlan (h : needsVlan s = false) :
    timerView (wanTransitionWanRefreshed s).2 = timerView s ∧
      (wanTransitionWanRefreshed s).2.virtIf.vlan.status = s.virtIf.vlan.status := by
  simp only [wanTransitionWanRefreshed, h, Bool.false_eq_true, if_false]
  split <;> exact ⟨rfl, rfl⟩

/-- An entry is not enabled by what leaves its link as it is or takes it down. -/
theorem enables_of_status (h : s.virtIf.vlan.status = u.virtIf.vlan.status ∨ s.virtIf.vlan.status = .down) :
    enables u s = false := by
  obtain h | h := h
  · cases hu : u.virtIf.vlan.status <;> simp [enables, h, hu]
  · simp [enables, h]

theorem enables_of_running (hst : u.phase = .running st) (hrefresh : st ≠ .refreshingWan) :
    enables u s = false := by
  simp [enables, hst, hrefresh]

/-- An entry that is enabled starts the timer, if there is another one. -/
theorem TimerKept.of_configureVlan (h : timerView s = timerView (configureVlan true u))
    (henables : enables u s = true) : TimerKept u s := by
  rw [timerView_configureVlan] at h
  simp only [timerView, Prod.mk.injEq] at h
  obtain ⟨hlist, hstart, hnow⟩ := h
  refine ⟨hlist, hnow, fun _ hmany => ?_, fun hnot => ?_⟩
  · rw [hstart, if_pos (hlist ▸ hmany), hnow]
  · rw [henables] at hnot
    cases hnot

theorem run_wanStateRefreshingWan (s : Vism) : wanStateRefreshingWan.run s =
    if interfaceDown s then wanTransitionPhysicalInterfaceDown
      { s.mapVlan fun v => { v with reset := false, expired := false } with virtIf.reset := false }
    else if linksStillUp s then (.refreshingWan, s)
    else wanTransitionWanRefreshed s := by
  simp only [wanStateRefreshingWan, run_self]
  split
  · rw [run_act, giveUp, run_go]
  · split
    · rw [run_keep]
    · rw [run_go]

/-- The refresh enables an entry whose link was down. -/
theorem timerKept_refreshingWan (hst : u.phase = .running .refreshingWan) :
    TimerKept u (vismTick.run u).2 := by
  have hkept : ∀ {s st'}, TimerKept u s → TimerKept u (enter .refreshingWan st' s) :=
    fun h => ⟨h.list, h.now, h.started, h.kept⟩
  rw [run_vismTick_running hst]
  apply hkept
  show TimerKept u (wanStateRefreshingWan.run (prepared .refreshingWan u)).2
  rw [run_wanStateRefreshingWan]
  split
  · set v : Vism := { (prepared .refreshingWan u).mapVlan fun v => { v with reset := false, expired := false }
      with virtIf.reset := false }
    have hv : timerView v = timerView u ∧ v.virtIf.vlan.status = u.virtIf.vlan.status := ⟨rfl, rfl⟩
    refine .of_timerView ((timerView_fixedTick.wanTransitionPhysicalInterfaceDown v).trans hv.1) ?_
    apply enables_of_status
    rw [← hv.2]
    obtain hvlan | hvlan := physicalInterfaceDown_vlan v <;> rw [hvlan]
    · exact .inl rfl
    · exact .inr rfl
  · split
    · exact .of_timerView rfl (enables_of_status (.inl rfl))
    · cases hneeds : needsVlan (prepared .refreshingWan u) with
      | true =>
        obtain ⟨hview, hstatus⟩ := wanRefreshed_of_needsVlan hneeds
        have hprepared : timerView (configureVlan true (prepared .refreshingWan u)) =
            timerView (configureVlan true u) := by
          simp only [timerView_configureVlan]
          rfl
        refine .of_configureVlan (hview.trans hprepared) ?_
        have hdown : u.virtIf.vlan.status = .down := by
          simp only [needsVlan, vlanDown, Bool.and_eq_true, beq_iff_eq] at hneeds
          exact hneeds.1.2
        simp [enables, hst, hdown, hstatus]
      | false =>
        obtain ⟨hview, hstatus⟩ := wanRefreshed_of_needsNoVlan hneeds
        exact .of_timerView hview (enables_of_status (.inl hstatus))

/-- A link that is found is up. -/
theorem restartFindExistingLink_vlan (s : Vism) :
    (restartFindExistingLink s).virtIf.vlan = s.virtIf.vlan ∨
      (restartFindExistingLink s).virtIf.vlan = { s.virtIf.vlan with status := .up } := by
  have hset : ∀ {c : Prop} [Decidable c] {u v : Vism}, v.virtIf.vlan = { u.virtIf.vlan with status := .up } →
      (u.virtIf.vlan = s.virtIf.vlan ∨ u.virtIf.vlan = { s.virtIf.vlan with status := .up }) →
        (if c then v else u).virtIf.vlan = s.virtIf.vlan ∨
          (if c then v else u).virtIf.vlan = { s.virtIf.vlan with status := .up } := by
    intro c _ u v hv hu
    split
    · obtain hu | hu := hu <;> exact .inr (by rw [hv, hu])
    · exact hu
  have hppp : ∀ {c : Prop} [Decidable c] (u : Vism) (g : PppData → PppData),
      (if c then u.mapPpp g else u).virtIf.vlan = u.virtIf.vlan := by
    intro c _ u g
    split <;> rfl
  apply hset rfl
  rw [hppp]
  exact hset rfl (.inl rfl)

/-- What `wan_transition_start` decides on. -/
def found (s : Vism) : Vism :=
  restartFindExistingLink (((s.mapIp fun ip => { ip with ipv4Status := .down, ipv6Status := .down }).mapMap
    fun m => { m with maptStatus := .down }).setStatus .initialising)

/-- A link is as it was before the search, or it is found up. -/
theorem found_vlan (s : Vism) : (found s).virtIf.vlan = s.virtIf.vlan ∨
    (found s).virtIf.vlan = { s.virtIf.vlan with status := .up } := restartFindExistingLink_vlan _

theorem found_now (s : Vism) : (found s).now = s.now := now_linkBlind.restartFindExistingLink _

theorem found_view (s : Vism) : timerView (found s) = timerView s := by
  unfold timerView
  rw [found_now]
  obtain h | h := found_vlan s <;> rw [h]

theorem wanTransitionStart_found (s : Vism) : (wanTransitionStart s).2 =
    getSelectedIpMode ((if needsVlan (found s) then startVlan (found s) else found s).mapVirtIf fun v =>
      { v with interfaceSmRunning := true }) := by
  unfold wanTransitionStart
  rfl

theorem timerKept_created (hst : u.phase = .created) : TimerKept u (vismTick.run u).2 := by
  have hview : timerView (vismTick.run u).2 = timerView (if needsVlan (found u) then startVlan (found u)
      else found u) ∧ (vismTick.run u).2.virtIf.vlan.status = (if needsVlan (found u) then
        startVlan (found u) else found u).virtIf.vlan.status := by
    rw [run_vismTick_created hst, wanTransitionStart_found]
    generalize (if needsVlan (found u) then startVlan (found u) else found u) = v
    exact ⟨rfl, rfl⟩
  cases hneeds : needsVlan (found u) with
  | true =>
    rw [hneeds, if_pos rfl] at hview
    obtain ⟨hstarted, hstatus⟩ := startVlan_vlan (found u)
    have hdown : u.virtIf.vlan.status = .down := by
      simp only [needsVlan, vlanDown, Bool.and_eq_true, beq_iff_eq] at hneeds
      obtain hsame | hup := found_vlan u
      · exact hsame ▸ hneeds.1.2
      · rw [hup] at hneeds
        exact absurd hneeds.1.2 (by simp)
    refine .of_configureVlan (hview.1.trans (hstarted.trans ?_)) ?_
    · have hfound := found_view u
      simp only [timerView, Prod.mk.injEq] at hfound
      simp only [timerView_configureVlan, hfound]
    · simp [enables, hst, hdown, hview.2, hstatus]
  | false =>
    rw [hneeds, if_neg (by simp)] at hview
    refine .of_timerView (hview.1.trans (found_view u)) ?_
    obtain hsame | hup := found_vlan u
    · exact enables_of_status (.inl (hview.2.trans (congrArg (·.status) hsame)))
    · simp [enables, hview.2, hup]

/-- A tick starts the timer for the entry it enables, and leaves it alone else. -/
theorem timerKept_tick (u : Vism) : TimerKept u (vismTick.run u).2 := by
  cases hphase : u.phase with
  | absent =>
    rw [run_vismTick_gone (.inl hphase)]
    exact .of_timerView rfl (enables_of_status (.inl rfl))
  | exited =>
    rw [run_vismTick_gone (.inr hphase)]
    exact .of_timerView rfl (enables_of_status (.inl rfl))
  | created => exact timerKept_created hphase
  | running st =>
    by_cases hrefresh : st = .refreshingWan
    · subst hrefresh
      exact timerKept_refreshingWan hphase
    · exact .of_timerView (timerView_tick hphase hrefresh) (enables_of_running hphase hrefresh)

/-! ## What sets `Expired` -/

theorem expired_fixedTick : FixedTick fun s => s.virtIf.vlan.expired where
  ip _ _ := rfl
  map _ _ := rfl
  status _ _ := rfl
  accounts _ _ _ _ _ := rfl
  linksDown s := by obtain h | h := linksDown_vlan s <;> simp only [h]
  ppp _ _ := rfl
  setUps _ _ _ _ _ _ := rfl

/-- The first tests of the states that wait for a lease. -/
theorem expired_test {c c' : Bool} {p : VismProg WanState}
    (hp : Spares (fun s => s.virtIf.vlan.expired) p s) :
    ((if c then giveUp else if c' then giveUpVlan else p).run s).2.virtIf.vlan.expired =
      (s.virtIf.vlan.expired || (!c && c')) := by
  have hgiven : ((giveUp.run s).2.virtIf.vlan.expired = s.virtIf.vlan.expired) := expired_fixedTick.giveUp s
  have hset : (giveUpVlan.run s).2.virtIf.vlan.expired = true := by
    rw [giveUpVlan, run_act]
    exact expired_fixedTick.giveUp (s.mapVlan fun v => { v with expired := true })
  cases c <;> cases c' <;>
    simp only [Bool.false_eq_true, if_false, if_true, Bool.not_false, Bool.not_true, Bool.true_and,
      Bool.false_and, Bool.or_true, Bool.or_false, hgiven, hset]
  exact hp

theorem expired_wanState (hrefresh : st ≠ .refreshingWan) :
    ((wanState st).run s).2.virtIf.vlan.expired = (s.virtIf.vlan.expired || givesVlanUp st s) := by
  have h := expired_fixedTick
  have hfeature : ∀ s : Vism, s.outside.maptFeature = true →
    ({ s with maptFeatureEnableChanged := false } : Vism).virtIf.vlan.expired =
      s.virtIf.vlan.expired := fun _ _ => rfl
  have hkept : Spares (fun s => s.virtIf.vlan.expired) (wanState st) s → givesVlanUp st s = false →
      ((wanState st).run s).2.virtIf.vlan.expired = (s.virtIf.vlan.expired || givesVlanUp st s) := by
    intro hspares hnot
    rw [hnot, Bool.or_false]
    exact hspares
  cases st with
  | vlanConfiguring => exact expired_test (spares_ite spares_keep (spares_go (h.ppp _ _)))
  | pppConfiguring => exact expired_test (spares_ite spares_keep (spares_go (h.status _ _)))
  | validatingWan => exact expired_test (spares_go (h.wanTransitionWanValidated s))
  | obtainingIpAddresses =>
    exact expired_test (spares_ite (h.obtainMapt hfeature s) (h.obtainAddresses hfeature s))
  | ipv4Leased => exact hkept (h.wanStateIpv4Leased hfeature s) rfl
  | ipv6Leased => exact hkept (h.wanStateIpv6Leased hfeature s) rfl
  | dualStackActive => exact hkept (h.wanStateDualStackActive hfeature s) rfl
  | maptActive => exact hkept (h.wanStateMaptActive (fun _ _ => rfl) s) rfl
  | standby => exact hkept (h.wanStateStandby s) rfl
  | exit => exact hkept (spares_act (h.ip _ _) spares_keep) rfl
  | deconfiguringWan => exact hkept (spares_self (spares_ite spares_keep (spares_go rfl))) rfl
  | refreshingWan => exact absurd rfl hrefresh

theorem expired_refreshingWan (h : s.virtIf.vlan.expired = false) :
    (wanStateRefreshingWan.run s).2.virtIf.vlan.expired = false := by
  rw [run_wanStateRefreshingWan]
  split
  · exact expired_fixedTick.wanTransitionPhysicalInterfaceDown _
  · split
    · exact h
    · simp only [wanTransitionWanRefreshed, Vism.mapVlan, Vism.mapVirtIf]

theorem expired_created (hst : u.phase = .created) (h : u.virtIf.vlan.expired = false) :
    (vismTick.run u).2.virtIf.vlan.expired = false := by
  have hstarted : ∀ s : Vism, s.virtIf.vlan.expired = false → (startVlan s).virtIf.vlan.expired = false := by
    intro s hs
    simp only [startVlan, configureVlan]
    split <;> (simp only [Vism.mapVlan, Vism.mapVirtIf]; split <;> exact hs)
  have hfound : (found u).virtIf.vlan.expired = false := by
    obtain hvlan | hvlan := found_vlan u <;> exact (congrArg (·.expired) hvlan).trans h
  have hstart : (if needsVlan (found u) then startVlan (found u)
      else found u).virtIf.vlan.expired = false := by
    split
    · exact hstarted _ hfound
    · exact hfound
  rw [run_vismTick_created hst, wanTransitionStart_found]
  generalize (if needsVlan (found u) then startVlan (found u) else found u) = v at hstart ⊢
  exact hstart

/-- `Expired` is set where the VLAN is given up, and nowhere else. -/
theorem expired_tick_iff (h : u.virtIf.vlan.expired = false) : (vismTick.run u).2.virtIf.vlan.expired = true ↔
    ∃ st, u.phase = .running st ∧ givesVlanUp st (prepared st u) = true := by
  cases hphase : u.phase with
  | absent => simp [run_vismTick_gone (.inl hphase), h]
  | exited => simp [run_vismTick_gone (.inr hphase), h]
  | created => simp [expired_created hphase h]
  | running st =>
    have hprepared : (prepared st u).virtIf.vlan.expired = false := h
    simp only [VismPhase.running.injEq, exists_eq_left']
    rw [run_vismTick_running hphase]
    show ((wanState st).run (prepared st u)).2.virtIf.vlan.expired = true ↔ _
    by_cases hrefresh : st = .refreshingWan
    · subst hrefresh
      simp [wanState, expired_refreshingWan hprepared, givesVlanUp]
    · rw [expired_wanState hrefresh, hprepared, Bool.false_or]

theorem expired_of_expiresByTimer (h : ExpiresByTimer u) : (vismTick.run u).2.virtIf.vlan.expired = true := by
  obtain ⟨st, hst, htimer⟩ := h
  simp only [timerExpires, Bool.and_eq_true] at htimer
  obtain ⟨⟨hgives, -⟩, -⟩ := htimer
  have hrefresh : st ≠ .refreshingWan := by
    rintro rfl
    cases hgives
  rw [run_vismTick_running hst]
  show ((wanState st).run (prepared st u)).2.virtIf.vlan.expired = true
  rw [expired_wanState hrefresh, hgives, Bool.or_true]

/-- Without a reset and with its links, a machine gives the VLAN up on account of the timer. -/
theorem timerExpires_of_links (h : givesVlanUp st s = true) (hreset : s.virtIf.vlan.reset = false)
    (hvlan : vlanDown s = false) (hppp : (s.virtIf.ppp.enable && s.virtIf.ppp.linkStatus == .down) = false) :
    timerExpires st s = true := by
  have htimer : vlanTimerExpired s = true := by
    cases st with
    | vlanConfiguring | pppConfiguring | validatingWan => exact (Bool.and_eq_true_iff.mp h).2
    | obtainingIpAddresses =>
      have hlost := (Bool.and_eq_true_iff.mp h).2
      simpa only [linksLost, hvlan, hppp, Bool.or_false] using hlost
    | _ => cases h
  simp [timerExpires, h, htimer, hreset]

end Tick

/-! ## Runs -/

/-- The timer has been started for an entry the machine has enabled, if there is another one. -/
def TimerStarted (s : Discovery) : Prop :=
  s.history.enabled = true → s.sm.virtIf.vlan.interfaceList.length > 1 →
    s.history.since = some s.sm.virtIf.vlan.timerStart

theorem afterLease_since (h : EntryHistory) (u s : Vism) : (h.afterLease u s).since = h.since ∧
    (h.afterLease u s).enabled = h.enabled := by
  unfold EntryHistory.afterLease
  split <;> exact ⟨rfl, rfl⟩

theorem timerStarted_tick {s : Discovery} (h : TimerStarted s) : TimerStarted s.tick := by
  have hkept := timerKept_tick s.sm
  obtain ⟨hsince, henabled⟩ := afterLease_since s.history s.sm (vismTick.run s.sm).2
  unfold TimerStarted Discovery.tick EntryHistory.afterTick
  dsimp only
  cases henables : enables s.sm (vismTick.run s.sm).2 with
  | true =>
    intro _ hmany
    simp only [if_true, hkept.started henables hmany]
  | false =>
    simp only [Bool.false_eq_true, if_false]
    cases findsUp s.sm (vismTick.run s.sm).2 with
    | true =>
      intro hnot
      cases hnot
    | false =>
      simp only [Bool.false_eq_true, if_false, hsince, henabled, hkept.list, hkept.kept henables]
      exact h

/-- No event takes the timer away from an entry that is enabled. -/
theorem timerStarted_step {e : DiscoveryEvent} {s s' : Discovery} (h : TimerStarted s)
    (hstep : discovery.step e s s') : TimerStarted s' := by
  cases e with
  | tick =>
    obtain rfl := hstep
    exact timerStarted_tick h
  | outside =>
    obtain ⟨-, hlist, hstart, hhistory⟩ := hstep
    obtain ⟨hsince, henabled⟩ := afterLease_since s.history s.sm s'.sm
    unfold TimerStarted
    rw [hhistory, hlist, hstart, hsince, henabled]
    exact h
  | restart =>
    obtain ⟨-, -, -, hhistory⟩ := hstep
    intro henabled
    rw [hhistory] at henabled
    cases henabled

theorem timerStarted_run {guard : DiscoveryEvent → Discovery → Prop} {s₀ s : Discovery}
    {es : List DiscoveryEvent} (h : s₀.history = {}) (hr : (discovery.restrict guard).Run s₀ es s) :
    TimerStarted s := by
  refine hr.invariant (K := fun _ => True) (fun _ _ => trivial) ?_ fun e u v _ hu hstep =>
    timerStarted_step hu hstep.2
  intro henabled
  rw [h] at henabled
  cases henabled

/-- Where the machine comes to the timer of a fresh entry only, the entry has had its full time. -/
theorem inTime_of_timed {s₀ s s' : Discovery} {es : List DiscoveryEvent} (h : s₀.history = {})
    (hr : (discovery.restrict Timed).Run s₀ es s) (hstep : (discovery.restrict Timed).step .tick s s')
    (hexpires : ExpiresByTimer s.sm) : InTime s := by
  obtain ⟨henable, henabled, hlost⟩ := hstep.1 rfl hexpires
  obtain ⟨st, -, htimer⟩ := hexpires
  simp only [timerExpires, vlanTimerExpired, Bool.and_eq_true, decide_eq_true_eq, Bool.or_eq_true,
    Bool.not_eq_true'] at htimer
  obtain ⟨⟨-, hmany, htimer⟩, hreset⟩ := htimer
  have hout : s.sm.virtIf.vlan.timerStart + s.sm.virtIf.vlan.timeout < s.sm.now := by
    obtain hset | hout := htimer
    · rw [hreset] at hset
      cases hset
    · exact hout
  have hsince := timerStarted_run h hr henabled hmany
  refine ⟨henable, ⟨_, hsince, hout⟩, fun t ht => ?_⟩
  have hbefore := hlost t ht _ hsince
  exact (Nat.add_le_add_right hbefore _).trans_lt hout

/-- A machine that starts with two entries to try. -/
def searching : Discovery where
  sm := {
    phase := .created
    config := { enable := true }
    selection := { enable := true, status := .active }
    baseInterfaceStatus := .up
    now := 100
    virtIf := {
      enable := true
      vlan := { enable := true, interfaceList := ["eth0.100", "eth0.200"], timeout := 10 } } }

/-- The link of its first entry does not come up. -/
def waited : Discovery := { searching.tick with sm := { searching.tick.sm with now := 200 } }

theorem inTime_waited : ExpiresByTimer waited.sm ∧ InTime waited := by
  have hexpires : ExpiresByTimer waited.sm := ⟨.vlanConfiguring, by decide +kernel, by decide +kernel⟩
  have hstart : Timed .tick searching := by
    rintro - ⟨st, hst, -⟩
    cases hst
  have houtside : discovery.step .outside searching.tick waited :=
    ⟨by decide +kernel, rfl, rfl, by decide +kernel⟩
  have hrun : (discovery.restrict Timed).Run searching [.outside, .tick] waited :=
    .cons (.cons .nil ⟨hstart, rfl⟩) ⟨fun hnot => (by cases hnot), houtside⟩
  have hlost : waited.history.lost = none := by decide +kernel
  have hfresh : Fresh waited := by
    refine ⟨by decide +kernel, by decide +kernel, fun t ht => ?_⟩
    rw [hlost] at ht
    cases ht
  exact ⟨hexpires, inTime_of_timed rfl hrun ⟨fun _ _ => hfresh, rfl⟩ hexpires⟩

/-- The manager starts again while the VLAN link is up. -/
def foundUp : Discovery where
  sm := { searching.sm with
    outside := { vlanUp := true }
    virtIf := { searching.sm.virtIf with
      vlan := { searching.sm.virtIf.vlan with vlanInUse := "eth0.100" } } }

/-- The link that is found up is given up at the next tick: its timer was never started. -/
theorem foundUp_expires : ¬ ∀ (s s' : Discovery) (es : List DiscoveryEvent), discovery.Run foundUp es s →
    discovery.step .tick s s' → ExpiresByTimer s.sm → InTime s := by
  intro h
  have hexpires : ExpiresByTimer foundUp.tick.sm :=
    ⟨.vlanConfiguring, by decide +kernel, by decide +kernel⟩
  have hsince : foundUp.tick.history.since = some 100 := by decide +kernel
  have htime : ¬ 100 + foundUp.tick.sm.virtIf.vlan.timeout < foundUp.tick.sm.now := by decide +kernel
  obtain ⟨t, ht, hout⟩ := (h foundUp.tick _ [.tick] (.cons .nil rfl) rfl hexpires).since
  obtain rfl : t = 100 := Option.some.inj (ht.symm.trans hsince)
  exact htime hout

end InterfaceSm
end WanManager
