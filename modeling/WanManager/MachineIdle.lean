import WanManager.LinkReplies

/-! # Ticks with nothing to do

An idle tick still writes its own state down, takes the replies and starts what its state wants
started. It does so once: a second idle tick changes nothing. -/

namespace WanManager
open Concurrency

namespace InterfaceSm

/-! ## What a state puts in order -/

/-- `wan_state_standby` starts a connectivity check that is to be restarted. -/
def recheck (s : Vism) : Vism :=
  if s.selection.status ≠ .active ∧ s.virtIf.ip.restartConnectivityCheck ∧
      s.virtIf.ip.connectivityCheckType = .tad then
    startConnectivityCheck s
  else s

/-- `wan_state_obtaining_ip_addresses` notes that the preferred mode was offered. -/
def noteMapt (s : Vism) : Vism :=
  if s.virtIf.ip.selectedMode = .mapt ∧ s.virtIf.map.maptStatus = .up then
    s.mapIp fun ip => { ip with selectedModeTimerStatus := .complete }
  else s

/-- What the state does on every tick, whatever it finds. -/
def order : WanState → Vism → Vism
  | .ipv4Leased => joinDhcpv6
  | .ipv6Leased => joinDhcpv4
  | .standby => recheck
  | .obtainingIpAddresses => noteMapt
  | _ => id

def idle (s : Vism) : Vism :=
  match s.phase with
  | .running st => enter st st (comeUp (order st (prepared st s)))
  | _ => s

/-- The configuration has been taken over, and the networking mode has not changed since. -/
structure Steady (s : Vism) : Prop where
  wanEnable : s.wanEnable = s.config.enable
  mode : s.deviceNwModeChanged = false
  taken : s.config.deviceNwModeChanged = false

section Unchanged

variable {s u : Vism}

theorem mapVirtIf_self {g : VirtualIface → VirtualIface} (h : g s.virtIf = s.virtIf) :
    s.mapVirtIf g = s := by
  rw [Vism.mapVirtIf, h]

theorem mapIp_self {g : IfaceIp → IfaceIp} (h : g s.virtIf.ip = s.virtIf.ip) : s.mapIp g = s := by
  apply mapVirtIf_self
  rw [h]

theorem mapVlan_self {g : VirtIfVlan → VirtIfVlan} (h : g s.virtIf.vlan = s.virtIf.vlan) :
    s.mapVlan g = s := by
  apply mapVirtIf_self
  rw [h]

theorem mapPpp_self {g : PppData → PppData} (h : g s.virtIf.ppp = s.virtIf.ppp) : s.mapPpp g = s := by
  apply mapVirtIf_self
  rw [h]

theorem updateWanConfig_self (h : Steady s) : updateWanConfig s = s := by
  have hconfig : { s.config with deviceNwModeChanged := false } = s.config := by rw [← h.taken]
  rw [updateWanConfig, hconfig, h.taken, ← h.wanEnable, ← h.mode]

theorem cameUp_cameUp (st : LinkStatus) : cameUp (cameUp st) = cameUp st := by
  cases st <;> rfl

theorem startConnectivityCheck_self (h : u.virtIf.ip = (startConnectivityCheck s).virtIf.ip) :
    startConnectivityCheck u = u := by
  unfold startConnectivityCheck at h ⊢
  split at h
  · next hon => rw [if_pos (by rw [h]; exact hon)]
  split at h
  · split
    · rfl
    split
    · apply mapIp_self
      rw [h]
      rfl
    · rfl
  · next htad =>
    split
    · rfl
    · rw [if_neg (by rw [h]; exact htad)]

theorem joinDhcpv6_self (h : u.virtIf.ip = (joinDhcpv6 s).virtIf.ip) (ho : u.outside = s.outside) :
    joinDhcpv6 u = u := by
  unfold joinDhcpv6 at h ⊢
  split
  · split at h
    · apply mapIp_self
      rw [h, ho]
      rfl
    · next hjoin hnot => exact absurd (by simpa [started6, h] using hjoin) hnot
  · rfl

theorem joinDhcpv4_self (h : u.virtIf.ip = (joinDhcpv4 s).virtIf.ip) (ho : u.outside = s.outside) :
    joinDhcpv4 u = u := by
  unfold joinDhcpv4 at h ⊢
  split
  · split at h
    · apply mapIp_self
      rw [h, ho]
      rfl
    · next hjoin hnot => exact absurd (by simpa [started4, h] using hjoin) hnot
  · rfl

theorem recheck_self (h : u.virtIf.ip = (recheck s).virtIf.ip) (hs : u.selection = s.selection) :
    recheck u = u := by
  unfold recheck at h ⊢
  split
  · split at h
    · exact startConnectivityCheck_self h
    · next hcheck hnot => exact absurd (by simpa [h, hs] using hcheck) hnot
  · rfl

theorem noteMapt_self (h : u.virtIf.ip = (noteMapt s).virtIf.ip) (hm : u.virtIf.map = s.virtIf.map) :
    noteMapt u = u := by
  unfold noteMapt at h ⊢
  split
  · split at h
    · apply mapIp_self
      rw [h]
      rfl
    · next hnote hnot => exact absurd (by simpa [h, hm] using hnote) hnot
  · rfl

theorem order_self {st : WanState} (h : u.virtIf.ip = (order st s).virtIf.ip)
    (hm : u.virtIf.map = s.virtIf.map) (ho : u.outside = s.outside) (hs : u.selection = s.selection) :
    order st u = u := by
  cases st with
  | ipv4Leased => exact joinDhcpv6_self h ho
  | ipv6Leased => exact joinDhcpv4_self h ho
  | standby => exact recheck_self h hs
  | obtainingIpAddresses => exact noteMapt_self h hm
  | _ => rfl

end Unchanged

/-! ## An idle tick -/

/-- Whatever is put in order is part of the IP data. -/
theorem order_mapIp (st : WanState) (s : Vism) : ∃ ip, order st s = s.mapIp fun _ => ip := by
  have hite : ∀ {c : Prop} [Decidable c] (g : IfaceIp → IfaceIp) (u : Vism),
      ∃ ip, (if c then u.mapIp g else u) = u.mapIp fun _ => ip := by
    intro c _ g u
    split
    · exact ⟨_, rfl⟩
    · exact ⟨u.virtIf.ip, rfl⟩
  cases st with
  | ipv4Leased => exact hite _ s
  | ipv6Leased => exact hite _ s
  | obtainingIpAddresses => exact hite _ s
  | standby =>
    have hrecheck : ∃ ip, recheck s = s.mapIp fun _ => ip := by
      unfold recheck startConnectivityCheck
      split
      · split
        · exact ⟨s.virtIf.ip, rfl⟩
        · exact hite _ s
      · exact ⟨s.virtIf.ip, rfl⟩
    exact hrecheck
  | _ => exact ⟨s.virtIf.ip, rfl⟩

/-- A machine that an idle tick leaves as it is. -/
structure InOrder (st : WanState) (s : Vism) : Prop where
  phase : s.phase = .running st
  steady : Steady s
  current : s.virtIf.eCurrentState = st
  messages : ipcMsgHandle s = s
  vlan : cameUp s.virtIf.vlan.status = s.virtIf.vlan.status
  ppp : cameUp s.virtIf.ppp.linkStatus = s.virtIf.ppp.linkStatus
  ordered : order st s = s
  left : s.leftLease = true → st = .obtainingIpAddresses

theorem InOrder.idle {st : WanState} {s : Vism} (h : InOrder st s) (hexit : st ≠ .exit) : idle s = s := by
  have hprepared : prepared st s = s := by
    rw [prepared, updateWanConfig_self h.steady, h.messages]
    apply mapVirtIf_self
    rw [← h.current]
  have hlinks : comeUp s = s := by
    have hvlan : (s.mapVlan fun v => { v with status := cameUp v.status }) = s := by
      apply mapVlan_self
      rw [h.vlan]
    rw [comeUp, hvlan]
    apply mapPpp_self
    rw [h.ppp]
  have hleft : (st == .obtainingIpAddresses && (leased st || (st == .obtainingIpAddresses &&
      s.leftLease))) = s.leftLease := by
    by_cases hst : st = .obtainingIpAddresses
    · subst hst
      rfl
    · have hnot : s.leftLease = false := by
        by_contra hleft
        exact hst (h.left (by simpa using hleft))
      rw [hnot]
      simp [hst]
  rw [InterfaceSm.idle, h.phase]
  simp only [hprepared, h.ordered, hlinks, enter, hleft, if_neg hexit]
  rw [← h.phase]

theorem steady_fixedAll : FixedAll fun s => (s.wanEnable, s.deviceNwModeChanged, s.config.enable,
    s.config.deviceNwModeChanged) where
  virtIf _ _ := rfl
  accounts _ _ _ _ _ _ := rfl
  rescan _ := rfl

theorem inOrder_idle {st : WanState} {s : Vism} (hs : s.phase = .running st) (hsteady : Steady s)
    (hexit : st ≠ .exit) : InOrder st (idle s) := by
  obtain ⟨ip, hip⟩ := order_mapIp st (prepared st s)
  have hidle : idle s = enter st st (comeUp ((prepared st s).mapIp fun _ => ip)) := by
    simp only [idle, hs, hip]
  rw [hidle]
  exact {
    phase := if_neg hexit
    steady := ⟨rfl, hsteady.taken, rfl⟩
    current := rfl
    messages := by
      apply mapPpp_self
      by_cases henable : s.virtIf.ppp.enable = true
      · simp [enter, comeUp, prepared, ipcMsgHandle, updateWanConfig, Vism.mapPpp, Vism.mapVirtIf,
          Vism.mapVlan, Vism.mapIp, henable]
      · simp [enter, comeUp, prepared, ipcMsgHandle, updateWanConfig, Vism.mapPpp, Vism.mapVirtIf,
          Vism.mapVlan, Vism.mapIp, henable]
    vlan := cameUp_cameUp _
    ppp := cameUp_cameUp _
    ordered := by
      have hip' : (enter st st (comeUp ((prepared st s).mapIp fun _ => ip))).virtIf.ip =
          (order st (prepared st s)).virtIf.ip := by
        rw [hip]
        rfl
      exact order_self hip' rfl rfl rfl
    left := by
      simp only [enter, Bool.and_eq_true, beq_iff_eq]
      exact fun h => h.1 }

/-- A second idle tick changes nothing. -/
theorem idle_idle {st : WanState} {s : Vism} (hs : s.phase = .running st) (hsteady : Steady s)
    (hexit : st ≠ .exit) : idle (idle s) = idle s := (inOrder_idle hs hsteady hexit).idle hexit

end InterfaceSm
end WanManager
