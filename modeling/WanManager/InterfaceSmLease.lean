import WanManager.InterfaceSmTeardown

/-! # Usable interfaces and their leases

The failover machine takes an interface in `WAN_IFACE_STATUS_STANDBY` or
`WAN_IFACE_STATUS_UP` for usable. The interface state machine gives these statuses to
interfaces with a lease, but not every transition takes them back when the lease is gone:
`UsableLeased` says which of its steps must find a lease for the status to be right: those of
`wan_state_standby` and `wan_state_obtaining_ip_addresses` that leave it alone, and three transitions. -/

namespace WanManager
open Concurrency

namespace InterfaceSm

/-- The statuses `MarkHighPriorityGroup` accepts. -/
def usable (st : IfaceStatus) : Bool := st == .standby || st == .up

/-- An interface state machine that alone makes its interface usable. -/
def vismOwningStatus : Reactive Site Vism where
  tick := vismTick
  env s u := u.phase = s.phase ∧ (usable u.virtIf.status = true → u.virtIf.status = s.virtIf.status)

namespace Ledger

variable {b b' : Ledger} {st st' : WanState}

/-- A family is up. -/
def Leased (b : Ledger) : Prop := b.ipv4 = .up ∨ b.ipv6 = .up ∨ b.mapt = .up

instance (b : Ledger) : Decidable b.Leased := inferInstanceAs (Decidable (_ ∨ _ ∨ _))

/-- A lease is neither up nor down. Nothing that runs beside the failover thread makes it so. -/
def Unknown (b : Ledger) : Prop := b.ipv4 = .unknown ∨ b.ipv6 = .unknown

instance (b : Ledger) : Decidable b.Unknown := inferInstanceAs (Decidable (_ ∨ _))

/-- The states that go on without a lease. -/
def goesOn (st : WanState) : Bool := st == .standby || st == .obtainingIpAddresses

/-- What the steps must find that leave `Status` alone, or set it to `STANDBY`, without a look at the
leases: a usable interface still has a lease, and one that takes the status back when it is torn down. -/
def UsableLeased : WanTransition → Ledger → Prop
  | .physicalInterfaceDown, b => usable b.status → b.ipv6 = .up ∨ (b.ipv4 = .up ∧ b.mapt ≠ .up)
  | .maptDown, b => usable b.status → b.ipv6 = .up
  | .standbyDeconfigIps, b => b.current = .maptActive ∨ b.Unknown → b.Leased
  | .standbyUp, b => b.Unknown → usable b.status → b.Leased
  | .keep, b | .wanValidated, b => goesOn b.current ∨ b.Unknown → usable b.status → b.Leased
  | _, _ => True

instance (t : WanTransition) (b : Ledger) : Decidable (UsableLeased t b) := by
  cases t <;> unfold UsableLeased <;> infer_instance

/-- The other states have tested for a lease. -/
theorem Found.leased (h : Found st b) (hst : mayBeUsable st = true) (hobtains : st ≠ .obtainingIpAddresses)
    (hknown : ¬ b.Unknown) : b.Leased := by
  have hup : ∀ l : LeaseStatus, l ≠ .unknown → l ≠ .down → l = .up := by
    intro l
    cases l <;> simp
  have h4 := hup b.ipv4 fun h => hknown (.inl h)
  have h6 := hup b.ipv6 fun h => hknown (.inr h)
  cases st with
  | obtainingIpAddresses => exact absurd rfl hobtains
  | ipv4Leased | dualStackActive => exact .inl (h4 h)
  | ipv6Leased => exact .inr (.inl (h6 h))
  | maptActive => exact .inr (.inr h)
  | standby =>
    by_cases hdown : b.ipv4 = .down
    · exact .inr (.inl (h6 fun h' => h ⟨hdown, h'⟩))
    · exact .inl (h4 hdown)
  | _ => cases hst

theorem Stays.leased (h : Stays st b b') : b'.Leased ↔ b.Leased := by
  rw [Leased, Leased, h.ipv4, h.ipv6, h.mapt]

theorem Stays.unknown (h : Stays st b b') : b'.Unknown ↔ b.Unknown := by
  rw [Unknown, Unknown, h.ipv4, h.ipv6]

/-- A state that stays where it is. -/
theorem Stays.usable_leased (h : Stays st b b') (hcur : b.current = st) (hfound : Found st b)
    (hg : UsableLeased .keep b') (hquiet : mayBeUsable st = false → usable b.status = false)
    (husable : usable b'.status = true) : b'.Leased := by
  by_cases hgoesOn : goesOn b'.current ∨ b'.Unknown
  · exact hg hgoesOn husable
  · rw [h.current, hcur, h.unknown, not_or] at hgoesOn
    obtain ⟨hgoesOn, hknown⟩ := hgoesOn
    refine h.leased.mpr (hfound.leased ?_ (fun hst => hgoesOn (hst ▸ rfl)) hknown)
    rcases h.status with hstatus | hstatus <;> rw [hstatus] at husable
    · cases hst : mayBeUsable st with
      | true => rfl
      | false =>
        rw [hquiet hst] at husable
        cases husable
    · cases husable

theorem usable_validating : usable .validating = false := rfl

theorem ipv4Up_ipv4 (b : Ledger) : b.ipv4Up.2.ipv4 = b.ipv4 := by
  rw [ipv4Up]
  split <;> rfl

theorem ipv6Up_ipv6 (b : Ledger) : b.ipv6Up.2.ipv6 = b.ipv6 := by
  rw [ipv6Up]
  split <;> rfl

theorem ipv4Down_usable (b : Ledger) (h : usable b.ipv4Down.2.status = true) :
    b.ipv4Down.2.ipv6 = .up := by
  simp only [ipv4Down, ifUp, tearDown4] at h ⊢
  grind [usable_validating]

theorem ipv6Down_usable (b : Ledger) (h : usable b.ipv6Down.2.status = true) :
    b.ipv6Down.2.ipv4 = .up := by
  simp only [ipv6Down, ifUp, tearDown6] at h ⊢
  grind [usable_validating]

theorem familiesDown_usable (b : Ledger)
    (h : usable b.status = true → b.ipv6 = .up ∨ (b.ipv4 = .up ∧ b.mapt ≠ .up)) :
    usable b.familiesDown.status = false := by
  obtain ⟨cur, status, i4, i6, m, c4, c6, f, l⟩ := b
  simp only [familiesDown, maptDown, ipv4Down, ipv6Down, ifUp, tearDown4, tearDown6, tearDownM] at h ⊢
  cases m <;> grind [usable_validating]

theorem featureRefresh_usable (b : Ledger) (h : usable b.featureRefresh.status = true) :
    b.featureRefresh.ipv4 = .up := b.ipv6Down_usable h

theorem maptDown_usable (b : Ledger) (h : usable b.status = true → b.ipv6 = .up)
    (hdown : usable b.maptDown.status = true) : b.maptDown.ipv6 = .up := by
  simp only [maptDown, ifUp, tearDownM] at hdown ⊢
  grind

theorem standbyDeconfig_leased (b : Ledger) : b.standbyDeconfig.Leased ↔ b.Leased := by
  simp only [Leased, standbyDeconfig, tearDown4, tearDown6, tearDownM]
  grind

theorem maptReplaces_mapt (c : Bool) (b : Ledger) : (b.maptReplaces c).mapt = b.mapt := by
  simp only [maptReplaces, ipv4Down, ipv4Up, setUp4, setUpM, ifUp, tearDown4]
  grind

theorem standbyUp_leased (b : Ledger) (ready : Bool) :
    b.standbyUp ready = (.standby, b) ∨ (b.standbyUp ready).2.Leased := by
  simp only [standbyUp]
  by_cases h6 : b.ipv6 = .up ∧ ready = true
  · rw [if_pos h6]
    split
    · next h4 => exact .inr (.inl ((ipv4Up_ipv4 _).trans h4))
    · exact .inr (.inr (.inl (b.ipv6Up_ipv6.trans h6.1)))
  · rw [if_neg h6]
    split
    · next h4 => exact .inr (.inl (b.ipv4Up_ipv4.trans h4))
    · exact .inl rfl

/-- The states that never hold a usable interface are entered without one. -/
theorem Move.not_usable (h : Move UsableLeased st b st' b')
    (hquiet : mayBeUsable st = false → usable b.status = false) (hst' : mayBeUsable st' = false) :
    usable b'.status = false := by
  obtain ⟨hg, rfl⟩ | ⟨rfl, hstays⟩ | ⟨hidle, -, -, h | h | h⟩ := h.to_idle hst'
  · exact b.familiesDown_usable hg
  · rcases hstays.status with h | h <;> rw [h]
    · exact hquiet hst'
    · rfl
  · rw [h]
    exact hquiet hidle
  · rw [h]
    rfl
  · rw [h]
    rfl

/-- A tick that leaves a usable interface leaves it with a lease. -/
theorem Move.usable_leased (h : Move UsableLeased st b st' b') (hcur : b.current = st)
    (hquiet : mayBeUsable st = false → usable b.status = false) (husable : usable b'.status = true) :
    b'.Leased := by
  have hnot : ∀ {c : Bool}, c = false → c = true → False := by
    intro c h h'
    rw [h] at h'; cases h'
  cases h with
  | down hg => exact (hnot (b.familiesDown_usable hg) husable).elim
  | giveUp hg => exact (hnot (b.familiesDown_usable hg) husable).elim
  | keep hg hstays hfound => exact hstays.usable_leased hcur hfound hg hquiet husable
  | lost hg => exact hg (.inl (hcur ▸ rfl)) husable
  | pppConfigure => exact (hnot (hquiet rfl) husable).elim
  | wanUp => cases husable
  | validated hstatus _ =>
    rw [hstatus] at husable
    exact (hnot (hquiet rfl) husable).elim
  | expired hg => exact hg (.inl (hcur ▸ rfl)) husable
  | ipv4Up _ h4 => exact .inl (b.ipv4Up_ipv4.trans h4)
  | ipv6Up _ h6 => exact .inr (.inl (b.ipv6Up_ipv6.trans h6))
  | standby hup => exact hup.imp_right .inl
  | @standbyUp _ ready hg hfound =>
    rcases standbyUp_leased b ready with hkeep | hup
    · rw [hkeep] at husable ⊢
      by_cases hknown : b.Unknown
      · exact hg hknown husable
      · exact hfound.leased rfl (by decide) hknown
    · exact hup
  | refresh _ _ => exact .inl (b.featureRefresh_usable husable)
  | ipv4Down _ _ => exact .inr (.inl (b.ipv4Down_usable husable))
  | ipv6Down _ _ => exact .inl (b.ipv6Down_usable husable)
  | dualStackDown _ => exact .inl (ipv6Down_usable _ husable)
  | standbyDeconfig hg hst hfound =>
    rw [standbyDeconfig_leased]
    by_cases hunsettled : b.current = .maptActive ∨ b.Unknown
    · exact hg hunsettled
    · rw [hcur, not_or] at hunsettled
      have hleased := hfound.resolve_left hunsettled.1
      exact hleased.leased (mayBeUsable_of_leased hst) (by rintro rfl; cases hst) hunsettled.2
  | maptUp _ hm => exact .inr (.inr ((maptReplaces_mapt _ b).trans hm))
  | maptFails _ hm => exact .inr (.inr ((maptReplaces_mapt _ b).trans hm))
  | maptRefused _ hm => exact .inr (.inr hm)
  | maptDown hg => exact .inr (.inl (b.maptDown_usable hg husable))
  | maptDownRefresh _ => exact .inl (featureRefresh_usable _ husable)
  | refreshed => exact (hnot (hquiet rfl) husable).elim
  | exit => cases husable
  | exited hstatus _ =>
    rw [hstatus] at husable
    exact (hnot (hquiet rfl) husable).elim

end Ledger

/-! ## Runs -/

variable {s : Vism}

/-- A phase in which the interface is not usable. -/
def phaseQuiet : VismPhase → Bool
  | .running st => !mayBeUsable st
  | .absent | .created | .exited => true

/-- A usable interface has a lease, and is in a state that may be usable. -/
def LeaseAccounted (s : Vism) : Prop :=
  (usable s.virtIf.status = true → (ledger s).Leased) ∧
    (phaseQuiet s.phase = true → usable s.virtIf.status = false)

theorem Ticked.leaseAccounted {s' : Vism} (h : Ticked Ledger.UsableLeased s s')
    (hquiet : s.phase ≠ .created → phaseQuiet s.phase = true → usable s.virtIf.status = false) :
    LeaseAccounted s' := by
  cases h with
  | start _ hphase hledger =>
    have hst : s'.virtIf.status = .initialising := congrArg Ledger.status hledger
    have hnot : usable s'.virtIf.status = false := by rw [hst]; rfl
    refine ⟨fun hyes => ?_, fun _ => hnot⟩
    rw [hnot] at hyes
    cases hyes
  | gone hgone =>
    have hnot : usable s.virtIf.status = false := by
      rcases hgone with h | h <;> refine hquiet ?_ ?_ <;> rw [h]
      · intro hc; cases hc
      · rfl
      · intro hc; cases hc
      · rfl
    refine ⟨fun hyes => ?_, fun _ => hnot⟩
    rw [hnot] at hyes
    cases hyes
  | @move st st' b _ hst hmove hst' hledger =>
    have hstatus : s'.virtIf.status = b.status := congrArg Ledger.status hledger
    have hleased : (ledger s').Leased ↔ b.Leased := by
      rw [hledger]
      exact Iff.rfl
    have hquiet' : mayBeUsable st = false → usable s.virtIf.status = false := by
      intro hnot
      refine hquiet ?_ ?_ <;> rw [hst]
      · intro hc; cases hc
      · rw [phaseQuiet, hnot]; rfl
    rw [LeaseAccounted, hstatus, hleased]
    refine ⟨hmove.usable_leased rfl hquiet', fun hq => hmove.not_usable hquiet' ?_⟩
    rw [hst'] at hq
    split at hq
    · next hexit =>
      subst hexit
      have hgiven := hmove.from_exit
      revert hgiven
      cases st' <;> first | (intro _; rfl) | (intro h; cases h)
    · exact Bool.not_eq_true' _ ▸ hq

/-- An interface with the status of a usable one has a lease, in the runs that meet
`UsableLeased`. -/
theorem usable_has_lease
    (hr : vismOwningStatus.Reach (guardOf Ledger.UsableLeased) (fun s => s.phase = .created) s)
    (hphase : s.phase ≠ .created) (husable : usable s.virtIf.status = true) :
    (ledger s).Leased := by
  have hinv : s.phase ≠ .created → LeaseAccounted s := by
    refine hr.invariant (I := fun s => s.phase ≠ .created → LeaseAccounted s)
      (fun s hs hnot => (hnot hs).elim) fun s hs u henv hadm _ => ?_
    obtain ⟨hphaseEq, hstatus⟩ := henv
    refine (vismTick_ticked Ledger.UsableLeased u u rfl hadm).leaseAccounted fun hnot hq => ?_
    rw [hphaseEq] at hnot hq
    have hsq := (hs hnot).2 hq
    cases hu : usable u.virtIf.status with
    | false => rfl
    | true => rw [← hstatus hu, hu] at hsq; cases hsq
  exact (hinv hphase).1 husable

namespace Example

/-- The DHCP clients report, and the interface is selected. -/
def reports (v4 v6 : LeaseStatus) : vismOwningStatus.Change where
  edit s := s.mapIp fun ip => { ip with ipv4Status := v4, ipv6Status := v6 }
  allowed _ := ⟨rfl, fun _ => rfl⟩

def selected : Vism where
  selection := { status := .selected }

/-- Four ticks to the state that obtains addresses, an IPv4 lease, and what follows it. -/
def leaseRun (m : List vismOwningStatus.Change) : List vismOwningStatus.Change :=
  List.replicate 4 (reports .down .down) ++ reports .up .down :: m

end Example

open Example in
theorem usable_has_lease_run :
    (ledger (vismOwningStatus.play (leaseRun [reports .up .down]) selected)).Leased :=
  usable_has_lease (.play (.start rfl) (by decide +kernel)) (by decide +kernel) (by decide +kernel)

open Example in
/-- An interface in standby that lost its leases is still in `WAN_IFACE_STATUS_STANDBY`
when it obtains addresses again. -/
theorem usable_without_lease :
    ¬ ∀ s, vismOwningStatus.Reach (fun _ _ => True) (fun s => s.phase = .created) s →
      s.phase ≠ .created → usable s.virtIf.status = true → (ledger s).Leased := by
  intro h
  have hrun := h _ (.play (m := leaseRun [reports .down .down]) (.start (s := selected) rfl)
    (Reactive.plays_true _ _)) (by decide +kernel) (by decide +kernel)
  exact absurd hrun (by decide +kernel)

end InterfaceSm
end WanManager
