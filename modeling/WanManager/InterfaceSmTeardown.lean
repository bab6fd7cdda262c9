import WanManager.InterfaceSmMoves

/-! # What an interface state machine leaves configured

`wan_transition_physical_interface_down`, `wan_transition_standby_deconfig_ips` and the
transitions back to obtaining addresses tear a family down if its lease is still up, or
the interface still has the status of a configured one. A lease that was lost since it was
configured stays configured. For each transition the exact condition on the ledger is
given under which nothing stays, and the runs are treated that meet it. -/

namespace WanManager
open Concurrency

namespace InterfaceSm

/-- An interface state machine; between two ticks anything may happen to its data. -/
def vismMachine : Reactive Site Vism where
  tick := vismTick
  env s u := u.phase = s.phase ∧ u.configured = s.configured ∧ u.leftLease = s.leftLease

/-- The thread has been created. -/
def vismCreated (s : Vism) : Prop := s.phase = .created ∧ s.configured = {} ∧ s.leftLease = false

/-- `WAN_STATE_REFRESHING_WAN`, `WAN_STATE_DECONFIGURING_WAN` and `WAN_STATE_EXIT` -/
def givenUp : WanState → Bool
  | .refreshingWan | .deconfiguringWan | .exit => true
  | _ => false

/-- The states in which the interface may be usable. -/
def mayBeUsable : WanState → Bool
  | .obtainingIpAddresses | .standby => true
  | st => leased st

theorem mayBeUsable_of_leased {st : WanState} (h : leased st = true) : mayBeUsable st = true := by
  cases st <;> first | rfl | cases h

theorem not_mayBeUsable_of_givenUp {st : WanState} (h : givenUp st = true) : mayBeUsable st = false := by
  cases st <;> first | rfl | cases h

theorem givenUp_physicalInterfaceDown (s : Vism) :
    givenUp (wanTransitionPhysicalInterfaceDown s).1 = true := by
  simp only [wanTransitionPhysicalInterfaceDown]
  split <;> rfl

namespace Ledger

variable {b b' : Ledger} {st st' : WanState}

theorem families_eq (f : Families) :
    f = {} ↔ f.ipv4 = false ∧ f.ipv6 = false ∧ f.mapt = false := by
  obtain ⟨f4, f6, fm⟩ := f
  rw [Families.mk.injEq]

/-! ## When a transition leaves nothing behind -/

/-- Giving the interface up reaches every configured family: MAP-T is torn down first and
takes the IPv4 lease along; tearing IPv4 down takes the status `UP` that tearing IPv6 down
needs, unless IPv6 is known to be connected. -/
def GivesUpClean (b : Ledger) : Prop :=
  (b.configured.mapt → b.mapt = .up ∧ b.status = .up) ∧
  (b.configured.ipv4 → b.mapt ≠ .up ∧ b.ipv4 = .up ∧ b.status = .up) ∧
  (b.configured.ipv6 → b.ipv6 = .up ∧ b.status = .up ∧
    (b.mapt ≠ .up ∧ b.ipv4 = .up → b.conn6))

instance (b : Ledger) : Decidable b.GivesUpClean := inferInstanceAs (Decidable (_ ∧ _ ∧ _))

theorem familiesDown_clean (b : Ledger) : b.familiesDown.configured = {} ↔ b.GivesUpClean := by
  rw [families_eq]
  obtain ⟨cur, status, i4, i6, m, c4, c6, ⟨f4, f6, fm⟩, l⟩ := b
  simp only [GivesUpClean, familiesDown, maptDown, ipv4Down, ipv6Down, ifUp, tearDown4, tearDown6,
    tearDownM]
  cases m <;> grind

/-- Every configured family still has its lease. -/
def StandsByClean (b : Ledger) : Prop :=
  (b.configured.ipv4 → b.ipv4 = .up) ∧ (b.configured.ipv6 → b.ipv6 = .up) ∧
    (b.configured.mapt → b.mapt = .up)

instance (b : Ledger) : Decidable b.StandsByClean := inferInstanceAs (Decidable (_ ∧ _ ∧ _))

theorem standbyDeconfig_clean (b : Ledger) : b.standbyDeconfig.configured = {} ↔ b.StandsByClean := by
  rw [families_eq]
  obtain ⟨cur, status, i4, i6, m, c4, c6, ⟨f4, f6, fm⟩, l⟩ := b
  simp only [StandsByClean, standbyDeconfig, tearDown4, tearDown6, tearDownM]
  cases m <;> grind

theorem ipv4Down_clean (b : Ledger) :
    b.ipv4Down.2.configured = {} ↔
      b.configured.ipv6 = false ∧ b.configured.mapt = false ∧ (b.configured.ipv4 → b.status = .up) := by
  rw [families_eq]
  simp only [ipv4Down, ifUp, tearDown4]
  grind

theorem ipv6Down_clean (b : Ledger) :
    b.ipv6Down.2.configured = {} ↔
      b.configured.ipv4 = false ∧ b.configured.mapt = false ∧ (b.configured.ipv6 → b.status = .up) := by
  rw [families_eq]
  simp only [ipv6Down, ifUp, tearDown6]
  grind

/-- `wan_transition_dual_stack_down` takes the status `UP` away first, and so tears down
nothing. -/
theorem dualStackDown_configured (b : Ledger) : b.dualStackDown.configured = b.configured := by
  simp only [dualStackDown, ipv4Down, ipv6Down, ifUp]
  grind

theorem maptDownRefresh_clean (b : Ledger) :
    b.maptDown.featureRefresh.configured = {} ↔
      b.configured.ipv4 = false ∧ (b.configured.mapt → b.status = .up) ∧
        (b.configured.ipv6 → b.status = .up) := by
  have hstatus : b.maptDown.status = b.status := by
    simp only [maptDown, ifUp, tearDownM]
    grind
  have hmapt : b.maptDown.configured =
      if b.status = .up then { b.configured with mapt := false } else b.configured := by
    simp only [maptDown, ifUp, tearDownM]
    split <;> rfl
  rw [featureRefresh, ipv6Down_clean, hstatus, hmapt]
  grind

/-- The transitions from a lease back to obtaining addresses tear down what they must:
each the family it is about, the others were not configured. -/
def ObtainsClean : WanTransition → Ledger → Prop
  | .ipv4Down, b => ¬ (b.ipv6 = .up ∧ b.conn6) →
      b.configured.ipv6 = false ∧ b.configured.mapt = false ∧ (b.configured.ipv4 → b.status = .up)
  | .ipv6Down, b => ¬ (b.ipv4 = .up ∧ b.conn4) →
      b.configured.ipv4 = false ∧ b.configured.mapt = false ∧ (b.configured.ipv6 → b.status = .up)
  | .dualStackDown, b => b.configured = {}
  | .maptFeatureRefresh, b => leased b.current →
      b.configured.ipv4 = false ∧ b.configured.mapt = false ∧ (b.configured.ipv6 → b.status = .up)
  | .maptDownRefresh, b => b.configured.ipv4 = false ∧ (b.configured.mapt → b.status = .up) ∧
      (b.configured.ipv6 → b.status = .up)
  | _, _ => True

instance (t : WanTransition) (b : Ledger) : Decidable (ObtainsClean t b) := by
  cases t <;> unfold ObtainsClean <;> infer_instance

/-! ## Where a move ends -/

theorem ipv4Up_fst (b : Ledger) : b.ipv4Up.1 = .dualStackActive ∨ b.ipv4Up.1 = .ipv4Leased := by
  rw [ipv4Up]
  split
  · exact .inl rfl
  · exact .inr rfl

theorem ipv6Up_fst (b : Ledger) : b.ipv6Up.1 = .dualStackActive ∨ b.ipv6Up.1 = .ipv6Leased := by
  rw [ipv6Up]
  split
  · exact .inl rfl
  · exact .inr rfl

theorem ipv4Down_fst (b : Ledger) :
    b.ipv4Down.1 = if b.ipv6 = .up ∧ b.conn6 then .ipv6Leased else .obtainingIpAddresses := by
  simp only [ipv4Down, ifUp, tearDown4]
  grind

theorem ipv6Down_fst (b : Ledger) :
    b.ipv6Down.1 = if b.ipv4 = .up ∧ b.conn4 then .ipv4Leased else .obtainingIpAddresses := by
  simp only [ipv6Down, ifUp, tearDown6]
  grind

theorem leftLease_featureRefresh (b : Ledger) : b.featureRefresh.leftLease = b.leftLease := by
  have hdown : b.ipv6Down.2.leftLease = b.leftLease := by
    simp only [ipv6Down, ifUp, tearDown6]
    grind
  exact hdown

/-- Activating a standby interface ends in a leased state or changes nothing. -/
theorem standbyUp_fst (b : Ledger) (ready : Bool) :
    leased (b.standbyUp ready).1 = true ∨ b.standbyUp ready = (.standby, b) := by
  have h4 : leased b.ipv4Up.1 = true := by
    rcases ipv4Up_fst b with h | h <;> rw [h] <;> rfl
  have h6 : leased b.ipv6Up.1 = true := by
    rcases ipv6Up_fst b with h | h <;> rw [h] <;> rfl
  have h64 : leased b.ipv6Up.2.ipv4Up.1 = true := by
    rcases ipv4Up_fst b.ipv6Up.2 with h | h <;> rw [h] <;> rfl
  simp only [standbyUp]
  split
  · split
    · exact .inl h64
    · exact .inl h6
  · split
    · exact .inl h4
    · exact .inr rfl

/-! ## What a move leaves behind -/

/-- Moves to a state without a lease: the interface is given up, the machine stays where it is, or it
was without a lease already. -/
theorem Move.to_idle {G : WanTransition → Ledger → Prop} (h : Move G st b st' b')
    (hst' : mayBeUsable st' = false) :
    (G .physicalInterfaceDown b ∧ b' = b.familiesDown) ∨ (st' = st ∧ Stays st b b') ∨
      (mayBeUsable st = false ∧ (givenUp st' = true → givenUp st = true) ∧ b'.configured = b.configured ∧
        (b'.status = b.status ∨ b'.status = .validating ∨ b'.status = .disabled)) := by
  cases h with
  | down hg => exact .inl ⟨hg, rfl⟩
  | giveUp hg => exact .inl ⟨hg, rfl⟩
  | keep _ hstays => exact .inr (.inl ⟨rfl, hstays⟩)
  | pppConfigure => exact .inr (.inr ⟨rfl, nofun, rfl, .inl rfl⟩)
  | wanUp => exact .inr (.inr ⟨rfl, nofun, rfl, .inr (.inl rfl)⟩)
  | refreshed => exact .inr (.inr ⟨rfl, nofun, rfl, .inl rfl⟩)
  | exit => exact .inr (.inr ⟨rfl, fun _ => rfl, rfl, .inr (.inr rfl)⟩)
  | exited hstatus hconf => exact .inr (.inr ⟨rfl, fun _ => rfl, hconf, .inl hstatus⟩)
  | ipv4Up _ _ => rcases ipv4Up_fst b with h | h <;> rw [h] at hst' <;> cases hst'
  | ipv6Up _ _ => rcases ipv6Up_fst b with h | h <;> rw [h] at hst' <;> cases hst'
  | @standbyUp _ ready _ =>
    rcases standbyUp_fst b ready with h | h
    · rw [mayBeUsable_of_leased h] at hst'; cases hst'
    · rw [h] at hst'; cases hst'
  | ipv4Down _ _ => rw [ipv4Down_fst] at hst'; split at hst' <;> cases hst'
  | ipv6Down _ _ => rw [ipv6Down_fst] at hst'; split at hst' <;> cases hst'
  | maptFails hst _ => rcases hst with rfl | rfl <;> cases hst'
  | maptRefused hst _ => rcases hst with rfl | rfl <;> cases hst'
  | _ => cases hst'

/-- Moves to a state that has given the interface up leave nothing behind, if giving it up
does not. -/
theorem Move.givenUp_clean {G : WanTransition → Ledger → Prop} (h : Move G st b st' b')
    (hG : ∀ b, G .physicalInterfaceDown b → b.GivesUpClean) (hst' : givenUp st' = true)
    (hclean : givenUp st = true → b.configured = {}) : b'.configured = {} := by
  obtain ⟨hg, rfl⟩ | ⟨rfl, hstays⟩ | ⟨-, hgiven, hconf, -⟩ := h.to_idle (not_mayBeUsable_of_givenUp hst')
  · exact b.familiesDown_clean.mpr (hG b hg)
  · have hnot : leased st' = false := by
      cases hl : leased st' with
      | false => rfl
      | true =>
        have husable := mayBeUsable_of_leased hl
        rw [not_mayBeUsable_of_givenUp hst'] at husable
        cases husable
    rw [hstays.configured hnot]
    exact hclean hst'
  · rw [hconf]
    exact hclean (hgiven hst')

theorem Move.from_exit {G : WanTransition → Ledger → Prop} (h : Move G .exit b st' b') :
    givenUp st' = true := by
  cases h with
  | ipv4Up hst _ => rcases hst with h | h <;> cases h
  | ipv6Up hst _ => rcases hst with h | h <;> cases h
  | maptUp hst _ => rcases hst with h | h <;> cases h
  | maptFails hst _ => rcases hst with h | h <;> cases h
  | maptRefused hst _ => rcases hst with h | h <;> cases h
  | ipv4Down _ hst => cases hst
  | ipv6Down _ hst => cases hst
  | standbyDeconfig _ hst => cases hst
  | refresh _ hst => rcases hst with h | ⟨h, -⟩ <;> cases h
  | _ => rfl

/-- A lease that ends in standby is left by `wan_transition_standby_deconfig_ips`. -/
theorem Move.leased_standby {G : WanTransition → Ledger → Prop} (h : Move G st b st' b')
    (hst : leased st = true) (hst' : st' = .standby) : b' = b.standbyDeconfig := by
  cases h with
  | standbyDeconfig _ _ => rfl
  | keep _ _ => rw [hst'] at hst; cases hst
  | ipv4Up _ _ => rcases ipv4Up_fst b with h | h <;> rw [h] at hst' <;> cases hst'
  | ipv6Up _ _ => rcases ipv6Up_fst b with h | h <;> rw [h] at hst' <;> cases hst'
  | ipv4Down _ _ => rw [ipv4Down_fst] at hst'; split at hst' <;> cases hst'
  | ipv6Down _ _ => rw [ipv6Down_fst] at hst'; split at hst' <;> cases hst'
  | maptFails _ _ => rw [hst'] at hst; cases hst
  | maptRefused _ _ => rw [hst'] at hst; cases hst
  | standby _ => cases hst
  | standbyUp _ => cases hst
  | _ => cases hst'

/-- Moves of a machine that left a lease to obtain addresses leave nothing behind, if its
teardowns do not. -/
theorem Move.obtaining_clean (h : Move ObtainsClean st b st' b') (hcur : b.current = st)
    (hst' : st' = .obtainingIpAddresses) (hleft : leased st = true ∨ b'.leftLease = true)
    (hnot : leased st = false → st = .obtainingIpAddresses)
    (hclean : st = .obtainingIpAddresses → b.leftLease = true → b.configured = {}) :
    b'.configured = {} := by
  cases h with
  | keep _ hstays =>
    subst hst'
    have hleft : b.leftLease = true := by
      rcases hleft with h | h
      · cases h
      · rw [← hstays.leftLease]; exact h
    rw [hstays.configured rfl]
    exact hclean rfl hleft
  | expired _ =>
    rcases hleft with h | h
    · cases h
    · exact hclean rfl h
  | refresh hg _ =>
    rw [featureRefresh, ipv6Down_clean]
    cases hl : leased st with
    | true => exact hg (hcur ▸ hl)
    | false =>
      obtain rfl := hnot hl
      rcases hleft with hobt | hobt
      · cases hobt
      · have hempty := hclean rfl ((leftLease_featureRefresh b).symm.trans hobt)
        rw [hempty]
        exact ⟨rfl, rfl, fun h => by cases h⟩
  | ipv4Down hg _ =>
    rw [ipv4Down_fst] at hst'
    rw [ipv4Down_clean]
    refine hg fun h6 => ?_
    rw [if_pos h6] at hst'
    cases hst'
  | ipv6Down hg _ =>
    rw [ipv6Down_fst] at hst'
    rw [ipv6Down_clean]
    refine hg fun h4 => ?_
    rw [if_pos h4] at hst'
    cases hst'
  | dualStackDown hg => rw [dualStackDown_configured]; exact hg
  | maptDownRefresh hg => exact b.maptDownRefresh_clean.mpr hg
  | ipv4Up _ _ => rcases ipv4Up_fst b with h | h <;> rw [h] at hst' <;> cases hst'
  | ipv6Up _ _ => rcases ipv6Up_fst b with h | h <;> rw [h] at hst' <;> cases hst'
  | maptFails hst _ => rcases hst with rfl | rfl <;> cases hst'
  | maptRefused hst _ => rcases hst with rfl | rfl <;> cases hst'
  | lost _ => cases hnot rfl
  | standbyUp _ => cases hnot rfl
  | validated _ _ => cases hnot rfl
  | _ => cases hst'

end Ledger

/-! ## Runs -/

variable {s u : Vism} {st : WanState}

/-- What every tick keeps, whatever happened before it, holds at the end of every tick. -/
theorem vismMachine_invariant {G : WanTransition → Ledger → Prop} {I : Vism → Prop}
    (hr : vismMachine.Reach (guardOf G) vismCreated s) (hinit : ∀ s, vismCreated s → I s)
    (hstep : ∀ s u s', I s → vismMachine.env s u → Ticked G u s' → I s') : I s :=
  hr.invariant hinit fun s hs u henv hadm => hstep s u _ hs henv (vismTick_ticked G u u rfl hadm)

/-- The machine has given the interface up, or has ended. -/
def phaseGivenUp : VismPhase → Bool
  | .running st => givenUp st
  | .exited => true
  | .absent | .created => false

def givesUpClean (t : WanTransition) (b : Ledger) : Prop :=
  t = .physicalInterfaceDown → b.GivesUpClean

instance (t : WanTransition) (b : Ledger) : Decidable (givesUpClean t b) :=
  inferInstanceAs (Decidable (_ → _))

namespace Example

/-- An active interface over a VLAN that is up. -/
def created : Vism where
  selection := { status := .active }
  virtIf := { vlan := { enable := true, status := .up } }

def wait : vismMachine.Change := ⟨id, fun _ => ⟨rfl, rfl, rfl⟩⟩

def leases (v4 v6 : LeaseStatus) : vismMachine.Change where
  edit s := s.mapIp fun ip => { ip with ipv4Status := v4, ipv6Status := v6 }
  allowed _ := ⟨rfl, rfl, rfl⟩

/-- The physical link goes down, and the IPv4 lease is `v4` by then. -/
def phyDown (v4 : LeaseStatus) : vismMachine.Change where
  edit s := { (s.mapIp fun ip => { ip with ipv4Status := v4 }) with baseInterfaceStatus := .down }
  allowed _ := ⟨rfl, rfl, rfl⟩

/-- Another interface becomes the active one, and the IPv6 lease is `v6` by then. -/
def deactivated (v6 : LeaseStatus) : vismMachine.Change where
  edit s := { (s.mapIp fun ip => { ip with ipv6Status := v6 }) with selection.status := .selected }
  allowed _ := ⟨rfl, rfl, rfl⟩

def vlanLost : vismMachine.Change where
  edit s := s.mapVlan fun v => { v with status := .down }
  allowed _ := ⟨rfl, rfl, rfl⟩

def ipv4Run : List vismMachine.Change := [wait, wait, wait, wait, leases .up .down]

def dualStackRun : List vismMachine.Change := [wait, wait, wait, wait, leases .up .up, wait]

end Example

/-- Nothing is configured on an interface that was given up, in the runs that find every
configured family torn down by giving it up. -/
theorem nothing_left_configured (hr : vismMachine.Reach (guardOf givesUpClean) vismCreated s)
    (hphase : phaseGivenUp s.phase = true) : s.configured = {} := by
  refine vismMachine_invariant (I := fun s => phaseGivenUp s.phase = true → s.configured = {}) hr
    (fun s hs _ => hs.2.1) (fun s u s' hs henv htick hphase => ?_) hphase
  obtain ⟨hphaseEq, hconfEq, -⟩ := henv
  rw [← hphaseEq, ← hconfEq] at hs
  cases htick with
  | start _ hvlan _ => rw [hvlan] at hphase; cases hphase
  | gone _ => exact hs hphase
  | @move st st' b _ hst hmove hst' hledger =>
    have hconf : s'.configured = b.configured := congrArg Ledger.configured hledger
    rw [hconf]
    rw [hst] at hs
    refine hmove.givenUp_clean (fun b hg => hg rfl) ?_ hs
    rw [hst'] at hphase
    split at hphase
    · next hexit =>
      subst hexit
      exact hmove.from_exit
    · exact hphase

open Example in
theorem nothing_left_configured_run :
    (vismMachine.play (ipv4Run ++ [phyDown .up]) created).phase = .running .deconfiguringWan ∧
      (vismMachine.play (ipv4Run ++ [phyDown .up]) created).configured = {} :=
  ⟨by decide +kernel, nothing_left_configured
    (.play (.start ⟨rfl, rfl, rfl⟩) (by decide +kernel)) (by decide +kernel)⟩

open Example in
/-- A lease that is lost in the tick that gives the interface up stays configured. -/
theorem lost_lease_left_configured :
    ¬ ∀ s, vismMachine.Reach (fun _ _ => True) vismCreated s → phaseGivenUp s.phase = true →
      s.configured = {} := by
  intro h
  have hrun := h _ (.play (m := ipv4Run ++ [phyDown .down]) (.start (s := created) ⟨rfl, rfl, rfl⟩)
    (Reactive.plays_true _ _)) (by decide +kernel)
  have hconf : (vismMachine.play (ipv4Run ++ [phyDown .down]) created).configured.ipv4 = true := by
    decide +kernel
  rw [hrun] at hconf
  cases hconf

/-- A lease whose interface goes to standby is torn down in full exactly if every
configured family still has its lease. -/
theorem standby_deconfigured
    (ht : vismMachine.Ticks (fun _ _ => True) vismCreated u s) (hu : u.phase = .running st)
    (hst : leased st = true) (hs : s.phase = .running .standby) :
    s.configured = {} ↔ (ledger u).StandsByClean := by
  have htick : Ticked (fun _ _ => True) u s :=
    ht.ensures fun u v hv hadm =>
      vismTick_ticked _ u v hv (hadm.mono fun l s _ => guardOf_true l s)
  cases htick with
  | start hcreated _ _ => rw [hu] at hcreated; cases hcreated
  | gone hgone => rcases hgone with h | h <;> rw [hu] at h <;> cases h
  | @move st₀ st' b _ hst₀ hmove hst' hledger =>
    obtain rfl : st = st₀ := by
      rw [hu] at hst₀
      exact VismPhase.running.inj hst₀
    have hstandby : st' = .standby := by
      rw [hst', if_neg fun h => by rw [h] at hst; cases hst] at hs
      exact VismPhase.running.inj hs
    have hb := hmove.leased_standby hst hstandby
    have hconf : s.configured = b.configured := congrArg Ledger.configured hledger
    rw [hconf, hb]
    exact Ledger.standbyDeconfig_clean _

open Example in
theorem standby_deconfigured_run :
    let u := (deactivated .up).edit (vismMachine.play dualStackRun created)
    (vismTick.run u).2.configured = {} ↔ (ledger u).StandsByClean := by
  intro u
  have hphase : u.phase = .running .dualStackActive := by decide +kernel
  exact standby_deconfigured (.tick (.play (.start ⟨rfl, rfl, rfl⟩) (Reactive.plays_true _ _))
    ((deactivated .up).allowed _) (Prog.admits_true _ _)) hphase rfl (by decide +kernel)

open Example in
/-- The IPv6 lease of the interface is lost as it goes to standby, and stays configured. -/
theorem lost_lease_stands_by_configured :
    ¬ ∀ u s st, vismMachine.Ticks (fun _ _ => True) vismCreated u s → u.phase = .running st →
      leased st = true → s.phase = .running .standby → s.configured = {} := by
  intro h
  have hrun := h _ _ .dualStackActive
    (.tick (.play (m := dualStackRun) (.start (s := created) ⟨rfl, rfl, rfl⟩)
      (Reactive.plays_true _ _)) ((deactivated .down).allowed _) (Prog.admits_true _ _))
    (by decide +kernel) rfl (by decide +kernel)
  have hconf : (vismMachine.tick.run ((deactivated .down).edit
      (vismMachine.play dualStackRun created))).2.configured.ipv6 = true := by decide +kernel
  rw [hrun] at hconf
  cases hconf

/-- Nothing is configured on an interface that obtains addresses again after a lease, in
the runs whose teardowns meet `ObtainsClean`. -/
theorem obtaining_deconfigured (hr : vismMachine.Reach (guardOf Ledger.ObtainsClean) vismCreated s)
    (hphase : s.phase = .running .obtainingIpAddresses) (hleft : s.leftLease = true) :
    s.configured = {} := by
  refine vismMachine_invariant (I := fun s => s.phase = .running .obtainingIpAddresses →
    s.leftLease = true → s.configured = {}) hr (fun s hs _ _ => hs.2.1)
    (fun s u s' hs henv htick hphase hleft => ?_) hphase hleft
  obtain ⟨hphaseEq, hconfEq, hleftEq⟩ := henv
  rw [← hphaseEq, ← hconfEq, ← hleftEq] at hs
  cases htick with
  | start _ hvlan _ => rw [hvlan] at hphase; cases hphase
  | gone _ => exact hs hphase hleft
  | @move st st' b _ hst hmove hst' hledger =>
    have hconf : s'.configured = b.configured := congrArg Ledger.configured hledger
    have hleft' : s'.leftLease = (st' == .obtainingIpAddresses &&
        (leased st || (st == .obtainingIpAddresses && b.leftLease))) :=
      congrArg Ledger.leftLease hledger
    have hobt : st' = .obtainingIpAddresses := by
      rw [hst'] at hphase
      split at hphase
      · cases hphase
      · exact VismPhase.running.inj hphase
    rw [hleft, hobt] at hleft'
    rw [hconf]
    have hcases : leased st = true ∨ st = .obtainingIpAddresses ∧ b.leftLease = true := by
      simpa using hleft'
    refine hmove.obtaining_clean rfl hobt (hcases.imp_right And.right) ?_ ?_
    · intro hnot
      rcases hcases with h | h
      · rw [hnot] at h; cases h
      · exact h.1
    · intro hst₀ hleft₀
      exact hs (hst₀ ▸ hst) hleft₀

open Example in
theorem obtaining_deconfigured_run :
    (vismMachine.play (ipv4Run ++ [leases .down .down]) created).configured = {} :=
  obtaining_deconfigured (.play (.start ⟨rfl, rfl, rfl⟩) (by decide +kernel))
    (by decide +kernel) (by decide +kernel)

open Example in
/-- `wan_transition_dual_stack_down` leaves both families configured. -/
theorem dual_stack_left_configured :
    ¬ ∀ s, vismMachine.Reach (fun _ _ => True) vismCreated s →
      s.phase = .running .obtainingIpAddresses → s.leftLease = true → s.configured = {} := by
  intro h
  have hrun := h _ (.play (m := dualStackRun ++ [vlanLost]) (.start (s := created) ⟨rfl, rfl, rfl⟩)
    (Reactive.plays_true _ _)) (by decide +kernel) (by decide +kernel)
  have hconf : (vismMachine.play (dualStackRun ++ [vlanLost]) created).configured.ipv4 = true := by
    decide +kernel
  rw [hrun] at hconf
  cases hconf

end InterfaceSm
end WanManager
