import WanManager.BackupWan

/-! # What the backup machine's operations leave alone

Few operations of the backup machine have to do with the restoration timer or with the firewall
script: the others are shown here to keep both. -/

namespace WanManager

namespace BackupWan

/-- The restoration timer. -/
def Machine.timer (m : Machine) : Bool × Nat := (m.restorationDelayTimerStart, m.restorationDelayTimer)

/-- The timer, and the runs of the firewall script. -/
def Machine.ledger (m : Machine) : (Bool × Nat) × List Action := (m.timer, m.scripts)

section Frame

variable {m m' : Machine} {d : Iface} {f : Iface → Iface}

theorem timer_of_ledger (h : m'.ledger = m.ledger) : m'.timer = m.timer := congrArg Prod.fst h

theorem scripts_of_ledger (h : m'.ledger = m.ledger) : m'.scripts = m.scripts := congrArg Prod.snd h

/-! ## Operations -/

theorem ledger_modifyFixed : (m.modifyFixed f).ledger = m.ledger := by
  unfold Machine.modifyFixed
  split <;> rfl

theorem ledger_switchOverFailed : (switchOverFailed m).ledger = m.ledger := by
  unfold switchOverFailed
  split <;> rfl

theorem ledger_noLocalWan : (noLocalWan m).ledger = m.ledger := by
  unfold noLocalWan
  split
  · rfl
  · exact ledger_switchOverFailed

theorem ledger_tearDown (d : Iface) : (tearDown d m).ledger = m.ledger := by
  unfold tearDown
  dsimp only
  split
  · exact ledger_modifyFixed.trans ledger_modifyFixed
  · exact ledger_modifyFixed

theorem ledger_retrigger : (retriggerPrimaryValidation m).2.ledger = m.ledger := by
  unfold retriggerPrimaryValidation
  split
  · rfl
  · split <;> rfl

theorem firewallRuleConfig_configure (name : String) (m : Machine) :
    firewallRuleConfig .configure name m = (true, { m with scripts := m.scripts ++ [.configure] }) := by
  unfold firewallRuleConfig
  exact if_pos (.inl rfl)

theorem timer_takeBackRules (name : String) : (takeBackRules name m).timer = m.timer := by
  have hrules : (firewallRuleConfig .deconfigure name m).2.timer = m.timer := by
    unfold firewallRuleConfig
    dsimp only
    split <;> rfl
  unfold takeBackRules delBackUpIpv6Route
  dsimp only
  split
  · split <;> exact hrules
  · exact hrules

theorem modifyFixed_eq {i : Nat} (h : m.locked = some i) : m.modifyFixed f = m.modifyIface i f := by
  rw [Machine.modifyFixed, h]

theorem modifyFixed_id (m : Machine) : m.modifyFixed (·.setIp id) = m := by
  unfold Machine.modifyFixed
  split
  · next i hi =>
    have hsame : m.ifaces.modify i (·.setIp id) = m.ifaces := List.modify_id i m.ifaces
    rw [Machine.modifyIface, hsame]
  · rfl

theorem stopTad_eq (m : Machine) : ∃ g, stopTad m = m.modifyFixed (·.setIp g) := by
  unfold stopTad
  split
  · exact ⟨id, (modifyFixed_id m).symm⟩
  · split
    · exact ⟨fun ip => { ip with
        ipv4ConnectivityStatus := .down, ipv6ConnectivityStatus := .down
        wccTypeChanged := false, restartConnectivityCheck := false }, rfl⟩
    · exact ⟨id, (modifyFixed_id m).symm⟩

theorem restartTad_eq (m : Machine) : ∃ g, restartTad m = m.modifyFixed (·.setIp g) := by
  unfold restartTad
  split
  · exact ⟨id, (modifyFixed_id m).symm⟩
  · split
    · exact ⟨_, rfl⟩
    · exact ⟨id, (modifyFixed_id m).symm⟩

theorem startPendingTad_eq (m : Machine) : ∃ g, startPendingTad m = m.modifyFixed (·.setIp g) := by
  unfold startPendingTad
  split
  · exact ⟨_, rfl⟩
  · exact ⟨id, (modifyFixed_id m).symm⟩

/-- The connectivity check is all that changes before the tests of a state. -/
theorem updateTad_eq (d : Iface) (m : Machine) : ∃ g, updateTad d m = m.modifyFixed (·.setIp g) := by
  unfold updateTad
  split
  · exact stopTad_eq m
  · split
    · exact startPendingTad_eq m
    · exact restartTad_eq m

theorem modifyFixed_setIp (g g' : IfaceIp → IfaceIp) (m : Machine) :
    (m.modifyFixed (·.setIp g)).modifyFixed (·.setIp g') = m.modifyFixed (·.setIp (g' ∘ g)) := by
  cases hl : m.locked with
  | none =>
    have hnone (f : Iface → Iface) : m.modifyFixed f = m := by rw [Machine.modifyFixed, hl]
    rw [hnone, hnone, hnone]
  | some i =>
    rw [modifyFixed_eq hl, modifyFixed_eq hl, modifyFixed_eq (m := m.modifyIface i (·.setIp g)) hl]
    unfold Machine.modifyIface
    dsimp only
    rw [List.modify_modify_eq]
    rfl

theorem updateActiveTad_eq (d : Iface) (m : Machine) :
    ∃ g, updateActiveTad d m = m.modifyFixed (·.setIp g) := by
  unfold updateActiveTad
  split
  · exact stopTad_eq m
  · split
    · obtain ⟨g, hg⟩ := startPendingTad_eq m
      obtain ⟨g', hg'⟩ := restartTad_eq (startPendingTad m)
      exact ⟨g' ∘ g, by rw [hg', hg, modifyFixed_setIp]⟩
    · exact restartTad_eq m

theorem ledger_updateTad (d : Iface) : (updateTad d m).ledger = m.ledger := by
  obtain ⟨g, hg⟩ := updateTad_eq d m
  rw [hg]
  exact ledger_modifyFixed

theorem fixed_modifyFixed (hd : m.fixed? = some d) : (m.modifyFixed f).fixed? = some (f d) := by
  unfold Machine.fixed? at hd ⊢
  cases hl : m.locked with
  | none => simp [hl] at hd
  | some i =>
    rw [hl, Option.bind_some] at hd
    simp [Machine.modifyFixed, Machine.modifyIface, hl, hd]

theorem outside_modifyFixed : (m.modifyFixed f).outside = m.outside := by
  unfold Machine.modifyFixed
  split <;> rfl

/-! ## Transitions -/

theorem ledger_transitionSelected : (transitionBackupWanInterfaceSelected m).2.ledger = m.ledger := by
  unfold transitionBackupWanInterfaceSelected
  split
  · rfl
  · exact ledger_modifyFixed

theorem ledger_transitionValidating : (transitionValidatingBackupWanInterface m).2.ledger = m.ledger := by
  unfold transitionValidatingBackupWanInterface
  split
  · rfl
  · split <;> rfl

theorem ledger_transitionAvailable : (transitionBackupWanAvailable m).2.ledger = m.ledger := by
  unfold transitionBackupWanAvailable
  split
  · rfl
  · dsimp only
    split
    · exact ledger_modifyFixed.trans ledger_modifyFixed
    · exact ledger_modifyFixed

theorem ledger_transitionUp : (transitionBackupWanInterfaceUp m).2.ledger = m.ledger := by
  unfold transitionBackupWanInterfaceUp
  split
  · rfl
  · split
    · rfl
    · exact ledger_modifyFixed

/-- The states in which the interface is not used yet leave timer and rules alone, or go down. -/
theorem early_cases {st : State}
    (hst : st ∈ [.selectingInterface, .interfaceDown, .validatingInterface, .available]) :
    (stateFunction st m).2.ledger = m.ledger ∨
      stateFunction st m = transitionBackupWanInterfaceDown m := by
  simp only [List.mem_cons, List.not_mem_nil, or_false] at hst
  rcases hst with rfl | rfl | rfl | rfl
  · refine .inl ?_
    show (stateSelectingBackupWanInterface m).2.ledger = m.ledger
    unfold stateSelectingBackupWanInterface
    split
    · rfl
    · dsimp only
      split
      · exact ledger_transitionSelected
      · exact ledger_noLocalWan
  · refine .inl ?_
    show (stateBackupWanInterfaceDown m).2.ledger = m.ledger
    unfold stateBackupWanInterfaceDown
    split
    · rfl
    · split
      · rfl
      · split
        · dsimp only
          split
          · exact ledger_transitionValidating
          · exact ledger_noLocalWan.trans ledger_transitionValidating
        · exact ledger_noLocalWan
  · show (stateValidatingBackupWanInterface m).2.ledger = m.ledger ∨
      stateValidatingBackupWanInterface m = transitionBackupWanInterfaceDown m
    unfold stateValidatingBackupWanInterface
    split
    · exact .inl rfl
    · split
      · exact .inl rfl
      · split
        · exact .inr rfl
        · split
          · exact .inl ledger_transitionAvailable
          · exact .inl ledger_noLocalWan
  · show (stateBackupWanAvailable m).2.ledger = m.ledger ∨
      stateBackupWanAvailable m = transitionBackupWanInterfaceDown m
    unfold stateBackupWanAvailable
    split
    · exact .inl rfl
    · split
      · exact .inr rfl
      · dsimp only
        split
        · exact .inl (ledger_transitionUp.trans (ledger_updateTad _))
        · exact .inl (ledger_updateTad _)

/-- The states in which the interface is up but not active stay, go down or switch over. -/
theorem standby_cases {st : State} (hst : st = .interfaceUp ∨ st = .interfaceInactive) :
    (stateFunction st m).2.ledger = m.ledger ∨
      stateFunction st m = transitionBackupWanInterfaceDown m ∨
      ∃ g, stateFunction st m = transitionBackupWanInterfaceActive (m.modifyFixed (·.setIp g)) := by
  rcases hst with rfl | rfl
  · show (stateBackupWanInterfaceUp m).2.ledger = m.ledger ∨
      stateBackupWanInterfaceUp m = transitionBackupWanInterfaceDown m ∨
      ∃ g, stateBackupWanInterfaceUp m = transitionBackupWanInterfaceActive (m.modifyFixed (·.setIp g))
    unfold stateBackupWanInterfaceUp
    split
    · exact .inl rfl
    · next d hd =>
      obtain ⟨g, hg⟩ := updateTad_eq d m
      dsimp only
      split
      · exact .inr (.inl rfl)
      · split
        · exact .inr (.inr ⟨g, by rw [hg]⟩)
        · exact .inl (ledger_updateTad _)
  · show (stateBackupWanInterfaceInActive m).2.ledger = m.ledger ∨
      stateBackupWanInterfaceInActive m = transitionBackupWanInterfaceDown m ∨
      ∃ g, stateBackupWanInterfaceInActive m =
        transitionBackupWanInterfaceActive (m.modifyFixed (·.setIp g))
    unfold stateBackupWanInterfaceInActive
    split
    · exact .inl rfl
    · next d hd =>
      obtain ⟨g, hg⟩ := updateTad_eq d m
      dsimp only
      split
      · exact .inr (.inl rfl)
      · split
        · exact .inr (.inr ⟨g, by rw [hg]⟩)
        · exact .inl (ledger_updateTad _)

/-- Outside the two states in which the interface is in use. -/
theorem idle_cases {st : State} (hst : st ≠ .interfaceActive) (hst' : st ≠ .waiting) :
    (stateFunction st m).2.ledger = m.ledger ∨
      stateFunction st m = transitionBackupWanInterfaceDown m ∨
      ∃ g, stateFunction st m = transitionBackupWanInterfaceActive (m.modifyFixed (·.setIp g)) := by
  by_cases hstandby : st = .interfaceUp ∨ st = .interfaceInactive
  · exact standby_cases hstandby
  · have hearly : st ∈ [.selectingInterface, .interfaceDown, .validatingInterface, .available] := by
      cases st <;> simp at hst hst' hstandby ⊢
    rcases early_cases hearly with h | h
    · exact .inl h
    · exact .inr (.inl h)

/-- The machine waits for a local interface, goes back, or tries the backup interface again. -/
theorem waiting_eq {d : Iface} (hd : m.fixed? = some d) :
    stateBackupWanInterfaceWaitingPrimaryUp m =
      if ¬ m.wanEnable ∨ ¬ m.allowRemoteInterfaces then transitionBackupWanSelectingInterface m
      else if anyLocalWanIsPhysicallyActive m.ifaces ∧ (¬ d.tad ∨ primaryConnectivityCheckGood m.ifaces) then
        transitionBackupWanInterfaceDown m
      else if triesAgain (updateTad d m) then transitionBackupWanInterfaceActive (updateTad d m)
      else (.waiting, updateTad d m) := by
  unfold stateBackupWanInterfaceWaitingPrimaryUp transitionBackupWanInterfaceWaitingPrimaryUp
  rw [hd]

end Frame

end BackupWan

end WanManager
