import WanManager.ModePolicyFixed
import WanManager.BackupWanSelection

/-! # Which mode is kept, and when the device is rebooted

`last_wan_mode` is written when a machine starts for a fixed mode and when an interface comes up in the
automatic one. A reboot is asked for exactly when the automatic machine has changed it, and the machine
that runs after the reboot starts from the mode that was kept. -/

namespace WanManager

namespace ModePolicy
open BackupWan

/-! ## The ledger of the modes -/

/-- The modes, in memory and in syscfg, how often a reboot was asked for, and what neither machine
changes. -/
structure Ledger where
  modes : Modes
  stored : StoredModes
  reboots : Nat
  outside : Outside
  noReboot : Bool

def Machine.ledger (m : Machine) : Ledger :=
  ⟨m.modes, m.stored, m.requests.count .reboot, m.outside, m.noReboot⟩

section Frame

variable {m : Machine} {i : Nat} {d : Iface} {f : Iface → Iface} {rs : List Request} {st : State}

@[simp] theorem ledger_modifyIface (m : Machine) (i : Nat) (f : Iface → Iface) :
    (m.modifyIface i f).ledger = m.ledger := rfl

@[simp] theorem ledger_request (h : Request.reboot ∉ rs) : (m.request rs).ledger = m.ledger := by
  simp [Machine.ledger, Machine.request, List.count_eq_zero_of_not_mem h]

@[simp] theorem ledger_requestIf {r : Request} (h : r ≠ .reboot) (b : Bool) (m : Machine) :
    (m.requestIf b r).ledger = m.ledger := by
  cases b with
  | false => rfl
  | true => exact ledger_request (by simpa using h.symm)

@[simp] theorem ledger_setConnectivityCheckState (enable : Bool) (state : CheckState) (m : Machine) :
    (setConnectivityCheckState enable state m).ledger = m.ledger := rfl

@[simp] theorem ledger_startConnectivityCheck (d : Option Iface) (m : Machine) :
    (startConnectivityCheck d m).ledger = m.ledger := rfl

@[simp] theorem ledger_updateConfig (m : Machine) : (updateConfig m).ledger = m.ledger := rfl

@[simp] theorem ledger_restoreStatus (m : Machine) (s : SwitchOver) :
    ({ m with telemetryRestoreStatus := s } : Machine).ledger = m.ledger := rfl

@[simp] theorem ledger_backUpStatus (m : Machine) (s : SwitchOver) :
    ({ m with telemetryBackUpStatus := s } : Machine).ledger = m.ledger := rfl

@[simp] theorem ledger_dnsCheckWaitForRemoteInActive (d : Iface) (m : Machine) :
    (dnsCheckWaitForRemoteInActive d m).ledger = m.ledger := by
  unfold dnsCheckWaitForRemoteInActive
  split
  · split <;> simp
  · rfl

@[simp] theorem ledger_stopCheck (i : Nat) (d : Iface) (m : Machine) :
    (stopCheck i d m).2.ledger = m.ledger := by
  unfold stopCheck
  split <;> rfl

@[simp] theorem ledger_startCheck (i : Nat) (m : Machine) : (startCheck i m).2.ledger = m.ledger := by
  unfold startCheck
  split <;> rfl

@[simp] theorem ledger_restartCheck (event : WccEvent) (i : Nat) (m : Machine) :
    (restartCheck event i m).ledger = m.ledger := by
  unfold restartCheck
  split <;> rfl

@[simp] theorem ledger_failCheck (i : Nat) (d : Iface) (m : Machine) :
    (failCheck i d m).ledger = m.ledger := by
  unfold failCheck
  split <;> simp

@[simp] theorem ledger_beginCheck (i : Nat) (d : Iface) (m : Machine) :
    (beginCheck i d m).ledger = m.ledger := by
  unfold beginCheck
  split <;> simp

@[simp] theorem ledger_leaveToBackup (d : Iface) (m : Machine) :
    (leaveToBackup d m).ledger = m.ledger := by
  simp [leaveToBackup]

@[simp] theorem ledger_linkDown (i : Nat) (d : Iface) (m : Machine) :
    (linkDown i d m).ledger = m.ledger := by
  simp [linkDown]

@[simp] theorem ledger_switchOverDone (m : Machine) : (switchOverDone m).ledger = m.ledger := by
  unfold switchOverDone
  split <;> rfl

@[simp] theorem ledger_upCheck (i : Nat) (d : Iface) (m : Machine) :
    (upCheck i d m).ledger = m.ledger := by
  unfold upCheck
  split
  · simp
  · split
    · split <;> simp
    · rfl

@[simp] theorem ledger_fixedUpCheck (i : Nat) (d : Iface) (m : Machine) :
    (fixedUpCheck i d m).ledger = m.ledger := by
  unfold fixedUpCheck
  split
  · simp
  · split <;> simp

@[simp] theorem ledger_activeCheck (i : Nat) (d : Iface) (m : Machine) :
    (activeCheck i d m).ledger = m.ledger := by
  unfold activeCheck
  split
  · split
    · dsimp only
      split <;> simp
    · rfl
  · dsimp only
    split <;> simp

@[simp] theorem ledger_restartActiveCheck (i : Nat) (m : Machine) :
    (restartActiveCheck i m).ledger = m.ledger := by
  unfold restartActiveCheck
  split <;> simp

@[simp] theorem ledger_startWanClients (d : Iface) (m : Machine) :
    (startWanClients d m).ledger = m.ledger := by
  unfold startWanClients
  split
  · split
    · split <;> simp
    · split
      · simp
      · split <;> simp
  · split
    · split <;> simp
    · simp
  · rfl

@[simp] theorem ledger_startScan (i : Nat) (d : Iface) (m : Machine) :
    (startScan i d m).2.ledger = m.ledger := by
  unfold startScan
  dsimp only
  split <;> simp

@[simp] theorem ledger_cfgPostWanSelection (m : Machine) :
    (cfgPostWanSelection m).ledger = m.ledger := by
  unfold cfgPostWanSelection
  apply ledger_request
  simp

/-! ## Transitions -/

@[simp] theorem ledger_transitionWanInterfaceTearDown (m : Machine) :
    (transitionWanInterfaceTearDown m).2.ledger = m.ledger := by
  unfold transitionWanInterfaceTearDown
  split <;> simp

@[simp] theorem ledger_transitionWaitingForInterface (i : Nat) (m : Machine) :
    (transitionWaitingForInterface i m).2.ledger = m.ledger := by
  simp [transitionWaitingForInterface]

@[simp] theorem ledger_transitionWanInterfacePhyUp (m : Machine) :
    (transitionWanInterfacePhyUp m).2.ledger = m.ledger := by
  unfold transitionWanInterfacePhyUp
  split <;> simp

@[simp] theorem ledger_transitionWanInterfaceConfigured (m : Machine) :
    (transitionWanInterfaceConfigured m).2.ledger = m.ledger := by
  unfold transitionWanInterfaceConfigured
  split <;> simp

@[simp] theorem ledger_transitionDnsConnectivityCheckUp (m : Machine) :
    (transitionDnsConnectivityCheckUp m).2.ledger = m.ledger := by
  unfold transitionDnsConnectivityCheckUp
  split
  · rfl
  · dsimp only
    split <;> simp

@[simp] theorem ledger_transitionWanInterfaceActive (m : Machine) :
    (transitionWanInterfaceActive m).2.ledger = m.ledger := by
  unfold transitionWanInterfaceActive
  split <;> simp

@[simp] theorem ledger_validateInterface (st : State) (m : Machine) :
    (validateInterface st m).2.ledger = m.ledger := by
  unfold validateInterface transitionWanInterfaceValidating
  split
  · rfl
  · split
    · rfl
    · dsimp only
      split <;> split <;> simp

@[simp] theorem ledger_transitionWanInterfaceSelected (m : Machine) :
    (transitionWanInterfaceSelected m).2.ledger = m.ledger := by
  unfold transitionWanInterfaceSelected
  split <;> simp

@[simp] theorem ledger_transitionFixedWanInterfaceDown (m : Machine) :
    (transitionFixedWanInterfaceDown m).2.ledger = m.ledger := by
  unfold transitionFixedWanInterfaceDown
  split <;> simp

@[simp] theorem ledger_transitionFixedWanInterfaceUp (m : Machine) :
    (transitionFixedWanInterfaceUp m).2.ledger = m.ledger := by
  unfold transitionFixedWanInterfaceUp
  split <;> simp

@[simp] theorem ledger_transitionFixedDnsConnectivityCheckUp (m : Machine) :
    (transitionFixedDnsConnectivityCheckUp m).2.ledger = m.ledger := by
  unfold transitionFixedDnsConnectivityCheckUp
  split
  · rfl
  · dsimp only
    split <;> simp

end Frame

/-! ## An interface comes up -/

/-- A mode is kept, and a reboot asked for if it is another one. -/
def Locks (l l' : Ledger) : Prop :=
  ∃ mode, mode ≠ .unknown ∧ l' = { l with
    modes := { l.modes with current := mode, lastKnown := mode }
    stored := { l.stored with current := some mode, lastKnown := some mode }
    reboots := l.reboots + if mode = l.modes.lastKnown then 0 else 1 }

/-- What a tick does to the ledger. -/
def Turns (l l' : Ledger) : Prop := l' = l ∨ Locks l l'

section Up

variable {m : Machine}

theorem Turns.of_eq {l l' : Ledger} (h : l' = l) : Turns l l' := .inl h

theorem lockMode_turns (d : Iface) (hset : m.outside.syscfgSet = true)
    (hreboot : d.selection.requiresReboot = true) : Turns m.ledger (lockMode d m).ledger := by
  unfold lockMode setCurrentWanMode setLastKnownWanMode
  cases hmode : m.modes.lastKnown with
  | primary =>
    right
    by_cases htype : d.wanType = .secondary <;>
      simp [Locks, htype, hset, hreboot, Machine.ledger, Machine.request, hmode]
  | secondary =>
    right
    by_cases htype : d.wanType = .primary <;>
      simp [Locks, htype, hset, hreboot, Machine.ledger, Machine.request, hmode]
  | auto => exact .inl rfl
  | unknown => exact .inl rfl

theorem transitionWanInterfaceUp_turns (hset : m.outside.syscfgSet = true) (hno : m.noReboot = false) :
    Turns m.ledger (transitionWanInterfaceUp m).2.ledger := by
  unfold transitionWanInterfaceUp
  split
  · exact .inl rfl
  · next i d h =>
    have hlock := lockMode_turns (m := beginCheck i d (m.modifyIface i (Iface.comeUp m.noReboot)))
      (Iface.comeUp m.noReboot d) (by unfold beginCheck; split <;> exact hset) (by simp [Iface.comeUp, hno])
    rw [ledger_beginCheck, ledger_modifyIface] at hlock
    dsimp only
    split
    · simpa using hlock
    · exact hlock

end Up

/-! ## States -/

section States

variable {m : Machine}

theorem ledger_selectAlternateInterface (m : Machine) : (selectAlternateInterface m).2.ledger = m.ledger := by
  unfold selectAlternateInterface
  split
  · rfl
  · split
    · rfl
    · rw [ledger_transitionWaitingForInterface]
      rfl

theorem ledger_stateWaitingForInterface (m : Machine) : (stateWaitingForInterface m).2.ledger = m.ledger := by
  unfold stateWaitingForInterface
  split
  · rfl
  · split
    · simp
    · split
      · dsimp only
        split
        · simp
        · split
          · simp
          · split <;> simp
      · simp
      · rfl
      · rfl

theorem ledger_stateWanConfiguringInterface (m : Machine) :
    (stateWanConfiguringInterface m).2.ledger = m.ledger := by
  unfold stateWanConfiguringInterface
  split
  · rfl
  · next i d h =>
    split
    · simp
    · dsimp only
      split
      · simp
      · split
        · simp
        · split <;> simp

theorem ledger_stateWanDeConfiguringInterface (m : Machine) :
    (stateWanDeConfiguringInterface m).2.ledger = m.ledger := by
  unfold stateWanDeConfiguringInterface
  split
  · rfl
  · next i d h =>
    split
    · simp
    · simp

theorem ledger_stateWanInterfaceActive (m : Machine) : (stateWanInterfaceActive m).2.ledger = m.ledger := by
  unfold stateWanInterfaceActive
  split
  · rfl
  · split
    · simp
    · split
      · simp
      · dsimp only
        split <;> simp

@[simp] theorem ledger_configureV6 (d : Iface) (m : Machine) : (configureV6 d m).ledger = m.ledger := by
  unfold configureV6
  split
  · exact ledger_request (m := m) (by simp)
  · rfl

@[simp] theorem ledger_v6Configured (m : Machine) (b : Bool) :
    ({ m with v6Configured := b } : Machine).ledger = m.ledger := rfl

theorem ledger_stateWanInterfaceUp (m : Machine) : (stateWanInterfaceUp m).2.ledger = m.ledger := by
  unfold stateWanInterfaceUp
  split
  · rfl
  · next i d h =>
    split
    · simp
    · split
      · simp
      · generalize hchecked : (if d.tad then upCheck i d m
          else (stopCheck i d (dnsCheckWaitForRemoteInActive d m)).2) = checked
        have hledger : checked.ledger = m.ledger := by
          subst hchecked
          split <;> simp
        dsimp only
        split
        · split <;> simp [hledger]
        · simp [hledger]

theorem ledger_stateAutoWanInterfaceValidated (m : Machine) :
    (stateAutoWanInterfaceValidated m).2.ledger = m.ledger := by
  unfold stateAutoWanInterfaceValidated
  split
  · rfl
  · split
    · simp
    · split
      · rfl
      · split <;> simp

theorem ledger_stateWanInterfaceTearDown (m : Machine) : (stateWanInterfaceTearDown m).2.ledger = m.ledger := by
  unfold stateWanInterfaceTearDown
  split
  · rfl
  · split
    · rfl
    · split
      · rfl
      · split <;> rfl

theorem stateWanScanningInterface_turns (hset : m.outside.syscfgSet = true) (hno : m.noReboot = false) :
    Turns m.ledger (stateWanScanningInterface m).2.ledger := by
  unfold stateWanScanningInterface
  split
  · exact .inl rfl
  · split
    · exact .inl (ledger_transitionWanInterfaceTearDown m)
    · split
      · have hup := transitionWanInterfaceUp_turns (m := cfgPostWanSelection (switchOverDone m))
          (by unfold switchOverDone; split <;> exact hset) (by unfold switchOverDone; split <;> exact hno)
        rwa [ledger_cfgPostWanSelection, ledger_switchOverDone] at hup
      · dsimp only
        split <;> exact .inl rfl
      · exact .inl rfl

theorem stateWanInterfaceDown_turns (hset : m.outside.syscfgSet = true) (hno : m.noReboot = false) :
    Turns m.ledger (stateWanInterfaceDown m).2.ledger := by
  unfold stateWanInterfaceDown
  split
  · exact .inl rfl
  · split
    · exact .inl (ledger_transitionWanInterfaceTearDown m)
    · split
      · dsimp only
        split
        · exact .inl (by simp)
        · split
          · have hup := transitionWanInterfaceUp_turns
              (m := { m with telemetryBackUpStatus := .stoped }.request [.wanStart, .sshdRestart]) hset hno
            rwa [ledger_request (by simp)] at hup
          · exact .inl rfl
      · exact .inl rfl

theorem stateWanInterfaceValidated_turns (hset : m.outside.syscfgSet = true) (hno : m.noReboot = false) :
    Turns m.ledger (stateWanInterfaceValidated m).2.ledger := by
  unfold stateWanInterfaceValidated
  split
  · exact .inl rfl
  · split
    · exact .inl (ledger_transitionWanInterfaceTearDown m)
    · split
      · exact .inl rfl
      · split
        · dsimp only
          split
          · have hup := transitionWanInterfaceUp_turns
              (m := { (m.request [.wanStart]).request [.sshdRestart] with telemetryRestoreStatus := .started })
              hset hno
            simpa using hup
          · exact .inl (ledger_request (by simp))
        · exact .inl rfl

theorem autoTick_turns (hset : m.outside.syscfgSet = true) (hno : m.noReboot = false) :
    Turns m.ledger (autoTick m).ledger := by
  show Turns (updateConfig m).ledger (autoFunction m.st (updateConfig m)).2.ledger
  cases m.st with
  | selectingInterface => exact .inl (ledger_selectAlternateInterface _)
  | waitingForInterface => exact .inl (ledger_stateWaitingForInterface _)
  | configuringInterface => exact .inl (ledger_stateWanConfiguringInterface _)
  | scanningInterface => exact stateWanScanningInterface_turns hset hno
  | deconfiguringInterface => exact .inl (ledger_stateWanDeConfiguringInterface _)
  | interfaceActive => exact .inl (ledger_stateWanInterfaceActive _)
  | interfaceUp => exact .inl (ledger_stateWanInterfaceUp _)
  | interfaceDown => exact stateWanInterfaceDown_turns hset hno
  | interfaceTeardown => exact .inl (ledger_stateWanInterfaceTearDown _)
  | autoWanValidatedInterface => exact .inl (ledger_stateAutoWanInterfaceValidated _)
  | validatedInterface => exact stateWanInterfaceValidated_turns hset hno
  | exit => exact .inl rfl

end States

section Fixed

variable {m : Machine}

@[simp] theorem ledger_configureV6Fixed (d : Iface) (m : Machine) :
    (configureV6Fixed d m).ledger = m.ledger := by
  unfold configureV6Fixed
  split
  · exact ledger_request (m := m) (by simp)
  · rfl

@[simp] theorem ledger_v6ConfiguredFixed (m : Machine) (b : Bool) :
    ({ m with v6ConfiguredFixed := b } : Machine).ledger = m.ledger := rfl

theorem ledger_stateSelectingWanInterface (m : Machine) :
    (stateSelectingWanInterface m).2.ledger = m.ledger := by
  unfold stateSelectingWanInterface
  dsimp only
  split
  · exact ledger_transitionWanInterfaceSelected _
  · rfl

theorem ledger_stateFixedWanInterfaceDown (m : Machine) :
    (stateFixedWanInterfaceDown m).2.ledger = m.ledger := by
  unfold stateFixedWanInterfaceDown
  split
  · rfl
  · split
    · simp
    · split
      · dsimp only
        split
        · simp
        · split <;> simp
      · rfl

theorem ledger_stateFixedWanInterfaceUp (m : Machine) : (stateFixedWanInterfaceUp m).2.ledger = m.ledger := by
  unfold stateFixedWanInterfaceUp
  split
  · rfl
  · split
    · simp
    · split
      · simp
      · dsimp only
        split
        · split <;> simp
        · simp

theorem ledger_stateFixedWanInterfaceActive (m : Machine) :
    (stateFixedWanInterfaceActive m).2.ledger = m.ledger := by
  unfold stateFixedWanInterfaceActive
  split
  · rfl
  · split
    · simp
    · split
      · simp
      · dsimp only
        split <;> simp

theorem ledger_stateFixedWanInterfaceValidated (m : Machine) :
    (stateFixedWanInterfaceValidated m).2.ledger = m.ledger := by
  unfold stateFixedWanInterfaceValidated
  split
  · rfl
  · split
    · simp
    · split
      · simp
      · split <;> simp

theorem ledger_fixedTick (m : Machine) : (fixedTick m).ledger = m.ledger := by
  show (fixedFunction m.st (updateConfig m)).2.ledger = (updateConfig m).ledger
  cases m.st with
  | selectingInterface => exact ledger_stateSelectingWanInterface _
  | interfaceDown => exact ledger_stateFixedWanInterfaceDown _
  | interfaceUp => exact ledger_stateFixedWanInterfaceUp _
  | interfaceTeardown => exact ledger_stateWanInterfaceTearDown _
  | validatedInterface => exact ledger_stateFixedWanInterfaceValidated _
  | interfaceActive => exact ledger_stateFixedWanInterfaceActive _
  | _ => rfl

theorem ledger_startAuto (m : Machine) : (startAuto m).ledger = m.ledger := by
  unfold startAuto
  split
  · rfl
  · dsimp only
    split
    · rfl
    · split
      · exact ledger_request (m := m) (by simp)
      · rfl

end Fixed

/-! ## Runs -/

/-- What everything else does between two ticks; of the modes it writes the selected one, in syscfg, and
it makes no local interface `ACTIVE`. -/
structure Others (m m' : Machine) : Prop where
  kept : m' = { m with
    config := m'.config, ifaces := m'.ifaces, outside := m'.outside
    connectivityCheck := m'.connectivityCheck
    stored := { m.stored with selected := m'.stored.selected } }
  noneActive : ∀ i : Nat, (statuses .local_ m'.ifaces)[i]? = some (some SelectionStatus.active) →
    (statuses .local_ m.ifaces)[i]? = some (some SelectionStatus.active)
  ifaces : ∀ (i : Nat) (d : Iface), m.ifaces[i]? = some d → ∃ d', m'.ifaces[i]? = some d' ∧
    d'.ifaceType = d.ifaceType ∧ d'.wanType = d.wanType

/-- The process is started again: syscfg is what is left. -/
def restart (ifaces : List Iface) (m : Machine) : Machine :=
  { stored := m.stored, ifaces := ifaces, config := m.config, outside := m.outside
    noReboot := m.noReboot, requests := m.requests }

/-- A run in which everything else leaves the machine as `allowed` says. -/
inductive Run (allowed : Machine → Prop) (m₀ : Machine) : Machine → Prop where
  | start : Run allowed m₀ m₀
  | tick {m : Machine} : Run allowed m₀ m → Run allowed m₀ (step m)
  | others {m m' : Machine} : Run allowed m₀ m → Others m m' → allowed m' → Run allowed m₀ m'
  | restart {m : Machine} (ifaces : List Iface) :
      Run allowed m₀ m → NoneActive (statuses .local_ ifaces) → Run allowed m₀ (restart ifaces m)

/-- Writes to syscfg succeed. -/
def Writable (m : Machine) : Prop := m.outside.syscfgSet = true

/-- A process that has just been started. -/
structure Started (m : Machine) : Prop where
  phase : m.phase = .choosing
  noneActive : NoneActive (statuses .local_ m.ifaces)

/-- In a build that reboots for another mode. -/
structure StartedToReboot (m : Machine) : Prop extends Started m where
  writable : Writable m
  reboots : m.noReboot = false

/-- The mode that a process finds in syscfg. -/
def keptMode (stored : StoredModes) : WanMode :=
  match stored.lastKnown with
  | none | some .unknown => .primary
  | some mode => mode

/-- What the modes in memory are while a machine runs. -/
structure Remembered (m : Machine) : Prop where
  syscfgSet : m.outside.syscfgSet = true
  reboots : m.noReboot = false
  kept : m.phase ≠ .choosing → keptMode m.stored = m.modes.lastKnown
  current : m.phase ≠ .choosing → m.modes.current = .unknown ∨ m.modes.current = m.modes.lastKnown

section Keep

variable {m m' m₀ : Machine}

/-- A machine is chosen for the mode in syscfg. -/
structure Chooses (m m' : Machine) : Prop where
  syscfgSet : m'.outside.syscfgSet = true
  reboots : m'.noReboot = false
  kept : keptMode m'.stored = m'.modes.lastKnown
  current : m'.modes.current = .unknown ∨ m'.modes.current = m'.modes.lastKnown
  requests : m'.requests = m.requests
  ifaces : m'.ifaces = m.ifaces
  auto : m.stored.selected = some .auto → m'.modes.lastKnown = keptMode m.stored ∧
    m'.activeInterfaceIdx = lastKnownModeInterfaceIndex m'

/-- What `IntializeAutoWanConfig` makes of syscfg. -/
structure Initialized (m m' : Machine) : Prop where
  outside : m'.outside = m.outside
  noReboot : m'.noReboot = m.noReboot
  requests : m'.requests = m.requests
  lastKnown : m'.modes.lastKnown = keptMode m.stored
  stored : m'.stored.lastKnown = m.stored.lastKnown
  current : m'.modes.current = .unknown
  ifaces : m'.ifaces = m.ifaces
  selected : m.stored.selected = some .auto → m'.modes.selected = .auto

@[simp] theorem stored_selectedWanMode (mode : WanMode) (m : Machine) :
    (selectedWanMode mode m).stored.lastKnown = m.stored.lastKnown := by
  show (if m.outside.syscfgSet then { m.stored with selected := some mode } else m.stored).lastKnown = _
  split <;> rfl

@[simp] theorem stored_setCurrentWanMode (mode : WanMode) (m : Machine) :
    (setCurrentWanMode mode m).stored.lastKnown = m.stored.lastKnown := by
  show (if m.outside.syscfgSet then { m.stored with current := some mode } else m.stored).lastKnown = _
  split <;> rfl

theorem stored_setLastKnownWanMode (mode : WanMode) (hset : m.outside.syscfgSet = true) :
    (setLastKnownWanMode mode m).stored.lastKnown = some mode := by
  show (if m.outside.syscfgSet then { m.stored with lastKnown := some mode } else m.stored).lastKnown = _
  rw [if_pos hset]

theorem Initialized.selectAuto {m m' : Machine} (h : Initialized m m') :
    Initialized m (selectedWanMode .auto m') :=
  ⟨h.outside, h.noReboot, h.requests, h.lastKnown, (stored_selectedWanMode .auto m').trans h.stored, h.current,
    h.ifaces, fun _ => rfl⟩

theorem initialized (m : Machine) : Initialized m (initializeAutoWanConfig m) := by
  have hlast {m' : Machine} (hout : m'.outside = m.outside) (hno : m'.noReboot = m.noReboot)
      (hreq : m'.requests = m.requests) (hmode : m'.modes.lastKnown = m.stored.lastKnown.getD .unknown)
      (hstored : m'.stored.lastKnown = m.stored.lastKnown) (hifaces : m'.ifaces = m.ifaces)
      (hsel : m.stored.selected = some .auto → m'.modes.selected = .auto) :
      Initialized m (setCurrentWanMode .unknown (if m'.modes.lastKnown = .unknown then
        { m' with modes := { m'.modes with lastKnown := .primary } } else m')) := by
    split
    · next hunknown =>
      refine ⟨hout, hno, hreq, ?_, (stored_setCurrentWanMode _ _).trans hstored, rfl, hifaces, hsel⟩
      rw [hmode] at hunknown
      show WanMode.primary = keptMode m.stored
      unfold keptMode
      split
      · rfl
      · rfl
      · next mode hne heq =>
        rw [heq] at hunknown
        exact absurd hunknown hne
    · next hknown =>
      refine ⟨hout, hno, hreq, ?_, (stored_setCurrentWanMode _ _).trans hstored, rfl, hifaces, hsel⟩
      rw [hmode] at hknown
      show m'.modes.lastKnown = keptMode m.stored
      rw [hmode]
      unfold keptMode
      split
      · next heq => simp [heq] at hknown
      · next heq => simp [heq] at hknown
      · next heq => simp [heq]
  unfold initializeAutoWanConfig
  dsimp only
  split
  · next hnone => exact hlast rfl rfl rfl rfl (stored_selectedWanMode _ _) rfl fun hsel => by simp [hnone] at hsel
  · exact hlast rfl rfl rfl rfl rfl rfl fun hsel => by simp [hsel]

theorem chooses_fixed {mode : WanMode} {m' : Machine} (hinit : Initialized m m') (hmode : mode ≠ .unknown)
    (hset : m.outside.syscfgSet = true) (hno : m.noReboot = false) (hsel : m'.modes.selected = mode)
    (hfixed : mode ≠ .auto) : Chooses m (startFixed (setCurrentWanMode mode (setLastKnownWanMode mode m'))) := by
  have hset' : m'.outside.syscfgSet = true := hinit.outside ▸ hset
  refine ⟨hset', hinit.noReboot.trans hno, ?_, .inr rfl, hinit.requests, hinit.ifaces,
    fun hauto => absurd (hsel.symm.trans (hinit.selected hauto)) hfixed⟩
  have hstored := (stored_setCurrentWanMode mode _).trans (stored_setLastKnownWanMode mode hset')
  show keptMode (setCurrentWanMode mode (setLastKnownWanMode mode m')).stored = mode
  rw [keptMode, hstored]
  cases mode with
  | unknown => exact absurd rfl hmode
  | _ => rfl

theorem chooses_auto {m' : Machine} (hinit : Initialized m m') (hset : m.outside.syscfgSet = true)
    (hno : m.noReboot = false) : Chooses m (startAutoMode m') := by
  refine ⟨hinit.outside ▸ hset, hinit.noReboot.trans hno, ?_, .inl hinit.current, hinit.requests, hinit.ifaces,
    fun _ => ⟨hinit.lastKnown, rfl⟩⟩
  show keptMode m'.stored = m'.modes.lastKnown
  rw [hinit.lastKnown, keptMode, hinit.stored, keptMode]

theorem chooses (hset : m.outside.syscfgSet = true) (hno : m.noReboot = false) : Chooses m (choose m) := by
  have hinit := initialized m
  unfold choose
  dsimp only
  split
  · next hsel => exact chooses_fixed hinit (nomatch ·) hset hno hsel (nomatch ·)
  · next hsel => exact chooses_fixed hinit (nomatch ·) hset hno hsel (nomatch ·)
  · exact chooses_auto hinit hset hno
  · exact chooses_auto hinit.selectAuto hset hno

/-! ## What a step keeps -/

theorem Remembered.of_ledger (h : Remembered m) (hphase : m.phase ≠ .choosing)
    (hturn : Turns m.ledger m'.ledger) : Remembered m' := by
  have hkept := h.kept hphase
  have hcurrent := h.current hphase
  rcases hturn with heq | ⟨mode, hmode, heq⟩
  · have hmodes : m'.modes = m.modes := congrArg Ledger.modes heq
    have hstored : m'.stored = m.stored := congrArg Ledger.stored heq
    have houtside : m'.outside = m.outside := congrArg Ledger.outside heq
    have hno : m'.noReboot = m.noReboot := congrArg Ledger.noReboot heq
    exact ⟨houtside ▸ h.syscfgSet, hno.trans h.reboots, fun _ => by rwa [hmodes, hstored],
      fun _ => by rwa [hmodes]⟩
  · have hmodes : m'.modes = { m.modes with current := mode, lastKnown := mode } :=
      congrArg Ledger.modes heq
    have hstored : m'.stored = { m.stored with current := some mode, lastKnown := some mode } :=
      congrArg Ledger.stored heq
    have houtside : m'.outside = m.outside := congrArg Ledger.outside heq
    have hno : m'.noReboot = m.noReboot := congrArg Ledger.noReboot heq
    refine ⟨houtside ▸ h.syscfgSet, hno.trans h.reboots, fun _ => ?_, fun _ => .inr (by rw [hmodes])⟩
    rw [hmodes, hstored, keptMode]
    cases mode with
    | unknown => exact absurd rfl hmode
    | _ => rfl

theorem Remembered.step (h : Remembered m) : Remembered (step m) := by
  unfold ModePolicy.step
  cases hphase : m.phase with
  | choosing =>
    have hchoose := chooses h.syscfgSet h.reboots
    exact ⟨hchoose.syscfgSet, hchoose.reboots, fun _ => hchoose.kept, fun _ => hchoose.current⟩
  | startingAuto => exact h.of_ledger (by simp [hphase]) (.inl (ledger_startAuto m))
  | auto => exact h.of_ledger (by simp [hphase]) (autoTick_turns h.syscfgSet h.reboots)
  | fixed => exact h.of_ledger (by simp [hphase]) (.inl (ledger_fixedTick m))

theorem Remembered.others (h : Remembered m) (hothers : Others m m') (hset : Writable m') :
    Remembered m' := by
  have hstored : m'.stored.lastKnown = m.stored.lastKnown := by rw [hothers.kept]
  have hmodes : m'.modes = m.modes := by rw [hothers.kept]
  have hphase : m'.phase = m.phase := by rw [hothers.kept]
  refine ⟨hset, ?_, fun hne => ?_, fun hne => ?_⟩
  · rw [hothers.kept]
    exact h.reboots
  · rw [keptMode, hstored, hmodes]
    exact h.kept (hphase ▸ hne)
  · rw [hmodes]
    exact h.current (hphase ▸ hne)

theorem StartedToReboot.remembered (h : StartedToReboot m) : Remembered m :=
  ⟨h.writable, h.reboots, fun hne => absurd h.phase hne, fun hne => absurd h.phase hne⟩

theorem Run.remembered (hstart : StartedToReboot m₀) (hrun : Run Writable m₀ m) : Remembered m := by
  induction hrun with
  | start => exact hstart.remembered
  | tick _ ih => exact ih.step
  | others _ hothers hset ih => exact ih.others hothers hset
  | restart ifaces _ _ ih => exact ⟨ih.syscfgSet, ih.reboots, fun hne => absurd rfl hne, fun hne => absurd rfl hne⟩

/-- How often a reboot was asked for. -/
def Machine.reboots (m : Machine) : Nat := m.requests.count .reboot

/-- The automatic machine has found that another mode works than the one before. -/
def ChangesMode (m : Machine) : Prop :=
  m.phase = .auto ∧ (step m).modes.lastKnown ≠ m.modes.lastKnown

instance (m : Machine) : Decidable (ChangesMode m) := inferInstanceAs (Decidable (_ ∧ _))

theorem reboots_step (h : Remembered m) :
    (step m).reboots = m.reboots + if ChangesMode m then 1 else 0 := by
  have hof {m' : Machine} (heq : m'.ledger = m.ledger) : m'.reboots = m.reboots :=
    congrArg Ledger.reboots heq
  cases hphase : m.phase with
  | choosing =>
    have hstep : step m = choose m := by simp only [ModePolicy.step, hphase]
    have hrequests := (chooses h.syscfgSet h.reboots).requests
    simp [ChangesMode, hphase, hstep, Machine.reboots, hrequests]
  | startingAuto =>
    have hstep : step m = startAuto m := by simp only [ModePolicy.step, hphase]
    simpa [ChangesMode, hphase, hstep] using hof (ledger_startAuto m)
  | fixed =>
    have hstep : step m = fixedTick m := by simp only [ModePolicy.step, hphase]
    simpa [ChangesMode, hphase, hstep] using hof (ledger_fixedTick m)
  | auto =>
    have hstep : step m = autoTick m := by simp only [ModePolicy.step, hphase]
    rcases autoTick_turns h.syscfgSet h.reboots with heq | ⟨mode, -, heq⟩
    · have hmodes : (autoTick m).modes = m.modes := congrArg Ledger.modes heq
      simpa [ChangesMode, hphase, hstep, hmodes] using hof heq
    · have hmodes : (autoTick m).modes = { m.modes with current := mode, lastKnown := mode } :=
        congrArg Ledger.modes heq
      have hreboots : (autoTick m).reboots = m.reboots + if mode = m.modes.lastKnown then 0 else 1 :=
        congrArg Ledger.reboots heq
      by_cases hsame : mode = m.modes.lastKnown <;> simp [ChangesMode, hphase, hstep, hmodes, hreboots, hsame]

theorem step_restart (h : Remembered m) (hphase : m.phase ≠ .choosing) (ifaces : List Iface)
    (hsel : m.stored.selected = some .auto) :
    (step (restart ifaces m)).modes.lastKnown = m.modes.lastKnown ∧
      (step (restart ifaces m)).activeInterfaceIdx = lastKnownModeInterfaceIndex { m with ifaces := ifaces } := by
  have hchoose := chooses (m := restart ifaces m) h.syscfgSet h.reboots
  have hlast : (choose (restart ifaces m)).modes.lastKnown = m.modes.lastKnown :=
    (hchoose.auto hsel).1.trans (h.kept hphase)
  refine ⟨hlast, (hchoose.auto hsel).2.trans ?_⟩
  unfold lastKnownModeInterfaceIndex
  rw [hlast, hchoose.ifaces]
  rfl

/-- In every run in which syscfg can be written, a reboot is asked for exactly when the automatic
machine changes the mode. While a machine runs, syscfg keeps the mode it has in memory, so that in
the automatic mode a process that is started again goes on with an interface of that mode. -/
theorem reboots_for_mode_changes (hstart : StartedToReboot m₀) (hrun : Run Writable m₀ m) :
    (step m).reboots = m.reboots + (if ChangesMode m then 1 else 0) ∧
      (m.phase ≠ .choosing →
        (m.modes.current = .unknown ∨ m.modes.current = m.modes.lastKnown) ∧
        ∀ ifaces, m.stored.selected = some .auto →
          (step (restart ifaces m)).modes.lastKnown = m.modes.lastKnown ∧
            (step (restart ifaces m)).activeInterfaceIdx =
              lastKnownModeInterfaceIndex { m with ifaces := ifaces }) := by
  have hm := hrun.remembered hstart
  exact ⟨reboots_step hm, fun hphase => ⟨hm.current hphase, fun ifaces => step_restart hm hphase ifaces⟩⟩

/-- An agent reports something of one interface. -/
theorem Others.report {f : Iface → Iface} (htype : ∀ d, (f d).ifaceType = d.ifaceType)
    (hstatus : ∀ d, (f d).selection.status = d.selection.status)
    (hwan : ∀ d, (f d).wanType = d.wanType) (i : Nat) : Others m (m.modifyIface i f) where
  kept := rfl
  noneActive j hj := by
    rwa [Machine.modifyIface, statuses_keep htype hstatus] at hj
  ifaces j d hj := by
    rw [Machine.modifyIface, List.getElem?_modify, hj]
    split
    · exact ⟨f d, rfl, htype d, hwan d⟩
    · exact ⟨d, rfl, rfl, rfl⟩

end Keep

/-! ## A change of the mode -/

namespace Example

def ifaces : List Iface :=
  [{ baseInterface := "Device.X_RDK_DOCSIS", name := "erouter0", wanType := .primary },
    { baseInterface := "Device.Ethernet.X_RDK_Interface.1", name := "erouter0", wanType := .secondary }]

def booted : Machine :=
  { stored := { selected := some .auto, lastKnown := some .primary }, ifaces := ifaces }

def reportPhy (st : PhyStatus) : Iface → Iface := fun d => { d with baseInterfaceStatus := st }

def reportIpv4 : Iface → Iface := Iface.setIp fun ip => { ip with ipv4Status := .up }

/-- The primary interface has no link, so the secondary one is tried. -/
def waiting : Machine := step^[3] ((step^[2] booted).modifyIface 0 (reportPhy .down))

/-- It gets an address. -/
def leased : Machine := (step^[2] (waiting.modifyIface 1 (reportPhy .up))).modifyIface 1 reportIpv4

theorem noneActive : NoneActive (statuses .local_ ifaces)
  | 0, h => nomatch h
  | 1, h => nomatch h

theorem started : StartedToReboot booted := ⟨⟨rfl, noneActive⟩, rfl, rfl⟩

theorem Run.steps {m₀ m : Machine} (h : Run Writable m₀ m) : ∀ k, Run Writable m₀ (step^[k] m)
  | 0 => h
  | k + 1 => by
    rw [Function.iterate_succ_apply']
    exact (Run.steps h k).tick

theorem run_leased : Run Writable booted leased := by
  have hbooted : Run Writable booted booted := .start
  have hdown := (Run.steps hbooted 2).others
    (Others.report (f := reportPhy .down) (fun _ => rfl) (fun _ => rfl) (fun _ => rfl) 0) rfl
  have hup := (Run.steps hdown 3).others
    (Others.report (f := reportPhy .up) (fun _ => rfl) (fun _ => rfl) (fun _ => rfl) 1) rfl
  exact (Run.steps hup 2).others
    (Others.report (f := reportIpv4) (fun _ => rfl) (fun _ => rfl) (fun _ => rfl) 1) rfl

end Example

/-- The device is rebooted, and goes on with the secondary interface. -/
theorem reboots_for_mode_changes_run :
    ChangesMode Example.leased ∧ (step Example.leased).reboots = 1 ∧
      (step (restart Example.ifaces (step Example.leased))).activeInterfaceIdx = some 1 := by
  have hchange : ChangesMode Example.leased := by decide
  have hleased := (reboots_for_mode_changes Example.started Example.run_leased).1
  have hstep := (reboots_for_mode_changes Example.started Example.run_leased.tick).2 (by decide)
  refine ⟨hchange, hleased.trans ?_, (hstep.2 Example.ifaces rfl).2.trans ?_⟩
  · rw [if_pos hchange]
    rfl
  · rfl

end ModePolicy

end WanManager
