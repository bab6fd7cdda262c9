import WanManager.ModePolicyModes

/-! # Which local interface is active

The machines of the mode policy write `Selection.Status` of the local interfaces; the backup machine
may only take it away. In every run a local interface that is `ACTIVE` is the one the policy has chosen,
its machine is in `STATE_WAN_INTERFACE_ACTIVE`, and no other one is. -/

namespace WanManager

namespace ModePolicy
open BackupWan

/-! ## The choice of the policy -/

/-- Where the policy is, what it has chosen, and the selection status of the local interfaces. -/
structure Choice where
  phase : Phase
  locked : Option Nat
  idx : Option Nat
  locals : List (Option SelectionStatus)

def Machine.choice (m : Machine) : Choice :=
  ⟨m.phase, m.locked, m.activeInterfaceIdx, statuses .local_ m.ifaces⟩

def Choice.mark (i : Nat) (s : SelectionStatus) (c : Choice) : Choice :=
  { c with locals := assign i s c.locals }

/-- A tick works on the local interface `i`. -/
structure WorksOn (i : Nat) (c : Choice) : Prop where
  locked : c.locked = some i
  idx : c.idx = some i
  isLocal : ∃ s, c.locals[i]? = some (some s)

section Choice

variable {i : Nat} {c : Choice} {s s' : SelectionStatus} {m : Machine} {f : Iface → Iface}

theorem assign_assign (rs : List (Option SelectionStatus)) : assign i s (assign i s' rs) = assign i s rs := by
  unfold assign
  rw [List.modify_modify_eq]
  congr
  funext r
  cases r <;> rfl

@[simp] theorem mark_mark (c : Choice) : (c.mark i s').mark i s = c.mark i s := by
  simp [Choice.mark, assign_assign]

theorem WorksOn.mark (h : WorksOn i c) (s : SelectionStatus) : WorksOn i (c.mark i s) := by
  obtain ⟨r, hr⟩ := h.isLocal
  exact ⟨h.locked, h.idx, s, assign_self hr⟩

theorem local_at {ifaces : List Iface} (h : (statuses .local_ ifaces)[i]? = some (some s)) :
    ∃ d, ifaces[i]? = some d ∧ d.ifaceType = .local_ ∧ d.selection.status = s := by
  rw [statuses, List.getElem?_map, Option.map_eq_some_iff] at h
  obtain ⟨d, hd, hs⟩ := h
  unfold Iface.statusAs at hs
  split at hs
  · next htype => exact ⟨d, hd, htype, Option.some.inj hs⟩
  · cases hs

theorem statuses_at {ifaces : List Iface} {d : Iface} (hd : ifaces[i]? = some d) (htype : d.ifaceType = .local_) :
    (statuses .local_ ifaces)[i]? = some (some d.selection.status) := by
  rw [statuses, List.getElem?_map, hd, Option.map_some, Iface.statusAs, if_pos htype]

theorem WorksOn.fixed (h : WorksOn i m.choice) : ∃ d, m.fixed? = some (i, d) := by
  obtain ⟨s, hs⟩ := h.isLocal
  obtain ⟨d, hd, -⟩ := local_at hs
  have hlocked : m.locked = some i := h.locked
  exact ⟨d, by simp [Machine.fixed?, hlocked, hd]⟩

theorem choice_keep (htype : ∀ d, (f d).ifaceType = d.ifaceType)
    (hstatus : ∀ d, (f d).selection.status = d.selection.status) :
    (m.modifyIface i f).choice = m.choice := by
  simp [Machine.choice, Machine.modifyIface, statuses_keep htype hstatus]

theorem choice_mark (htype : ∀ d, (f d).ifaceType = d.ifaceType)
    (hstatus : ∀ d, (f d).selection.status = s) :
    (m.modifyIface i f).choice = m.choice.mark i s := by
  simp [Machine.choice, Choice.mark, Machine.modifyIface, statuses_assign htype hstatus]

/-! ## What leaves the choice alone -/

@[simp] theorem choice_request (rs : List Request) (m : Machine) : (m.request rs).choice = m.choice := rfl

@[simp] theorem choice_requestIf (b : Bool) (r : Request) (m : Machine) :
    (m.requestIf b r).choice = m.choice := by
  cases b <;> rfl

@[simp] theorem choice_setConnectivityCheckState (enable : Bool) (state : CheckState) (m : Machine) :
    (setConnectivityCheckState enable state m).choice = m.choice := rfl

@[simp] theorem choice_restoreStatus (m : Machine) (s : SwitchOver) :
    ({ m with telemetryRestoreStatus := s } : Machine).choice = m.choice := rfl

@[simp] theorem choice_backUpStatus (m : Machine) (s : SwitchOver) :
    ({ m with telemetryBackUpStatus := s } : Machine).choice = m.choice := rfl

@[simp] theorem choice_v6Configured (m : Machine) (b : Bool) :
    ({ m with v6Configured := b } : Machine).choice = m.choice := rfl

@[simp] theorem choice_v6ConfiguredFixed (m : Machine) (b : Bool) :
    ({ m with v6ConfiguredFixed := b } : Machine).choice = m.choice := rfl

@[simp] theorem choice_setIp (m : Machine) (i : Nat) (f : IfaceIp → IfaceIp) :
    (m.modifyIface i (Iface.setIp f)).choice = m.choice := choice_keep (fun _ => rfl) (fun _ => rfl)

@[simp] theorem choice_setConnectivity (m : Machine) (i : Nat) (st : ConnectivityStatus) :
    (m.modifyIface i (Iface.setConnectivity st)).choice = m.choice := choice_setIp m i _

@[simp] theorem choice_setSelection (m : Machine) (i : Nat) (s : SelectionStatus) :
    (m.modifyIface i (Iface.setSelection s)).choice = m.choice.mark i s :=
  choice_mark (fun _ => rfl) (fun _ => rfl)

@[simp] theorem choice_dnsCheckWaitForRemoteInActive (d : Iface) (m : Machine) :
    (dnsCheckWaitForRemoteInActive d m).choice = m.choice := by
  unfold dnsCheckWaitForRemoteInActive
  split
  · split <;> simp
  · rfl

@[simp] theorem choice_stopCheck (i : Nat) (d : Iface) (m : Machine) :
    (stopCheck i d m).2.choice = m.choice := by
  unfold stopCheck
  split
  · exact choice_keep (fun _ => rfl) (fun _ => rfl)
  · rfl

@[simp] theorem choice_startCheck (i : Nat) (m : Machine) : (startCheck i m).2.choice = m.choice := by
  unfold startCheck
  split <;> simp

@[simp] theorem choice_restartCheck (event : WccEvent) (i : Nat) (m : Machine) :
    (restartCheck event i m).choice = m.choice := by
  unfold restartCheck
  split <;> simp

@[simp] theorem choice_failCheck (i : Nat) (d : Iface) (m : Machine) :
    (failCheck i d m).choice = m.choice := by
  unfold failCheck
  split <;> simp

@[simp] theorem choice_beginCheck (i : Nat) (d : Iface) (m : Machine) :
    (beginCheck i d m).choice = m.choice := by
  unfold beginCheck
  split <;> simp

@[simp] theorem choice_leaveToBackup (d : Iface) (m : Machine) : (leaveToBackup d m).choice = m.choice := rfl

@[simp] theorem choice_linkDown (i : Nat) (d : Iface) (m : Machine) :
    (linkDown i d m).choice = m.choice.mark i .notSelected := by
  unfold linkDown
  rw [choice_backUpStatus, choice_request, choice_failCheck]
  exact choice_mark (fun _ => rfl) (fun _ => rfl)

@[simp] theorem choice_switchOverDone (m : Machine) : (switchOverDone m).choice = m.choice := by
  unfold switchOverDone
  split <;> rfl

@[simp] theorem choice_upCheck (i : Nat) (d : Iface) (m : Machine) :
    (upCheck i d m).choice = m.choice := by
  unfold upCheck
  split
  · simp
  · split
    · split <;> simp
    · rfl

@[simp] theorem choice_fixedUpCheck (i : Nat) (d : Iface) (m : Machine) :
    (fixedUpCheck i d m).choice = m.choice := by
  unfold fixedUpCheck
  split
  · simp
  · split <;> simp

@[simp] theorem choice_activeCheck (i : Nat) (d : Iface) (m : Machine) :
    (activeCheck i d m).choice = m.choice := by
  unfold activeCheck
  split
  · split
    · dsimp only
      split <;> simp
    · rfl
  · dsimp only
    split <;> simp

@[simp] theorem choice_restartActiveCheck (i : Nat) (m : Machine) :
    (restartActiveCheck i m).choice = m.choice := by
  unfold restartActiveCheck
  split <;> simp

@[simp] theorem choice_configureV6 (d : Iface) (m : Machine) : (configureV6 d m).choice = m.choice := by
  unfold configureV6
  split <;> rfl

@[simp] theorem choice_configureV6Fixed (d : Iface) (m : Machine) :
    (configureV6Fixed d m).choice = m.choice := by
  unfold configureV6Fixed
  split <;> rfl

@[simp] theorem choice_startWanClients (d : Iface) (m : Machine) :
    (startWanClients d m).choice = m.choice := by
  unfold startWanClients
  split
  · split
    · rfl
    · split
      · rfl
      · split <;> rfl
  · split <;> rfl
  · rfl

@[simp] theorem startScan_choice (i : Nat) (d : Iface) (m : Machine) :
    (startScan i d m).2.choice = m.choice := by
  unfold startScan
  rw [choice_request, choice_startWanClients]

@[simp] theorem choice_lockMode (d : Iface) (m : Machine) : (lockMode d m).choice = m.choice := by
  unfold lockMode
  dsimp only
  split
  · split
    · split
      · rfl
      · exact choice_startWanClients d _
    · rfl
  · split
    · split
      · rfl
      · exact choice_startWanClients d _
    · rfl
  · rfl

@[simp] theorem choice_cfgPostWanSelection (m : Machine) : (cfgPostWanSelection m).choice = m.choice := rfl

end Choice

/-! ## Transitions -/

section Transitions

variable {i : Nat} {m : Machine}

theorem tearDown_choice (h : WorksOn i m.choice) :
    (transitionWanInterfaceTearDown m).1 = .interfaceTeardown ∧
      (transitionWanInterfaceTearDown m).2.choice = m.choice.mark i .notSelected := by
  obtain ⟨d, hd⟩ := h.fixed
  simp only [transitionWanInterfaceTearDown, hd, choice_request]
  exact ⟨trivial, choice_mark (fun _ => rfl) (fun _ => rfl)⟩

theorem waiting_choice (i : Nat) (m : Machine) :
    (transitionWaitingForInterface i m).2.choice = m.choice.mark i .notSelected := by
  unfold transitionWaitingForInterface
  rw [choice_requestIf]
  exact choice_mark (fun _ => rfl) (fun _ => rfl)

theorem phyUp_choice (h : WorksOn i m.choice) :
    (transitionWanInterfacePhyUp m).1 = .scanningInterface ∧
      (transitionWanInterfacePhyUp m).2.choice = m.choice.mark i .selected := by
  obtain ⟨d, hd⟩ := h.fixed
  simp only [transitionWanInterfacePhyUp, hd, startScan_choice]
  exact ⟨rfl, choice_mark (fun _ => rfl) (fun _ => rfl)⟩

theorem configured_choice (h : WorksOn i m.choice) :
    (transitionWanInterfaceConfigured m).1 = .scanningInterface ∧
      (transitionWanInterfaceConfigured m).2.choice = m.choice.mark i .selected := by
  obtain ⟨d, hd⟩ := h.fixed
  simp only [transitionWanInterfaceConfigured, hd, startScan_choice]
  exact ⟨rfl, choice_mark (fun _ => rfl) (fun _ => rfl)⟩

theorem up_choice (h : WorksOn i m.choice) :
    (transitionWanInterfaceUp m).1 = .interfaceUp ∧
      (transitionWanInterfaceUp m).2.choice = m.choice.mark i .selected := by
  obtain ⟨d, hd⟩ := h.fixed
  have hmark : (m.modifyIface i (Iface.comeUp m.noReboot)).choice = m.choice.mark i .selected :=
    choice_mark (fun _ => rfl) (fun _ => rfl)
  simp only [transitionWanInterfaceUp, hd]
  split <;> simp [hmark]

theorem dnsCheckUp_choice (h : WorksOn i m.choice) :
    (transitionDnsConnectivityCheckUp m).1 = .interfaceUp ∧
      (transitionDnsConnectivityCheckUp m).2.choice = m.choice.mark i .selected := by
  obtain ⟨d, hd⟩ := h.fixed
  simp only [transitionDnsConnectivityCheckUp, hd]
  split <;> simp

theorem active_choice (h : WorksOn i m.choice) :
    (transitionWanInterfaceActive m).1 = .interfaceActive ∧
      (transitionWanInterfaceActive m).2.choice = m.choice.mark i .active := by
  obtain ⟨d, hd⟩ := h.fixed
  simp only [transitionWanInterfaceActive, hd]
  exact ⟨trivial, choice_mark (fun _ => rfl) (fun _ => rfl)⟩

theorem fixedDown_choice (h : WorksOn i m.choice) :
    (transitionFixedWanInterfaceDown m).1 = .interfaceDown ∧
      (transitionFixedWanInterfaceDown m).2.choice = m.choice.mark i .notSelected := by
  obtain ⟨d, hd⟩ := h.fixed
  simp only [transitionFixedWanInterfaceDown, hd]
  exact ⟨trivial, choice_linkDown i d m⟩

theorem fixedUp_choice (h : WorksOn i m.choice) :
    (transitionFixedWanInterfaceUp m).1 = .interfaceUp ∧
      (transitionFixedWanInterfaceUp m).2.choice = m.choice := by
  obtain ⟨d, hd⟩ := h.fixed
  simp only [transitionFixedWanInterfaceUp, hd, choice_request, choice_beginCheck]
  exact ⟨trivial, choice_keep (fun _ => rfl) (fun _ => rfl)⟩

theorem fixedDnsCheckUp_choice (h : WorksOn i m.choice) :
    (transitionFixedDnsConnectivityCheckUp m).1 = .interfaceUp ∧
      (transitionFixedDnsConnectivityCheckUp m).2.choice = m.choice.mark i .selected := by
  obtain ⟨d, hd⟩ := h.fixed
  simp only [transitionFixedDnsConnectivityCheckUp, hd]
  split <;> simp

theorem selected_choice {d : Iface} (hd : m.fixed? = some (i, d)) :
    (transitionWanInterfaceSelected m).1 = .interfaceDown ∧
      (transitionWanInterfaceSelected m).2.choice = m.choice.mark i .notSelected := by
  simp only [transitionWanInterfaceSelected, hd, choice_request]
  exact ⟨trivial, choice_mark (fun _ => rfl) (fun _ => rfl)⟩

/-- What a tick does to the selection: it enters or leaves `STATE_WAN_INTERFACE_ACTIVE` only when it
writes the status of its interface. -/
def Marks (i : Nat) (st : State) (c : Choice) (ret : State × Machine) : Prop :=
  (ret.2.choice = c ∧ (ret.1 = .interfaceActive ↔ st = .interfaceActive)) ∨
    ∃ s, ret.2.choice = c.mark i s ∧ (ret.1 = .interfaceActive ↔ s = .active)

theorem Marks.keep {st st' : State} {c : Choice} {m' : Machine} (hchoice : m'.choice = c)
    (hst : st' ≠ .interfaceActive) (h : st ≠ .interfaceActive) : Marks i st c (st', m') :=
  .inl ⟨hchoice, iff_of_false hst h⟩

theorem Marks.of_choice {st t : State} {c : Choice} {s : SelectionStatus} {ret : State × Machine}
    (h : ret.1 = t ∧ ret.2.choice = c.mark i s) (hst : t = .interfaceActive ↔ s = .active) :
    Marks i st c ret := .inr ⟨s, h.2, by rwa [h.1]⟩

theorem tearDown_marks {st : State} (h : WorksOn i m.choice) :
    Marks i st m.choice (transitionWanInterfaceTearDown m) :=
  .of_choice (tearDown_choice h) (by decide)

theorem validateInterface_marks {st : State} {c : Choice} (h : WorksOn i m.choice) (hc : m.choice = c)
    (hst : st ≠ .interfaceActive) : Marks i st c (validateInterface st m) := by
  subst hc
  obtain ⟨d, hd⟩ := h.fixed
  unfold validateInterface transitionWanInterfaceValidating
  rw [hd]
  dsimp only
  split
  · exact .keep rfl hst hst
  · split
    · split
      · exact .of_choice (t := .validatedInterface) ⟨rfl, choice_setSelection _ i .selected⟩ (by decide)
      · exact .keep rfl hst hst
    · split
      · exact .of_choice (t := .validatedInterface) ⟨rfl, choice_setSelection _ i .selected⟩ (by decide)
      · exact .keep rfl hst hst

end Transitions

/-! ## States -/

section States

variable {i : Nat} {m : Machine}

theorem marks_stateWanInterfaceTearDown (h : WorksOn i m.choice) :
    Marks i .interfaceTeardown m.choice (stateWanInterfaceTearDown m) := by
  obtain ⟨d, hd⟩ := h.fixed
  unfold stateWanInterfaceTearDown
  rw [hd]
  dsimp only
  split
  · exact .keep rfl (by decide) (by decide)
  · split
    · exact .keep rfl (by decide) (by decide)
    · split <;> exact .keep rfl (by decide) (by decide)

theorem marks_stateWaitingForInterface (h : WorksOn i m.choice) :
    Marks i .waitingForInterface m.choice (stateWaitingForInterface m) := by
  obtain ⟨d, hd⟩ := h.fixed
  have hscanned : (({ m with telemetryBackUpStatus := .stoped } : Machine).modifyIface i
      fun d => { d with scanned := true }).choice = m.choice := choice_keep (fun _ => rfl) (fun _ => rfl)
  unfold stateWaitingForInterface
  rw [hd]
  dsimp only
  split
  · exact tearDown_marks h
  · split
    · split
      · exact .keep hscanned (by decide) (by decide)
      · split
        · exact validateInterface_marks (by simpa [hscanned] using h) (by simpa using hscanned) (by decide)
        · split
          · have hmark := phyUp_choice (i := i)
              (m := (({ m with telemetryBackUpStatus := .stoped } : Machine).modifyIface i
                fun d => { d with scanned := true }).modifyIface i (·.setSelection .selected))
              (by simpa [hscanned] using h.mark .selected)
            rw [choice_setSelection, hscanned, mark_mark] at hmark
            exact .of_choice hmark (by decide)
          · exact .keep hscanned (by decide) (by decide)
    · exact .keep (choice_keep (fun _ => rfl) (fun _ => rfl)) (by decide) (by decide)
    · exact .keep rfl (by decide) (by decide)
    · exact .keep rfl (by decide) (by decide)

theorem marks_stateWanConfiguringInterface (h : WorksOn i m.choice) :
    Marks i .configuringInterface m.choice (stateWanConfiguringInterface m) := by
  obtain ⟨d, hd⟩ := h.fixed
  unfold stateWanConfiguringInterface
  rw [hd]
  dsimp only
  split
  · exact tearDown_marks h
  · split
    · exact .keep (by simp) (by decide) (by decide)
    · split
      · exact .keep (by simp) (by decide) (by decide)
      · split
        · exact validateInterface_marks (by simpa using h) (by simp) (by decide)
        · have hmark := configured_choice (i := i)
            (m := (m.requestIf d.wanConfigEnabled (.configureWan i true)).requestIf d.customConfigEnable
              (.customConfig i true)) (by simpa using h)
          exact .of_choice (by simpa using hmark) (by decide)

theorem marks_stateWanDeConfiguringInterface (h : WorksOn i m.choice) :
    Marks i .deconfiguringInterface m.choice (stateWanDeConfiguringInterface m) := by
  obtain ⟨d, hd⟩ := h.fixed
  unfold stateWanDeConfiguringInterface
  rw [hd]
  dsimp only
  split
  · exact tearDown_marks h
  · refine .keep ?_ (by decide) (by decide)
    rw [choice_requestIf, choice_requestIf]
    exact choice_keep (fun _ => rfl) (fun _ => rfl)

theorem marks_stateWanScanningInterface (h : WorksOn i m.choice) :
    Marks i .scanningInterface m.choice (stateWanScanningInterface m) := by
  obtain ⟨d, hd⟩ := h.fixed
  unfold stateWanScanningInterface
  rw [hd]
  dsimp only
  split
  · exact tearDown_marks h
  · split
    · have hmark := up_choice (i := i) (m := cfgPostWanSelection (switchOverDone m)) (by simpa using h)
      exact .of_choice (by simpa using hmark) (by decide)
    · split <;> exact .keep rfl (by decide) (by decide)
    · exact .keep rfl (by decide) (by decide)

theorem marks_stateWanInterfaceActive (h : WorksOn i m.choice) :
    Marks i .interfaceActive m.choice (stateWanInterfaceActive m) := by
  obtain ⟨d, hd⟩ := h.fixed
  unfold stateWanInterfaceActive
  rw [hd]
  dsimp only
  split
  · exact tearDown_marks h
  · split
    · exact .of_choice (t := .interfaceDown) ⟨rfl, choice_linkDown i d m⟩ (by decide)
    · split
      · have hmark := dnsCheckUp_choice (i := i) (m := leaveToBackup d (activeCheck i d m)) (by simpa using h)
        exact .of_choice (t := .interfaceUp) ⟨hmark.1, by simpa using hmark.2⟩ (by decide)
      · exact .inl ⟨by simp, Iff.rfl⟩

theorem marks_stateWanInterfaceUp (h : WorksOn i m.choice) :
    Marks i .interfaceUp m.choice (stateWanInterfaceUp m) := by
  obtain ⟨d, hd⟩ := h.fixed
  unfold stateWanInterfaceUp
  rw [hd]
  dsimp only
  split
  · exact tearDown_marks h
  · split
    · exact .of_choice (t := .interfaceDown) ⟨rfl, choice_linkDown i d _⟩ (by decide)
    · generalize hchecked : (if d.tad then upCheck i d m
        else (stopCheck i d (dnsCheckWaitForRemoteInActive d m)).2) = checked
      have hchoice : checked.choice = m.choice := by
        subst hchecked
        split <;> simp
      split
      · split
        · have hmark := active_choice (i := i)
            (m := { switchOverDone (configureV6 d checked) with v6Configured := false })
            (by simpa [hchoice] using h)
          exact .of_choice (by simpa [hchoice] using hmark) (by decide)
        · exact .keep (by simp [hchoice]) (by decide) (by decide)
      · exact .keep (by simp [hchoice]) (by decide) (by decide)

theorem marks_stateWanInterfaceDown (h : WorksOn i m.choice) :
    Marks i .interfaceDown m.choice (stateWanInterfaceDown m) := by
  obtain ⟨d, hd⟩ := h.fixed
  unfold stateWanInterfaceDown
  rw [hd]
  dsimp only
  split
  · exact tearDown_marks h
  · split
    · split
      · exact validateInterface_marks h rfl (by decide)
      · split
        · have hmark := up_choice (i := i)
            (m := { m with telemetryBackUpStatus := .stoped }.request [.wanStart, .sshdRestart]) h
          exact .of_choice hmark (by decide)
        · exact .keep rfl (by decide) (by decide)
    · exact .keep rfl (by decide) (by decide)

theorem marks_lost {f : Iface → Iface} {st : State} (htype : ∀ d, (f d).ifaceType = d.ifaceType)
    (hstatus : ∀ d, (f d).selection.status = .notSelected) :
    Marks i st m.choice (.interfaceDown, m.modifyIface i f) :=
  .of_choice (t := .interfaceDown) ⟨rfl, choice_mark htype hstatus⟩ (by decide)

theorem marks_stateAutoWanInterfaceValidated (h : WorksOn i m.choice) :
    Marks i .autoWanValidatedInterface m.choice (stateAutoWanInterfaceValidated m) := by
  obtain ⟨d, hd⟩ := h.fixed
  unfold stateAutoWanInterfaceValidated
  rw [hd]
  dsimp only
  split
  · exact tearDown_marks h
  · split
    · exact marks_lost (fun _ => rfl) (fun _ => rfl)
    · split
      · have hmark := phyUp_choice (i := i) (m := { m with telemetryRestoreStatus := .started }) h
        exact .of_choice hmark (by decide)
      · exact .keep rfl (by decide) (by decide)

theorem marks_stateWanInterfaceValidated (h : WorksOn i m.choice) :
    Marks i .validatedInterface m.choice (stateWanInterfaceValidated m) := by
  obtain ⟨d, hd⟩ := h.fixed
  unfold stateWanInterfaceValidated
  rw [hd]
  dsimp only
  split
  · exact tearDown_marks h
  · split
    · exact marks_lost (fun _ => rfl) (fun _ => rfl)
    · split
      · split
        · have hmark := up_choice (i := i)
            (m := { (m.request [.wanStart]).request [.sshdRestart] with telemetryRestoreStatus := .started }) h
          exact .of_choice hmark (by decide)
        · exact .keep rfl (by decide) (by decide)
      · exact .keep rfl (by decide) (by decide)

theorem marks_stateFixedWanInterfaceDown (h : WorksOn i m.choice) :
    Marks i .interfaceDown m.choice (stateFixedWanInterfaceDown m) := by
  obtain ⟨d, hd⟩ := h.fixed
  unfold stateFixedWanInterfaceDown
  rw [hd]
  dsimp only
  split
  · exact tearDown_marks h
  · split
    · split
      · exact validateInterface_marks h rfl (by decide)
      · split
        · have hmark := fixedUp_choice (i := i)
            (m := ({ m with telemetryBackUpStatus := .stoped } : Machine).modifyIface i (·.setSelection .selected))
            (by simpa using h.mark .selected)
          rw [choice_setSelection] at hmark
          exact .of_choice hmark (by decide)
        · exact .keep rfl (by decide) (by decide)
    · exact .keep rfl (by decide) (by decide)

theorem marks_stateFixedWanInterfaceUp (h : WorksOn i m.choice) :
    Marks i .interfaceUp m.choice (stateFixedWanInterfaceUp m) := by
  obtain ⟨d, hd⟩ := h.fixed
  unfold stateFixedWanInterfaceUp
  rw [hd]
  dsimp only
  split
  · exact tearDown_marks h
  · split
    · exact .of_choice (fixedDown_choice h) (by decide)
    · split
      · split
        · exact .of_choice (t := .interfaceActive) (s := .active) ⟨rfl, by simp⟩ (by decide)
        · exact .keep (by simp) (by decide) (by decide)
      · exact .keep (by simp) (by decide) (by decide)

theorem marks_stateFixedWanInterfaceActive (h : WorksOn i m.choice) :
    Marks i .interfaceActive m.choice (stateFixedWanInterfaceActive m) := by
  obtain ⟨d, hd⟩ := h.fixed
  unfold stateFixedWanInterfaceActive
  rw [hd]
  dsimp only
  split
  · exact tearDown_marks h
  · split
    · exact .of_choice (fixedDown_choice h) (by decide)
    · split
      · have hmark := fixedDnsCheckUp_choice (i := i) (m := leaveToBackup d (activeCheck i d m)) (by simpa using h)
        exact .of_choice (by simpa using hmark) (by decide)
      · exact .inl ⟨by simp, Iff.rfl⟩

theorem marks_stateFixedWanInterfaceValidated (h : WorksOn i m.choice) :
    Marks i .validatedInterface m.choice (stateFixedWanInterfaceValidated m) := by
  obtain ⟨d, hd⟩ := h.fixed
  unfold stateFixedWanInterfaceValidated
  rw [hd]
  dsimp only
  split
  · exact tearDown_marks h
  · split
    · exact .of_choice (fixedDown_choice h) (by decide)
    · split
      · have hmark := fixedUp_choice (i := i) (m := { m with telemetryRestoreStatus := .started }) h
        exact .inl ⟨hmark.2, by rw [hmark.1]; decide⟩
      · exact .keep rfl (by decide) (by decide)

end States

/-! ## Ticks -/

/-- The active local interface is the one the policy has chosen, and its machine is in
`STATE_WAN_INTERFACE_ACTIVE`; what the policy has chosen is a local interface. -/
structure Tracks (st : State) (c : Choice) : Prop where
  active : ∀ j : Nat, c.locals[j]? = some (some SelectionStatus.active) →
    (c.phase = .auto ∨ c.phase = .fixed) ∧ st = .interfaceActive ∧ c.idx = some j
  isLocal : ∀ i, c.phase ≠ .choosing → c.idx = some i → ∃ s, c.locals[i]? = some (some s)
  chosen : c.phase = .auto ∨ (c.phase = .fixed ∧ st ≠ .selectingInterface) → c.idx ≠ none

section Ticks

variable {m : Machine} {i : Nat} {st : State} {ret : State × Machine}

/-- The interface has become active with the state. -/
def Enters (st : State) (ret : State × Machine) : Prop :=
  ret.1 = .interfaceActive → st ≠ .interfaceActive →
    ∃ i, ret.2.activeInterfaceIdx = some i ∧ ret.2.choice.locals[i]? = some (some .active)

theorem Marks.tracks {c : Choice} (hwork : WorksOn i c) (hphase : c.phase = .auto ∨ c.phase = .fixed)
    (htracks : Tracks st c) (h : Marks i st c ret) : Tracks ret.1 ret.2.choice ∧ Enters st ret := by
  obtain ⟨r, hr⟩ := hwork.isLocal
  rcases h with ⟨hchoice, hst⟩ | ⟨s, hchoice, hst⟩
  · rw [hchoice]
    refine ⟨⟨fun j hj => ?_, fun j _ hj => ?_, fun _ => by simp [hwork.idx]⟩, fun hin hout => absurd (hst.mp hin) hout⟩
    · obtain ⟨-, hactive, hidx⟩ := htracks.active j hj
      exact ⟨hphase, hst.mpr hactive, hidx⟩
    · rw [hwork.idx, Option.some.injEq] at hj
      exact ⟨r, hj ▸ hr⟩
  · have hself : (c.mark i s).locals[i]? = some (some s) := assign_self hr
    rw [hchoice]
    refine ⟨⟨fun j hj => ?_, fun j _ hj => ?_, fun _ => by simp [Choice.mark, hwork.idx]⟩, fun hin _ => ?_⟩
    · by_cases hji : j = i
      · subst hji
        rw [hself, Option.some.injEq, Option.some.injEq] at hj
        exact ⟨hphase, hst.mpr hj, hwork.idx⟩
      · have hj' : c.locals[j]? = some (some .active) := (assign_ne hji).symm.trans hj
        have hidx := (htracks.active j hj').2.2
        rw [hwork.idx, Option.some.injEq] at hidx
        exact absurd hidx.symm hji
    · have hji : i = j := Option.some.inj (hwork.idx.symm.trans hj)
      exact ⟨s, hji ▸ hself⟩
    · have hidx : ret.2.activeInterfaceIdx = some i := (congrArg Choice.idx hchoice).trans hwork.idx
      exact ⟨i, hidx, by rw [hchoice, hself, hst.mp hin]⟩

/-- Nothing is active, and the interface `j` is chosen. -/
theorem tracks_of_noneActive {c : Choice} (hnone : NoneActive c.locals) (hidx : c.idx = some i)
    (hlocal : ∃ s, c.locals[i]? = some (some s)) : Tracks st c :=
  ⟨fun j hj => absurd hj (hnone j), fun _ _ hj => (Option.some.inj (hidx.symm.trans hj)) ▸ hlocal,
    fun _ => by simp [hidx]⟩

theorem Tracks.noneActive {c : Choice} (h : Tracks st c) (hst : st ≠ .interfaceActive) : NoneActive c.locals :=
  fun j hj => hst (h.active j hj).2.1

theorem alternateInterface_local {ifaces : List Iface} {i j : Nat} (h : alternateInterface i ifaces = some j) :
    ∃ s, (statuses .local_ ifaces)[j]? = some (some s) := by
  have hj := List.find?_some h
  simp only [Bool.and_eq_true, Option.any_eq_true] at hj
  obtain ⟨-, d, hd, htype⟩ := hj
  exact ⟨_, statuses_at hd (by simpa using htype)⟩

theorem lastKnownModeInterfaceIndex_local {i : Nat} (h : lastKnownModeInterfaceIndex m = some i) :
    ∃ s, (statuses .local_ m.ifaces)[i]? = some (some s) := by
  have hlocal {p : Iface → Bool} (hp : ∀ d, p d = true → d.ifaceType = .local_)
      (hidx : m.ifaces.findIdx? p = some i) : ∃ s, (statuses .local_ m.ifaces)[i]? = some (some s) := by
    obtain ⟨hlt, hpi, -⟩ := List.findIdx?_eq_some_iff_getElem.mp hidx
    exact ⟨_, statuses_at (List.getElem?_eq_getElem hlt) (hp _ hpi)⟩
  unfold lastKnownModeInterfaceIndex at h
  split at h
  · exact hlocal (by simp +contextual) h
  · exact hlocal (by simp +contextual) h
  · cases h

theorem tracks_selectAlternateInterface (hwork : WorksOn i m.choice)
    (htracks : Tracks .selectingInterface m.choice) :
    Tracks (selectAlternateInterface m).1 (selectAlternateInterface m).2.choice ∧
      Enters .selectingInterface (selectAlternateInterface m) := by
  obtain ⟨d, hd⟩ := hwork.fixed
  have hnone := htracks.noneActive (by decide)
  unfold selectAlternateInterface
  rw [hd]
  dsimp only
  cases hj : alternateInterface i m.ifaces with
  | none => exact ⟨tracks_of_noneActive hnone hwork.idx hwork.isLocal, fun h => by cases h⟩
  | some j =>
    obtain ⟨r, hr⟩ := alternateInterface_local hj
    refine ⟨?_, fun h => by cases h⟩
    dsimp only
    rw [waiting_choice]
    exact tracks_of_noneActive (hnone.assign (by decide)) rfl ⟨_, assign_self hr⟩

theorem tracks_choosing {c : Choice} (hnone : NoneActive c.locals) (hphase : c.phase = .choosing) : Tracks st c :=
  ⟨fun j hj => absurd hj (hnone j), fun _ hne => absurd hphase hne, fun h => by simp [hphase] at h⟩

theorem worksOn_updateConfig (htracks : Tracks m.st m.choice)
    (hphase : m.phase = .auto ∨ (m.phase = .fixed ∧ m.st ≠ .selectingInterface)) :
    ∃ i, WorksOn i (updateConfig m).choice := by
  obtain ⟨i, hi⟩ := Option.ne_none_iff_exists'.mp (htracks.chosen hphase)
  have hrun : m.phase ≠ .choosing := by
    rcases hphase with h | ⟨h, -⟩ <;> simp [h]
  exact ⟨i, hi, hi, htracks.isLocal i hrun hi⟩

theorem Tracks.updateConfig (h : Tracks st m.choice) : Tracks st (updateConfig m).choice :=
  ⟨h.active, h.isLocal, h.chosen⟩

theorem tracks_autoFunction {st : State} (htracks : Tracks st m.choice) (hwork : WorksOn i m.choice)
    (hphase : m.phase = .auto) :
    Tracks (autoFunction st m).1 (autoFunction st m).2.choice ∧ Enters st (autoFunction st m) := by
  have hmarks (h : Marks i st m.choice (autoFunction st m)) := h.tracks hwork (.inl hphase) htracks
  cases st with
  | selectingInterface => exact tracks_selectAlternateInterface hwork htracks
  | waitingForInterface => exact hmarks (marks_stateWaitingForInterface hwork)
  | configuringInterface => exact hmarks (marks_stateWanConfiguringInterface hwork)
  | scanningInterface => exact hmarks (marks_stateWanScanningInterface hwork)
  | deconfiguringInterface => exact hmarks (marks_stateWanDeConfiguringInterface hwork)
  | interfaceActive => exact hmarks (marks_stateWanInterfaceActive hwork)
  | interfaceUp => exact hmarks (marks_stateWanInterfaceUp hwork)
  | interfaceDown => exact hmarks (marks_stateWanInterfaceDown hwork)
  | interfaceTeardown => exact hmarks (marks_stateWanInterfaceTearDown hwork)
  | autoWanValidatedInterface => exact hmarks (marks_stateAutoWanInterfaceValidated hwork)
  | validatedInterface => exact hmarks (marks_stateWanInterfaceValidated hwork)
  | exit => exact ⟨tracks_choosing (htracks.noneActive (by decide)) rfl, fun h => by cases h⟩

theorem tracks_stateSelectingWanInterface (htracks : Tracks .selectingInterface m.choice)
    (hphase : m.phase = .fixed) :
    Tracks (stateSelectingWanInterface m).1 (stateSelectingWanInterface m).2.choice ∧
      Enters .selectingInterface (stateSelectingWanInterface m) := by
  have hnone := htracks.noneActive (by decide)
  unfold stateSelectingWanInterface
  dsimp only
  cases hidx : lastKnownModeInterfaceIndex m with
  | none =>
    rw [if_neg (by simp)]
    refine ⟨⟨fun j hj => absurd hj (hnone j), fun _ _ hi => by simp [Machine.choice] at hi, fun h => ?_⟩,
      fun h => by cases h⟩
    simp [Machine.choice, hphase] at h
  | some j =>
    rw [if_pos (by simp)]
    obtain ⟨r, hr⟩ := lastKnownModeInterfaceIndex_local hidx
    cases hfixed : ({ m with activeInterfaceIdx := some j } : Machine).fixed? with
    | none =>
      rw [transitionWanInterfaceSelected, hfixed]
      exact ⟨tracks_of_noneActive hnone rfl ⟨r, hr⟩, fun h => by cases h⟩
    | some ret =>
      obtain ⟨hst, hmark⟩ := selected_choice hfixed
      rw [Enters, hmark, hst]
      exact ⟨tracks_of_noneActive (hnone.assign (by decide)) rfl (assign_remote hr), fun h => by cases h⟩

theorem tracks_fixedFunction {st : State} (htracks : Tracks st m.choice)
    (hwork : st ≠ .selectingInterface → ∃ i, WorksOn i m.choice) (hphase : m.phase = .fixed) :
    Tracks (fixedFunction st m).1 (fixedFunction st m).2.choice ∧ Enters st (fixedFunction st m) := by
  by_cases hst : st = .selectingInterface
  · subst hst
    exact tracks_stateSelectingWanInterface htracks hphase
  obtain ⟨i, hi⟩ := hwork hst
  have hmarks (h : Marks i st m.choice (fixedFunction st m)) := h.tracks hi (.inr hphase) htracks
  have hends (hne : st ≠ .interfaceActive) (h : fixedFunction st m = (st, { m with phase := .choosing })) :
      Tracks (fixedFunction st m).1 (fixedFunction st m).2.choice ∧ Enters st (fixedFunction st m) := by
    rw [h]
    exact ⟨tracks_choosing (htracks.noneActive hne) rfl, fun h => absurd h hne⟩
  cases st with
  | selectingInterface => exact absurd rfl hst
  | interfaceDown => exact hmarks (marks_stateFixedWanInterfaceDown hi)
  | interfaceUp => exact hmarks (marks_stateFixedWanInterfaceUp hi)
  | interfaceTeardown => exact hmarks (marks_stateWanInterfaceTearDown hi)
  | validatedInterface => exact hmarks (marks_stateFixedWanInterfaceValidated hi)
  | interfaceActive => exact hmarks (marks_stateFixedWanInterfaceActive hi)
  | waitingForInterface | autoWanValidatedInterface | configuringInterface | deconfiguringInterface
  | scanningInterface | exit => exact hends (by decide) rfl

/-- How a round of the policy begins: a machine for a fixed mode has chosen nothing yet. -/
def Starts (ifaces : List Iface) (m : Machine) : Prop :=
  m.ifaces = ifaces ∧
    ((m.phase = .fixed ∧ m.st = .selectingInterface ∧ m.activeInterfaceIdx = none) ∨
      (m.phase = .startingAuto ∧ m.activeInterfaceIdx = lastKnownModeInterfaceIndex m))

theorem starts_startFixed (m : Machine) : Starts m.ifaces (startFixed m) := ⟨rfl, .inl ⟨rfl, rfl, rfl⟩⟩

theorem starts_startAutoMode (m : Machine) : Starts m.ifaces (startAutoMode m) := ⟨rfl, .inr ⟨rfl, rfl⟩⟩

theorem starts_choose (m : Machine) : Starts m.ifaces (choose m) := by
  have hifaces := (initialized m).ifaces
  unfold choose
  generalize initializeAutoWanConfig m = m' at hifaces ⊢
  rw [← hifaces]
  dsimp only
  split
  · exact starts_startFixed (setCurrentWanMode .primary (setLastKnownWanMode .primary m'))
  · exact starts_startFixed (setCurrentWanMode .secondary (setLastKnownWanMode .secondary m'))
  · exact starts_startAutoMode m'
  · exact starts_startAutoMode (selectedWanMode .auto m')

theorem Tracks.idle {c : Choice} (h : Tracks st c) (hauto : c.phase ≠ .auto) (hfixed : c.phase ≠ .fixed) :
    NoneActive c.locals :=
  fun j hj => (h.active j hj).1.elim hauto hfixed

theorem choose_tracks (h : Tracks m.st m.choice) (hphase : m.phase = .choosing) :
    Tracks (choose m).st (choose m).choice := by
  have hnone := h.idle (by simp [Machine.choice, hphase]) (by simp [Machine.choice, hphase])
  obtain ⟨hifaces, hstarts⟩ := starts_choose m
  have hlocals : (choose m).choice.locals = m.choice.locals := congrArg (statuses .local_) hifaces
  refine ⟨fun j hj => absurd (hlocals ▸ hj) (hnone j), fun i _ hi => ?_, fun hc => ?_⟩
  · change (choose m).activeInterfaceIdx = some i at hi
    rcases hstarts with ⟨-, -, hidx⟩ | ⟨-, hidx⟩
    · rw [hidx] at hi
      cases hi
    · exact lastKnownModeInterfaceIndex_local (hidx.symm.trans hi)
  · change (choose m).phase = .auto ∨ ((choose m).phase = .fixed ∧ _) at hc
    rcases hstarts with ⟨hfixed, hst, -⟩ | ⟨hauto, -⟩
    · simp [hfixed, hst] at hc
    · simp [hauto] at hc

@[simp] theorem choice_startConnectivityCheck (d : Option Iface) (m : Machine) :
    (startConnectivityCheck d m).choice = m.choice := rfl

theorem startAuto_tracks (h : Tracks m.st m.choice) (hphase : m.phase = .startingAuto) :
    Tracks (startAuto m).st (startAuto m).choice := by
  have hnone := h.idle (by simp [Machine.choice, hphase]) (by simp [Machine.choice, hphase])
  unfold startAuto
  split
  · exact h
  · next i d hfixed =>
    have hlink : (m.modifyIface i (·.setActiveLink true)).choice = m.choice :=
      choice_keep (fun _ => rfl) (fun _ => rfl)
    dsimp only
    split
    · exact hlink ▸ h
    · obtain ⟨i', hidx, -⟩ := Option.bind_eq_some_iff.mp hfixed
      have hlocal := h.isLocal i' (by simp [Machine.choice, hphase]) hidx
      have hstatus : ((startConnectivityCheck (some d) (m.modifyIface i (·.setActiveLink true))).modifyIface i
          fun d => { d with baseInterfaceStatus := .unknown }).choice = m.choice :=
        by
        rw [choice_keep, choice_startConnectivityCheck, hlink]
        · exact fun _ => rfl
        · exact fun _ => rfl
      have hlocals := congrArg Choice.locals hstatus
      split
      · exact tracks_of_noneActive (hlocals ▸ hnone) hidx (hlocals ▸ hlocal)
      · exact tracks_of_noneActive (hlocals ▸ hnone) hidx (hlocals ▸ hlocal)

theorem step_tracks (h : Tracks m.st m.choice) :
    Tracks (step m).st (step m).choice ∧
      (m.phase = .auto ∨ m.phase = .fixed → Enters m.st ((step m).st, step m)) := by
  unfold step
  cases hphase : m.phase with
  | choosing => exact ⟨choose_tracks h hphase, fun hrun => by simp at hrun⟩
  | startingAuto => exact ⟨startAuto_tracks h hphase, fun hrun => by simp at hrun⟩
  | auto =>
    obtain ⟨i, hwork⟩ := worksOn_updateConfig h (.inl hphase)
    have htick := tracks_autoFunction h.updateConfig hwork hphase
    exact ⟨htick.1, fun _ => htick.2⟩
  | fixed =>
    have htick := tracks_fixedFunction h.updateConfig
      (fun hst => worksOn_updateConfig h (.inr ⟨hphase, hst⟩)) hphase
    exact ⟨htick.1, fun _ => htick.2⟩

end Ticks

/-! ## Runs -/

section Run

variable {allowed : Machine → Prop} {m m' m₀ : Machine}

theorem Tracks.others (h : Tracks m.st m.choice) (hothers : Others m m') : Tracks m'.st m'.choice := by
  have hst : m'.st = m.st := by rw [hothers.kept]
  have hphase : m'.choice.phase = m.choice.phase := by rw [hothers.kept]; rfl
  have hidx : m'.choice.idx = m.choice.idx := by rw [hothers.kept]; rfl
  refine ⟨fun j hj => ?_, fun i hrun hi => ?_, fun hc => ?_⟩
  · rw [hst, hphase, hidx]
    exact h.active j (hothers.noneActive j hj)
  · rw [hphase] at hrun
    rw [hidx] at hi
    obtain ⟨s, hs⟩ := h.isLocal i hrun hi
    obtain ⟨d, hd, htype, -⟩ := local_at hs
    obtain ⟨d', hd', htype', -⟩ := hothers.ifaces i d hd
    exact ⟨_, statuses_at hd' (htype'.trans htype)⟩
  · rw [hst, hphase] at hc
    rw [hidx]
    exact h.chosen hc

theorem Run.tracks (hstart : Started m₀) (hrun : Run allowed m₀ m) : Tracks m.st m.choice := by
  induction hrun with
  | start => exact tracks_choosing hstart.noneActive hstart.phase
  | tick _ ih => exact (step_tracks ih).1
  | others _ hothers _ ih => exact ih.others hothers
  | restart ifaces _ hnone _ => exact tracks_choosing hnone rfl

/-- In every run, also over reboots, a local interface is `ACTIVE` only while its machine runs in
`STATE_WAN_INTERFACE_ACTIVE` and has chosen it, so that it is the only one. When a machine comes to that
state, the interface it has chosen is `ACTIVE`. -/
theorem active_local_is_chosen (hstart : Started m₀) (hrun : Run allowed m₀ m) :
    (∀ i d, m.ifaces[i]? = some d → d.ifaceType = .local_ → d.selection.status = .active →
      (m.phase = .auto ∨ m.phase = .fixed) ∧ m.st = .interfaceActive ∧ m.activeInterfaceIdx = some i) ∧
    (m.phase = .auto ∨ m.phase = .fixed → m.st ≠ .interfaceActive → (step m).st = .interfaceActive →
      ∃ i d, (step m).activeInterfaceIdx = some i ∧ (step m).ifaces[i]? = some d ∧
        d.ifaceType = .local_ ∧ d.selection.status = .active) := by
  have htracks := hrun.tracks hstart
  refine ⟨fun i d hd htype hactive => ?_, fun hphase hout hin => ?_⟩
  · exact htracks.active i (hactive ▸ statuses_at hd htype)
  · obtain ⟨i, hidx, hi⟩ := (step_tracks htracks).2 hphase hin hout
    obtain ⟨d, hd, htype, hactive⟩ := local_at hi
    exact ⟨i, d, hidx, hd, htype, hactive⟩

end Run

/-! ## The secondary interface becomes active -/

namespace Example

/-- The WAN service has started on the interface that got an address. -/
def served : Machine :=
  { step leased with outside := { wanStatus := "started", wanServiceStatus := "started" } }

theorem run_served : Run Writable booted served :=
  run_leased.tick.others
    { kept := rfl, noneActive := fun _ hi => hi, ifaces := fun _ d hd => ⟨d, hd, rfl, rfl⟩ } rfl

end Example

theorem active_local_is_chosen_run :
    (∃ i d, (step Example.served).activeInterfaceIdx = some i ∧ (step Example.served).ifaces[i]? = some d ∧
      d.ifaceType = .local_ ∧ d.selection.status = .active) ∧
    (step Example.served).activeInterfaceIdx = some 1 := by
  have hserved := active_local_is_chosen Example.started.toStarted Example.run_served
  have hactive := active_local_is_chosen Example.started.toStarted Example.run_served.tick
  obtain ⟨i, d, hidx, hd, htype, hstatus⟩ := hserved.2 (.inl rfl) (by decide) (by decide)
  exact ⟨⟨i, d, hidx, hd, htype, hstatus⟩, (hactive.1 1 _ rfl rfl rfl).2.2⟩

end ModePolicy

end WanManager
