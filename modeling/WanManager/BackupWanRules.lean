import WanManager.BackupWanSelection

/-! # The firewall rules of the backup interface

The script that configures the rules runs when the backup interface becomes active, and is to be
undone when it is given up. Some ways down do not undo it: `Transition_BackupWanInterfaceDown` only
does if the interface and its remote end are up, and WAN disabled while the machine waits for a local
interface skips the transition. The rules outlive the use of the interface exactly in these cases. -/

namespace WanManager

namespace BackupWan

/-- The script was last run to configure the rules. -/
def Configured (m : Machine) : Prop := m.scripts.getLast? = some .configure

/-- The machine is done with the backup interface for now, but may have left its rules. -/
def Clean (r : State × Machine) : Prop := Configured r.2 → r.1 = .interfaceActive ∨ r.1 = .waiting

/-- The script leaves the name of the interface in `current_wan_ifname`. -/
def Named (m : Machine) : Prop := ∀ d, m.fixed? = some d → ∀ scripts : List Action,
  scripts.getLast? = some .configure →
    m.outside.currentWanIfname scripts = d.name ∧ d.name ≠ ""

/-- The interface and its remote end are up. -/
def bothUp (d : Iface) : Bool := d.virtIf.status == .up && d.virtIf.remoteStatus == .up

/-- A local interface is back, so the machine need not wait. -/
def localBack (d : Iface) (m : Machine) : Bool :=
  anyLocalWanIsPhysicallyActive m.ifaces && (!d.tad || primaryConnectivityCheckGood m.ifaces)

/-- The ticks that give the interface up without its rules, in the two states that keep them. -/
def leavesRules (m : Machine) : Bool :=
  let m' := updateConfig m
  m'.fixed?.any fun d =>
    match m.st with
    | .interfaceActive => goesDown d m' && !bothUp d
    | .waiting =>
      !m'.wanEnable || !m'.allowRemoteInterfaces ||
        (if localBack d m' then !bothUp d
          else triesAgain (updateTad d m') && d.virtIf.vlan.status != .up && d.virtIf.status != .up)
    | _ => false

section Transitions

variable {m : Machine} {d : Iface} {f : Iface → Iface}

theorem configured_of_ledger {m' : Machine} (h : m'.ledger = m.ledger) :
    Configured m' ↔ Configured m := by rw [Configured, scripts_of_ledger h, Configured]

theorem Named.modifyFixed (h : Named m) (hname : ∀ d, (f d).name = d.name) : Named (m.modifyFixed f) := by
  intro d' hd' scripts hscripts
  cases hd : m.fixed? with
  | none =>
    unfold Machine.fixed? at hd hd'
    unfold Machine.modifyFixed at hd'
    cases hl : m.locked with
    | none => simp [hl] at hd'
    | some i =>
      rw [hl, Option.bind_some] at hd
      simp [hl, Machine.modifyIface, hd] at hd'
  | some d =>
    rw [fixed_modifyFixed hd, Option.some.injEq] at hd'
    rw [← hd', outside_modifyFixed, hname]
    exact h d hd scripts hscripts

/-- Rules that are configured are taken back. -/
theorem not_configured_takeBackRules (h : Named m) (hd : m.fixed? = some d) :
    ¬ Configured (takeBackRules d.name m) := by
  have hrules : ¬ Configured (firewallRuleConfig .deconfigure d.name m).2 := by
    unfold firewallRuleConfig
    dsimp only
    split
    · simp [Configured]
    · next hother =>
      intro hconfigured
      obtain ⟨hname, hne⟩ := h d hd _ hconfigured
      exact hother (.inr ⟨hname ▸ hne, hname⟩)
  unfold takeBackRules delBackUpIpv6Route
  dsimp only
  split
  · split <;> exact hrules
  · exact hrules

/-! ## Transitions -/

/-- `Transition_BackupWanInterfaceDown` only looks after the rules of an interface that is up. -/
theorem down_clean_iff (h : Named m) (hd : m.fixed? = some d) :
    Clean (transitionBackupWanInterfaceDown m) ↔ (Configured m → bothUp d = true) := by
  have hboth : bothUp d = true ↔ d.virtIf.status = .up ∧ d.virtIf.remoteStatus = .up := by
    simp [bothUp]
  unfold transitionBackupWanInterfaceDown
  rw [hd]
  dsimp only
  by_cases hup : bothUp d = true
  · refine iff_of_true ?_ fun _ => hup
    rw [if_pos (hboth.mp hup)]
    split
    · exact fun _ => .inr rfl
    · intro hconfigured
      rw [configured_of_ledger (ledger_tearDown d)] at hconfigured
      exact absurd hconfigured (not_configured_takeBackRules h hd)
  · rw [if_neg (mt hboth.mpr hup)]
    constructor
    · intro hclean hconfigured
      rcases hclean ((configured_of_ledger (ledger_tearDown d)).mpr hconfigured) with hst | hst <;> cases hst
    · intro hno hconfigured
      rw [configured_of_ledger (ledger_tearDown d)] at hconfigured
      exact absurd (hno hconfigured) hup

theorem active_clean_iff (h : Named m) (hd : m.fixed? = some d) :
    Clean (transitionBackupWanInterfaceActive m) ↔ (Configured m →
      d.baseInterfaceStatus = .down ∨ d.virtIf.vlan.status ≠ .up ∨ d.virtIf.remoteStatus ≠ .up →
        bothUp d = true) := by
  unfold transitionBackupWanInterfaceActive
  rw [hd]
  dsimp only
  by_cases hdown : d.baseInterfaceStatus = .down ∨ d.virtIf.vlan.status ≠ .up ∨ d.virtIf.remoteStatus ≠ .up
  · have hfixed : (switchOverFailed m).fixed? = some d := by
      unfold switchOverFailed
      split <;> exact hd
    have hnamed : Named (switchOverFailed m) := by
      unfold switchOverFailed
      split <;> exact h
    rw [if_pos hdown, down_clean_iff hnamed hfixed, configured_of_ledger ledger_switchOverFailed]
    exact ⟨fun hup hconfigured _ => hup hconfigured, fun hup hconfigured => hup hconfigured hdown⟩
  · refine iff_of_true ?_ fun _ hbad => absurd hbad hdown
    rw [if_neg hdown, firewallRuleConfig_configure, if_neg Bool.false_ne_true.symm]
    split
    · refine (down_clean_iff (d := (d.setSelection .active).setStatus .up) ?_ ?_).mpr fun _ => ?_
      · exact Named.modifyFixed (f := fun d => (d.setSelection .active).setStatus .up) h fun _ => rfl
      · exact fixed_modifyFixed (f := fun d => (d.setSelection .active).setStatus .up) hd
      · simp only [not_or, Decidable.not_not] at hdown
        simp [bothUp, Iface.setStatus, Iface.setSelection, hdown.2.2]
    · exact fun _ => .inl rfl

theorem inactive_clean (h : Named m) (hd : m.fixed? = some d) :
    Clean (transitionBackupWanInterfaceInActive m) := by
  unfold transitionBackupWanInterfaceInActive
  rw [hd]
  intro hconfigured
  rw [configured_of_ledger ledger_modifyFixed] at hconfigured
  exact absurd hconfigured (not_configured_takeBackRules h hd)

end Transitions

/-! ## States -/

section States

variable {m : Machine} {d : Iface}

theorem clean_of_ledger {r : State × Machine} (h : ¬ Configured m) (hr : r.2.ledger = m.ledger) :
    Clean r := fun hconfigured => absurd ((configured_of_ledger hr).mp hconfigured) h

/-- The states in which the rules are not configured leave none behind. -/
theorem stateFunction_clean {st : State} (h : Named m) (hno : ¬ Configured m)
    (hst : st ≠ .interfaceActive) (hst' : st ≠ .waiting) : Clean (stateFunction st m) := by
  have hdown : Clean (transitionBackupWanInterfaceDown m) := by
    cases hd : m.fixed? with
    | none =>
      unfold transitionBackupWanInterfaceDown
      rw [hd]
      exact clean_of_ledger hno rfl
    | some d => exact (down_clean_iff h hd).mpr fun hconfigured => absurd hconfigured hno
  rcases idle_cases (m := m) hst hst' with hkeeps | heq | ⟨g, heq⟩
  · exact clean_of_ledger hno hkeeps
  · rw [heq]
    exact hdown
  · rw [heq]
    have hno' := mt (configured_of_ledger (ledger_modifyFixed (f := (·.setIp g)))).mp hno
    cases hd : (m.modifyFixed (·.setIp g)).fixed? with
    | none =>
      unfold transitionBackupWanInterfaceActive
      rw [hd]
      exact clean_of_ledger hno' rfl
    | some d =>
      exact (active_clean_iff (h.modifyFixed (f := (·.setIp g)) fun _ => rfl) hd).mpr
        fun hconfigured => absurd hconfigured hno'

theorem restorationDelay_clean (h : Named m) (hd : m.fixed? = some d) (d' : Iface) :
    Clean (restorationDelay d' m) := by
  unfold restorationDelay
  split
  · split
    · exact fun _ => .inl rfl
    · split
      · dsimp only
        split
        · exact inactive_clean (m := stopTimer m) h hd
        · split
          · next hvalid =>
            -- a validation that starts changes nothing
            have hsame : (retriggerPrimaryValidation (stopTimer m)).2 = stopTimer m := by
              unfold retriggerPrimaryValidation at hvalid ⊢
              split
              · rfl
              · next hfound =>
                rw [hfound] at hvalid
                dsimp only at hvalid
                split at hvalid
                · next hstart => rw [if_pos hstart]
                · cases hvalid
            rw [hsame]
            exact inactive_clean (m := stopTimer m) h hd
          · exact fun _ => .inl rfl
      · exact fun _ => .inl rfl
  · exact fun _ => .inl rfl

/-- A tick of `STATE_BACKUP_WAN_INTERFACE_ACTIVE` leaves no rules behind. -/
theorem stateActive_clean_iff (h : Named m) (hd : m.fixed? = some d) :
    Clean (stateBackupWanInterfaceActive m) ↔
      (Configured m → (goesDown d m && !bothUp d) = false) := by
  unfold stateBackupWanInterfaceActive
  rw [hd]
  dsimp only
  cases hdown : goesDown d m with
  | true =>
    rw [if_pos rfl, down_clean_iff h hd]
    simp
  | false =>
    rw [if_neg Bool.false_ne_true]
    refine iff_of_true ?_ fun _ => rfl
    split
    · exact inactive_clean (m := stopTimer m) h hd
    · obtain ⟨g, hg⟩ := updateActiveTad_eq d m
      rw [hg]
      exact restorationDelay_clean (h.modifyFixed (f := (·.setIp g)) fun _ => rfl)
        (fixed_modifyFixed (f := (·.setIp g)) hd) d

/-- A tick of `STATE_BACKUP_WAN_WAITING` leaves no rules behind. -/
theorem stateWaiting_clean_iff (h : Named m) (hd : m.fixed? = some d) :
    Clean (stateBackupWanInterfaceWaitingPrimaryUp m) ↔ (Configured m →
      (!m.wanEnable || !m.allowRemoteInterfaces ||
        (if localBack d m then !bothUp d
          else triesAgain (updateTad d m) && d.virtIf.vlan.status != .up && d.virtIf.status != .up)) =
        false) := by
  rw [waiting_eq hd]
  by_cases henabled : ¬ m.wanEnable ∨ ¬ m.allowRemoteInterfaces
  · rw [if_pos henabled]
    refine ⟨fun hclean hconfigured => ?_, fun hno hconfigured => ?_⟩
    · rcases hclean hconfigured with hst | hst <;> cases hst
    · have hfalse := hno hconfigured
      rcases henabled with henabled | henabled <;> simp [henabled] at hfalse
  rw [if_neg henabled]
  simp only [not_or, Decidable.not_not] at henabled
  simp only [henabled.1, henabled.2, Bool.not_true, Bool.false_or]
  have hback : localBack d m = true ↔ anyLocalWanIsPhysicallyActive m.ifaces ∧
      (¬ d.tad ∨ primaryConnectivityCheckGood m.ifaces) := by simp [localBack]
  by_cases hlocal : localBack d m = true
  · rw [if_pos (hback.mp hlocal), if_pos hlocal, down_clean_iff h hd, Bool.not_eq_false']
  rw [if_neg (mt hback.mpr hlocal), if_neg hlocal]
  obtain ⟨g, hg⟩ := updateTad_eq d m
  have hfixed : (updateTad d m).fixed? = some (d.setIp g) := by rw [hg, fixed_modifyFixed hd]
  have hnamed : Named (updateTad d m) := by
    rw [hg]
    exact h.modifyFixed fun _ => rfl
  by_cases htry : triesAgain (updateTad d m) = true
  · rw [if_pos htry, active_clean_iff hnamed hfixed, configured_of_ledger (ledger_updateTad d)]
    have htests := htry
    rw [triesAgain, hfixed, Option.any_some] at htests
    simp only [Bool.and_eq_true, beq_iff_eq] at htests
    have hbase : d.baseInterfaceStatus = .up := htests.1.1.2
    have hremote : d.virtIf.remoteStatus = .up := htests.2
    have hstatus : bothUp (d.setIp g) = (d.virtIf.status == .up) := by
      show (d.virtIf.status == .up && d.virtIf.remoteStatus == .up) = _
      simp [hremote]
    have hvlan : (d.setIp g).baseInterfaceStatus = .down ∨ (d.setIp g).virtIf.vlan.status ≠ .up ∨
        (d.setIp g).virtIf.remoteStatus ≠ .up ↔ d.virtIf.vlan.status ≠ .up := by
      show d.baseInterfaceStatus = .down ∨ d.virtIf.vlan.status ≠ .up ∨ d.virtIf.remoteStatus ≠ .up ↔ _
      simp [hbase, hremote]
    rw [hvlan, hstatus, htry]
    simp
  · rw [if_neg htry]
    exact iff_of_true (fun _ => .inr rfl) fun _ => by simp [htry]

end States

/-! ## Runs -/

section Runs

variable {r : Nat → Machine}

theorem Run.fixed (hrun : Run r) {k : Nat} (hst : (r k).st = .interfaceActive ∨ (r k).st = .waiting) :
    ∃ d, (updateConfig (r k)).fixed? = some d := by
  have hshows := hrun.shows k
  rcases hst with hst | hst <;> rw [hst] at hshows
  · obtain ⟨i, hidx, hi, honly⟩ := hshows
    obtain ⟨d, hd, -⟩ := Chosen.fixed (i := i) (m := updateConfig (r k)) ⟨hidx, hidx, honly, _, hi⟩
    exact ⟨d, hd⟩
  · obtain ⟨hnone, i, hidx, hi⟩ := hshows
    obtain ⟨d, hd, -⟩ :=
      Chosen.fixed (i := i) (m := updateConfig (r k)) ⟨hidx, hidx, hnone.only, _, hi⟩
    exact ⟨d, hd⟩

/-- With the rules in use, a tick leaves them behind exactly if `leavesRules` says so. -/
theorem Run.clean_iff (hrun : Run r) {k : Nat} (hnamed : Named (updateConfig (r k)))
    (hst : (r k).st = .interfaceActive ∨ (r k).st = .waiting) :
    Clean ((tick (r k)).st, tick (r k)) ↔ (Configured (r k) → leavesRules (r k) = false) := by
  obtain ⟨d, hd⟩ := hrun.fixed hst
  have htick : Clean ((tick (r k)).st, tick (r k)) ↔
      Clean (stateFunction (r k).st (updateConfig (r k))) := Iff.rfl
  unfold leavesRules
  dsimp only
  rw [htick, hd, Option.any_some]
  rcases hst with hst | hst
  · simp only [hst]
    exact stateActive_clean_iff hnamed hd
  · simp only [hst]
    exact stateWaiting_clean_iff hnamed hd

/-- The rules of the backup interface are configured only while it is active or the machine waits for
a local one, in a run in which no tick gives the interface up without them; every such tick leaves them
behind. -/
theorem rules_outlive_use_iff (hrun : Run r) (hnamed : ∀ k, Named (updateConfig (r k))) :
    (∀ k, Configured (r k) → (r k).st = .interfaceActive ∨ (r k).st = .waiting) ↔
      ∀ k, Configured (r k) → leavesRules (r k) = false := by
  have hnext (k : Nat) : (Configured (r (k + 1)) →
      (r (k + 1)).st = .interfaceActive ∨ (r (k + 1)).st = .waiting) ↔
        Clean ((tick (r k)).st, tick (r k)) := by
    unfold Clean Configured
    rw [(hrun.step k).scripts, (hrun.step k).st]
  constructor
  · intro hclean k hconfigured
    have hst := hclean k hconfigured
    exact (hrun.clean_iff (hnamed k) hst).mp ((hnext k).mp (hclean (k + 1))) hconfigured
  · intro hno k
    induction k with
    | zero =>
      intro hconfigured
      obtain ⟨-, -, -, hnone, -⟩ := hrun.start
      rw [Configured, hnone] at hconfigured
      cases hconfigured
    | succ k ih =>
      rw [hnext]
      by_cases hst : (r k).st = .interfaceActive ∨ (r k).st = .waiting
      · exact (hrun.clean_iff (hnamed k) hst).mpr (hno k)
      · have hunused := mt ih hst
        rw [not_or] at hst
        exact stateFunction_clean (hnamed k) hunused hst.1 hst.2

end Runs

/-! Left alone, the machine stays active from the sixth tick on. -/

namespace Example

def named : Machine :=
  { config := { allowRemoteInterfaces := true }
    ifaces := [{ scanned := true }, { backup with name := "brRWAN" }]
    outside := { currentWanIfname := fun scripts =>
      if scripts.getLast? = some .configure then "brRWAN" else "erouter0" } }

theorem named_cases (P : Machine → Prop) (h : ∀ k ≤ 6, P (tick^[k] named)) (k : Nat) :
    P (tick^[k] named) := by
  by_cases hk : k ≤ 6
  · exact h k hk
  · have hfixed : tick (tick^[6] named) = tick^[6] named := rfl
    obtain ⟨n, rfl⟩ := Nat.exists_eq_add_of_lt (Nat.lt_of_not_le hk)
    rw [show 6 + n + 1 = (n + 1) + 6 by omega, Function.iterate_add_apply,
      Function.iterate_fixed hfixed]
    exact h 6 (Nat.le_refl 6)

theorem named_run : Run fun k => tick^[k] named :=
  run_iterate rfl rfl rfl rfl fun j hj => by
    rcases j with _ | _ | j
    · cases hj
    · cases hj
    · cases hj

end Example

open Example in
theorem rules_outlive_use_run :
    (tick^[6] named).st = .interfaceActive ∨ (tick^[6] named).st = .waiting := by
  have hkept := named_cases (fun m => (updateConfig m).fixed?.all (·.name == "brRWAN") = true ∧
      (updateConfig m).outside = named.outside ∧ leavesRules m = false) fun k hk => by
    rcases k with _ | _ | _ | _ | _ | _ | _ | k
    all_goals first | exact ⟨rfl, rfl, rfl⟩ | omega
  refine (rules_outlive_use_iff named_run fun k d hd scripts hscripts => ?_).mpr
    (fun k _ => (hkept k).2.2) 6 rfl
  obtain ⟨hname, houtside, -⟩ := hkept k
  rw [hd, Option.all_some, beq_iff_eq] at hname
  rw [houtside, hname]
  exact ⟨if_pos hscripts, by decide⟩

end BackupWan

end WanManager
