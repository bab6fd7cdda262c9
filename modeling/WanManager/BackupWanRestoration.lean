import WanManager.BackupWanSelection

/-! # The restoration delay of the backup machine

`State_BackupWanInterfaceActive` goes back to the local interfaces when one has been ready for the
restoration delay, or at once when the backup interface lost its connectivity. The timer is stopped by
a tick that finds no local interface ready, but not by one that leaves the state. -/

namespace WanManager

namespace BackupWan

/-! ## What the timer depends on -/

/-- A local interface is ready at the start of the tick. -/
def localReady (m : Machine) : Bool :=
  (updateConfig m).fixed?.any fun d => primaryReady d (updateConfig m)

/-- The tick finds the backup interface without connectivity, and a local one with it. -/
def losesBackup (m : Machine) : Bool :=
  (updateConfig m).fixed?.any fun d => backupLost d (updateConfig m)

/-- The tick goes back to the local interfaces because of the timer. -/
structure Restores (m : Machine) : Prop where
  active : m.st = .interfaceActive
  inactive : (tick m).st = .interfaceInactive
  kept : losesBackup m = false

section Frame

variable {m : Machine}

/-- `Transition_BackupWanInterfaceDown` leaves the timer alone and does not stay. -/
theorem down_spec (m : Machine) : (transitionBackupWanInterfaceDown m).2.timer = m.timer ∧
    (transitionBackupWanInterfaceDown m).1 ∈ [.selectingInterface, .waiting, .interfaceDown] := by
  unfold transitionBackupWanInterfaceDown transitionBackupWanSelectingInterface
  split
  · exact ⟨rfl, by simp⟩
  · split
    · split
      · exact ⟨timer_of_ledger ledger_modifyFixed, by simp⟩
      · exact ⟨(timer_of_ledger (ledger_tearDown _)).trans (timer_takeBackRules _), by simp⟩
    · exact ⟨timer_of_ledger (ledger_tearDown _), by simp⟩

theorem timer_transitionActive : (transitionBackupWanInterfaceActive m).2.timer = m.timer := by
  unfold transitionBackupWanInterfaceActive transitionBackupWanSelectingInterface
  split
  · rfl
  · split
    · rw [(down_spec _).1, timer_of_ledger ledger_switchOverFailed]
    · have hset := timer_of_ledger (ledger_modifyFixed (m := m)
        (f := fun d => (d.setSelection .active).setStatus .up))
      dsimp only
      rw [firewallRuleConfig_configure, if_neg Bool.false_ne_true.symm]
      split
      · exact (down_spec _).1.trans hset
      · split <;> exact hset

/-- `Transition_BackupWanInterfaceInActive` leaves the timer alone and does not stay. -/
theorem inactive_spec (m : Machine) : (transitionBackupWanInterfaceInActive m).2.timer = m.timer ∧
    (transitionBackupWanInterfaceInActive m).1 ≠ .interfaceActive := by
  unfold transitionBackupWanInterfaceInActive transitionBackupWanSelectingInterface
  split
  · exact ⟨rfl, State.noConfusion⟩
  · exact ⟨(timer_of_ledger ledger_modifyFixed).trans (timer_takeBackRules _), State.noConfusion⟩

/-- Only `STATE_BACKUP_WAN_INTERFACE_ACTIVE` has to do with the timer. -/
theorem timer_stateFunction {st : State} (hst : st ≠ .interfaceActive) :
    (stateFunction st m).2.timer = m.timer := by
  by_cases hst' : st = .waiting
  · subst hst'
    show (stateBackupWanInterfaceWaitingPrimaryUp m).2.timer = m.timer
    cases hd : m.fixed? with
    | none =>
      unfold stateBackupWanInterfaceWaitingPrimaryUp
      rw [hd]
    | some d =>
      rw [waiting_eq hd]
      split
      · rfl
      · split
        · exact (down_spec m).1
        · split
          · exact timer_transitionActive.trans (timer_of_ledger (ledger_updateTad d))
          · exact timer_of_ledger (ledger_updateTad d)
  · rcases idle_cases (m := m) hst hst' with hkeeps | hdown | ⟨g, hactive⟩
    · exact timer_of_ledger hkeeps
    · rw [hdown]
      exact (down_spec m).1
    · rw [hactive]
      exact timer_transitionActive.trans (timer_of_ledger ledger_modifyFixed)

end Frame

/-! ## The local interfaces -/

section Local

variable {m : Machine} {i : Nat} {d : Iface} {f : Iface → Iface} {p : Iface → Bool}

theorem any_modify (h : ∀ d, m.ifaces[i]? = some d → p (f d) = p d) :
    (m.modifyIface i f).ifaces.any p = m.ifaces.any p := by
  have hmap : (m.modifyIface i f).ifaces.map p = m.ifaces.map p := by
    apply List.ext_getElem?
    intro j
    rw [Machine.modifyIface, List.getElem?_map, List.getElem?_map, List.getElem?_modify]
    split
    · next hij =>
      subst hij
      cases hd : m.ifaces[i]? with
      | none => rfl
      | some d => simp [h d hd]
    · simp
  have hany (l : List Iface) : l.any p = (l.map p).any id := by simp [List.any_map]
  rw [hany, hmap, ← hany]

/-- The connectivity check of the backup interface does not change what the local ones are. -/
theorem primaryReady_modifyFixed (hfixed : m.fixed? = some d) (hremote : d.ifaceType = .remote)
    (htype : ∀ d, (f d).ifaceType = d.ifaceType) (hsel : ∀ d, (f d).selection = d.selection)
    (hbase : ∀ d, (f d).baseInterfaceStatus = d.baseInterfaceStatus) (d' : Iface) :
    primaryReady d' (m.modifyFixed f) = primaryReady d' m := by
  obtain ⟨i, hi, hd⟩ : ∃ i, m.locked = some i ∧ m.ifaces[i]? = some d := by
    unfold Machine.fixed? at hfixed
    cases hl : m.locked with
    | none => simp [hl] at hfixed
    | some i => exact ⟨i, rfl, by simpa [hl] using hfixed⟩
  rw [modifyFixed_eq hi]
  unfold primaryReady anyLocalWanIsPhysicallyActive primaryConnectivityCheckGood anyLocalWanIsSelected
  have hlocal (d : Iface) : (f d).enabledLocal = d.enabledLocal := by
    unfold Iface.enabledLocal
    rw [htype, hsel]
  rw [any_modify, any_modify, any_modify]
  · intro d _
    rw [hlocal, hsel]
  · intro d₀ hd₀
    rw [hd] at hd₀
    cases hd₀
    have hno : d.enabledLocal = false := by simp [Iface.enabledLocal, hremote]
    simp [hlocal, hno]
  · intro d _
    rw [hlocal, hbase]

end Local

/-! ## One tick -/

/-- What a change of the connectivity check of the backup interface leaves alone. -/
structure OnlyTad (m m' : Machine) : Prop where
  timer : m'.timer = m.timer
  timeout : m'.restorationDelayTimeout = m.restorationDelayTimeout
  now : m'.now = m.now
  ready : ∀ d, primaryReady d m' = primaryReady d m

section Tick

variable {m m' m'' : Machine} {d : Iface} {f : Iface → Iface}

theorem OnlyTad.modifyFixed (h : ∃ d, m.fixed? = some d ∧ d.ifaceType = .remote)
    (htype : ∀ d, (f d).ifaceType = d.ifaceType) (hsel : ∀ d, (f d).selection = d.selection)
    (hbase : ∀ d, (f d).baseInterfaceStatus = d.baseInterfaceStatus) :
    OnlyTad m (m.modifyFixed f) := by
  obtain ⟨d, hfixed, hremote⟩ := h
  refine ⟨timer_of_ledger ledger_modifyFixed, ?_, ?_, primaryReady_modifyFixed hfixed hremote htype hsel hbase⟩
  · unfold Machine.modifyFixed
    split <;> rfl
  · unfold Machine.modifyFixed
    split <;> rfl

theorem onlyTad_updateActiveTad (h : ∃ d, m.fixed? = some d ∧ d.ifaceType = .remote) (d : Iface) :
    OnlyTad m (updateActiveTad d m) := by
  obtain ⟨g, hg⟩ := updateActiveTad_eq d m
  rw [hg]
  exact .modifyFixed h (fun _ => rfl) (fun _ => rfl) fun _ => rfl

/-- What the restoration delay comes to. -/
inductive Delay (ready : Bool) (m : Machine) (r : State × Machine) : Prop
  | starts (hready : ready = true) (hstopped : m.restorationDelayTimerStart = false)
      (hst : r.1 = .interfaceActive) (htimer : r.2.timer = (true, m.now + m.restorationDelayTimeout))
  | waits (hready : ready = true) (hst : r.1 = .interfaceActive) (htimer : r.2.timer = m.timer)
  | expires (hready : ready = true) (hstarted : m.restorationDelayTimerStart = true)
      (hlate : m.restorationDelayTimer < m.now) (htimer : r.2.timer = (false, 0))
  | stops (hst : r.1 = .interfaceActive) (htimer : r.2.restorationDelayTimerStart = false)

theorem delay_cases (d : Iface) (m : Machine) : Delay (primaryReady d m) m (restorationDelay d m) := by
  unfold restorationDelay
  cases hready : primaryReady d m with
  | false =>
    rw [if_neg Bool.false_ne_true]
    cases hstart : m.restorationDelayTimerStart with
    | false => exact .stops rfl hstart
    | true => exact .stops rfl rfl
  | true =>
    rw [if_pos rfl]
    cases hstart : m.restorationDelayTimerStart with
    | false => exact .starts rfl hstart rfl rfl
    | true =>
      rw [if_neg (by simp)]
      split
      · next hlate =>
        refine .expires rfl hstart hlate ?_
        dsimp only
        split
        · exact (inactive_spec _).1
        · split
          · exact (inactive_spec _).1.trans (timer_of_ledger ledger_retrigger)
          · exact timer_of_ledger ledger_retrigger
      · exact .waits rfl rfl rfl

/-- A tick in `STATE_BACKUP_WAN_INTERFACE_ACTIVE` leaves for a state below it, loses the backup
interface, or minds the restoration delay. -/
theorem active_tick (hst : m.st = .interfaceActive)
    (hfixed : ∃ d, (updateConfig m).fixed? = some d ∧ d.ifaceType = .remote) :
    ((tick m).st ∈ [.selectingInterface, .waiting, .interfaceDown] ∧ (tick m).timer = m.timer) ∨
      (losesBackup m = true ∧ (tick m).st ≠ .interfaceActive ∧
        (tick m).restorationDelayTimerStart = false) ∨
      Delay (localReady m) (updateConfig m) ((tick m).st, tick m) := by
  obtain ⟨d, hd, hremote⟩ := hfixed
  have htick : tick m = { (stateBackupWanInterfaceActive (updateConfig m)).2 with
      st := (stateBackupWanInterfaceActive (updateConfig m)).1 } := by
    unfold tick
    rw [hst]
    rfl
  rw [htick]
  unfold stateBackupWanInterfaceActive
  rw [hd]
  dsimp only
  split
  · obtain ⟨htimer, hleaves⟩ := down_spec (updateConfig m)
    exact .inl ⟨hleaves, htimer⟩
  · split
    · next hlost =>
      obtain ⟨htimer, hleaves⟩ := inactive_spec (stopTimer (updateConfig m))
      refine .inr (.inl ⟨?_, hleaves, ?_⟩)
      · rw [losesBackup, hd, Option.any_some, hlost]
      · exact congrArg Prod.fst htimer
    · refine .inr (.inr ?_)
      have hready : localReady m = primaryReady d (updateActiveTad d (updateConfig m)) := by
        rw [localReady, hd, Option.any_some]
        exact ((onlyTad_updateActiveTad ⟨d, hd, hremote⟩ d).ready d).symm
      have honly := onlyTad_updateActiveTad ⟨d, hd, hremote⟩ d
      have hstart := congrArg Prod.fst honly.timer
      have htimer := congrArg Prod.snd honly.timer
      rw [hready]
      cases delay_cases d (updateActiveTad d (updateConfig m)) with
      | starts hready hstopped hst hnext =>
        rw [honly.timeout, honly.now] at hnext
        exact .starts hready (hstart.symm.trans hstopped) hst hnext
      | waits hready hst hnext => exact .waits hready hst (hnext.trans honly.timer)
      | expires hready hstarted hlate hnext =>
        have hlate' : (updateConfig m).restorationDelayTimer < (updateConfig m).now := by
          rw [← honly.now, ← show (updateActiveTad d (updateConfig m)).restorationDelayTimer =
            (updateConfig m).restorationDelayTimer from htimer]
          exact hlate
        exact .expires hready (hstart.symm.trans hstarted) hlate' hnext
      | stops hst hnext => exact .stops hst hnext

end Tick

/-! ## Runs -/

section Run

variable {r : Nat → Machine}

/-- The timer that is running at tick `k` was started at tick `j`. -/
structure StartedAt (r : Nat → Machine) (j k : Nat) : Prop where
  before : j < k
  active : (r j).st = .interfaceActive
  ready : localReady (r j) = true
  timer : (r k).restorationDelayTimer = (r j).now + (r j).config.restorationDelay
  since : ∀ l, j ≤ l → l < k → (r l).st = .interfaceActive → (r (l + 1)).st = .interfaceActive →
    localReady (r l) = true

theorem Run.fixed_remote (hrun : Run r) {k : Nat} (hst : (r k).st = .interfaceActive) :
    ∃ d, (updateConfig (r k)).fixed? = some d ∧ d.ifaceType = .remote := by
  have hshows := hrun.shows k
  rw [hst] at hshows
  obtain ⟨i, hidx, hi, honly⟩ := hshows
  exact Chosen.fixed (i := i) (m := updateConfig (r k)) ⟨hidx, hidx, honly, _, hi⟩

theorem StartedAt.later {j k : Nat} (h : StartedAt r j k)
    (htimer : (r (k + 1)).restorationDelayTimer = (r k).restorationDelayTimer)
    (hready : (r k).st = .interfaceActive → (r (k + 1)).st = .interfaceActive →
      localReady (r k) = true) : StartedAt r j (k + 1) where
  before := Nat.lt_succ_of_lt h.before
  active := h.active
  ready := h.ready
  timer := htimer.trans h.timer
  since l hjl hl hst hst' := by
    rcases Nat.lt_succ_iff_lt_or_eq.mp hl with hl | rfl
    · exact h.since l hjl hl hst hst'
    · exact hready hst hst'

theorem Run.started (hrun : Run r) (k : Nat) (hstart : (r k).restorationDelayTimerStart = true) :
    ∃ j, StartedAt r j k := by
  induction k with
  | zero =>
    obtain ⟨-, -, hstopped, -, -⟩ := hrun.start
    rw [hstopped] at hstart
    cases hstart
  | succ k ih =>
    have hothers := hrun.step k
    have hstart' : (tick (r k)).restorationDelayTimerStart = true := hothers.timerStart ▸ hstart
    by_cases hst : (r k).st = .interfaceActive
    · rcases active_tick hst (hrun.fixed_remote hst) with ⟨hleaves, htimer⟩ | ⟨-, -, hstopped⟩ | hdelay
      · obtain ⟨j, hj⟩ := ih ((congrArg Prod.fst htimer).symm.trans hstart')
        refine ⟨j, hj.later (hothers.timer.trans (congrArg Prod.snd htimer)) fun _ hst' => ?_⟩
        rw [hothers.st] at hst'
        rw [hst'] at hleaves
        simp at hleaves
      · rw [hstopped] at hstart'
        cases hstart'
      · cases hdelay with
        | starts hready hstopped hst' htimer =>
          refine ⟨k, Nat.lt_succ_self k, hst, hready, ?_, fun l hkl hl _ _ => ?_⟩
          · have hdelay : (updateConfig (r k)).restorationDelayTimeout =
                (r k).config.restorationDelay := if_neg (by rw [show (r k).restorationDelayTimerStart = false from hstopped]; decide)
            rw [hothers.timer]
            have hset := congrArg Prod.snd htimer
            rw [hdelay] at hset
            exact hset
          · rwa [Nat.le_antisymm (Nat.lt_succ_iff.mp hl) hkl]
        | waits hready hst' htimer =>
          obtain ⟨j, hj⟩ := ih ((congrArg Prod.fst htimer).symm.trans hstart')
          exact ⟨j, hj.later (hothers.timer.trans (congrArg Prod.snd htimer)) fun _ _ => hready⟩
        | expires _ _ _ htimer =>
          rw [show (tick (r k)).restorationDelayTimerStart = false from congrArg Prod.fst htimer] at hstart'
          cases hstart'
        | stops _ hstopped =>
          rw [show (tick (r k)).restorationDelayTimerStart = false from hstopped] at hstart'
          cases hstart'
    · have htimer : (tick (r k)).timer = (r k).timer := timer_stateFunction hst
      obtain ⟨j, hj⟩ := ih ((congrArg Prod.fst htimer).symm.trans hstart')
      exact ⟨j, hj.later (hothers.timer.trans (congrArg Prod.snd htimer)) fun h => absurd h hst⟩

/-- The machine only goes back to the local interfaces for the timer once it has run for the delay
that was configured when it was started, and at every tick since then that stayed active a local
interface was ready. -/
theorem restoration_honours_delay (hrun : Run r) {i : Nat} (hrestores : Restores (r i)) :
    ∃ j, StartedAt r j i ∧ (r j).now + (r j).config.restorationDelay < (r i).now ∧
      localReady (r i) = true := by
  have hinactive := hrestores.inactive
  rcases active_tick hrestores.active (hrun.fixed_remote hrestores.active) with
    ⟨hleaves, -⟩ | ⟨hlost, -⟩ | hdelay
  · rw [hinactive] at hleaves
    simp at hleaves
  · rw [hrestores.kept] at hlost
    cases hlost
  · cases hdelay with
    | starts _ _ hst _ | waits _ hst _ | stops hst _ =>
      rw [show (tick (r i)).st = .interfaceActive from hst] at hinactive
      cases hinactive
    | expires hready hstarted hlate _ =>
      obtain ⟨j, hj⟩ := hrun.started i hstarted
      exact ⟨j, hj, hj.timer ▸ hlate, hready⟩

end Run

/-! The local interface comes up while the remote one is active, and is taken three ticks later. -/

namespace Example

/-- Time passes; before the eighth tick the local interface comes up and is selected. -/
def localComesUp (k : Nat) (m : Machine) : Machine :=
  let m := { m with now := m.now + 1 }
  if k = 6 then m.modifyIface 0 fun d => ({ d with baseInterfaceStatus := .up } : Iface).setSelection .selected
  else m

def restores : Nat → Machine
  | 0 => { start with config := { allowRemoteInterfaces := true, restorationDelay := 2 } }
  | k + 1 => localComesUp k (tick (restores k))

theorem restores_run : Run restores where
  start := ⟨rfl, rfl, rfl, rfl, takeover_run.start.2.2.2.2⟩
  step k := by
    show Others _ (localComesUp k (tick (restores k)))
    unfold localComesUp
    dsimp only
    split
    · next hk =>
      subst hk
      exact ⟨rfl, rfl, rfl, rfl, rfl, rfl, Nat.le_succ _, [], rfl, by simp⟩
    · exact ⟨rfl, rfl, rfl, rfl, rfl, rfl, Nat.le_succ _, [], (List.append_nil _).symm, by simp⟩

end Example

open Example in
theorem restoration_honours_delay_run : ∃ j, StartedAt restores j 10 := by
  have hrestores : Restores (restores 10) := ⟨rfl, rfl, rfl⟩
  obtain ⟨j, hj, -⟩ := restoration_honours_delay restores_run hrestores
  exact ⟨j, hj⟩

end BackupWan

end WanManager
