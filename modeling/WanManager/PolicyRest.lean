import WanManager.PolicyEffects

/-! # A selection thread between two ticks

Two facts about the record of a selection thread that sleeps. A parallel scan holds no
interface while it scans: it takes one and leaves the state within one tick. A thread that
tears its interface down has one in the table, at every section. -/

namespace WanManager
open Concurrency

namespace Policy

/-- A thread that scans holds no interface. -/
def ScansFree (t : PolicyThread) : Prop :=
  t.phase ≠ .absent ∧
    (t.phase = .parallelScan .scanningInterface → t.ctrl.activeInterfaceIdx = none)

/-- A created thread's record is its own. -/
def ownRecord : Contract Site PolicyView where
  rely x x' := x.self.phase ≠ .absent → x'.self = x.self
  step _ _ _ := True
  refl _ _ := rfl
  trans := by
    intro a b c h h' ha
    have hb := h ha
    exact (h' (by rwa [hb])).trans hb
  idle _ _ _ := trivial

section Sections

variable {A B : PolicyThread → Prop} {α : Type}

theorem stable_record (hA : ∀ t, A t → t.phase ≠ .absent) : ownRecord.Stable fun x => A x.self := by
  intro x x' h hr _
  show A x'.self
  rw [hr (hA _ h)]
  exact h

theorem modify_record {l : Site} {f : PolicyView → PolicyView} (hA : ∀ t, A t → t.phase ≠ .absent)
    (hB : ∀ t, B t → t.phase ≠ .absent) (h : ∀ x, A x.self → B (f x).self) :
    Triple ownRecord (fun x => A x.self) (.modify l f) fun _ x => B x.self :=
  Triple.modify (stable_record hA) (stable_record hB) fun x _ _ hx => ⟨trivial, fun _ => h x hx⟩

theorem read_record {l : Site} {g : PolicyView → α} (hA : ∀ t, A t → t.phase ≠ .absent) :
    Triple ownRecord (fun x => A x.self) (.read l g) fun _ x => A x.self :=
  Triple.read (stable_record hA) (fun _ => stable_record hA) fun _ _ _ hx => hx

theorem ret_record {a : α} (hA : ∀ t, A t → t.phase ≠ .absent) :
    Triple ownRecord (fun x => A x.self) (.ret a) fun _ x => A x.self :=
  Triple.ret (stable_record hA) fun _ _ hx => hx

/-- A section that leaves the phase and the interface of the thread alone. -/
def KeepsHeld (f : PolicyView → PolicyView) : Prop :=
  ∀ x, (f x).self.phase = x.self.phase ∧
    (f x).self.ctrl.activeInterfaceIdx = x.self.ctrl.activeInterfaceIdx

theorem keepsHeld_self {f : PolicyView → PolicyView} (h : ∀ x, (f x).self = x.self) : KeepsHeld f :=
  fun x => by rw [h x]; exact ⟨rfl, rfl⟩

theorem keepsHeld_copyGroup : KeepsHeld copyGroup := by
  intro x
  unfold copyGroup
  split <;> exact ⟨rfl, rfl⟩

end Sections
end Policy

/-- A thread that tears its interface down still has it. -/
theorem AutoWan.lockedState_tearing {st : AutoWanState} {i : Nat} {d : WanIface} {x : PolicyView}
    (h : (lockedState st i d x).1 = .tearingDown) :
    (lockedState st i d x).2.self.ctrl.activeInterfaceIdx = x.self.ctrl.activeInterfaceIdx := by
  cases st with
  | selecting =>
    simp only [lockedState, stateSelectingInterface] at h
    split at h <;> cases h
  | waiting =>
    simp only [lockedState, stateWaitForInterface] at h
    repeat' split at h
    all_goals cases h
  | scanning =>
    simp only [lockedState, stateScanningInterface] at h
    repeat' split at h
    all_goals cases h
  | teardown =>
    simp only [lockedState, stateWaitingForIfaceTearDown] at h ⊢
    split at h
    · cases h
    rename_i hrun
    rw [if_neg hrun]
    split at h
    · rename_i hstops
      rw [if_pos hstops]
    split at h
    · unfold transitionRestartSelectionInterface at h
      split at h
      · cases h
      · split at h <;> cases h
    · cases h
  | reconfiguration =>
    simp only [lockedState, stateInterfaceReconfiguration] at h
    repeat' split at h
    all_goals cases h
  | rebootPlatform =>
    simp only [lockedState, stateRebootingPlatform] at h
    split at h <;> cases h
  | active =>
    simp only [lockedState, stateWanInterfaceActive] at h
    repeat' split at h
    all_goals cases h
  | down =>
    simp only [lockedState, stateWanInterfaceDown, transitionWanInterfaceUp] at h
    repeat' split at h
    all_goals cases h
  | error | smExit => cases h
  | tearingDown =>
    simp only [lockedState, stateWaitingForInterfaceSMExit] at h ⊢
    split at h
    · rename_i hrun
      rw [if_pos hrun]
      rfl
    · cases h

namespace ParallelScan
open Policy

/-- The thread is in a phase, with or without an interface. -/
def At (p : PolicyPhase) (c : Option Nat → Prop) (t : PolicyThread) : Prop :=
  t.phase = p ∧ c t.ctrl.activeInterfaceIdx

section Sections

variable {p : PolicyPhase} {c : Option Nat → Prop}

theorem at_present (hp : p ≠ .absent) (t : PolicyThread) (h : At p c t) : t.phase ≠ .absent :=
  h.1 ▸ hp

theorem held_record {l : Site} {f : PolicyView → PolicyView} (hp : p ≠ .absent) (hf : KeepsHeld f) :
    Triple ownRecord (fun x => At p c x.self) (.modify l f) fun _ x => At p c x.self := by
  refine modify_record (at_present hp) (at_present hp) fun x h => ?_
  obtain ⟨hphase, hidx⟩ := hf x
  exact ⟨hphase.trans h.1, by rw [hidx]; exact h.2⟩

theorem updateControllerData_record (hp : p ≠ .absent) :
    Triple ownRecord (fun x => At p c x.self) updateControllerData fun _ x => At p c x.self := by
  refine Triple.bind (held_record hp fun _ => ⟨rfl, rfl⟩) fun _ => ?_
  exact Triple.bind (held_record hp fun _ => ⟨rfl, rfl⟩) fun _ => held_record hp keepsHeld_copyGroup

theorem setState_record {st : ParallelScanState} (hp : p ≠ .absent) :
    Triple ownRecord (fun x => At p c x.self) (setState st) fun _ x => At (.parallelScan st) c x.self :=
  modify_record (at_present hp) (at_present nofun) fun _ h => ⟨rfl, h.2⟩

end Sections

theorem startIface_held (i : Nat) : KeepsHeld (startIface i) := by
  intro x
  unfold startIface
  split
  · exact ⟨rfl, rfl⟩
  · split <;> exact ⟨rfl, rfl⟩

/-- A new thread starts to scan without an interface. -/
theorem start_record :
    Triple ownRecord (fun x => At (.created .parallelScan) (fun _ => True) x.self) start
      fun _ x => At (.parallelScan .scanningInterface) (· = none) x.self := by
  have hp : PolicyPhase.created .parallelScan ≠ .absent := nofun
  refine Triple.bind (Q := fun _ x => At (.created .parallelScan) (· = none) x.self) ?_ fun _ => ?_
  · exact modify_record (at_present hp) (at_present hp) fun _ h => ⟨h.1, rfl⟩
  refine Triple.bind (updateControllerData_record hp) fun _ => ?_
  refine Triple.bind (Q := fun _ x => At (.created .parallelScan) (· = none) x.self) ?_
    fun _ => setState_record hp
  refine Triple.bind (read_record (at_present hp)) fun is => ?_
  refine Triple.bind (Triple.forEach (stable_record (at_present hp)) fun i _ =>
    held_record hp (startIface_held i)) fun _ => ?_
  refine Triple.bind (held_record hp fun _ => ⟨rfl, rfl⟩) fun _ => ?_
  exact held_record hp fun _ => ⟨rfl, rfl⟩

/-- The thread scans without an interface, or is in another state. -/
def Loops (t : PolicyThread) : Prop :=
  ∃ st, t.phase = .parallelScan st ∧ (st = .scanningInterface → t.ctrl.activeInterfaceIdx = none)

theorem loops_present (t : PolicyThread) (h : Loops t) : t.phase ≠ .absent := by
  obtain ⟨st, hst, -⟩ := h
  rw [hst]
  nofun

theorem loops_of_at {st : ParallelScanState} {c : Option Nat → Prop}
    (hst : st = .scanningInterface → ∀ o, c o → o = none) {t : PolicyThread}
    (h : At (.parallelScan st) c t) : Loops t :=
  ⟨st, h.1, fun hscan => hst hscan _ h.2⟩

theorem scanIfaces_record {p : PolicyPhase} {c : Option Nat → Prop} (hp : p ≠ .absent) (r : Scan)
    (is : List Nat) :
    Triple ownRecord (fun x => At p c x.self) (scanIfaces r is) fun _ x => At p c x.self := by
  induction is generalizing r with
  | nil => exact ret_record (at_present hp)
  | cons i is ih =>
    refine Triple.bind (read_record (at_present hp)) fun found => ?_
    obtain ⟨done, r'⟩ := found
    cases done with
    | true => exact ret_record (at_present hp)
    | false => exact ih r'

theorem findNewInterface_record {p : PolicyPhase} {c : Option Nat → Prop} (hp : p ≠ .absent)
    (last : Bool) (is : List Nat) :
    Triple ownRecord (fun x => At p c x.self) (findNewInterface last is) fun _ x => At p c x.self := by
  induction is with
  | nil => exact ret_record (at_present hp)
  | cons i is ih =>
    refine Triple.bind (read_record (at_present hp)) fun found => Triple.ite (fun _ => ?_) fun _ => ih
    exact held_record hp (keepsHeld_self (transitionNewInterfaceConnected_self i))

theorem transitionSelectingInterface_record (i : Nat) {p : PolicyPhase} {c : Option Nat → Prop}
    (hp : p ≠ .absent) :
    Triple ownRecord (fun x => At p c x.self) (transitionSelectingInterface i)
      fun _ x => At (.parallelScan .checkReconfiguration) (fun _ => True) x.self := by
  refine Triple.bind (Q := fun _ x => At p (fun _ => True) x.self)
    (modify_record (at_present hp) (at_present hp) fun _ h => ?_) fun _ => ?_
  · exact ⟨h.1, trivial⟩
  refine Triple.bind (read_record (at_present hp)) fun is => ?_
  refine Triple.bind (Triple.forEach (stable_record (at_present hp)) fun j _ =>
    held_record hp fun _ => ⟨rfl, rfl⟩) fun _ => ?_
  exact Triple.bind (held_record hp fun _ => ⟨rfl, rfl⟩) fun _ => setState_record hp

/-- Scanning goes on without an interface, or ends. -/
theorem stateScanningInterface_record :
    Triple ownRecord (fun x => At (.parallelScan .scanningInterface) (· = none) x.self)
      stateScanningInterface fun _ x => Loops x.self := by
  have hp : PolicyPhase.parallelScan .scanningInterface ≠ .absent := nofun
  have hfree : ∀ {q : PolicyProg Unit} {st : ParallelScanState} {c : Option Nat → Prop},
      (st = .scanningInterface → ∀ o, c o → o = none) →
      Triple ownRecord (fun x => At (.parallelScan .scanningInterface) (· = none) x.self) q
        (fun _ x => At (.parallelScan st) c x.self) →
      Triple ownRecord (fun x => At (.parallelScan .scanningInterface) (· = none) x.self) q
        fun _ x => Loops x.self :=
    fun hst h => h.mono (fun _ _ hx => hx) fun _ _ _ hx => loops_of_at hst hx
  have hfind : ∀ last, Triple ownRecord
      (fun x => At (.parallelScan .scanningInterface) (· = none) x.self)
      (.read .thread PolicyView.ifaceRange >>= findNewInterface last) fun _ x => Loops x.self :=
    fun last => hfree (fun _ _ h => h)
      (Triple.bind (read_record (at_present hp)) fun is => findNewInterface_record hp last is)
  refine Triple.bind (read_record (at_present hp)) fun c =>
    Triple.ite (fun _ => hfree nofun (setState_record hp)) fun _ => ?_
  refine Triple.bind (read_record (at_present hp)) fun is => ?_
  refine Triple.bind (scanIfaces_record hp {} is) fun r => ?_
  cases ha : r.activeIface with
  | none =>
    rw [scanned_none ha]
    exact hfind _
  | some i =>
    rw [scanned_some ha]
    refine Triple.bind (read_record (at_present hp)) fun expired => Triple.ite (fun _ => ?_)
      fun _ => hfind _
    exact hfree nofun (transitionSelectingInterface_record i hp)

/-- A state with a selected interface gives it up when it starts to scan again. -/
theorem lockedState_scans {st : ParallelScanState} (hst : st ≠ .scanningInterface) (i : Nat)
    (d : WanIface) (x : PolicyView) (h : (lockedState st i d x).1 = .scanningInterface) :
    (lockedState st i d x).2.self.ctrl.activeInterfaceIdx = none := by
  have hrestart : (transitionRestartScan i x).2.self.ctrl.activeInterfaceIdx = none := by
    have hclear : ∀ y : PolicyView, (clearResetSelected y).self.ctrl.activeInterfaceIdx =
        y.self.ctrl.activeInterfaceIdx := by
      intro y
      unfold clearResetSelected
      split <;> rfl
    exact hclear (restartIfaces i x)
  have hup : ∀ y, (keepSelectedInterfaceUp i d y).1 ≠ .scanningInterface := by
    intro y
    unfold keepSelectedInterfaceUp
    split <;> nofun
  cases st with
  | scanningInterface => exact absurd rfl hst
  | reboot | policyExit | policyError => cases h
  | checkReconfiguration =>
    simp only [lockedState, stateCheckReconfiguration] at h
    split at h
    · cases h
    · split at h <;> cases h
  | reconfigurePlatform =>
    simp only [lockedState, stateReconfigurePlatform] at h
    split at h <;> cases h
  | selectedInterfaceUp =>
    simp only [lockedState, stateSelectedInterfaceUp] at h ⊢
    split at h
    · cases h
    rename_i hgo
    rw [if_neg hgo]
    split at h
    · rename_i hreset
      rw [if_pos hreset]
      split at h
      · rename_i hrescan
        rw [if_pos hrescan]
        exact hrestart
      · exact absurd h (hup _)
    · exact absurd h (hup _)
  | selectedInterfaceDown =>
    simp only [lockedState, stateSelectedInterfaceDown] at h ⊢
    split at h
    · cases h
    rename_i hgo
    rw [if_neg hgo]
    split at h
    · rename_i hreset
      rw [if_pos hreset]
      exact hrestart
    split at h
    · cases h
    split at h
    · unfold transitionSelectedInterfaceUp at h
      split at h <;> cases h
    · cases h
  | interfaceTearDown =>
    simp only [lockedState, stateInterfaceTearDown] at h
    split at h <;> cases h

/-- An iteration of the loop keeps the rule. -/
theorem loop_record (st : ParallelScanState) :
    Triple ownRecord (fun x => At (.parallelScan st) (fun o => st = .scanningInterface → o = none) x.self)
      (loop st) fun _ x => ScansFree x.self := by
  have hp : PolicyPhase.parallelScan st ≠ .absent := nofun
  have hexit : ∀ t : PolicyThread, t.phase = .exited → ScansFree t :=
    fun t h => ⟨by rw [h]; nofun, by rw [h]; nofun⟩
  have hloops : ∀ t, Loops t → ScansFree t := by
    rintro t ⟨st, hst, hfree⟩
    refine ⟨by rw [hst]; nofun, fun h => hfree ?_⟩
    rw [hst] at h
    exact PolicyPhase.parallelScan.inj h
  refine Triple.bind (updateControllerData_record hp) fun _ => ?_
  have hopen : Triple ownRecord
      (fun x => At (.parallelScan st) (fun o => st = .scanningInterface → o = none) x.self)
      (unlockedState st) fun _ x => Loops x.self := by
    have hset : ∀ st', st' ≠ .scanningInterface → Triple ownRecord
        (fun x => At (.parallelScan st) (fun o => st = .scanningInterface → o = none) x.self)
        (setState st') fun _ x => Loops x.self := fun st' hst' =>
      (setState_record hp).mono (fun _ _ hx => hx) fun _ _ _ hx => loops_of_at (absurd · hst') hx
    have hstay : st ≠ .scanningInterface → Triple ownRecord
        (fun x => At (.parallelScan st) (fun o => st = .scanningInterface → o = none) x.self)
        (Prog.ret ()) fun _ x => Loops x.self := fun hst =>
      (ret_record (at_present hp)).mono (fun _ _ hx => hx) fun _ _ _ hx => loops_of_at (absurd · hst) hx
    cases st with
    | scanningInterface =>
      exact stateScanningInterface_record.pre fun _ _ hx => ⟨hx.1, hx.2 rfl⟩
    | checkReconfiguration =>
      refine Triple.bind (read_record (at_present hp)) fun c =>
        Triple.ite (fun _ => hset .policyError nofun) fun _ => ?_
      refine Triple.bind (read_record (at_present hp)) fun required => ?_
      refine hset _ ?_
      split <;> nofun
    | reboot | policyExit | policyError => exact hstay nofun
    | reconfigurePlatform | selectedInterfaceUp | selectedInterfaceDown | interfaceTearDown =>
      exact hset .policyError nofun
  refine Triple.bind (Q := fun _ x => Loops x.self) ?_ fun _ => ?_
  · refine Triple.lockedIf (stable_record (at_present hp)) (fun _ => stable_record loops_present)
      (fun x a _ _ hx ha => ⟨trivial, fun _ => ?_⟩) (fun _ _ _ hx _ => hx) hopen
    obtain ⟨hidx, -⟩ := activeIface_some (i := a.1) (d := a.2) ha
    have hst : st ≠ .scanningInterface := by
      intro hscan
      exact absurd (hidx.symm.trans (hx.2 hscan)) nofun
    exact ⟨(lockedState st a.1 a.2 x).1, rfl, lockedState_scans hst a.1 a.2 x⟩
  · have hpresent : ∀ t, ScansFree t → t.phase ≠ .absent := fun _ h => h.1
    refine Triple.ite (fun _ => ?_) fun _ =>
      (ret_record loops_present).mono (fun _ _ hx => hx) fun _ _ _ hx => hloops _ hx
    refine Triple.bind (Q := fun _ x => Loops x.self)
      (modify_record loops_present loops_present fun x hx => ?_) fun _ => ?_
    · split <;> exact hx
    · exact modify_record loops_present hpresent fun x _ => hexit _ rfl

theorem tick_record :
    Triple ownRecord (fun x => x.self.phase.parallel = true ∧ ScansFree x.self) Policy.tick
      fun _ x => ScansFree x.self := by
  have hpresent : ∀ t : PolicyThread, t.phase.parallel = true ∧ ScansFree t → t.phase ≠ .absent :=
    fun _ h => h.2.1
  refine Triple.bind (Q := fun p x => x.self.phase = p ∧ p.parallel = true ∧ ScansFree x.self)
    (Triple.read (stable_record hpresent) (fun p => stable_record (A := fun t =>
      t.phase = p ∧ p.parallel = true ∧ ScansFree t) fun _ h => h.2.2.1) fun x _ _ hx =>
        ⟨rfl, hx⟩) fun p => ?_
  have hnever : p.parallel = false → ∀ q : PolicyProg Unit, Triple ownRecord
      (fun x => x.self.phase = p ∧ p.parallel = true ∧ ScansFree x.self) q
      fun _ x => ScansFree x.self := by
    intro hp q x _ hx
    rw [hp] at hx
    exact absurd hx.2.1 nofun
  cases p with
  | absent => exact hnever rfl _
  | exited => exact hnever rfl _
  | autoWan st => exact hnever rfl _
  | parallelScan st =>
    refine (loop_record st).pre fun x _ hx => ⟨hx.1, fun hscan => hx.2.2.2 ?_⟩
    rw [hx.1, hscan]
  | created policy =>
    cases policy with
    | parallelScan =>
      refine start_record.mono (fun x _ hx => ⟨hx.1, trivial⟩) fun _ x _ hx => ⟨?_, fun _ => hx.2⟩
      rw [hx.1]
      nofun
    | fixedModeOnBootup | fixedMode | primaryPriorityOnBootup | primaryPriority | multiwan | autowan =>
      exact hnever rfl _

end ParallelScan

/-! ## Both policies -/

namespace Policy

/-- A thread that does not scan in parallel never will. -/
theorem Effect.serial {chosen missing : PolicyView → Nat → Prop} {l : Site} {x x' : PolicyView}
    (h : Effect chosen missing l x x') (hx : x.self.phase ≠ .absent ∧ x.self.phase.parallel = false) :
    x'.self.phase ≠ .absent ∧ x'.self.phase.parallel = false := by
  cases h with
  | same | iface | group | rescan => exact hx
  | own ho => exact ⟨ho.live.1, ho.parallel.trans hx.2⟩
  | autoWan | leave => exact ⟨nofun, rfl⟩
  | parallelScan hst _ =>
    rw [hst] at hx
    exact absurd hx.2 nofun
  | selectIface hp | selectGroup hp | connected hp =>
    rw [hp] at hx
    exact absurd hx.2 nofun

/-- A thread that tears its interface down has one in the table. -/
def TearsDown (x : PolicyView) : Prop :=
  x.self.phase = .autoWan .tearingDown →
    ∃ i < x.shared.ifaces.length, x.self.ctrl.activeInterfaceIdx = some i

theorem Effect.tearsDown {l : Site} {x x' : PolicyView}
    (h : Effect (fun _ _ => True) (fun _ _ => True) l x x') (hx : TearsDown x)
    (hlen : x'.shared.ifaces.length = x.shared.ifaces.length) : TearsDown x' := by
  intro hphase
  cases h with
  | same | iface | group | rescan | selectIface | selectGroup =>
    rw [hlen]
    exact hx hphase
  | own ho =>
    obtain ⟨hphase', hidx⟩ := ho.tearing hphase
    obtain ⟨i, hi, hold⟩ := hx hphase'
    exact ⟨i, hi, hidx.trans hold⟩
  | @autoWan st i d _ _ ha =>
    obtain ⟨hidx, hd⟩ := activeIface_some ha
    have hkept := AutoWan.lockedState_tearing (PolicyPhase.autoWan.inj hphase)
    refine ⟨i, ?_, hkept.trans hidx⟩
    rw [hlen]
    exact (List.getElem?_eq_some_iff.mp hd).1
  | parallelScan => cases hphase
  | connected =>
    rw [ParallelScan.transitionNewInterfaceConnected_self] at hphase ⊢
    rw [hlen]
    exact hx hphase
  | leave => cases hphase

/-- Others leave the record of a created thread alone; what they create has not run yet. -/
def recordKept (t t' : PolicyThread) : Prop :=
  t' = t ∨ t.phase = .absent ∧ (t'.phase = .absent ∨ ∃ p, t'.phase = .created p)

theorem recordKept.trans {t t' t'' : PolicyThread} (h : recordKept t t') (h' : recordKept t' t'') :
    recordKept t t'' := by
  rcases h' with rfl | ⟨habsent', hnew'⟩
  · exact h
  rcases h with rfl | ⟨habsent, -⟩
  · exact .inr ⟨habsent', hnew'⟩
  · exact .inr ⟨habsent, hnew'⟩

theorem recordKept.same {t t' : PolicyThread} (h : recordKept t t') (ht : t.phase ≠ .absent) :
    t' = t := h.resolve_right fun hn => ht hn.1

/-- The contract of a selection thread in an arbitrary environment. -/
def restContract : Contract Site PolicyView where
  rely x x' := recordKept x.self x'.self
  step := Effect (fun _ _ => True) fun _ _ => True
  refl _ := .inl rfl
  trans h h' := h.trans h'
  idle _ _ _ := .same

/-- A parallel scan that sleeps holds no interface while it scans. -/
def ScansAtRest (x : PolicyView) : Prop :=
  x.self.phase = .parallelScan .scanningInterface → x.self.ctrl.activeInterfaceIdx = none

theorem stable_scansAtRest : restContract.Stable ScansAtRest := by
  intro x x' h hr _
  rcases hr with hsame | ⟨-, habsent | ⟨p, hcreated⟩⟩
  · rw [ScansAtRest, hsame]
    exact h
  · exact fun hscan => absurd (habsent.symm.trans hscan) nofun
  · exact fun hscan => absurd (hcreated.symm.trans hscan) nofun

theorem tick_rest :
    Triple restContract (fun x => x.self.Live ∧ ScansAtRest x) Policy.tick fun _ => ScansAtRest := by
  have hfinds : Finds (fun _ _ => True) fun _ _ => True :=
    ⟨fun _ _ _ _ _ => trivial, fun _ _ _ => trivial⟩
  have heffects : ∀ x x' : PolicyView, recordKept x.self x'.self →
      (effects (fun _ => True) (fun _ _ => True) fun _ _ => True).rely x x' := fun x x' hr hlive =>
    ⟨hr.same hlive.1, fun _ => ⟨id, id⟩⟩
  have htick : Triple (effects (fun _ => True) (fun _ _ => True) fun _ _ => True) _ _ _ :=
    tick_effect hfinds
  intro x hi hx
  cases hp : x.self.phase.parallel with
  | true =>
    have hmeets : restContract.Meets (effects (fun _ => True) (fun _ _ => True) fun _ _ => True)
        ownRecord :=
      { inv := fun _ _ => ⟨trivial, trivial⟩
        guard := fun _ _ _ _ => ⟨trivial, trivial⟩
        rely := fun x x' hr => ⟨heffects x x' hr, hr.same⟩
        step := fun _ _ _ _ _ hstep _ => hstep }
    have hboth := Triple.both hmeets htick ParallelScan.tick_record
    exact (hboth x hi ⟨own_iff.mpr hx.1, hp, hx.1.1, hx.2⟩).mono fun _ _ _ h => h.2.2
  | false =>
    have hkeep := Triple.keep (C := restContract)
      (J := fun x => x.self.phase ≠ .absent ∧ x.self.phase.parallel = false) (fun _ _ => trivial)
      (fun _ _ _ => trivial) (fun x x' hJ hr => ⟨by rw [hr.same hJ.1]; exact hJ, heffects x x' hr⟩)
      (fun _ _ _ _ hJ hstep => ⟨hstep.serial hJ, hstep⟩) htick
    refine (hkeep x hi ⟨⟨hx.1.1, hp⟩, own_iff.mpr hx.1⟩).mono fun _ y _ h hscan => ?_
    have hserial := h.1.2
    rw [hscan] at hserial
    cases hserial

end Policy
end WanManager
