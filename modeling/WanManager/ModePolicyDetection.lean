import WanManager.Concurrency.LeadsTo
import WanManager.ModePolicySelection

/-! # Which interfaces the automatic mode tries

While nothing works the automatic machine goes from one local interface to the next. It takes the first
local one that is not the current one, so that it alternates between the first two, and a third one is
only tried when the machine begins with it. In surroundings that answer sooner or later, an interface
comes up if and only if one of these works. -/

namespace WanManager

namespace ModePolicy
open BackupWan Concurrency

/-! ## The next interface -/

/-- The interface after this one, which is the first local one that is another. -/
def nextOf (types : List IfaceType) (i : Nat) : Option Nat :=
  (List.range types.length).find? fun j => j != i && types[j]? == some .local_

/-- Where the machine gets to from this interface while nothing works. -/
def Tried (types : List IfaceType) (i j : Nat) : Prop :=
  j = i ∨ nextOf types i = some j ∨ ∃ a, nextOf types i = some a ∧ nextOf types a = some j

section Next

variable {types : List IfaceType} {i j a b : Nat}

theorem alternateInterface_eq (ifaces : List Iface) (i : Nat) :
    alternateInterface i ifaces = nextOf (ifaces.map (·.ifaceType)) i := by
  unfold alternateInterface nextOf
  rw [List.length_map]
  congr
  funext j
  rw [List.getElem?_map]
  cases ifaces[j]? <;> simp

theorem nextOf_eq_some : nextOf types i = some j ↔
    j ≠ i ∧ types[j]? = some .local_ ∧ ∀ l < j, types[l]? = some .local_ → l = i := by
  unfold nextOf
  rw [List.find?_range_eq_some]
  constructor
  · intro ⟨hj, hlt, hfirst⟩
    rw [Bool.and_eq_true, bne_iff_ne, beq_iff_eq] at hj
    refine ⟨hj.1, hj.2, fun l hl hlocal => ?_⟩
    have hnot := hfirst l hl
    simpa [hlocal] using hnot
  · intro ⟨hne, hlocal, hfirst⟩
    refine ⟨by simp [hne, hlocal], ?_, fun l hl => ?_⟩
    · exact List.mem_range.mpr (List.getElem?_eq_some_iff.mp hlocal).1
    · by_cases h : types[l]? = some .local_
      · simp [hfirst l hl h]
      · simp [h]

/-- The machine comes back to the interface before. -/
theorem nextOf_back (ha : nextOf types i = some a) (hb : nextOf types a = some b) : nextOf types b = some a := by
  rw [nextOf_eq_some] at ha hb ⊢
  refine ⟨hb.1.symm, ha.2.1, fun l hl hlocal => ?_⟩
  have hli : l = i := ha.2.2 l hl hlocal
  by_contra hlb
  rcases Nat.lt_or_gt_of_ne hlb with hlt | hgt
  · exact Nat.ne_of_lt hl (hb.2.2 l hlt hlocal)
  · have hbi : b = i := ha.2.2 b (Nat.lt_trans hgt hl) hb.2.1
    exact hlb (hli.trans hbi.symm)

theorem Tried.next (h : Tried types i j) (hnext : nextOf types j = some b) : Tried types i b := by
  rcases h with rfl | hj | ⟨a, ha, hj⟩
  · exact .inr (.inl hnext)
  · exact .inr (.inr ⟨j, hj, hnext⟩)
  · rw [nextOf_back ha hj, Option.some.injEq] at hnext
    exact .inr (.inl (hnext ▸ ha))

theorem nextOf_local (h : nextOf types i = some j) : types[j]? = some .local_ := (nextOf_eq_some.mp h).2.1

end Next

/-! ## Surroundings -/

/-- The machine works on the interface `i` in this state. -/
structure At (st : State) (i : Nat) (m : Machine) : Prop where
  phase : m.phase = .auto
  st : m.st = st
  idx : m.activeInterfaceIdx = some i

/-- What is taken for granted at every step: WAN is enabled, no remote interface is active, no check of
the connectivity stands in the way, and what is told of an interface is what it is worth. -/
structure Steady (types : List IfaceType) (works : Nat → Bool) (m : Machine) : Prop where
  enabled : m.config.enable = true
  types : m.ifaces.map (·.ifaceType) = types
  noTad : ∀ d ∈ m.ifaces, d.ifaceType = .local_ → d.tad = false
  remote : anyRemoteInterfaceActive m.ifaces ≠ .active
  link : ∀ i d, works i = true → At .waitingForInterface i m → m.ifaces[i]? = some d →
    d.baseInterfaceStatus ≠ .down
  configured : ∀ i, works i = true → At .configuringInterface i m →
    m.outside.configureWan = true ∧ m.outside.customConfig = true
  scan : ∀ i d, At .scanningInterface i m → m.ifaces[i]? = some d → scanResult d ≠ some (!works i)

/-- The link of the interface is not known yet. -/
def LinkOpen (m : Machine) : Prop :=
  ∃ i d, At .waitingForInterface i m ∧ m.ifaces[i]? = some d ∧
    (d.baseInterfaceStatus = .unknown ∨ d.baseInterfaceStatus = .initializing)

/-- The scan of the interface has come to nothing yet. -/
def ScanOpen (m : Machine) : Prop :=
  ∃ i d, At .scanningInterface i m ∧ m.ifaces[i]? = some d ∧ scanResult d = none

/-- A run in steady surroundings, which answer sooner or later. -/
structure SteadyRun (types : List IfaceType) (works : Nat → Bool) (r : Nat → Machine) : Prop where
  next : ∀ k, Others (step (r k)) (r (k + 1))
  steady : ∀ k, Steady types works (r k)
  links : ∀ k, ∃ j, k ≤ j ∧ ¬ LinkOpen (r j)
  scans : ∀ k, ∃ j, k ≤ j ∧ ¬ ScanOpen (r j)

section Steps

variable {types : List IfaceType} {works : Nat → Bool} {m m' : Machine} {i : Nat} {st st' : State}

theorem Steady.worksOn (h : Steady types works m) (hlocal : types[i]? = some .local_) (hi : At st i m) :
    WorksOn i (updateConfig m).choice := by
  rw [← h.types, List.getElem?_map, Option.map_eq_some_iff] at hlocal
  obtain ⟨d, hd, htype⟩ := hlocal
  exact ⟨hi.idx, hi.idx, _, statuses_at hd htype⟩

theorem Marks.at {c : Choice} {ret : State × Machine} (h : Marks i st c ret) (hwork : WorksOn i c)
    (hphase : c.phase = .auto) : ret.2.phase = .auto ∧ ret.2.activeInterfaceIdx = some i := by
  rcases h with ⟨hchoice, -⟩ | ⟨s, hchoice, -⟩
  · exact ⟨(congrArg Choice.phase hchoice).trans hphase, (congrArg Choice.idx hchoice).trans hwork.idx⟩
  · exact ⟨(congrArg Choice.phase hchoice).trans hphase, (congrArg Choice.idx hchoice).trans hwork.idx⟩

/-- A step in which the machine keeps to its interface. -/
theorem At.step (hi : At st i m) (hwork : WorksOn i (updateConfig m).choice)
    (hmarks : Marks i st (updateConfig m).choice (autoFunction st (updateConfig m))) :
    At (autoFunction st (updateConfig m)).1 i (step m) := by
  have hstep : ModePolicy.step m = autoTick m := by simp only [ModePolicy.step, hi.phase]
  have htick : autoTick m =
      { (autoFunction st (updateConfig m)).2 with st := (autoFunction st (updateConfig m)).1 } := by
    rw [← hi.st]
    rfl
  obtain ⟨hphase, hidx⟩ := hmarks.at hwork hi.phase
  rw [hstep, htick]
  exact ⟨hphase, rfl, hidx⟩

theorem At.others (hi : At st i m) (h : Others m m') : At st i m' := by
  rw [h.kept]
  exact ⟨hi.phase, hi.st, hi.idx⟩

theorem find?_modify_local {p : Iface → Bool} {f : Iface → Iface} (hp : ∀ d, p (f d) = p d) (ifaces : List Iface)
    (i : Nat) (hf : ∀ d, ifaces[i]? = some d → p d = false) : (ifaces.modify i f).find? p = ifaces.find? p := by
  induction ifaces generalizing i with
  | nil => simp
  | cons d ifaces ih =>
    cases i with
    | zero =>
      have hd : p d = false := hf d rfl
      simp [List.modify_zero_cons, hp, hd]
    | succ i =>
      rw [List.modify_succ_cons, List.find?_cons, List.find?_cons, ih i hf]

/-- Writing a local interface says nothing about the remote ones. -/
theorem anyRemoteInterfaceActive_modify {f : Iface → Iface} (htype : ∀ d, (f d).ifaceType = d.ifaceType)
    (henable : ∀ d, (f d).selection.enable = d.selection.enable) {ifaces : List Iface} {d : Iface}
    (hd : ifaces[i]? = some d) (hlocal : d.ifaceType = .local_) :
    anyRemoteInterfaceActive (ifaces.modify i f) = anyRemoteInterfaceActive ifaces := by
  unfold anyRemoteInterfaceActive
  rw [find?_modify_local (fun d => by rw [htype, henable])]
  intro d' hd'
  rw [hd, Option.some.injEq] at hd'
  simp [← hd', hlocal]

@[simp] theorem outside_requestIf (b : Bool) (rq : Request) (m : Machine) :
    (m.requestIf b rq).outside = m.outside := by
  cases b <;> rfl

@[simp] theorem ifaces_requestIf (b : Bool) (rq : Request) (m : Machine) :
    (m.requestIf b rq).ifaces = m.ifaces := by
  cases b <;> rfl

@[simp] theorem outside_updateConfig (m : Machine) : (updateConfig m).outside = m.outside := rfl

@[simp] theorem ifaces_updateConfig (m : Machine) : (updateConfig m).ifaces = m.ifaces := rfl

theorem Steady.fixed (h : Steady types works m) (hlocal : types[i]? = some .local_) (hi : At st i m) :
    ∃ d, m.ifaces[i]? = some d ∧ (updateConfig m).fixed? = some (i, d) ∧ d.ifaceType = .local_ ∧ d.tad = false := by
  rw [← h.types, List.getElem?_map, Option.map_eq_some_iff] at hlocal
  obtain ⟨d, hd, htype⟩ := hlocal
  refine ⟨d, hd, ?_, htype, h.noTad d (List.mem_of_getElem? hd) htype⟩
  show (m.activeInterfaceIdx.bind fun i => m.ifaces[i]?.map fun d => (i, d)) = _
  rw [hi.idx, Option.bind_some, hd, Option.map_some]

theorem Steady.waits (h : Steady types works m) (hlocal : types[i]? = some .local_)
    (hi : At .waitingForInterface i m) :
    ((stateWaitingForInterface (updateConfig m)).1 = .waitingForInterface ∧ LinkOpen m) ∨
      (stateWaitingForInterface (updateConfig m)).1 = .configuringInterface ∨
      (stateWaitingForInterface (updateConfig m)).1 = .scanningInterface ∨
      ((stateWaitingForInterface (updateConfig m)).1 = .deconfiguringInterface ∧ works i = false) := by
  obtain ⟨d, hd, hfixed, htype, htad⟩ := h.fixed hlocal hi
  have hremote := h.remote
  rw [← anyRemoteInterfaceActive_modify (i := i) (f := fun d => { d with scanned := true }) (fun _ => rfl)
    (fun _ => rfl) hd htype] at hremote
  unfold stateWaitingForInterface
  rw [hfixed]
  dsimp only
  rw [if_neg (by rw [Decidable.not_not]; exact h.enabled)]
  cases hlink : d.baseInterfaceStatus with
  | up =>
    dsimp only
    split
    · exact .inr (.inl rfl)
    · rw [if_neg (fun hactive => hremote hactive.1), if_pos (.inl (by simp [htad]))]
      have hwork := h.worksOn hlocal hi
      have hscanned : (({ updateConfig m with telemetryBackUpStatus := .stoped } : Machine).modifyIface i
          fun d => { d with scanned := true }).choice = (updateConfig m).choice :=
        choice_keep (fun _ => rfl) (fun _ => rfl)
      have hup := phyUp_choice (i := i)
        (m := (({ updateConfig m with telemetryBackUpStatus := .stoped } : Machine).modifyIface i
          fun d => { d with scanned := true }).modifyIface i (·.setSelection .selected))
        (by rw [choice_setSelection, hscanned]; exact hwork.mark .selected)
      exact .inr (.inr (.inl hup.1))
  | down =>
    refine .inr (.inr (.inr ⟨rfl, ?_⟩))
    by_contra hworks
    exact h.link i d (by simpa using hworks) hi hd hlink
  | unknown => exact .inl ⟨rfl, i, d, hi, hd, .inl hlink⟩
  | initializing => exact .inl ⟨rfl, i, d, hi, hd, .inr hlink⟩

theorem Steady.configures (h : Steady types works m) (hlocal : types[i]? = some .local_)
    (hi : At .configuringInterface i m) :
    (stateWanConfiguringInterface (updateConfig m)).1 = .scanningInterface ∨
      ((stateWanConfiguringInterface (updateConfig m)).1 = .deconfiguringInterface ∧ works i = false) := by
  obtain ⟨d, hd, hfixed, htype, htad⟩ := h.fixed hlocal hi
  have hworks (hrefused : ¬ (m.outside.configureWan = true ∧ m.outside.customConfig = true)) : works i = false := by
    by_contra hworks
    exact hrefused (h.configured i (by simpa using hworks) hi)
  unfold stateWanConfiguringInterface
  rw [hfixed]
  dsimp only
  rw [if_neg (by rw [Decidable.not_not]; exact h.enabled)]
  split
  · next hrefused => exact .inr ⟨rfl, hworks fun hboth => hrefused.2 (by simpa using hboth.1)⟩
  · split
    · next hrefused => exact .inr ⟨rfl, hworks fun hboth => hrefused.2 (by simpa using hboth.2)⟩
    · rw [if_neg (by simpa using h.remote)]
      have hup := configured_choice (i := i)
        (m := ((updateConfig m).requestIf d.wanConfigEnabled (.configureWan i true)).requestIf d.customConfigEnable
          (.customConfig i true)) (by simpa using h.worksOn hlocal hi)
      exact .inl hup.1

theorem Steady.scans (h : Steady types works m) (hlocal : types[i]? = some .local_)
    (hi : At .scanningInterface i m) :
    ((stateWanScanningInterface (updateConfig m)).1 = .scanningInterface ∧ ScanOpen m) ∨
      ((stateWanScanningInterface (updateConfig m)).1 = .interfaceUp ∧ works i = true) ∨
      ((stateWanScanningInterface (updateConfig m)).1 = .deconfiguringInterface ∧ works i = false) := by
  obtain ⟨d, hd, hfixed, htype, htad⟩ := h.fixed hlocal hi
  have hscan := h.scan i d hi hd
  unfold stateWanScanningInterface
  rw [hfixed]
  dsimp only
  rw [if_neg (by rw [Decidable.not_not]; exact h.enabled)]
  cases hresult : scanResult d with
  | none => exact .inl ⟨rfl, i, d, hi, hd, hresult⟩
  | some b =>
    cases b with
    | true =>
      have hup := up_choice (i := i) (m := cfgPostWanSelection (switchOverDone (updateConfig m)))
        (by simpa using h.worksOn hlocal hi)
      exact .inr (.inl ⟨hup.1, by simpa [hresult] using hscan⟩)
    | false => exact .inr (.inr ⟨rfl, by simpa [hresult] using hscan⟩)

theorem Steady.deconfigures (h : Steady types works m) (hlocal : types[i]? = some .local_)
    (hi : At .deconfiguringInterface i m) :
    (stateWanDeConfiguringInterface (updateConfig m)).1 = .selectingInterface := by
  obtain ⟨d, -, hfixed, -, -⟩ := h.fixed hlocal hi
  unfold stateWanDeConfiguringInterface
  rw [hfixed]
  dsimp only
  rw [if_neg (by rw [Decidable.not_not]; exact h.enabled)]

/-- Without another local interface the machine waits for the same one again. -/
theorem Steady.selects (h : Steady types works m) (hlocal : types[i]? = some .local_)
    (hi : At .selectingInterface i m) :
    At .waitingForInterface ((nextOf types i).getD i) (step m) := by
  obtain ⟨d, -, hfixed, -, -⟩ := h.fixed hlocal hi
  have hstep : step m = { (selectAlternateInterface (updateConfig m)).2 with
      st := (selectAlternateInterface (updateConfig m)).1 } := by
    have htick : step m = autoTick m := by simp only [step, hi.phase]
    rw [htick, autoTick, hi.st]
    rfl
  have hnext : alternateInterface i (updateConfig m).ifaces = nextOf types i := by
    rw [alternateInterface_eq, ifaces_updateConfig, h.types]
  rw [hstep]
  unfold selectAlternateInterface
  rw [hfixed]
  dsimp only
  rw [hnext]
  cases nextOf types i with
  | none => exact ⟨hi.phase, rfl, hi.idx⟩
  | some j =>
    have hchoice := waiting_choice j
      { updateConfig m with previousActiveInterfaceIndex := m.activeInterfaceIdx, activeInterfaceIdx := some j }
    exact ⟨(congrArg Choice.phase hchoice).trans hi.phase, rfl, congrArg Choice.idx hchoice⟩

end Steps

/-! ## What the machine comes to -/

/-- The interface `i` is being tried. -/
def Trying (i : Nat) (m : Machine) : Prop :=
  At .waitingForInterface i m ∨ At .configuringInterface i m ∨ At .scanningInterface i m

/-- It came up, if it works, or was given up. -/
def Decided (works : Nat → Bool) (i : Nat) (m : Machine) : Prop :=
  (At .interfaceUp i m ∧ works i = true) ∨ (At .deconfiguringInterface i m ∧ works i = false)

section Runs

variable {types : List IfaceType} {works : Nat → Bool} {r : Nat → Machine} {i j k : Nat}

theorem SteadyRun.goes {st : State} (hrun : SteadyRun types works r) (hlocal : types[i]? = some .local_)
    (hi : At st i (r k))
    (hmarks : Marks i st (updateConfig (r k)).choice (autoFunction st (updateConfig (r k)))) :
    At (autoFunction st (updateConfig (r k))).1 i (r (k + 1)) :=
  (hi.step ((hrun.steady k).worksOn hlocal hi) hmarks).others (hrun.next k)

theorem SteadyRun.next_waiting (hrun : SteadyRun types works r) (hlocal : types[i]? = some .local_)
    (hi : At .waitingForInterface i (r k)) :
    (At .waitingForInterface i (r (k + 1)) ∧ LinkOpen (r k)) ∨ At .configuringInterface i (r (k + 1)) ∨
      At .scanningInterface i (r (k + 1)) ∨ Decided works i (r (k + 1)) := by
  have hgoes := hrun.goes hlocal hi (marks_stateWaitingForInterface ((hrun.steady k).worksOn hlocal hi))
  change At (stateWaitingForInterface (updateConfig (r k))).1 i (r (k + 1)) at hgoes
  rcases (hrun.steady k).waits hlocal hi with ⟨hst, hopen⟩ | hst | hst | ⟨hst, hworks⟩
  · exact .inl ⟨hst ▸ hgoes, hopen⟩
  · exact .inr (.inl (hst ▸ hgoes))
  · exact .inr (.inr (.inl (hst ▸ hgoes)))
  · exact .inr (.inr (.inr (.inr ⟨hst ▸ hgoes, hworks⟩)))

theorem SteadyRun.next_configuring (hrun : SteadyRun types works r) (hlocal : types[i]? = some .local_)
    (hi : At .configuringInterface i (r k)) :
    At .scanningInterface i (r (k + 1)) ∨ Decided works i (r (k + 1)) := by
  have hgoes := hrun.goes hlocal hi (marks_stateWanConfiguringInterface ((hrun.steady k).worksOn hlocal hi))
  change At (stateWanConfiguringInterface (updateConfig (r k))).1 i (r (k + 1)) at hgoes
  rcases (hrun.steady k).configures hlocal hi with hst | ⟨hst, hworks⟩
  · exact .inl (hst ▸ hgoes)
  · exact .inr (.inr ⟨hst ▸ hgoes, hworks⟩)

theorem SteadyRun.next_scanning (hrun : SteadyRun types works r) (hlocal : types[i]? = some .local_)
    (hi : At .scanningInterface i (r k)) :
    (At .scanningInterface i (r (k + 1)) ∧ ScanOpen (r k)) ∨ Decided works i (r (k + 1)) := by
  have hgoes := hrun.goes hlocal hi (marks_stateWanScanningInterface ((hrun.steady k).worksOn hlocal hi))
  change At (stateWanScanningInterface (updateConfig (r k))).1 i (r (k + 1)) at hgoes
  rcases (hrun.steady k).scans hlocal hi with ⟨hst, hopen⟩ | ⟨hst, hworks⟩ | ⟨hst, hworks⟩
  · exact .inl ⟨hst ▸ hgoes, hopen⟩
  · exact .inr (.inl ⟨hst ▸ hgoes, hworks⟩)
  · exact .inr (.inr ⟨hst ▸ hgoes, hworks⟩)

theorem SteadyRun.next_deconfiguring (hrun : SteadyRun types works r) (hlocal : types[i]? = some .local_)
    (hi : At .deconfiguringInterface i (r k)) : At .selectingInterface i (r (k + 1)) := by
  have hgoes := hrun.goes hlocal hi (marks_stateWanDeConfiguringInterface ((hrun.steady k).worksOn hlocal hi))
  change At (stateWanDeConfiguringInterface (updateConfig (r k))).1 i (r (k + 1)) at hgoes
  rwa [(hrun.steady k).deconfigures hlocal hi] at hgoes

theorem SteadyRun.next_selecting (hrun : SteadyRun types works r) (hlocal : types[i]? = some .local_)
    (hi : At .selectingInterface i (r k)) :
    At .waitingForInterface ((nextOf types i).getD i) (r (k + 1)) :=
  ((hrun.steady k).selects hlocal hi).others (hrun.next k)

/-! ## An interface that works comes up -/

theorem SteadyRun.scanning_decided (hrun : SteadyRun types works r) (hlocal : types[i]? = some .local_) :
    LeadsTo r (At .scanningInterface i) (Decided works i) := by
  refine LeadsTo.waiting (fun k hi => (hrun.next_scanning hlocal hi).imp_left And.left) fun k hstays => ?_
  obtain ⟨j, hkj, hopen⟩ := hrun.scans k
  exact ⟨j, hkj, (hrun.next_scanning hlocal (hstays j hkj)).resolve_left fun h => hopen h.2⟩

theorem SteadyRun.waiting_decided (hrun : SteadyRun types works r) (hlocal : types[i]? = some .local_) :
    LeadsTo r (At .waitingForInterface i) fun m =>
      At .configuringInterface i m ∨ At .scanningInterface i m ∨ Decided works i m := by
  refine LeadsTo.waiting (fun k hi => (hrun.next_waiting hlocal hi).imp_left And.left) fun k hstays => ?_
  obtain ⟨j, hkj, hopen⟩ := hrun.links k
  exact ⟨j, hkj, (hrun.next_waiting hlocal (hstays j hkj)).resolve_left fun h => hopen h.2⟩

theorem SteadyRun.trying_decided (hrun : SteadyRun types works r) (hlocal : types[i]? = some .local_) :
    LeadsTo r (Trying i) (Decided works i) := by
  have hscanning := hrun.scanning_decided hlocal
  have hconfiguring : LeadsTo r (At .configuringInterface i) (Decided works i) := by
    intro k hi
    rcases hrun.next_configuring hlocal hi with hnext | hdecided
    · obtain ⟨j, hkj, hj⟩ := hscanning (k + 1) hnext
      exact ⟨j, Nat.le_of_succ_le hkj, hj⟩
    · exact ⟨k + 1, Nat.le_succ k, hdecided⟩
  have hwaiting : LeadsTo r (At .waitingForInterface i) (Decided works i) :=
    (hrun.waiting_decided hlocal).andThen (hconfiguring.either (hscanning.either fun k hk => ⟨k, Nat.le_refl k, hk⟩))
  exact hwaiting.either (hconfiguring.either hscanning)

theorem SteadyRun.works_up (hrun : SteadyRun types works r) (hlocal : types[i]? = some .local_)
    (hworks : works i = true) (htrying : Trying i (r k)) : ∃ j, (r j).st = .interfaceUp := by
  obtain ⟨j, -, hup | hdown⟩ := hrun.trying_decided hlocal k htrying
  · exact ⟨j, hup.1.st⟩
  · exact absurd (hworks.symm.trans hdown.2) (by decide)

/-- One that does not work is followed by the next. -/
theorem SteadyRun.fails_next (hrun : SteadyRun types works r) (hlocal : types[i]? = some .local_)
    (hworks : works i = false) (hnext : nextOf types i = some j) (htrying : Trying i (r k)) :
    ∃ l, Trying j (r l) := by
  obtain ⟨l, -, hup | hdown⟩ := hrun.trying_decided hlocal k htrying
  · exact absurd (hup.2.symm.trans hworks) (by decide)
  · have hwaits := hrun.next_selecting hlocal (hrun.next_deconfiguring hlocal hdown.1)
    rw [hnext] at hwaits
    exact ⟨l + 2, .inl hwaits⟩

/-! ## Nothing else is tried -/

/-- The machine is on its way from one interface to the next. -/
def Searching (types : List IfaceType) (i : Nat) (m : Machine) : Prop :=
  ∃ j, Tried types i j ∧ types[j]? = some .local_ ∧
    (Trying j m ∨ At .deconfiguringInterface j m ∨ At .selectingInterface j m)

theorem Searching.not_up {m : Machine} (h : Searching types i m) : m.st ≠ .interfaceUp := by
  obtain ⟨j, -, -, (h | h | h) | h | h⟩ := h <;> simp [h.st]

theorem Searching.tried {m : Machine} (h : Searching types i m) (hj : Trying j m) : Tried types i j := by
  obtain ⟨a, htried, -, ha⟩ := h
  have hidx : m.activeInterfaceIdx = some j := by rcases hj with hj | hj | hj <;> exact hj.idx
  have hidx' : m.activeInterfaceIdx = some a := by rcases ha with (ha | ha | ha) | ha | ha <;> exact ha.idx
  obtain rfl : a = j := Option.some.inj (hidx'.symm.trans hidx)
  exact htried

/-- The search goes on, or an interface of it has come up. -/
theorem SteadyRun.next_searching (hrun : SteadyRun types works r) (h : Searching types i (r k)) :
    Searching types i (r (k + 1)) ∨
      ∃ j, Tried types i j ∧ works j = true ∧ At .interfaceUp j (r (k + 1)) := by
  obtain ⟨j, htried, hlocal, hj⟩ := h
  have hdecided (h : Decided works j (r (k + 1))) :
      Searching types i (r (k + 1)) ∨
      ∃ j, Tried types i j ∧ works j = true ∧ At .interfaceUp j (r (k + 1)) := by
    rcases h with hup | hdown
    · exact .inr ⟨j, htried, hup.2, hup.1⟩
    · exact .inl ⟨j, htried, hlocal, .inr (.inl hdown.1)⟩
  rcases hj with (hj | hj | hj) | hj | hj
  · rcases hrun.next_waiting hlocal hj with ⟨hnext, -⟩ | hnext | hnext | hnext
    · exact .inl ⟨j, htried, hlocal, .inl (.inl hnext)⟩
    · exact .inl ⟨j, htried, hlocal, .inl (.inr (.inl hnext))⟩
    · exact .inl ⟨j, htried, hlocal, .inl (.inr (.inr hnext))⟩
    · exact hdecided hnext
  · rcases hrun.next_configuring hlocal hj with hnext | hnext
    · exact .inl ⟨j, htried, hlocal, .inl (.inr (.inr hnext))⟩
    · exact hdecided hnext
  · rcases hrun.next_scanning hlocal hj with ⟨hnext, -⟩ | hnext
    · exact .inl ⟨j, htried, hlocal, .inl (.inr (.inr hnext))⟩
    · exact hdecided hnext
  · exact .inl ⟨j, htried, hlocal, .inr (.inr (hrun.next_deconfiguring hlocal hj))⟩
  · have hwaits := hrun.next_selecting hlocal hj
    cases hnext : nextOf types j with
    | none =>
      rw [hnext] at hwaits
      exact .inl ⟨j, htried, hlocal, .inl (.inl hwaits)⟩
    | some b =>
      rw [hnext] at hwaits
      exact .inl ⟨b, htried.next hnext, nextOf_local hnext, .inl (.inl hwaits)⟩

theorem SteadyRun.searching_or_up (hrun : SteadyRun types works r) (hlocal : types[i]? = some .local_)
    (htrying : Trying i (r 0)) (k : Nat) :
    Searching types i (r k) ∨ ∃ l ≤ k, ∃ j, Tried types i j ∧ works j = true ∧ At .interfaceUp j (r l) := by
  induction k with
  | zero => exact .inl ⟨i, .inl rfl, hlocal, .inl htrying⟩
  | succ k ih =>
    rcases ih with hsearching | ⟨l, hl, hup⟩
    · exact (hrun.next_searching hsearching).imp_right fun hup => ⟨k + 1, Nat.le_refl _, hup⟩
    · exact .inr ⟨l, Nat.le_succ_of_le hl, hup⟩

/-- In steady surroundings an interface comes up if and only if one that works is the one the machine
begins with or one of the two it goes on with, and until then no other is tried. -/
theorem comes_up_iff (hrun : SteadyRun types works r) (hlocal : types[i]? = some .local_)
    (htrying : Trying i (r 0)) :
    ((∃ k, (r k).st = .interfaceUp) ↔ ∃ j, Tried types i j ∧ works j = true) ∧
      ∀ k, (∀ l ≤ k, (r l).st ≠ .interfaceUp) → ∀ j, Trying j (r k) → Tried types i j := by
  refine ⟨⟨fun ⟨k, hk⟩ => ?_, fun ⟨j, htried, hworks⟩ => ?_⟩, fun k hdown j hj => ?_⟩
  · rcases hrun.searching_or_up hlocal htrying k with hsearching | ⟨-, -, j, htried, hworks, -⟩
    · exact absurd hk hsearching.not_up
    · exact ⟨j, htried, hworks⟩
  · cases hi : works i with
    | true => exact hrun.works_up hlocal hi htrying
    | false =>
      rcases htried with rfl | hj | ⟨a, ha, hj⟩
      · exact absurd (hworks.symm.trans hi) (by decide)
      · obtain ⟨l, hl⟩ := hrun.fails_next hlocal hi hj htrying
        exact hrun.works_up (nextOf_local hj) hworks hl
      · obtain ⟨l, hl⟩ := hrun.fails_next hlocal hi ha htrying
        cases hwa : works a with
        | true => exact hrun.works_up (nextOf_local ha) hwa hl
        | false =>
          obtain ⟨l', hl'⟩ := hrun.fails_next (nextOf_local ha) hwa hj hl
          exact hrun.works_up (nextOf_local hj) hworks hl'
  · rcases hrun.searching_or_up hlocal htrying k with hsearching | ⟨l, hl, a, -, -, hup⟩
    · exact hsearching.tried hj
    · exact absurd hup.st (hdown l hl)

end Runs

/-! ## The second interface is tried after the first -/

theorem Others.trans {m m' m'' : Machine} (h : Others m m') (h' : Others m' m'') : Others m m'' where
  kept := h'.kept.trans (by rw [h.kept])
  noneActive i hi := h.noneActive i (h'.noneActive i hi)
  ifaces i d hd := by
    obtain ⟨d', hd', htype, hwan⟩ := h.ifaces i d hd
    obtain ⟨d'', hd'', htype', hwan'⟩ := h'.ifaces i d' hd'
    exact ⟨d'', hd'', htype'.trans htype, hwan'.trans hwan⟩

namespace Example

/-- The first interface has no link, the second one has a link and gets an address. -/
def report (m : Machine) : Machine :=
  (m.modifyIface 0 (reportPhy .down)).modifyIface 1 fun d => reportIpv4 (reportPhy .up d)

def tries (k : Nat) : Machine := (fun m => report (step m))^[k] (report (step^[2] booted))

/-- What is steady in this run. -/
structure Reported (m : Machine) : Prop where
  enabled : m.config.enable = true
  types : m.ifaces.map (·.ifaceType) = [.local_, .local_]
  noTad : ∀ d ∈ m.ifaces, d.tad = false
  remote : anyRemoteInterfaceActive m.ifaces ≠ .active
  links : m.ifaces.map (·.baseInterfaceStatus) = [.down, .up]
  scans : (m.ifaces.map scanResult)[1]? = some (some true)
  answers : m.outside.configureWan = true ∧ m.outside.customConfig = true
  scanned : m.st = .scanningInterface → m.activeInterfaceIdx = some 1

instance (m : Machine) : Decidable (Reported m) :=
  decidable_of_iff (_ ∧ _ ∧ _ ∧ _ ∧ _ ∧ _ ∧ _ ∧ _)
    ⟨fun ⟨h₁, h₂, h₃, h₄, h₅, h₆, h₇, h₈⟩ => ⟨h₁, h₂, h₃, h₄, h₅, h₆, h₇, h₈⟩,
      fun ⟨h₁, h₂, h₃, h₄, h₅, h₆, h₇, h₈⟩ => ⟨h₁, h₂, h₃, h₄, h₅, h₆, h₇, h₈⟩⟩

theorem Reported.steady {m : Machine} (h : Reported m) : Steady [.local_, .local_] (· == 1) m where
  enabled := h.enabled
  types := h.types
  noTad d hd _ := h.noTad d hd
  remote := h.remote
  link i d hi _ hd := by
    have hlink := congrArg (·[i]?) h.links
    rw [beq_iff_eq] at hi
    subst hi
    simp only [List.getElem?_map, hd, Option.map_some] at hlink
    rw [Option.some.inj hlink]
    decide
  configured _ _ _ := h.answers
  scan i d hi hd := by
    have hidx := h.scanned hi.st
    rw [hi.idx, Option.some.injEq] at hidx
    subst hidx
    have hscan := h.scans
    rw [List.getElem?_map, hd, Option.map_some, Option.some.injEq] at hscan
    rw [hscan]
    decide

theorem tries_up : ∀ k, tries (7 + k) = tries 7 := by
  intro k
  rw [Nat.add_comm, tries, Function.iterate_add_apply]
  exact Function.iterate_fixed rfl k

theorem reported (k : Nat) : Reported (tries k) := by
  by_cases hk : k < 7
  · have h : ∀ k < 7, Reported (tries k) := by decide
    exact h k hk
  · rw [← Nat.add_sub_of_le (Nat.le_of_not_lt hk), tries_up]
    decide

theorem tries_run : SteadyRun [.local_, .local_] (· == 1) tries where
  next k := by
    have hnext : tries (k + 1) = report (step (tries k)) := Function.iterate_succ_apply' _ k _
    rw [hnext]
    have hfirst := Others.report (m := step (tries k)) (f := reportPhy .down) (fun _ => rfl) (fun _ => rfl)
      (fun _ => rfl) 0
    exact hfirst.trans (Others.report (m := (step (tries k)).modifyIface 0 (reportPhy .down))
      (f := fun d => reportIpv4 (reportPhy .up d)) (fun _ => rfl) (fun _ => rfl) (fun _ => rfl) 1)
  steady k := (reported k).steady
  links k := ⟨7 + k, Nat.le_add_left k 7, fun ⟨i, d, hi, _⟩ => by
    have hst := hi.st
    rw [tries_up] at hst
    exact absurd hst (by decide)⟩
  scans k := ⟨7 + k, Nat.le_add_left k 7, fun ⟨i, d, hi, _⟩ => by
    have hst := hi.st
    rw [tries_up] at hst
    exact absurd hst (by decide)⟩

end Example

theorem comes_up_iff_run : ∃ k, (Example.tries k).st = .interfaceUp :=
  (comes_up_iff Example.tries_run rfl (.inl ⟨rfl, rfl, rfl⟩)).1.mpr ⟨1, .inr (.inl rfl), rfl⟩

end ModePolicy

end WanManager
