import WanManager.PolicyWindUp

/-! # Which interface a parallel scan selects

A tick of `State_ScanningInterface` looks once at every interface of the table. It keeps the best
interface that can be used, and the best interface there is, each with the priority the next one
has to beat; it selects the first if it is the second too, or if the time is over. -/

namespace WanManager
open Concurrency

namespace ParallelScan
open Policy

/-! ## Running candidates -/

section Running
variable {ι : Type} {P P' : ι → Prop} {key : ι → Nat} {bound v : Nat} {o : Option ι} {i : ι}

/-- The best so far: of what satisfies `P` one with the smallest key, if that is at most `bound`. -/
structure Running (P : ι → Prop) (key : ι → Nat) (bound : Nat) (o : Option ι) (v : Nat) : Prop where
  le : v ≤ bound
  unset : o = none → v = bound
  found : ∀ i, o = some i → P i ∧ key i = v
  least : ∀ j, P j → key j ≤ bound → o ≠ none ∧ v ≤ key j

theorem Running.start (hP : ∀ j, ¬ P j) : Running P key bound none bound :=
  ⟨Nat.le_refl _, fun _ => rfl, nofun, fun j hj => absurd hj (hP j)⟩

theorem Running.same (h : Running P key bound o v) (hP : ∀ j, P' j ↔ P j) :
    Running P' key bound o v :=
  ⟨h.le, h.unset, fun j hj => (h.found j hj).imp_left (hP j).mpr,
    fun j hj => h.least j ((hP j).mp hj)⟩

/-- The next one is at least as good. -/
theorem Running.take (h : Running P key bound o v) (hP : ∀ j, P' j ↔ P j ∨ j = i)
    (hi : key i ≤ v) : Running P' key bound (some i) (key i) := by
  refine ⟨Nat.le_trans hi h.le, nofun, fun j hj => ?_, fun j hj hle => ⟨nofun, ?_⟩⟩
  · obtain rfl := Option.some.inj hj
    exact ⟨(hP _).mpr (.inr rfl), rfl⟩
  · rcases (hP j).mp hj with hold | rfl
    · exact Nat.le_trans hi (h.least j hold hle).2
    · exact Nat.le_refl _

/-- The next one is worse. -/
theorem Running.pass (h : Running P key bound o v) (hP : ∀ j, P' j ↔ P j ∨ j = i)
    (hi : v < key i) : Running P' key bound o v := by
  refine ⟨h.le, h.unset, fun j hj => (h.found j hj).imp_left fun hold => (hP j).mpr (.inl hold),
    fun j hj hle => ?_⟩
  rcases (hP j).mp hj with hold | rfl
  · exact h.least j hold hle
  · refine ⟨fun hnone => ?_, Nat.le_of_lt hi⟩
    rw [h.unset hnone] at hi
    exact Nat.not_lt_of_le hle hi

end Running

/-! ## The table of the group -/

abbrev Table := Nat → Option WanIface

/-- The enabled interfaces of the thread's group. -/
def table (x : PolicyView) : Table := fun i =>
  x.shared.ifaces[i]?.filter fun d => d.selection.group = x.self.ctrl.groupInst ∧ d.selection.enable

namespace Table
variable (t : Table) (i : Nat)

def Enabled : Prop := (t i).isSome

def Usable : Prop := (t i).any fun d => validated d.virtIf.status

/-- The interface was the last `ActiveLink`. -/
def LastLink : Prop := (t i).any (·.selection.activeLink)

/-- The priority as it is compared. -/
def rank : Nat := uint ((t i).elim 0 (·.selection.priority))

instance : Decidable (t.Enabled i) := inferInstanceAs (Decidable (_ = true))

instance : Decidable (t.Usable i) := inferInstanceAs (Decidable (_ = true))

instance : Decidable (t.LastLink i) := inferInstanceAs (Decidable (_ = true))

theorem Usable.enabled {t : Table} {i : Nat} (h : t.Usable i) : t.Enabled i := by
  unfold Usable at h
  unfold Enabled
  cases hd : t i with
  | none => rw [hd] at h; cases h
  | some d => rfl

end Table

/-- An interface that may be selected: while one that can be used was the last link, the first such;
else the best that can be used, and before the time is over the best there is. -/
structure Choice (t : Table) (expired : Prop) (i : Nat) : Prop where
  usable : t.Usable i
  ranked : t.LastLink i ∨ t.rank i ≤ 255
  link : ∀ j, t.Usable j → t.LastLink j → t.LastLink i ∧ i ≤ j
  least : (∀ j, t.Usable j → ¬ t.LastLink j) → ∀ j, t.Usable j → t.rank i ≤ t.rank j
  waits : (∀ j, ¬ t.LastLink j) → ¬ expired → ∀ j, t.Enabled j → t.rank i ≤ t.rank j

/-- One interface has to be selected. -/
inductive Due (t : Table) (expired : Prop) : Prop
  | link (i : Nat) : t.Usable i → t.LastLink i → Due t expired
  | best (i : Nat) : (∀ j, ¬ t.LastLink j) → t.Usable i → t.rank i ≤ 255 →
      (∀ j, t.Enabled j → j ≠ i → t.rank i < t.rank j) → Due t expired
  | late (i : Nat) : expired → t.Usable i → t.rank i ≤ 255 → Due t expired

/-! ## The scan -/

/-- What the loop does at one interface. -/
inductive Look (t : Table) (i : Nat) (c : Scan) : Bool × Scan → Prop
  | other : ¬ t.Enabled i → Look t i c (false, c)
  | link {c' : Scan} : t.Usable i → t.LastLink i → c'.activeIface = some i →
      c'.validIface = some i → Look t i c (true, c')
  | seen {c' : Scan} : t.Enabled i → (t.Usable i → ¬ t.LastLink i) →
      (¬ t.LastLink i → (c'.validIface, c'.priority) =
        if t.rank i ≤ c.priority then (some i, t.rank i) else (c.validIface, c.priority)) →
      ((c'.activeIface, c'.activePriority) =
        if t.Usable i ∧ t.rank i ≤ c.activePriority then (some i, t.rank i)
        else (c.activeIface, c.activePriority)) → Look t i c (false, c')

theorem look_scanIface (i : Nat) (c : Scan) (x : PolicyView) :
    Look (table x) i c (scanIface i c x) := by
  unfold scanIface
  cases hd : x.shared.ifaces[i]? with
  | none => exact .other (by simp [Table.Enabled, table, hd])
  | some d =>
    dsimp only
    by_cases hin : d.selection.group = x.self.ctrl.groupInst ∧ d.selection.enable
    · have ht : table x i = some d := by simp [table, hd, Option.filter, hin]
      rw [if_pos hin]
      have hrank : (table x).rank i = uint d.selection.priority := by simp [Table.rank, ht]
      have hlink : (table x).LastLink i ↔ d.selection.activeLink := by simp [Table.LastLink, ht]
      have husable : (table x).Usable i ↔ validated d.virtIf.status := by simp [Table.Usable, ht]
      by_cases hboth : d.selection.activeLink ∧ validated d.virtIf.status
      · rw [if_pos hboth]
        exact .link (husable.mpr hboth.2) (hlink.mpr hboth.1) rfl (by simp [hboth.1])
      · rw [if_neg hboth]
        refine .seen (by simp [Table.Enabled, ht]) (fun hu hl => hboth ⟨hlink.mp hl, husable.mp hu⟩)
          (fun hl => ?_) ?_
        · rw [hlink] at hl
          simp only [hrank, if_neg hl]
          by_cases hp : uint d.selection.priority ≤ c.priority
          · simp only [if_pos hp]
            split <;> rfl
          · simp only [if_neg hp]
            split <;> rfl
        · simp only [husable, hrank]
          by_cases hu : validated d.virtIf.status ∧ uint d.selection.priority ≤ c.activePriority
          · grind
          · grind
    · rw [if_neg hin]
      exact .other (by simp [Table.Enabled, table, hd, Option.filter, hin])

/-- What is known after the first `n` interfaces. -/
structure Known (t : Table) (n : Nat) (c : Scan) : Prop where
  active : Running (fun j => j < n ∧ t.Usable j) t.rank 255 c.activeIface c.activePriority
  free : ∀ j, j < n → t.Usable j → ¬ t.LastLink j
  valid : (∀ j, j < n → ¬ t.LastLink j) →
    Running (fun j => j < n ∧ t.Enabled j) t.rank 255 c.validIface c.priority

theorem known_start (t : Table) : Known t 0 {} :=
  ⟨.start fun _ h => Nat.not_lt_zero _ h.1, fun _ h => absurd h (Nat.not_lt_zero _),
    fun _ => .start fun _ h => Nat.not_lt_zero _ h.1⟩

theorem below_succ {A : Nat → Prop} {n : Nat} (hn : A n) (j : Nat) :
    (j < n + 1 ∧ A j) ↔ (j < n ∧ A j) ∨ j = n := by
  rw [Nat.lt_succ_iff_lt_or_eq]
  constructor
  · rintro ⟨hlt | rfl, hj⟩
    · exact .inl ⟨hlt, hj⟩
    · exact .inr rfl
  · rintro (⟨hlt, hj⟩ | rfl)
    · exact ⟨.inl hlt, hj⟩
    · exact ⟨.inr rfl, hn⟩

theorem below_same {A : Nat → Prop} {n : Nat} (hn : ¬ A n) (j : Nat) :
    (j < n + 1 ∧ A j) ↔ (j < n ∧ A j) := by
  refine ⟨fun ⟨hlt, hj⟩ => ⟨Nat.lt_of_le_of_ne (Nat.le_of_lt_succ hlt) ?_, hj⟩,
    fun ⟨hlt, hj⟩ => ⟨Nat.lt_succ_of_lt hlt, hj⟩⟩
  rintro rfl
  exact hn hj

/-- A candidate after one more interface, which is compared if it counts. -/
theorem Running.next {A : Nat → Prop} {key : Nat → Nat} {n v v' : Nat} {o o' : Option Nat}
    (h : Running (fun j => j < n ∧ A j) key 255 o v) [Decidable (A n)]
    (hnext : (o', v') = if A n ∧ key n ≤ v then (some n, key n) else (o, v)) :
    Running (fun j => j < n + 1 ∧ A j) key 255 o' v' := by
  by_cases hn : A n
  · by_cases hle : key n ≤ v
    · rw [if_pos ⟨hn, hle⟩, Prod.mk.injEq] at hnext
      rw [hnext.1, hnext.2]
      exact h.take (below_succ hn) hle
    · rw [if_neg fun hboth => hle hboth.2, Prod.mk.injEq] at hnext
      rw [hnext.1, hnext.2]
      exact h.pass (below_succ hn) (Nat.lt_of_not_le hle)
  · rw [if_neg fun hboth => hn hboth.1, Prod.mk.injEq] at hnext
    rw [hnext.1, hnext.2]
    exact h.same (below_same hn)

theorem Known.next {t : Table} {n : Nat} {c c' : Scan} (h : Known t n c)
    (hlook : Look t n c (false, c')) : Known t (n + 1) c' := by
  cases hlook with
  | other hn =>
    have hu : ¬ t.Usable n := fun hu => hn hu.enabled
    refine ⟨h.active.same (below_same hu), fun j hj huj => ?_, fun hfree => ?_⟩
    · exact h.free j ((below_same hu j).mp ⟨hj, huj⟩).1 huj
    · exact (h.valid fun j hj => hfree j (Nat.lt_succ_of_lt hj)).same (below_same hn)
  | seen hn hfree hvalid hactive =>
    refine ⟨h.active.next hactive, fun j hj huj => ?_, fun hnone => ?_⟩
    · rcases Nat.lt_succ_iff_lt_or_eq.mp hj with hlt | rfl
      · exact h.free j hlt huj
      · exact hfree huj
    · refine (h.valid fun j hj => hnone j (Nat.lt_succ_of_lt hj)).next ?_
      rw [hvalid (hnone n (Nat.lt_succ_self n))]
      simp [hn]

/-- What the loop ends with: it left at a last link that can be used, or it saw everything. -/
inductive ScanEnds (t : Table) (n : Nat) (c : Scan) : Prop
  | link (i : Nat) : t.Usable i → t.LastLink i → (∀ j, j < i → t.Usable j → ¬ t.LastLink j) →
      c.activeIface = some i → c.validIface = some i → ScanEnds t n c
  | all : Known t n c → ScanEnds t n c

theorem scanIfaces_from (x : PolicyView) (n m : Nat) (c : Scan) (h : Known (table x) n c) :
    ScanEnds (table x) (n + m) ((scanIfaces c (List.range' n m)).run x).1 := by
  induction m generalizing n c with
  | zero => exact .all h
  | succ m ih =>
    have hlook := look_scanIface n c x
    rw [List.range'_succ, scanIfaces, Prog.run_bind, Prog.run_read]
    cases hs : scanIface n c x with
    | mk found c' =>
      rw [hs] at hlook
      cases found with
      | true =>
        cases hlook with
        | link hu hl hactive hvalid => exact .link n hu hl h.free hactive hvalid
      | false =>
        have hrest := ih (n + 1) c' (h.next hlook)
        rwa [Nat.add_right_comm] at hrest

theorem scanIfaces_view (c : Scan) (is : List Nat) (x : PolicyView) :
    ((scanIfaces c is).run x).2 = x := by
  induction is generalizing c with
  | nil => rfl
  | cons i is ih =>
    rw [scanIfaces, Prog.run_bind, Prog.run_read]
    cases scanIface i c x with
    | mk found c' =>
      cases found with
      | true => rfl
      | false => exact ih c'

theorem scanIfaces_scanned (x : PolicyView) (n : Nat) :
    ScanEnds (table x) n ((scanIfaces {} (List.range n)).run x).1 := by
  have hfrom := scanIfaces_from x 0 n {} (known_start (table x))
  rwa [Nat.zero_add, ← List.range_eq_range'] at hfrom

/-! ## The choice -/

/-- The interface that is selected at the end of the scan. -/
def pick (c : Scan) (expired : Bool) : Option Nat :=
  c.activeIface.filter fun i => c.validIface = some i ∨ expired

theorem pick_eq_some {c : Scan} {expired : Bool} {i : Nat} : pick c expired = some i ↔
    c.activeIface = some i ∧ (c.validIface = some i ∨ expired) := by
  simp [pick, Option.filter_eq_some_iff]

theorem ScanEnds.choice {t : Table} {n i : Nat} {c : Scan} {expired : Bool} (h : ScanEnds t n c)
    (hn : ∀ j, t.Enabled j → j < n) (hpick : pick c expired = some i) : Choice t expired i := by
  obtain ⟨hactive, hbest⟩ := pick_eq_some.mp hpick
  cases h with
  | link k hu hl hfirst hak hvk =>
    obtain rfl : k = i := Option.some.inj (hak.symm.trans hactive)
    refine ⟨hu, .inl hl, fun j huj hlj => ⟨hl, Nat.le_of_not_lt fun hlt => hfirst j hlt huj hlj⟩,
      fun hnone => absurd hl (hnone _ hu), fun hnone => absurd hl (hnone _)⟩
  | all h =>
    obtain ⟨⟨-, hu⟩, hrank⟩ := h.active.found i hactive
    refine ⟨hu, .inr ?_, fun j huj hlj => absurd hlj (h.free j (hn j huj.enabled) huj),
      fun _ j huj => ?_, fun hnone hexpired j hj => ?_⟩
    · rw [hrank]
      exact h.active.le
    · rw [hrank]
      by_cases hle : t.rank j ≤ 255
      · exact (h.active.least j ⟨hn j huj.enabled, huj⟩ hle).2
      · exact Nat.le_trans h.active.le (Nat.le_of_not_le hle)
    · have hvalid := h.valid fun j _ => hnone j
      rw [(hvalid.found i (hbest.resolve_right hexpired)).2]
      by_cases hle : t.rank j ≤ 255
      · exact (hvalid.least j ⟨hn j hj, hj⟩ hle).2
      · exact Nat.le_trans hvalid.le (Nat.le_of_not_le hle)

theorem ScanEnds.due {t : Table} {n : Nat} {c : Scan} {expired : Bool} (h : ScanEnds t n c)
    (hn : ∀ j, t.Enabled j → j < n) (hdue : Due t expired) : ∃ i, pick c expired = some i := by
  cases h with
  | link k hu hl hfirst hak hvk => exact ⟨k, pick_eq_some.mpr ⟨hak, .inl hvk⟩⟩
  | all h =>
    have hfound : ∀ i, t.Usable i → t.rank i ≤ 255 → ∃ k, c.activeIface = some k := fun i hu hle =>
      Option.ne_none_iff_exists'.mp (h.active.least i ⟨hn i hu.enabled, hu⟩ hle).1
    cases hdue with
    | link i hu hl => exact absurd hl (h.free i (hn i hu.enabled) hu)
    | late i hexpired hu hle =>
      obtain ⟨k, hk⟩ := hfound i hu hle
      exact ⟨k, pick_eq_some.mpr ⟨hk, .inr hexpired⟩⟩
    | best i hnone hu hle hbest =>
      have hvalid := h.valid fun j _ => hnone j
      have hi := hn i hu.enabled
      obtain ⟨k, hk⟩ := hfound i hu hle
      obtain ⟨m, hm⟩ := Option.ne_none_iff_exists'.mp (hvalid.least i ⟨hi, hu.enabled⟩ hle).1
      -- each candidate is at least as good as `i`, and nothing else is
      have hsole : ∀ j, t.Enabled j → t.rank j ≤ t.rank i → j = i := fun j hj hji =>
        by_contra fun hne => Nat.not_lt_of_le hji (hbest j hj hne)
      obtain ⟨⟨-, huk⟩, hrk⟩ := h.active.found k hk
      obtain ⟨⟨-, hem⟩, hrm⟩ := hvalid.found m hm
      obtain rfl := hsole k huk.enabled (hrk ▸ (h.active.least i ⟨hi, hu⟩ hle).2)
      obtain rfl := hsole m hem (hrm ▸ (hvalid.least _ ⟨hi, hu.enabled⟩ hle).2)
      exact ⟨_, pick_eq_some.mpr ⟨hk, .inl hm⟩⟩

/-! ## The tick -/

/-- The tick enters `CheckReconfiguration` with the interface. -/
def Picked (x : PolicyView) (i : Nat) : Prop :=
  x.self.phase = .parallelScan .checkReconfiguration ∧ x.self.ctrl.activeInterfaceIdx = some i

/-- A tick of `State_ScanningInterface` selects the interface. -/
def Selects (x : PolicyView) (i : Nat) : Prop :=
  x.self.phase = .parallelScan .scanningInterface ∧ Picked ((loop .scanningInterface).run x).2 i

instance (x : PolicyView) (i : Nat) : Decidable (Picked x i) := inferInstanceAs (Decidable (_ ∧ _))

instance (x : PolicyView) (i : Nat) : Decidable (Selects x i) := inferInstanceAs (Decidable (_ ∧ _))

/-- The thread scans, has no selected interface and is not told to stop. -/
structure Proceeds (x : PolicyView) : Prop where
  phase : x.self.phase = .parallelScan .scanningInterface
  idx : x.self.ctrl.activeInterfaceIdx = none
  goes : stops (refresh x).self.ctrl = false

theorem selectIfaces_self (is : List Nat) (x : PolicyView) :
    ((Prog.forEach is fun j => Prog.modify (Site.scanIface j) (selectIface j)).run x).2.self = x.self := by
  induction is generalizing x with
  | nil => rfl
  | cons i is ih =>
    rw [Prog.forEach, Prog.run_bind, Prog.run_modify, ih]
    rfl

theorem findNewInterface_self (last : Bool) (is : List Nat) (x : PolicyView) :
    ((findNewInterface last is).run x).2.self = x.self := by
  induction is generalizing x with
  | nil => rfl
  | cons i is ih =>
    rw [findNewInterface, Prog.run_bind, Prog.run_read]
    cases newlyConnected i last x with
    | true => exact transitionNewInterfaceConnected_self i x
    | false => exact ih x

theorem picked_selecting (i : Nat) (x : PolicyView) :
    Picked ((transitionSelectingInterface i).run x).2 i := by
  unfold transitionSelectingInterface setCtrl setState
  simp only [Prog.run_bind, Prog.run_modify, Prog.run_read]
  refine ⟨rfl, ?_⟩
  exact congrArg (·.ctrl.activeInterfaceIdx) (selectIfaces_self _ _)

theorem picked_scanned {c : Scan} {x : PolicyView} {i : Nat}
    (hphase : x.self.phase = .parallelScan .scanningInterface) :
    Picked ((scanned c).run x).2 i ↔ pick c (selectionTimeOutExpired x) = some i := by
  have hnew : ∀ last, ¬ Picked ((findNewInterface last x.ifaceRange).run x).2 i := by
    intro last h
    rw [Picked, findNewInterface_self, hphase] at h
    exact nomatch h.1
  rw [pick_eq_some]
  cases hactive : c.activeIface with
  | none =>
    refine ⟨fun h => ?_, nofun⟩
    rw [scanned, hactive] at h
    exact absurd h (hnew c.lastSelectedFound)
  | some k =>
    by_cases hbest : c.validIface = some k ∨ selectionTimeOutExpired x = true
    · have hrun : (scanned c).run x = (transitionSelectingInterface k).run x := by
        simp [scanned, hactive, hbest]
      rw [hrun]
      have hk := picked_selecting k x
      constructor
      · intro hi
        obtain rfl : k = i := Option.some.inj (hk.2.symm.trans hi.2)
        exact ⟨rfl, hbest⟩
      · rintro ⟨hki, -⟩
        rwa [← Option.some.inj hki]
    · have hrun : (scanned c).run x = (findNewInterface c.lastSelectedFound x.ifaceRange).run x := by
        simp [scanned, hactive, hbest]
      rw [hrun]
      refine ⟨fun h => absurd h (hnew _), ?_⟩
      rintro ⟨hki, hi⟩
      rw [Option.some.inj hki] at hbest
      exact absurd hi hbest

/-- What `WanMgr_UpdateControllerData` leaves alone, and the number of interfaces. -/
structure Refreshed (x y : PolicyView) : Prop where
  phase : y.self.phase = x.self.phase
  active : y.activeIface? = x.activeIface?
  table : table y = table x
  expired : selectionTimeOutExpired y = selectionTimeOutExpired x
  range : y.ifaceRange = List.range x.shared.ifaces.length

theorem refresh_refreshed (x : PolicyView) : Refreshed x (refresh x) := by
  unfold refresh copyGroup
  split <;> exact ⟨rfl, rfl, rfl, rfl, rfl⟩

theorem table_lt {x : PolicyView} {j : Nat} (h : (table x).Enabled j) : j < x.shared.ifaces.length := by
  obtain ⟨d, hd⟩ := Option.isSome_iff_exists.mp h
  exact (List.getElem?_eq_some_iff.mp (Option.filter_eq_some_iff.mp hd).1).1

/-- The tick of a thread that proceeds. -/
theorem picked_proceeds {x : PolicyView} (hphase : x.self.phase = .parallelScan .scanningInterface)
    (hidx : x.activeIface? = none) (hgoes : stops (refresh x).self.ctrl = false) :
    ∃ c, ScanEnds (table x) x.shared.ifaces.length c ∧
      ∀ i, Selects x i ↔ pick c (selectionTimeOutExpired x) = some i := by
  have h := refresh_refreshed x
  refine ⟨((scanIfaces {} (refresh x).ifaceRange).run (refresh x)).1, ?_, fun i => ?_⟩
  · rw [h.range, ← h.table]
    exact scanIfaces_scanned (refresh x) _
  · have hrun : ((loop .scanningInterface).run x).2 =
        ((scanned ((scanIfaces {} (refresh x).ifaceRange).run (refresh x)).1).run (refresh x)).2 := by
      rw [loop_unlocked (by decide) (h.active.trans hidx), unlockedState, stateScanningInterface]
      simp [ctrl, hgoes, scanIfaces_view]
    rw [Selects, hrun, picked_scanned (h.phase.trans hphase), h.expired]
    exact and_iff_right hphase

/-- A thread that is told to stop selects nothing, and one with an interface has no need to. -/
theorem Selects.proceeds {x : PolicyView} {i : Nat} (h : Selects x i) :
    x.activeIface? = none ∧ stops (refresh x).self.ctrl = false := by
  have hr := refresh_refreshed x
  obtain ⟨hphase, hpicked, -⟩ := h
  cases ha : x.activeIface? with
  | some a =>
    rw [loop_locked (by decide) (hr.active.trans ha)] at hpicked
    exact nomatch hpicked
  | none =>
    refine ⟨rfl, ?_⟩
    rw [loop_unlocked (by decide) (hr.active.trans ha)] at hpicked
    by_contra hstops
    rw [Bool.not_eq_false] at hstops
    have herror : ((unlockedState .scanningInterface).run (refresh x)).2 =
        (refresh x).setPhase (.parallelScan .policyError) := unlocked_phase (by decide) nofun hstops
    rw [herror] at hpicked
    exact nomatch hpicked

/-- A tick that selects an interface makes the choice the state describes, and a tick with one to
select makes it. -/
theorem scanning_chooses (x : PolicyView) :
    (∀ i, Selects x i → Choice (table x) (selectionTimeOutExpired x) i) ∧
      (Proceeds x → Due (table x) (selectionTimeOutExpired x) → ∃ i, Selects x i) := by
  constructor
  · intro i hi
    obtain ⟨hidx, hgoes⟩ := hi.proceeds
    obtain ⟨c, hc, hselects⟩ := picked_proceeds hi.1 hidx hgoes
    exact hc.choice (fun j => table_lt) ((hselects i).mp hi)
  · intro hx hdue
    have hidx : x.activeIface? = none := by rw [PolicyView.activeIface?, hx.idx]; rfl
    obtain ⟨c, hc, hselects⟩ := picked_proceeds hx.phase hidx hx.goes
    obtain ⟨i, hi⟩ := hc.due (fun j => table_lt) hdue
    exact ⟨i, (hselects i).mpr hi⟩

/-! Two interfaces, the second with the lower priority. -/

namespace Choosing

def iface (priority : Int) (activeLink : Bool) (status : IfaceStatus) : WanIface :=
  { selection := { priority, activeLink }, virtIf := { status } }

def scanning (ifaces : List WanIface) (now : Nat) : PolicyView :=
  { shared := { ifaces, groups := [{ policy := .parallelScan }], now }
    self := { phase := .parallelScan .scanningInterface, ctrl := { groupInst := 1 } } }

/-- The first is still being validated when the time is over. -/
def late : PolicyView := scanning [iface 0 false .validating, iface 1 false .standby] 30

/-- Both can be used, and the second was the last link. -/
def linked : PolicyView := scanning [iface 0 false .up, iface 1 true .standby] 0

end Choosing

open Choosing in
theorem scanning_chooses_late : (∃ i, Selects late i) ∧
    Choice (table late) (selectionTimeOutExpired late) 1 := by
  obtain ⟨hchoice, hdue⟩ := scanning_chooses late
  refine ⟨hdue ⟨rfl, rfl, rfl⟩ (.late 1 ?_ ?_ ?_), hchoice 1 ?_⟩ <;> decide +kernel

open Choosing in
/-- The last link is selected although an interface with a smaller priority can be used. -/
theorem link_before_priority : ¬ ∀ (x : PolicyView) (i j : Nat) (d e : WanIface), Selects x i →
    table x i = some d → table x j = some e → (table x).Usable j →
    ¬ e.selection.priority < d.selection.priority := by
  intro h
  exact h linked 1 0 _ _ (by decide +kernel) rfl rfl (by decide +kernel) (by decide)

end ParallelScan
end WanManager
