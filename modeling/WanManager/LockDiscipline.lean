import WanManager.DataLayer

/-! # The lock discipline of the data layer

A caller gives a lock back if and only if it was handed a pointer. So an accessor must keep
the lock exactly when it returns one, and every other operation must give back what it
takes. `lock_discipline` says which calls do. -/

namespace WanManager
open Concurrency LockM

namespace DataLayer

/-- The functions of the data layer that take the lock, with their arguments. -/
inductive Call where
  | getConfigData
  | getIfaceData (ifaceIndex : Nat)
  | getVirtualIface (baseIfidx virtIfIdx : Nat)
  | getVlanIface (baseIfidx virtIfIdx vlanid : Nat)
  | getVirtualMarking (baseIfidx virtIfIdx markingid : Nat)
  | getIfaceDataByName (name : Option String)
  | getVirtualIfaceByName (name : Option String)
  | getVIfByNameVismRunning (name : Option String)
  | getIfaceGroup (ifaceIndex : Nat)
  | getVirtIfDataByAlias (aliasName : Option String)
  | getActiveVirtIfData
  | groupConfigure
  | wanDataInit
  | wanConfigInit
  | getTotalWanIface
  | getTotalNoOfGroups
  | getIfaceAliasNameByIndex (ifaceIndex : Nat) (buffer : String)
  | getIfaceIndexByAliasName (aliasName : String)
  | remoteIfaceDataUpdate (ifaceIndex : Nat)
  | remoteIfaceDataConfigure (remoteCpeMac : String)
  | updatePrevData
  deriving DecidableEq, Repr

/-- The call; the answer is whether it returned a pointer into the data base. -/
def perform : Call → DataM Bool
  | .getConfigData => do return (← getConfigDataLocked).isSome
  | .getIfaceData i => do return (← getIfaceDataLocked i).isSome
  | .getVirtualIface b v => do return (← getVirtualIfaceLocked b v).isSome
  | .getVlanIface b v n => do return (← getVlanIfaceLocked b v n).isSome
  | .getVirtualMarking b v n => do return (← getVirtualMarkingLocked b v n).isSome
  | .getIfaceDataByName name => do return (← getIfaceDataByNameLocked name).isSome
  | .getVirtualIfaceByName name => do return (← getVirtualIfaceByNameLocked name).isSome
  | .getVIfByNameVismRunning name => do return (← getVIfByNameVismRunningLocked name).isSome
  | .getIfaceGroup i => do return (← getIfaceGroupLocked i).isSome
  | .getVirtIfDataByAlias aliasName => do return (← getVirtIfDataByAliasLocked aliasName).isSome
  | .getActiveVirtIfData => do return (← getActiveVirtIfDataLocked).isSome
  | .groupConfigure => do let _ ← groupConfigure; return false
  | .wanDataInit => do let _ ← wanDataInit; return false
  | .wanConfigInit => do let _ ← wanConfigInit; return false
  | .getTotalWanIface => do let _ ← getTotalWanIface; return false
  | .getTotalNoOfGroups => do let _ ← getTotalNoOfGroups; return false
  | .getIfaceAliasNameByIndex i buffer => do let _ ← getIfaceAliasNameByIndex i buffer; return false
  | .getIfaceIndexByAliasName a => do let _ ← getIfaceIndexByAliasName a; return false
  | .remoteIfaceDataUpdate i => do remoteIfaceDataUpdate i; return false
  | .remoteIfaceDataConfigure mac => do let _ ← remoteIfaceDataConfigure mac; return false
  | .updatePrevData => do let _ ← updatePrevData; return false

/-- A call that returns has raised the depth by one if it returned a pointer, and left it
alone if not. -/
def Disciplined (c : Call) (s : Locked Database) : Prop :=
  Ends (perform c) s fun r s' => s'.depth = s.depth + if r then 1 else 0

/-! ## Accessors -/

/-- An accessor is disciplined unless it returns a null pointer in the middle of its search. -/
theorem lockAndSearch_ends {α : Type} (find : Database → Search α) (s : Locked Database) :
    Ends (lockAndSearch find) s (fun r s' => s'.depth = s.depth + if r.isSome then 1 else 0) ↔
      (s.lockable s.depth = true → find s.data ≠ .returned none) := by
  by_cases hl : s.lockable s.depth
  · cases hf : find s.data with
    | fault => simp [lockAndSearch, ends_lock, hl, hf]
    | returned r => cases r <;> simp [lockAndSearch, ends_lock, hl, hf]
    | missing => simp [lockAndSearch, ends_lock, hl, hf]
  · simp [lockAndSearch, ends_lock, hl]

/-- The interface of the table with a given index. -/
def ifaceAt (i : Nat) (db : Database) : Option Iface :=
  if i < db.totalNumbWanInterfaces then db.pIface.bind fun t => t[i]? else none

theorem atIface_ne {α : Type} {i : Nat} {k : Iface → Search α} {db : Database} :
    atIface i k db ≠ .returned none ↔ ∀ d, ifaceAt i db = some d → k d ≠ .returned none := by
  unfold atIface ifaceAt
  split
  · cases db.pIface with
    | none => simp
    | some t => cases ht : t[i]? <;> simp [ht]
  · simp

theorem entryOf_ne {list : VirtIf → List Nat} {v n : Nat} {d : Iface} :
    entryOf list v n d ≠ .returned none ↔
      ∀ x, d.virtIfList.find? (fun x => x.virIfIdx == v) = some x → n ∈ list x := by
  unfold entryOf
  cases d.virtIfList.find? fun x => x.virIfIdx == v with
  | none => simp
  | some x => simp [entryById]

/-- The entry ends the loop. -/
def Search.ends {α : Type} : Search α → Bool
  | .missing => false
  | .fault | .returned _ => true

/-- A loop returns a null pointer if the first entry that ends it does. -/
theorem searchFrom_ne {α : Type} {test : Iface → Search α} (i : Nat) {l : List Iface} :
    searchFrom test i l ≠ .returned none ↔
      ∀ d, l.find? (fun d => (test d).ends) = some d → test d ≠ .returned none := by
  induction l generalizing i with
  | nil => simp [searchFrom]
  | cons d l ih =>
    cases ht : test d with
    | fault => simp [searchFrom, ht, Search.ends]
    | returned r => cases r <;> simp [searchFrom, ht, Search.ends]
    | missing => simp [searchFrom, ht, Search.ends, ih (i + 1)]

theorem searchIfaces_ne {α : Type} {test : Iface → Search α} {db : Database} :
    searchIfaces test db ≠ .returned none ↔ ∀ t, db.pIface = some t →
      searchFrom test 0 (t.take db.totalNumbWanInterfaces) ≠ .returned none := by
  unfold searchIfaces
  cases db.pIface with
  | none => simp
  | some t =>
    simp only [Option.some.injEq, forall_eq']
    split
    · rename_i hmissing
      rw [hmissing]
      split <;> simp
    · exact Iff.rfl

/-- The loops that only return what they were looking for. -/
theorem searchIfaces_found {α : Type} {test : Iface → Search α} {db : Database}
    (h : ∀ d, test d ≠ .returned none) : searchIfaces test db ≠ .returned none :=
  searchIfaces_ne.mpr fun _ _ => (searchFrom_ne 0).mpr fun d _ => h d

theorem testName_ne (name : Option String) (d : Iface) : testName name d ≠ .returned none := by
  unfold testName
  split
  · split <;> simp
  · simp
  · simp

theorem testVirtIf_ne (test : VirtIf → Bool) (d : Iface) : testVirtIf test d ≠ .returned none := by
  unfold testVirtIf
  split <;> simp

/-- The first interface that is active. -/
def firstActive (db : Database) : Option Iface :=
  db.pIface.bind fun t =>
    (t.take db.totalNumbWanInterfaces).find? fun d => d.selection.status = .active

theorem searchActive_ne {db : Database} :
    searchIfaces testActive db ≠ .returned none ↔
      ∀ d, firstActive db = some d → d.virtIfList ≠ [] := by
  have htest : ∀ d, (testActive d).ends = decide (d.selection.status = .active) := by
    intro d
    unfold testActive
    split <;> simp_all [Search.ends]
  have hactive : ∀ d, d.selection.status = .active →
      (testActive d ≠ .returned none ↔ d.virtIfList ≠ []) := by
    intro d hd
    simp [testActive, hd]
  rw [searchIfaces_ne]
  cases ht : db.pIface with
  | none => simp [firstActive, ht]
  | some t =>
    simp only [Option.some.injEq, forall_eq', searchFrom_ne, htest, firstActive, ht, Option.bind_some]
    refine forall_congr' fun d => imp_congr_right fun hd => hactive d ?_
    simpa using List.find?_some hd

/-! ## Operations -/

theorem allocate_balanced : Balanced allocate :=
  .bind (.observe _) fun _ => .bind (.update _) fun _ => .pure _

theorem addEntry_balanced (add : VirtIf → Nat → VirtIf) (i v n : Nat) :
    Balanced (addEntry add i v n) :=
  .bind allocate_balanced fun _ => .ite (.bind (.update _) fun _ => .pure _) (.pure _)

theorem virtIfConfVlan_balanced (i v : Nat) : Balanced (virtIfConfVlan i v) := by
  refine .bind (.observe _) fun entries => .bind (.observe _) fun markings => ?_
  refine .bind (.allM (fun n => addEntry_balanced _ i v n) _) fun ok => .ite ?_ (.pure _)
  exact .allM (fun n => addEntry_balanced _ i v n) _

theorem confVirtIf_balanced (i v : Nat) : Balanced (confVirtIf i v) := by
  refine .bind allocate_balanced fun ok => .ite ?_ (.pure _)
  exact .bind (.update _) fun _ => .bind (virtIfConfVlan_balanced i v) fun _ => .pure _

theorem confIface_balanced (i : Nat) : Balanced (confIface i) := by
  refine .bind (.update _) fun _ => .bind (.observe _) fun n => ?_
  cases n with
  | none => exact .pure _
  | some n => exact .allM (confVirtIf_balanced i) _

theorem wanIfaceConfInit_balanced : Balanced wanIfaceConfInit := by
  refine .bind (.observe _) fun total => ?_
  cases total with
  | none => exact .pure _
  | some n =>
    refine .bind allocate_balanced fun ok => .ite ?_ (.bind (.update _) fun _ => .pure _)
    exact .bind (.update _) fun _ => .allM confIface_balanced _

theorem wanDataInit_balanced : Balanced wanDataInit := .locked wanIfaceConfInit_balanced (.pure _)

theorem getTotalWanIface_balanced : Balanced getTotalWanIface := .locked (.observe _) (.pure _)

/-- What is done with a pointer is done under its lock, which is then given back. -/
theorem access_balanced {α : Type} {find : Database → Search α} {p : DataM Unit}
    (hfind : ∀ db, find db = .missing ∨ ∃ a, find db = .returned (some a)) (hp : Balanced p) :
    Balanced (do if (← lockAndSearch find).isSome then p; unlock) := by
  intro s
  by_cases hl : s.lockable s.depth
  · have hlock : (lock : DataM Bool).run s = some (true, { s with depth := s.depth + 1 }) := if_pos hl
    have hobserve : (observe find).run { s with depth := s.depth + 1 } =
      some (find s.data, { s with depth := s.depth + 1 }) := rfl
    have hunlock : ∀ s' : Locked Database,
      (unlock : DataM Unit).run s' = some ((), { s' with depth := s'.depth - 1 }) := fun _ => rfl
    rcases hfind s.data with hf | ⟨a, hf⟩
    · exact ⟨(), s, by simp [lockAndSearch, hlock, hobserve, hf, hunlock], rfl, rfl⟩
    · obtain ⟨u, s', hrun, hdepth, hlockable⟩ := hp { s with depth := s.depth + 1 }
      refine ⟨(), { s' with depth := s'.depth - 1 }, ?_, by simp [hdepth], hlockable⟩
      simp [lockAndSearch, hlock, hobserve, hf, hrun, hunlock]
  · have hlock : (lock : DataM Bool).run s = some (false, s) := if_neg hl
    exact ⟨(), s, by simp [lockAndSearch, hlock], rfl, rfl⟩

theorem updatePrevData_balanced : Balanced updatePrevData := by
  refine .bind ?_ fun _ => .bind getTotalWanIface_balanced fun n => .bind (.forM (fun i => ?_) _)
    fun _ => .pure _
  · exact access_balanced (p := .pure ()) (fun _ => .inr ⟨(), rfl⟩) (.pure ())
  · refine access_balanced (fun db => ?_) (.update _)
    split
    · exact .inr ⟨i, rfl⟩
    · exact .inl rfl

theorem remoteIfaceDataUpdate_balanced (i : Nat) : Balanced (remoteIfaceDataUpdate i) := by
  refine .bind (.update _) fun _ => .bind ?_ fun _ => .update _
  refine access_balanced (fun db => ?_) (.update _)
  split
  · exact .inr ⟨1, rfl⟩
  · exact .inl rfl

/-- A failed allocation keeps the lock. -/
theorem groupConfigure_ends (s : Locked Database) (n : Nat) :
    (Ends groupConfigure s fun _ s' => s'.depth = n) ↔
      s.depth + (if s.lockable s.depth = true ∧ s.data.outside.allocate s.data.allocations = false
        then 1 else 0) = n := by
  by_cases hl : s.lockable s.depth
  · cases ha : s.data.outside.allocate s.data.allocations <;>
      simp [groupConfigure, allocate, ends_lock, hl, ha]
  · simp [groupConfigure, ends_lock, hl]

theorem noOfVirtIfs_init (i : Nat) (db : Database) :
    noOfVirtIfs i (modifyIface i (ifaceDataInit i) db) =
      (db.pIface.bind fun t => t[i]?).map fun _ => 1 := by
  cases hp : db.pIface with
  | none => simp [noOfVirtIfs, modifyIface, hp]
  | some t => cases ht : t[i]? <;> simp [noOfVirtIfs, modifyIface, hp, ht, ifaceDataInit]

/-- The remote interface gets a place in the table, and its virtual interface memory. -/
def remoteFits (db : Database) : Prop :=
  db.totalNumbWanInterfaces < maxWanInterfaceEntry ∧
    ((db.pIface.bind fun t => t[db.totalNumbWanInterfaces]?).isSome = true →
      db.outside.allocate db.allocations = true)

theorem remoteIfaceDataConfigure_ends (mac : String) (s : Locked Database) :
    (Ends (remoteIfaceDataConfigure mac) s fun _ s' => s'.depth = s.depth) ↔
      (s.lockable s.depth = true → remoteFits s.data) := by
  unfold remoteFits
  by_cases hl : s.lockable s.depth
  · by_cases hroom : s.data.totalNumbWanInterfaces < maxWanInterfaceEntry
    · have hinit := noOfVirtIfs_init s.data.totalNumbWanInterfaces s.data
      cases he : s.data.pIface.bind fun t => t[s.data.totalNumbWanInterfaces]? with
      | none => simp [remoteIfaceDataConfigure, ends_lock, hl, hroom, hinit, he]
      | some d =>
        cases ha : s.data.outside.allocate s.data.allocations with
        | false => simp [remoteIfaceDataConfigure, ends_lock, hl, hroom, hinit, he, confRemoteVirtIf,
            allocate, ha, List.allM]
        | true =>
          have hupdate : ∀ (i : Nat) (s' : Locked Database), s'.depth = s.depth + 1 →
              Ends (remoteIfaceDataUpdate i) s' fun _ s'' => s''.depth - 1 = s.depth :=
            fun i s' hd => (remoteIfaceDataUpdate_balanced i).ends fun _ s'' hsame => by
              rw [hsame.1, hd]
              rfl
          simpa [remoteIfaceDataConfigure, ends_lock, hl, hroom, hinit, he, confRemoteVirtIf,
            allocate, ha, List.allM] using hupdate _ _ rfl
    · simp [remoteIfaceDataConfigure, ends_lock, hl, hroom]
  · simp [remoteIfaceDataConfigure, ends_lock, hl]

theorem initConfig_ends {Q : Bool → Locked Database → Prop} (s : Locked Database) :
    Ends initConfig s Q ↔
      if s.lockable s.depth then
        Q (s.data.outside.wanConf s.data.config).1
          { s with data := { s.data with config := (s.data.outside.wanConf s.data.config).2 } }
      else Q false s := by
  by_cases hl : s.lockable s.depth
  · simp [initConfig, getConfigDataLocked, lockAndSearch, ends_lock, hl, wanConfInit]
  · simp [initConfig, getConfigDataLocked, lockAndSearch, ends_lock, hl]

/-- The configuration could be read and the table of the groups not be allocated. -/
def groupsFail (db : Database) : Prop :=
  (db.outside.wanConf db.config).1 = true ∧ db.outside.allocate db.allocations = false

theorem wanConfigInit_ends (s : Locked Database) :
    (Ends wanConfigInit s fun _ s' => s'.depth = s.depth) ↔
      (s.lockable s.depth = true → ¬ groupsFail s.data) := by
  unfold wanConfigInit groupsFail
  rw [ends_bind, initConfig_ends]
  by_cases hl : s.lockable s.depth
  · cases hr : (s.data.outside.wanConf s.data.config).1 with
    | false => simp [hl]
    | true =>
      simp only [hl, if_true, ends_bind, wanDataInit_balanced.ends_depth, groupConfigure_ends]
      cases s.data.outside.allocate s.data.allocations <;> simp
  · simp [hl]

/-! ## The discipline -/

/-- The calls that keep the discipline. An accessor through a virtual interface has to find
what it looks for if it gets as far as the list, and the functions that set up a table have
to find room and memory for it. -/
def Keeps : Call → Locked Database → Prop
  | .getVirtualIface b v, s => s.lockable s.depth = true →
      ∀ d, ifaceAt b s.data = some d → (getVirtualIfaceById d v).isSome = true
  | .getVlanIface b v n, s => s.lockable s.depth = true → ∀ d, ifaceAt b s.data = some d →
      ∀ x, d.virtIfList.find? (fun x => x.virIfIdx == v) = some x → n ∈ x.interfaceList
  | .getVirtualMarking b v n, s => s.lockable s.depth = true → ∀ d, ifaceAt b s.data = some d →
      ∀ x, d.virtIfList.find? (fun x => x.virIfIdx == v) = some x → n ∈ x.virtMarking
  | .getActiveVirtIfData, s => s.lockable s.depth = true →
      ∀ d, firstActive s.data = some d → d.virtIfList ≠ []
  | .groupConfigure, s => s.lockable s.depth = true →
      s.data.outside.allocate s.data.allocations = true
  | .wanConfigInit, s => s.lockable s.depth = true → ¬ groupsFail s.data
  | .remoteIfaceDataConfigure _, s => s.lockable s.depth = true → remoteFits s.data
  | _, _ => True

/-- An accessor as a call. -/
theorem disciplined_access {α : Type} (find : Database → Search α) (s : Locked Database) :
    (Ends (do return (← lockAndSearch find).isSome) s fun r s' =>
      s'.depth = s.depth + if r then 1 else 0) ↔
      (s.lockable s.depth = true → find s.data ≠ .returned none) := by
  simpa using lockAndSearch_ends find s

/-- An operation as a call. -/
theorem disciplined_operation {α : Type} (p : DataM α) (s : Locked Database) :
    (Ends (do let _ ← p; return false) s fun r s' => s'.depth = s.depth + if r then 1 else 0) ↔
      Ends p s fun _ s' => s'.depth = s.depth := by
  simp

theorem disciplined_balanced {α : Type} {p : DataM α} (hp : Balanced p) (s : Locked Database) :
    Ends (do let _ ← p; return false) s fun r s' => s'.depth = s.depth + if r then 1 else 0 :=
  (disciplined_operation p s).mpr (hp.ends fun _ _ h => h.1)

theorem disciplined_named {α : Type} {find : String → Database → Search α}
    (hfind : ∀ n db, find n db ≠ .returned none) (name : Option String) (s : Locked Database) :
    Ends (do return (← searchNamed find name).isSome) s fun r s' =>
      s'.depth = s.depth + if r then 1 else 0 := by
  unfold searchNamed
  split
  · simp
  · simp
  · exact (disciplined_access _ s).mpr fun _ => hfind _ _

/-- The functions that take the lock and give it back themselves. A remote interface is added to a table
that was allocated. -/
def Call.Operates : Call → Database → Prop
  | .groupConfigure, _ | .wanDataInit, _ | .wanConfigInit, _ | .getTotalWanIface, _
  | .getTotalNoOfGroups, _ | .getIfaceAliasNameByIndex _ _, _ | .getIfaceIndexByAliasName _, _
  | .remoteIfaceDataUpdate _, _ | .updatePrevData, _ => True
  | .remoteIfaceDataConfigure _, db => db.totalNumbWanInterfaces < maxWanInterfaceEntry →
      (db.pIface.bind fun t => t[db.totalNumbWanInterfaces]?).isSome = true
  | _, _ => False

theorem groupConfigure_returns (s : Locked Database) : Returns groupConfigure s := by
  refine returns_locking ?_ (returns_pure _ s)
  refine (returns_update _ _).bind fun _ s _ => (allocate_balanced.returns s).bind fun ok s _ => .ite ?_ ?_
  · exact (returns_update _ s).bind fun _ s _ => (returns_unlock s).bind fun _ s _ => returns_pure _ s
  · exact (returns_update _ s).bind fun _ s _ => returns_pure _ s

theorem initConfig_returns (s : Locked Database) : Returns initConfig s := by
  have hconfig : Returns getConfigDataLocked s :=
    returns_locking ⟨some (), _, rfl⟩ (returns_pure _ s)
  refine hconfig.bind fun r s _ => .ite ?_ (returns_pure _ s)
  exact ⟨(s.data.outside.wanConf s.data.config).1, _, rfl⟩

theorem wanConfigInit_returns (s : Locked Database) : Returns wanConfigInit s :=
  (initConfig_returns s).bind fun _ s _ =>
    .ite ((groupConfigure_returns s).bind fun _ s _ => wanDataInit_balanced.returns s) (returns_pure _ s)

theorem confRemoteVirtIf_balanced (i v : Nat) : Balanced (confRemoteVirtIf i v) :=
  .bind allocate_balanced fun _ => .ite (.bind (.update _) fun _ => .pure _) (.pure _)

theorem remoteIfaceDataConfigure_returns {mac : String} {s : Locked Database}
    (h : (Call.remoteIfaceDataConfigure mac).Operates s.data) :
    Returns (remoteIfaceDataConfigure mac) s := by
  refine returns_locking ((returns_observe _ _).bind ((ends_observe _).mpr ?_)) (returns_pure _ s)
  by_cases hroom : s.data.totalNumbWanInterfaces < maxWanInterfaceEntry
  · obtain ⟨d, hd⟩ := Option.isSome_iff_exists.mp (h hroom)
    have hinit := noOfVirtIfs_init s.data.totalNumbWanInterfaces s.data
    rw [hd, Option.map_some] at hinit
    rw [if_pos hroom]
    refine (returns_update _ _).bind ((ends_update _).mpr ?_)
    refine (returns_observe _ _).bind ((ends_observe _).mpr ?_)
    simp only [hinit]
    have hconf :=
      (Balanced.allM (confRemoteVirtIf_balanced s.data.totalNumbWanInterfaces) (List.range 1)).returns
    refine (hconf _).bind fun ok s' _ => .ite ?_ (returns_pure _ s')
    refine ((remoteIfaceDataUpdate_balanced _).returns s').bind fun _ s' _ => ?_
    exact (returns_update _ s').bind fun _ s' _ => (returns_unlock s').bind fun _ s' _ => returns_pure _ s'
  · rw [if_neg hroom]
    exact returns_pure _ _

/-- Every operation returns. -/
theorem returns_of_operates {c : Call} {s : Locked Database} (h : c.Operates s.data) :
    Returns (perform c) s := by
  have hreturns {α : Type} {p : DataM α} (hp : Returns p s) : Returns (do let _ ← p; return false) s :=
    hp.bind fun _ s' _ => returns_pure _ s'
  cases c with
  | groupConfigure => exact hreturns (groupConfigure_returns s)
  | wanDataInit => exact hreturns (wanDataInit_balanced.returns s)
  | wanConfigInit => exact hreturns (wanConfigInit_returns s)
  | getTotalWanIface => exact hreturns (getTotalWanIface_balanced.returns s)
  | getTotalNoOfGroups => exact hreturns ((Balanced.locked (.observe _) (.pure _)).returns s)
  | getIfaceAliasNameByIndex i buffer => exact hreturns ((Balanced.locked (.observe _) (.pure _)).returns s)
  | getIfaceIndexByAliasName a =>
    exact hreturns ((Balanced.ite (.pure _) (.locked (.observe _) (.pure _))).returns s)
  | remoteIfaceDataUpdate i => exact hreturns ((remoteIfaceDataUpdate_balanced i).returns s)
  | remoteIfaceDataConfigure mac => exact hreturns (remoteIfaceDataConfigure_returns h)
  | updatePrevData => exact hreturns (updatePrevData_balanced.returns s)
  | _ => exact h.elim

theorem disciplined_iff (c : Call) (s : Locked Database) : Disciplined c s ↔ Keeps c s := by
  have hfound : ∀ test db, searchIfaces (testVirtIf test) db ≠ .returned none :=
    fun test db => searchIfaces_found (testVirtIf_ne test)
  cases c with
  | getConfigData => exact iff_true_intro ((disciplined_access _ s).mpr fun _ => by simp)
  | getIfaceData i =>
    refine iff_true_intro ((disciplined_access _ s).mpr fun _ => ?_)
    split <;> simp
  | getVirtualIface b v =>
    refine (disciplined_access _ s).trans (imp_congr_right fun _ => atIface_ne.trans ?_)
    refine forall_congr' fun d => imp_congr_right fun _ => ?_
    cases getVirtualIfaceById d v <;> simp
  | getVlanIface b v n =>
    refine (disciplined_access _ s).trans (imp_congr_right fun _ => atIface_ne.trans ?_)
    exact forall_congr' fun d => imp_congr_right fun _ => entryOf_ne
  | getVirtualMarking b v n =>
    refine (disciplined_access _ s).trans (imp_congr_right fun _ => atIface_ne.trans ?_)
    exact forall_congr' fun d => imp_congr_right fun _ => entryOf_ne
  | getIfaceDataByName name =>
    exact iff_true_intro ((disciplined_access _ s).mpr fun _ => searchIfaces_found (testName_ne name))
  | getVirtualIfaceByName name =>
    exact iff_true_intro (disciplined_named (fun _ db => hfound _ db) name s)
  | getVIfByNameVismRunning name =>
    exact iff_true_intro (disciplined_named (fun _ db => hfound _ db) name s)
  | getIfaceGroup i =>
    refine iff_true_intro ((disciplined_access _ s).mpr fun _ => ?_)
    split <;> simp
  | getVirtIfDataByAlias aliasName =>
    cases aliasName with
    | none => exact iff_true_intro (by simp [Disciplined, perform, getVirtIfDataByAliasLocked])
    | some a => exact iff_true_intro ((disciplined_access _ s).mpr fun _ => hfound _ _)
  | getActiveVirtIfData =>
    exact (disciplined_access _ s).trans (imp_congr_right fun _ => searchActive_ne)
  | groupConfigure =>
    refine (disciplined_operation _ s).trans ((groupConfigure_ends s s.depth).trans ?_)
    simp [Keeps]
  | wanDataInit => exact iff_true_intro (disciplined_balanced wanDataInit_balanced s)
  | wanConfigInit => exact (disciplined_operation _ s).trans (wanConfigInit_ends s)
  | getTotalWanIface => exact iff_true_intro (disciplined_balanced getTotalWanIface_balanced s)
  | getTotalNoOfGroups => exact iff_true_intro (disciplined_balanced (.locked (.observe _) (.pure _)) s)
  | getIfaceAliasNameByIndex i buffer =>
    exact iff_true_intro (disciplined_balanced (.locked (.observe _) (.pure _)) s)
  | getIfaceIndexByAliasName a =>
    exact iff_true_intro (disciplined_balanced (.ite (.pure _) (.locked (.observe _) (.pure _))) s)
  | remoteIfaceDataUpdate i =>
    exact iff_true_intro (disciplined_balanced (remoteIfaceDataUpdate_balanced i) s)
  | remoteIfaceDataConfigure mac =>
    exact (disciplined_operation _ s).trans (remoteIfaceDataConfigure_ends mac s)
  | updatePrevData => exact iff_true_intro (disciplined_balanced updatePrevData_balanced s)

/-- A call that returns is disciplined exactly when it finds what it needs, and every operation returns. -/
theorem lock_discipline (c : Call) (s : Locked Database) :
    (Disciplined c s ↔ Keeps c s) ∧ (c.Operates s.data → Returns (perform c) s) :=
  ⟨disciplined_iff c s, returns_of_operates⟩

/-- A virtual interface that is not there is looked for, and the lock kept. -/
theorem lock_kept_for_null : ¬ ∀ c s, Disciplined c s := by
  intro h
  let s : Locked Database :=
    { data := { pIface := some [{ virtIfList := [{}] }], totalNumbWanInterfaces := 1 } }
  have hrun : (perform (.getVirtualIface 0 1)).run s = some (false, { s with depth := 1 }) := rfl
  have hdepth : 1 = s.depth := h (.getVirtualIface 0 1) s false _ hrun
  exact absurd hdepth (by decide)

end DataLayer
end WanManager
