import WanManager.LockDiscipline

/-! # The interface table under its lock

What the sections do to the table that look for the interface of a remote device, add one or mark one.
`WanMgr_Remote_IfaceData_configure` prepares the entry behind those in use and then counts it in. -/

namespace WanManager
open Concurrency LockM

namespace DataLayer

/-! ## The interface table -/

/-- The entries in use. -/
def Database.table (db : Database) : List Iface :=
  (db.pIface.getD []).take db.totalNumbWanInterfaces

/-- `WanMgr_GetIfaceGroup_locked (inst - 1)` -/
def Database.groupOf (db : Database) : Nat → Option IfaceGroup
  | 0 => none
  | n + 1 => if n < db.totalNumbWanIfaceGroup then db.group.bind fun t => t[n]? else none

/-- The table has been allocated, and the entries in use lie in it. -/
structure Allocated (db : Database) : Prop where
  pIface : ∃ t, db.pIface = some t ∧ t.length = maxWanInterfaceEntry
  total : db.totalNumbWanInterfaces ≤ maxWanInterfaceEntry

theorem Allocated.table_length {db : Database} (h : Allocated db) :
    db.table.length = db.totalNumbWanInterfaces := by
  obtain ⟨⟨t, ht, hsize⟩, htotal⟩ := h
  rw [Database.table, ht, Option.getD_some, List.length_take, hsize]
  omega

/-- The table and the groups are as they were. -/
structure SameTable (db db' : Database) : Prop where
  table : db'.table = db.table
  groups : db'.groupOf = db.groupOf
  remotePriority : db'.remotePriority = db.remotePriority
  allocated : Allocated db → Allocated db'

theorem SameTable.refl (db : Database) : SameTable db db := ⟨rfl, rfl, rfl, id⟩

/-- There is one more entry, for the device with the address. -/
structure AddsRemote (mac : String) (db db' : Database) : Prop where
  table : ∃ d, db'.table = db.table ++ [d] ∧ d.ifaceType = .remote ∧ d.remoteCpeMac = mac ∧
    d.selection.group = 2 ∧ d.selection.priority = db.remotePriority ∧
    d.uiIfaceIdx = db.totalNumbWanInterfaces
  groups : ∀ n, db'.groupOf n =
    if n = 2 then (db.groupOf 2).map (addRemoteIface db.table.length) else db.groupOf n
  remotePriority : db'.remotePriority = db.remotePriority + 1
  room : db.totalNumbWanInterfaces < maxWanInterfaceEntry
  allocated : Allocated db'

/-- Only the entry behind those in use has been written, and it is as `P` says. -/
structure Prepared (db₀ : Database) (P : Iface → Prop) (db : Database) : Prop where
  total : db.totalNumbWanInterfaces = db₀.totalNumbWanInterfaces
  slot : ∃ t, db.pIface = some t ∧ t.length = maxWanInterfaceEntry ∧
    t.take db₀.totalNumbWanInterfaces = db₀.table ∧ ∀ d ∈ t[db₀.totalNumbWanInterfaces]?, P d

namespace Prepared

variable {db₀ db db' : Database} {P Q : Iface → Prop}

theorem start (h : Allocated db) : Prepared db (fun _ => True) db := by
  obtain ⟨⟨t, ht, hsize⟩, -⟩ := h
  refine ⟨rfl, t, ht, hsize, ?_, fun _ _ => trivial⟩
  rw [Database.table, ht, Option.getD_some]

theorem congr (h : Prepared db₀ P db) (htable : db'.pIface = db.pIface)
    (htotal : db'.totalNumbWanInterfaces = db.totalNumbWanInterfaces) : Prepared db₀ P db' :=
  ⟨htotal.trans h.total, htable ▸ h.slot⟩

theorem modify {f : Iface → Iface} (h : Prepared db₀ P db) (hf : ∀ d, P d → Q (f d)) :
    Prepared db₀ Q (modifyIface db₀.totalNumbWanInterfaces f db) := by
  obtain ⟨htotal, t, ht, hsize, hbefore, hslot⟩ := h
  refine ⟨htotal, t.modify db₀.totalNumbWanInterfaces f, ?_, ?_, ?_, ?_⟩
  · rw [modifyIface, ht]
    rfl
  · rw [List.length_modify, hsize]
  · rw [← hbefore]
    rw [List.take_modify, List.modify_eq_self (List.length_take_le _ _)]
  · intro d hd
    rw [List.getElem?_modify_eq] at hd
    obtain ⟨d', hd', rfl⟩ := Option.map_eq_some_iff.mp hd
    exact hf d' (hslot d' hd')

theorem sameTable (h : Prepared db₀ P db) (hgroups : db.groupOf = db₀.groupOf)
    (hpriority : db.remotePriority = db₀.remotePriority) : SameTable db₀ db := by
  obtain ⟨htotal, t, ht, hsize, hbefore, -⟩ := h
  refine ⟨?_, hgroups, hpriority, fun hdb₀ => ⟨⟨t, ht, hsize⟩, htotal ▸ hdb₀.total⟩⟩
  rw [Database.table, ht, htotal, Option.getD_some, hbefore]

end Prepared

variable {db₀ : Database} {P Q : Iface → Prop} {s : Locked Database}

theorem ends_allocate {Q : Bool → Locked Database → Prop} : Ends allocate s Q ↔
    Q (s.data.outside.allocate s.data.allocations)
      { s with data := { s.data with allocations := s.data.allocations + 1 } } := by
  simp [allocate]

/-- The groups and the counter of the priorities are as they were. -/
def SameGroups (db₀ db : Database) : Prop :=
  db.groupOf = db₀.groupOf ∧ db.remotePriority = db₀.remotePriority

/-- The virtual interface of a new entry. -/
theorem confRemoteVirtIf_prepared (v : Nat) (h : Prepared db₀ P s.data) (hsame : SameGroups db₀ s.data)
    (hP : ∀ d x, P d → P { d with virtIfList := d.virtIfList ++ [x] }) :
    Ends (confRemoteVirtIf db₀.totalNumbWanInterfaces v) s fun _ s' =>
      Same s s' ∧ Prepared db₀ P s'.data ∧ SameGroups db₀ s'.data := by
  rw [confRemoteVirtIf, ends_bind, ends_allocate]
  have hcount : Prepared db₀ P { s.data with allocations := s.data.allocations + 1 } := h.congr rfl rfl
  split
  · rw [ends_bind, ends_update, ends_pure]
    exact ⟨⟨rfl, rfl⟩, hcount.modify fun d => hP d _, hsame⟩
  · rw [ends_pure]
    exact ⟨⟨rfl, rfl⟩, hcount, hsame⟩

theorem groupOf_modifyGroup (f : IfaceGroup → IfaceGroup) (db : Database) (n : Nat) :
    (modifyGroup 1 f db).groupOf n = if n = 2 then (db.groupOf 2).map f else db.groupOf n := by
  cases n with
  | zero => rfl
  | succ n =>
    simp only [Database.groupOf, modifyGroup]
    cases db.group with
    | none => by_cases hn : n < db.totalNumbWanIfaceGroup <;> simp [hn]
    | some t =>
      by_cases hn : n = 1
      · subst hn
        simp only [Option.map_some, Option.bind_some, List.getElem?_modify, if_true]
        split <;> rfl
      · have hne : ¬ 1 = n := fun h => hn h.symm
        simp only [Option.map_some, Option.bind_some, List.getElem?_modify, if_neg hne,
          Nat.reduceEqDiff, if_neg hn, id_map']

theorem addToRemoteGroup_groups (i : Nat) (hl : s.lockable = fun _ => true) :
    Ends (addToRemoteGroup i) s fun _ s' => Same s s' ∧ s'.data.pIface = s.data.pIface ∧
      s'.data.totalNumbWanInterfaces = s.data.totalNumbWanInterfaces ∧
      s'.data.remotePriority = s.data.remotePriority ∧ ∀ n, s'.data.groupOf n =
        if n = 2 then (s.data.groupOf 2).map (addRemoteIface i) else s.data.groupOf n := by
  obtain ⟨depth, lockable, data⟩ := s
  obtain rfl : lockable = fun _ => true := hl
  have hends : ∀ Q : Unit → Locked Database → Prop, Ends (addToRemoteGroup i) ⟨depth, fun _ => true, data⟩ Q ↔
      if 1 < data.totalNumbWanIfaceGroup ∧ data.group.isSome then
        Q () ⟨depth, fun _ => true, modifyGroup 1 (addRemoteIface i) data⟩
      else Q () ⟨depth, fun _ => true, data⟩ := by
    intro Q
    by_cases hgroup : 1 < data.totalNumbWanIfaceGroup ∧ data.group.isSome
    · simp [addToRemoteGroup, getIfaceGroupLocked, lockAndSearch, ends_lock, hgroup]
    · simp only [addToRemoteGroup, getIfaceGroupLocked, lockAndSearch, ends_bind, ends_lock, hgroup,
        if_true, if_false, ends_observe, ends_unlock, ends_pure, Option.isSome_none, Bool.false_eq_true,
        Nat.add_sub_cancel]
  rw [hends]
  split
  · exact ⟨⟨rfl, rfl⟩, rfl, rfl, rfl, groupOf_modifyGroup _ _⟩
  · next hnone =>
    have hgroup : data.groupOf 2 = none := by
      simp only [Database.groupOf]
      split
      · next hbound =>
        have hempty : data.group = none := Option.not_isSome_iff_eq_none.mp fun h => hnone ⟨hbound, h⟩
        rw [hempty, Option.bind_none]
      · rfl
    refine ⟨⟨rfl, rfl⟩, rfl, rfl, rfl, fun n => ?_⟩
    split
    · next hn => rw [hn, hgroup, Option.map_none]
    · rfl

/-- The entry of a remote device, before it has its address. -/
def IsRemote (priority : Int) (i : Nat) (d : Iface) : Prop :=
  d.ifaceType = .remote ∧ d.selection.group = 2 ∧ d.selection.priority = priority ∧ d.uiIfaceIdx = i

theorem remoteIfaceDataUpdate_prepared (hl : s.lockable = fun _ => true)
    (h : Prepared db₀ (fun d => d.uiIfaceIdx = db₀.totalNumbWanInterfaces) s.data)
    (hsame : SameGroups db₀ s.data) :
    Ends (remoteIfaceDataUpdate db₀.totalNumbWanInterfaces) s fun _ s' =>
      Same s s' ∧ Prepared db₀ (IsRemote db₀.remotePriority db₀.totalNumbWanInterfaces) s'.data ∧
        s'.data.remotePriority = db₀.remotePriority + 1 ∧ ∀ n, s'.data.groupOf n =
          if n = 2 then (db₀.groupOf 2).map (addRemoteIface db₀.totalNumbWanInterfaces)
          else db₀.groupOf n := by
  obtain ⟨hgroups, hpriority⟩ := hsame
  rw [remoteIfaceDataUpdate, ends_bind, ends_update, ends_bind]
  intro u s₁ hrun
  obtain ⟨hsame, htable, htotal, hcounter, hadded⟩ := addToRemoteGroup_groups _ (by exact hl) u s₁ hrun
  rw [ends_update]
  refine ⟨hsame, (h.modify fun d hd => ?_).congr htable htotal, ?_, fun n => ?_⟩
  · exact ⟨rfl, rfl, hpriority, hd⟩
  · rw [hcounter]
    exact congrArg (· + 1) hpriority
  · refine (hadded n).trans ?_
    rw [← hgroups]
    rfl

/-- `WanMgr_Remote_IfaceData_configure` adds an entry, or keeps the lock and leaves the table alone. -/
def Configured (mac : String) (s : Locked Database) (added : Bool) (s' : Locked Database) : Prop :=
  s'.lockable = s.lockable ∧
    if added then s'.depth = s.depth ∧ AddsRemote mac s.data s'.data
    else s'.depth = s.depth + 1 ∧ SameTable s.data s'.data

/-- The entry behind those in use comes to them. -/
theorem Prepared.adds {db : Database} {mac : String} (h : Prepared db₀ (IsRemote db₀.remotePriority db₀.totalNumbWanInterfaces) db)
    (hroom : db₀.totalNumbWanInterfaces < maxWanInterfaceEntry) (halloc : Allocated db₀)
    (hpriority : db.remotePriority = db₀.remotePriority + 1)
    (hgroups : ∀ n, db.groupOf n =
      if n = 2 then (db₀.groupOf 2).map (addRemoteIface db₀.totalNumbWanInterfaces)
      else db₀.groupOf n) :
    AddsRemote mac db₀
      { modifyIface db₀.totalNumbWanInterfaces (fun d => { d with remoteCpeMac := mac }) db with
        totalNumbWanInterfaces := db.totalNumbWanInterfaces + 1 } := by
  have hmac := h.modify (f := fun d => { d with remoteCpeMac := mac })
    (Q := fun d => IsRemote db₀.remotePriority db₀.totalNumbWanInterfaces d ∧ d.remoteCpeMac = mac) fun d hd => ⟨hd, rfl⟩
  obtain ⟨htotal, t, ht, hsize, hbefore, hslot⟩ := hmac
  have hbound : db₀.totalNumbWanInterfaces < t.length := by omega
  have hlast := hslot _ (List.getElem?_eq_getElem hbound)
  constructor
  · obtain ⟨⟨hremote, hgroup, hcounter, hindex⟩, haddr⟩ := hlast
    refine ⟨t[db₀.totalNumbWanInterfaces], ?_, hremote, haddr, hgroup, hcounter, hindex⟩
    rw [Database.table, ht, Option.getD_some, h.total, List.take_succ_eq_append_getElem hbound, hbefore]
  · rw [halloc.table_length]
    exact hgroups
  · exact hpriority
  · exact hroom
  · refine ⟨⟨t, ht, hsize⟩, ?_⟩
    rw [h.total]
    exact hroom

theorem remoteIfaceDataConfigure_table (mac : String) (hl : s.lockable = fun _ => true)
    (h : Allocated s.data) : Ends (remoteIfaceDataConfigure mac) s (Configured mac s) := by
  have hlock : s.lockable s.depth = true := by rw [hl]
  rw [remoteIfaceDataConfigure, ends_bind, ends_lock, if_pos hlock, if_pos rfl, ends_bind, ends_observe]
  by_cases hroom : s.data.totalNumbWanInterfaces < maxWanInterfaceEntry
  · have hslot : noOfVirtIfs s.data.totalNumbWanInterfaces
        (modifyIface s.data.totalNumbWanInterfaces (ifaceDataInit s.data.totalNumbWanInterfaces) s.data) =
          some 1 := by
      obtain ⟨⟨t, ht, hsize⟩, -⟩ := h
      rw [noOfVirtIfs_init, ht, Option.bind_some, List.getElem?_eq_getElem (by omega)]
      rfl
    rw [if_pos hroom, ends_bind, ends_update, ends_bind, ends_observe, hslot]
    have hinit := (Prepared.start h).modify (Q := fun d => d.uiIfaceIdx = s.data.totalNumbWanInterfaces)
      (f := ifaceDataInit s.data.totalNumbWanInterfaces) fun _ _ => rfl
    simp only [List.range_one, List.allM, ends_bind]
    intro ok s₁ hrun
    obtain ⟨⟨hdepth, hlockable⟩, hprepared, hgroups⟩ :=
      confRemoteVirtIf_prepared 0 (by exact hinit) (by exact ⟨rfl, rfl⟩) (fun _ _ hd => hd) ok s₁ hrun
    cases ok with
    | false =>
      simp only [Bool.false_eq_true, if_false, ends_pure]
      exact ⟨hlockable, hdepth, hprepared.sameTable hgroups.1 hgroups.2⟩
    | true =>
      simp only [if_true, ends_bind, ends_pure]
      intro u s₂ hrun₂
      obtain ⟨⟨hdepth₂, hlockable₂⟩, hremote, hpriority, hgroups₂⟩ :=
        remoteIfaceDataUpdate_prepared (hlockable.trans hl) hprepared hgroups u s₂ hrun₂
      rw [ends_update, ends_unlock]
      refine ⟨hlockable₂.trans hlockable, ?_, hremote.adds hroom h hpriority hgroups₂⟩
      simp only [hdepth₂, hdepth, Nat.add_sub_cancel]
  · rw [if_neg hroom, ends_pure]
    exact ⟨rfl, rfl, SameTable.refl _⟩

/-! ## One interface at a time -/

/-- `strncasecmp`, for equality. -/
def strncasecmp (a b : String) (n : Nat) : Bool :=
  (a.toList.take n).map Char.toLower == (b.toList.take n).map Char.toLower

/-- The entry is that of the remote device with the address. -/
def Iface.isOf (mac : String) (d : Iface) : Bool :=
  strncasecmp d.remoteCpeMac mac 128 && d.ifaceType == .remote

/-- One turn of the loop of `WanMgr_Remote_IfaceData_index`. -/
def compareAt (mac : String) (i : Nat) : DataM Bool := do
  if (← getIfaceDataLocked i).isSome then
    let found ← observe fun db => (db.pIface.bind fun t => t[i]?).any (·.isOf mac)
    unlock
    return found
  else return false

/-- What an event makes of the entry of its device. -/
def Iface.setAvailable (available : Bool) (d : Iface) : Iface :=
  if available then { d with selection := { d.selection with enable := true } }
  else { d with selection := { d.selection with enable := false }, baseInterfaceStatus := .down }

/-- The end of `WanMgr_WanRemoteIfaceConfigure_thread` under `RemoteIfaceConfigure_mutex`. -/
def selectIface (available : Bool) (i : Nat) : DataM Unit := do
  if (← getIfaceDataLocked i).isSome then
    update (modifyIface i (·.setAvailable available))
    unlock

@[simp] theorem setAvailable_ifaceType (a : Bool) (d : Iface) :
    (d.setAvailable a).ifaceType = d.ifaceType := by cases a <;> rfl

@[simp] theorem setAvailable_remoteCpeMac (a : Bool) (d : Iface) :
    (d.setAvailable a).remoteCpeMac = d.remoteCpeMac := by cases a <;> rfl

@[simp] theorem setAvailable_group (a : Bool) (d : Iface) :
    (d.setAvailable a).selection.group = d.selection.group := by cases a <;> rfl

@[simp] theorem setAvailable_isOf (a : Bool) (mac : String) (d : Iface) :
    (d.setAvailable a).isOf mac = d.isOf mac := by simp [Iface.isOf]

theorem ends_getTotalWanIface {Q : Nat → Locked Database → Prop} (hl : s.lockable = fun _ => true) :
    Ends getTotalWanIface s Q ↔ Q s.data.totalNumbWanInterfaces s := by
  obtain ⟨depth, lockable, data⟩ := s
  obtain rfl : lockable = fun _ => true := hl
  simp [getTotalWanIface, ends_lock]

theorem ends_getIfaceAliasNameByIndex (i : Nat) (buffer : String) (hl : s.lockable = fun _ => true) :
    Ends (getIfaceAliasNameByIndex i buffer) s fun _ s' => s' = s := by
  obtain ⟨depth, lockable, data⟩ := s
  obtain rfl : lockable = fun _ => true := hl
  simp [getIfaceAliasNameByIndex, ends_lock]

theorem getElem?_table {db : Database} {t : List Iface} (ht : db.pIface = some t) (i : Nat) :
    db.table[i]? = if i < db.totalNumbWanInterfaces then t[i]? else none := by
  rw [Database.table, ht, Option.getD_some, List.getElem?_take]

/-- What is done with the entry of an index that is in use. -/
theorem ends_getIfaceDataLocked {Q : Option Nat → Locked Database → Prop} (i : Nat)
    (hl : s.lockable = fun _ => true) (h : Allocated s.data) :
    Ends (getIfaceDataLocked i) s Q ↔
      if i < s.data.totalNumbWanInterfaces then Q (some i) { s with depth := s.depth + 1 }
      else Q none s := by
  obtain ⟨depth, lockable, data⟩ := s
  obtain rfl : lockable = fun _ => true := hl
  obtain ⟨⟨t, ht, -⟩, -⟩ := h
  by_cases hi : i < data.totalNumbWanInterfaces
  · simp [getIfaceDataLocked, lockAndSearch, ends_lock, hi, show data.pIface = some t from ht]
  · simp [getIfaceDataLocked, lockAndSearch, ends_lock, hi]

theorem ends_compareAt {Q : Bool → Locked Database → Prop} (mac : String) (i : Nat)
    (hl : s.lockable = fun _ => true) (h : Allocated s.data) :
    Ends (compareAt mac i) s Q ↔ Q (s.data.table[i]?.any (·.isOf mac)) s := by
  obtain ⟨t, ht, -⟩ := h.pIface
  rw [compareAt, ends_bind, ends_getIfaceDataLocked i hl h, getElem?_table ht]
  split
  · simp [ht]
  · simp

theorem getElem?_adds {db db' : Database} {d₁ : Iface} (h : db'.table = db.table ++ [d₁]) {n : Nat}
    {d : Iface} (hd : db'.table[n]? = some d) :
    db.table[n]? = some d ∨ n = db.table.length ∧ d = d₁ := by
  rw [h, List.getElem?_append] at hd
  split at hd
  · exact .inl hd
  · next hn =>
    obtain ⟨hlast, rfl⟩ : n - db.table.length = 0 ∧ d₁ = d := by
      simpa [List.getElem?_singleton] using hd
    exact .inr ⟨by omega, rfl⟩

theorem table_modifyIface (i : Nat) (f : Iface → Iface) (db : Database) :
    (modifyIface i f db).table = db.table.modify i f := by
  unfold Database.table modifyIface
  cases db.pIface with
  | none => simp
  | some t => exact List.take_modify f i _ t

theorem Allocated.modifyIface {db : Database} (h : Allocated db) (i : Nat) (f : Iface → Iface) :
    Allocated (modifyIface i f db) := by
  obtain ⟨⟨t, ht, hsize⟩, htotal⟩ := h
  refine ⟨⟨t.modify i f, ?_, ?_⟩, htotal⟩
  · rw [DataLayer.modifyIface, ht, Option.map_some]
  · rw [List.length_modify, hsize]

theorem Allocated.modify_of_le {db : Database} (h : Allocated db) {i : Nat} (f : Iface → Iface)
    (hi : ¬ i < db.totalNumbWanInterfaces) : db.table.modify i f = db.table := by
  rw [List.modify_eq_self]
  rw [h.table_length]
  omega

theorem selectIface_table (available : Bool) (i : Nat) (hl : s.lockable = fun _ => true)
    (h : Allocated s.data) : Ends (selectIface available i) s fun _ s' => Same s s' ∧
      s'.data.table = s.data.table.modify i (·.setAvailable available) ∧
      s'.data.groupOf = s.data.groupOf ∧ Allocated s'.data := by
  rw [selectIface, ends_bind, ends_getIfaceDataLocked i hl h]
  split
  · simp only [Option.isSome_some, if_true, ends_bind, ends_update, ends_unlock, Nat.add_sub_cancel]
    exact ⟨⟨rfl, rfl⟩, table_modifyIface i _ _, rfl, h.modifyIface i _⟩
  · next hi =>
    rw [Option.isSome_none, if_neg Bool.false_ne_true, ends_pure, h.modify_of_le _ hi]
    exact ⟨⟨rfl, rfl⟩, rfl, rfl, h⟩

end DataLayer
end WanManager
