import Mathlib.Data.Nat.Bitwise
import Mathlib.Logic.Function.Basic
import WanManager.Concurrency.Labelled
import WanManager.RemoteTable

/-! # The interfaces of remote devices

A device that is announced gets a thread, `WanMgr_WanRemoteIfaceConfigure_thread`, which looks for the
device in the interface table, adds an interface for it if there is none, and sets `Selection.Enable`.
The search takes the lock of the data base once for each interface; what keeps the threads apart in the
meantime is `RemoteIfaceConfigure_mutex`. -/

namespace WanManager
open Concurrency LockM

/-! ## The threads -/

namespace RemoteInterfaces
open DataLayer

/-- `WanMgr_DeviceChangeEvent` -/
structure DeviceChange where
  macAddr : String
  available : Bool
  deriving DecidableEq, Repr

/-- Where a thread is: at a mutex, or before a section under the lock of the data base. -/
inductive Phase where
  | absent
  | waiting (ev : DeviceChange)
  | counting (ev : DeviceChange)
  /-- in the loop of `WanMgr_Remote_IfaceData_index`, at an index below the total it has read -/
  | searching (ev : DeviceChange) (total i : Nat)
  | adding (ev : DeviceChange)
  | registering (ev : DeviceChange) (i : Nat)
  | selecting (ev : DeviceChange) (i : Nat)
  | exited
  deriving DecidableEq, Repr

/-- The thread has `RemoteIfaceConfigure_mutex`. -/
def Phase.configuring : Phase → Bool
  | .counting _ | .searching _ _ _ | .adding _ | .registering _ _ | .selecting _ _ => true
  | _ => false

def Phase.event : Phase → Option DeviceChange
  | .waiting ev | .counting ev | .searching ev _ _ | .adding ev | .registering ev _ | .selecting ev _ =>
    some ev
  | _ => none

/-- The head of the loop, and what comes when the device was not found. -/
def search (ev : DeviceChange) (total i : Nat) : Phase :=
  if i < total then .searching ev total i
  else if ev.available then .adding ev
  else .exited

inductive Act where
  /-- the event arrives, and its thread is created -/
  | start (ev : DeviceChange)
  | lock
  | count
  | compare
  | configure
  /-- the rows of the new interface are registered, or not -/
  | register (ok : Bool)
  | select
  deriving DecidableEq, Repr

/-- The section a thread enters next; the answer is where it is afterwards. -/
def Act.program : Act → Phase → Option (DataM Phase)
  | .start ev, .absent => some (pure (.waiting ev))
  | .lock, .waiting ev => some (pure (.counting ev))
  | .count, .counting ev => some do
    let total ← getTotalWanIface
    return search ev total 0
  | .compare, .searching ev total i => some do
    if ← compareAt ev.macAddr i then return .selecting ev i
    else return search ev total (i + 1)
  | .configure, .adding ev => some do
    -- the index is that of the entry behind those in use
    let i ← observe (·.totalNumbWanInterfaces)
    if ← remoteIfaceDataConfigure ev.macAddr then return .registering ev i
    else return .exited
  | .register ok, .registering ev i => some do
    let _ ← getIfaceAliasNameByIndex i ""
    return if ok then .selecting ev i else .exited
  | .select, .selecting ev i => some do
    selectIface ev.available i
    -- what follows are the requests to the device
    return .exited
  | _, _ => none

/-- The section is one under the lock of the data base. -/
def Act.locksData : Act → Bool
  | .start _ | .lock => false
  | _ => true

variable {τ : Type} [DecidableEq τ]

/-- The data base with its lock, and the threads. -/
structure Remotes (τ : Type) where
  store : Locked Database
  threads : τ → Phase

/-- A thread takes a step; `RemoteIfaceConfigure_mutex` is taken when no thread has it, and the lock of
the data base when none has kept it. -/
def remotes (τ : Type) [DecidableEq τ] : Labelled (τ × Act) (Remotes τ) where
  step e s s' := (e.2 = .lock → ∀ u, (s.threads u).configuring = false) ∧
    (e.2.locksData = true → s.store.depth = 0) ∧
    ∃ p, e.2.program (s.threads e.1) = some p ∧ ∃ phase store, p.run s.store = some (phase, store) ∧
      s' = ⟨store, Function.update s.threads e.1 phase⟩

/-! ## The table -/

/-- Two addresses of one device. -/
def SameDevice (a b : String) : Prop := a.toList.map Char.toLower = b.toList.map Char.toLower

/-- The table holds no device twice, no more entries are in use than there are, and the groups know the
remote interfaces. -/
structure Intact (db : Database) : Prop where
  unique : ∀ (i j : Nat) (d d' : Iface), db.table[i]? = some d → db.table[j]? = some d' → d.ifaceType = .remote →
    d'.ifaceType = .remote → SameDevice d.remoteCpeMac d'.remoteCpeMac → i = j
  size : db.totalNumbWanInterfaces ≤ maxWanInterfaceEntry
  available : ∀ (i : Nat) (d : Iface), db.table[i]? = some d → d.ifaceType = .remote →
    ∀ g, db.groupOf d.selection.group = some g → g.interfaceAvailable.testBit i = true

/-- The entries are there still, those of remote devices as the events for them have made them. -/
def Kept (es : List (τ × Act)) (db db' : Database) : Prop :=
  ∀ (i : Nat) (d : Iface), db.table[i]? = some d → ∃ as : List Bool,
    db'.table[i]? = some (as.foldl (fun d a => d.setAvailable a) d) ∧
    ∀ a ∈ as, ∃ t ev, (t, Act.start ev) ∈ es ∧ ev.available = a ∧ d.isOf ev.macAddr = true

/-- The data base is set up, and no thread has started. -/
structure Initial (s : Remotes τ) : Prop where
  lockable : s.store.lockable = fun _ => true
  allocated : Allocated s.store.data
  intact : Intact s.store.data
  threads : ∀ t, s.threads t = .absent

/-! ## One step -/

/-- What a thread knows of the table. -/
def Knows (db : Database) : Phase → Prop
  | .searching ev total i => total = db.table.length ∧ i < total ∧
      ∀ k < i, ∀ d : Iface, db.table[k]? = some d → d.isOf ev.macAddr = false
  | .adding ev => ∀ (k : Nat) (d : Iface), db.table[k]? = some d → d.isOf ev.macAddr = false
  | .registering ev i | .selecting ev i => ∃ d : Iface, db.table[i]? = some d ∧ d.isOf ev.macAddr = true
  | _ => True

theorem knows_of_not_configuring {db : Database} {p : Phase} (h : p.configuring = false) : Knows db p := by
  cases p with
  | absent => trivial
  | waiting ev => trivial
  | exited => trivial
  | _ => cases h

/-- The invariant of a run that has begun in `s₀`. -/
structure Good (s₀ : Remotes τ) (es : List (τ × Act)) (s : Remotes τ) : Prop where
  lockable : s.store.lockable = fun _ => true
  allocated : Allocated s.store.data
  intact : Intact s.store.data
  kept : Kept es s₀.store.data s.store.data
  alone : ∀ t u, (s.threads t).configuring = true → (s.threads u).configuring = true → t = u
  knows : ∀ t, Knows s.store.data (s.threads t)
  events : ∀ t ev, (s.threads t).event = some ev → ∃ u, (u, Act.start ev) ∈ es

omit [DecidableEq τ] in
theorem SameDevice.isOf {mac : String} {d : Iface} (h : SameDevice d.remoteCpeMac mac)
    (hd : d.ifaceType = .remote) : d.isOf mac = true := by
  have htake : (d.remoteCpeMac.toList.take 128).map Char.toLower =
      (mac.toList.take 128).map Char.toLower := by
    rw [List.map_take, List.map_take, h]
  simp [Iface.isOf, strncasecmp, htake, hd]

theorem isOf_foldl_setAvailable (as : List Bool) (mac : String) (d : Iface) :
    (as.foldl (fun d a => d.setAvailable a) d).isOf mac = d.isOf mac := by
  induction as generalizing d with
  | nil => rfl
  | cons a as ih => rw [List.foldl_cons, ih, setAvailable_isOf]

section Steps

variable {s₀ s : Remotes τ} {es : List (τ × Act)} {e : τ × Act} {t : τ} {p : Phase} {db₀ db db' : Database}

omit [DecidableEq τ] in
theorem Kept.sameTable (h : Kept es db₀ db) (hsame : db'.table = db.table) : Kept (e :: es) db₀ db' := by
  intro i d hd
  obtain ⟨as, hentry, has⟩ := h i d hd
  refine ⟨as, by rw [hsame, hentry], fun a ha => ?_⟩
  obtain ⟨u, ev, hmem, hev⟩ := has a ha
  exact ⟨u, ev, List.mem_cons_of_mem _ hmem, hev⟩

omit [DecidableEq τ] in
theorem Kept.append (h : Kept es db₀ db) {d : Iface} (hadds : db'.table = db.table ++ [d]) :
    Kept (e :: es) db₀ db' := by
  intro i d₀ hd₀
  obtain ⟨as, hentry, has⟩ := h i d₀ hd₀
  refine ⟨as, ?_, fun a ha => ?_⟩
  · obtain ⟨hi, -⟩ := List.getElem?_eq_some_iff.mp hentry
    rw [hadds, List.getElem?_append_left hi, hentry]
  · obtain ⟨u, ev, hmem, hev⟩ := has a ha
    exact ⟨u, ev, List.mem_cons_of_mem _ hmem, hev⟩

omit [DecidableEq τ] in
/-- An event for a device marks its entry. -/
theorem Kept.setAvailable (h : Kept es db₀ db) {ev : DeviceChange} {u : τ} {i : Nat}
    (hev : (u, Act.start ev) ∈ es) (hi : ∃ d : Iface, db.table[i]? = some d ∧ d.isOf ev.macAddr = true)
    (hmodify : db'.table = db.table.modify i (·.setAvailable ev.available)) :
    Kept (e :: es) db₀ db' := by
  intro k d₀ hd₀
  obtain ⟨as, hentry, has⟩ := h k d₀ hd₀
  have hearlier : ∀ a ∈ as, ∃ u ev, (u, Act.start ev) ∈ e :: es ∧ ev.available = a ∧
      d₀.isOf ev.macAddr = true := by
    intro a ha
    obtain ⟨u, ev, hmem, hrest⟩ := has a ha
    exact ⟨u, ev, List.mem_cons_of_mem _ hmem, hrest⟩
  by_cases hk : i = k
  · subst hk
    obtain ⟨d, hd, hof⟩ := hi
    obtain rfl : as.foldl (fun d a => d.setAvailable a) d₀ = d := Option.some.inj (hentry.symm.trans hd)
    refine ⟨as ++ [ev.available], ?_, fun a ha => ?_⟩
    · rw [hmodify, List.getElem?_modify_eq, hentry, List.foldl_append]
      rfl
    · rcases List.mem_append.mp ha with ha | ha
      · exact hearlier a ha
      · rw [List.mem_singleton.mp ha]
        exact ⟨u, ev, List.mem_cons_of_mem _ hev, rfl, (isOf_foldl_setAvailable as _ d₀).symm.trans hof⟩
  · refine ⟨as, ?_, hearlier⟩
    rw [hmodify, List.getElem?_modify_ne _ _ hk, hentry]

theorem Intact.congr (h : Intact db) (halloc : Allocated db') (htable : db'.table = db.table)
    (hgroups : db'.groupOf = db.groupOf) : Intact db' :=
  ⟨by rw [htable]; exact h.unique, halloc.total, by rw [htable, hgroups]; exact h.available⟩

theorem Intact.setAvailable (h : Intact db) (halloc : Allocated db') {i : Nat} {a : Bool}
    (htable : db'.table = db.table.modify i (·.setAvailable a)) (hgroups : db'.groupOf = db.groupOf) :
    Intact db' := by
  have hbefore : ∀ (k : Nat) (d' : Iface), db'.table[k]? = some d' → ∃ d : Iface, db.table[k]? = some d ∧
      d'.ifaceType = d.ifaceType ∧ d'.remoteCpeMac = d.remoteCpeMac ∧
      d'.selection.group = d.selection.group := by
    intro k d' hd'
    rw [htable, List.getElem?_modify] at hd'
    obtain ⟨d, hd, rfl⟩ := Option.map_eq_some_iff.mp hd'
    refine ⟨d, hd, ?_⟩
    by_cases hk : i = k <;> simp [hk]
  constructor
  · intro k l d d' hd hd' hr hr' hmac
    obtain ⟨c, hc, htype, haddr, -⟩ := hbefore k d hd
    obtain ⟨c', hc', htype', haddr', -⟩ := hbefore l d' hd'
    exact h.unique k l c c' hc hc' (htype ▸ hr) (htype' ▸ hr') (haddr ▸ haddr' ▸ hmac)
  · exact halloc.total
  · intro k d hd hr g hg
    obtain ⟨c, hc, htype, -, hgroup⟩ := hbefore k d hd
    rw [hgroups, hgroup] at hg
    exact h.available k c hc (htype ▸ hr) g hg

/-- A device that is not in the table is added. -/
theorem Intact.adds {mac : String} (h : Intact db) (hadds : AddsRemote mac db db')
    (hnew : ∀ (k : Nat) (d : Iface), db.table[k]? = some d → d.isOf mac = false) : Intact db' := by
  obtain ⟨⟨d₁, htable, hremote, hmac, hgroup, -⟩, hgroups, -, -, halloc⟩ := hadds
  constructor
  · intro i j d d' hd hd' hr hr' hsame
    rcases getElem?_adds htable hd with hd | ⟨rfl, rfl⟩
    · rcases getElem?_adds htable hd' with hd' | ⟨rfl, rfl⟩
      · exact h.unique i j d d' hd hd' hr hr' hsame
      · have hknown := (hmac ▸ hsame : SameDevice d.remoteCpeMac mac).isOf hr
        rw [hnew i d hd] at hknown
        cases hknown
    · rcases getElem?_adds htable hd' with hd' | ⟨rfl, rfl⟩
      · have hknown := (hmac ▸ hsame.symm : SameDevice d'.remoteCpeMac mac).isOf hr'
        rw [hnew j d' hd'] at hknown
        cases hknown
      · rfl
  · exact halloc.total
  · intro i d hd hr g hg
    rw [hgroups] at hg
    rcases getElem?_adds htable hd with hd | ⟨rfl, rfl⟩
    · split at hg
      · next htwo =>
        obtain ⟨g', hg', rfl⟩ := Option.map_eq_some_iff.mp hg
        have hbit := h.available i d hd hr g' (by rw [htwo]; exact hg')
        simp only [addRemoteIface, Nat.testBit_or, hbit, Bool.true_or]
      · exact h.available i d hd hr g hg
    · rw [if_pos hgroup] at hg
      obtain ⟨g', hg', rfl⟩ := Option.map_eq_some_iff.mp hg
      simp [addRemoteIface, Nat.testBit_shiftLeft]

/-- A thread comes to a place where it knows the table, and what the others know is still true. -/
theorem Good.move {store : Locked Database} (h : Good s₀ es s) (hl : store.lockable = s.store.lockable)
    (halloc : Allocated store.data) (hintact : Intact store.data)
    (hkept : Kept (e :: es) s₀.store.data store.data) (hp : Knows store.data p)
    (hothers : ∀ u, u ≠ t → Knows store.data (s.threads u))
    (hmutex : p.configuring = true →
      (s.threads t).configuring = true ∨ ∀ u, (s.threads u).configuring = false)
    (hevent : ∀ ev, p.event = some ev → (s.threads t).event = some ev ∨ e = (t, .start ev)) :
    Good s₀ (e :: es) ⟨store, Function.update s.threads t p⟩ := by
  have hself : ∀ u, u ≠ t → (Function.update s.threads t p u) = s.threads u :=
    fun u hu => Function.update_of_ne hu _ _
  have hnone : ∀ u, u ≠ t → p.configuring = true → (s.threads u).configuring = false := by
    intro u hu hconf
    rcases hmutex hconf with ht | hfree
    · exact Bool.eq_false_iff.mpr fun hboth => hu (h.alone u t hboth ht)
    · exact hfree u
  constructor
  · exact hl.trans h.lockable
  · exact halloc
  · exact hintact
  · exact hkept
  · intro u v hu hv
    by_cases hut : u = t
    · by_cases hvt : v = t
      · rw [hut, hvt]
      · simp only [hut, Function.update_self] at hu
        simp only [hself v hvt, hnone v hvt hu] at hv
        cases hv
    · simp only [hself u hut] at hu
      by_cases hvt : v = t
      · simp only [hvt, Function.update_self] at hv
        rw [hnone u hut hv] at hu
        cases hu
      · simp only [hself v hvt] at hv
        exact h.alone u v hu hv
  · intro u
    by_cases hu : u = t
    · simpa [hu] using hp
    · simpa [hself u hu] using hothers u hu
  · intro u ev hev
    by_cases hu : u = t
    · simp only [hu, Function.update_self] at hev
      rcases hevent ev hev with hold | rfl
      · obtain ⟨v, hv⟩ := h.events t ev hold
        exact ⟨v, List.mem_cons_of_mem _ hv⟩
      · exact ⟨t, List.mem_cons_self⟩
    · simp only [hself u hu] at hev
      obtain ⟨v, hv⟩ := h.events u ev hev
      exact ⟨v, List.mem_cons_of_mem _ hv⟩

/-- A thread takes a step that leaves the data base alone. -/
theorem Good.stay (h : Good s₀ es s) (hp : Knows s.store.data p)
    (hmutex : p.configuring = true →
      (s.threads t).configuring = true ∨ ∀ u, (s.threads u).configuring = false)
    (hevent : ∀ ev, p.event = some ev → (s.threads t).event = some ev ∨ e = (t, .start ev)) :
    Good s₀ (e :: es) ⟨s.store, Function.update s.threads t p⟩ :=
  h.move rfl h.allocated h.intact (h.kept.sameTable rfl) hp (fun u _ => h.knows u) hmutex hevent

omit [DecidableEq τ] in
/-- While a thread has `RemoteIfaceConfigure_mutex`, the others know nothing of the table. -/
theorem Good.others (h : Good s₀ es s) (ht : (s.threads t).configuring = true) (db : Database) :
    ∀ u, u ≠ t → Knows db (s.threads u) :=
  fun u hu => knows_of_not_configuring (Bool.eq_false_iff.mpr fun hboth => hu (h.alone u t hboth ht))

theorem knows_search {db : Database} {ev : DeviceChange} {i : Nat} (hi : i ≤ db.table.length)
    (hnone : ∀ k < i, ∀ d : Iface, db.table[k]? = some d → d.isOf ev.macAddr = false) :
    Knows db (search ev db.table.length i) := by
  unfold search
  split
  · next hlt => exact ⟨rfl, hlt, hnone⟩
  · next hend =>
    split
    · intro k d hd
      obtain ⟨hk, -⟩ := List.getElem?_eq_some_iff.mp hd
      exact hnone k (by omega) d hd
    · trivial

theorem event_search {ev ev' : DeviceChange} {total i : Nat} (h : (search ev total i).event = some ev') :
    ev' = ev := by
  unfold search at h
  split at h
  · exact (Option.some.inj h).symm
  · split at h
    · exact (Option.some.inj h).symm
    · cases h

/-- A section of a thread keeps the invariant. -/
def Keeps (s₀ : Remotes τ) (es : List (τ × Act)) (e : τ × Act) (s : Remotes τ) (p : DataM Phase) : Prop :=
  Ends p s.store fun phase store => Good s₀ (e :: es) ⟨store, Function.update s.threads e.1 phase⟩

theorem Good.count (h : Good s₀ es s) {ev : DeviceChange} (ht : s.threads t = .counting ev) :
    Keeps s₀ es (t, .count) s (do let total ← getTotalWanIface; return search ev total 0) := by
  rw [Keeps, ends_bind, ends_getTotalWanIface h.lockable, ends_pure, ← h.allocated.table_length]
  refine h.stay (knows_search (Nat.zero_le _) fun k hk => absurd hk (by omega)) ?_ ?_
  · intro _
    exact .inl (by rw [ht]; rfl)
  · intro ev' hev
    rw [event_search hev, ht]
    exact .inl rfl

theorem Good.compare (h : Good s₀ es s) {ev : DeviceChange} {total i : Nat}
    (ht : s.threads t = .searching ev total i) :
    Keeps s₀ es (t, .compare) s (do
      if ← compareAt ev.macAddr i then return .selecting ev i
      else return search ev total (i + 1)) := by
  obtain ⟨rfl, hi, hnone⟩ : Knows s.store.data (.searching ev total i) := ht ▸ h.knows t
  have hevent : ∀ ev', some ev = some ev' → (s.threads t).event = some ev' := by
    intro ev' hev
    rw [ht]
    exact hev
  have hmutex : (s.threads t).configuring = true := by rw [ht]; rfl
  rw [Keeps, ends_bind, ends_compareAt ev.macAddr i h.lockable h.allocated, List.getElem?_eq_getElem hi,
    Option.any_some]
  cases hof : s.store.data.table[i].isOf ev.macAddr with
  | true =>
    rw [if_pos rfl, ends_pure]
    refine h.stay ⟨_, List.getElem?_eq_getElem hi, hof⟩ (fun _ => .inl hmutex) ?_
    exact fun ev' hev => .inl (hevent ev' hev)
  | false =>
    rw [if_neg Bool.false_ne_true, ends_pure]
    refine h.stay (knows_search hi fun k hk d hd => ?_) (fun _ => .inl hmutex) ?_
    · by_cases hki : k = i
      · subst hki
        rw [List.getElem?_eq_getElem hi] at hd
        rw [← Option.some.inj hd, hof]
      · exact hnone k (by omega) d hd
    · intro ev' hev
      exact .inl (hevent ev' (by rw [event_search hev]))

theorem Good.configure (h : Good s₀ es s) {ev : DeviceChange} (ht : s.threads t = .adding ev) :
    Keeps s₀ es (t, .configure) s (do
      let i ← observe (·.totalNumbWanInterfaces)
      if ← remoteIfaceDataConfigure ev.macAddr then return .registering ev i
      else return .exited) := by
  have hnew : Knows s.store.data (.adding ev) := ht ▸ h.knows t
  have hmutex : (s.threads t).configuring = true := by rw [ht]; rfl
  have hevent : ∀ ev', some ev = some ev' → (s.threads t).event = some ev' := by
    intro ev' hev
    rw [ht]
    exact hev
  rw [Keeps, ends_bind, ends_observe, ends_bind]
  intro added store hrun
  obtain ⟨hl, htable⟩ := remoteIfaceDataConfigure_table ev.macAddr h.lockable h.allocated added store hrun
  cases added with
  | true =>
    obtain ⟨-, hadds⟩ := htable
    obtain ⟨d, happend, hremote, hmac, -⟩ := hadds.table
    rw [if_pos rfl, ends_pure]
    refine h.move hl hadds.allocated (h.intact.adds hadds hnew) (h.kept.append happend) ?_
      (h.others hmutex _) (fun _ => .inl hmutex) fun ev' hev => .inl (hevent ev' hev)
    refine ⟨d, ?_, SameDevice.isOf (by rw [hmac]; rfl) hremote⟩
    rw [happend, ← h.allocated.table_length, List.getElem?_concat_length]
  | false =>
    obtain ⟨-, hsame⟩ := htable
    rw [if_neg Bool.false_ne_true, ends_pure]
    have halloc := hsame.allocated h.allocated
    exact h.move hl halloc (h.intact.congr halloc hsame.table hsame.groups)
      (h.kept.sameTable hsame.table) trivial (h.others hmutex _) (fun hc => by cases hc)
      fun ev' hev => by cases hev

theorem Good.register (h : Good s₀ es s) {ev : DeviceChange} {i : Nat} {ok : Bool}
    (ht : s.threads t = .registering ev i) :
    Keeps s₀ es (t, .register ok) s (do
      let _ ← getIfaceAliasNameByIndex i ""
      return if ok then .selecting ev i else .exited) := by
  have hknows : Knows s.store.data (.registering ev i) := ht ▸ h.knows t
  rw [Keeps, ends_bind]
  intro aliasName store hrun
  obtain rfl := ends_getIfaceAliasNameByIndex i "" h.lockable aliasName store hrun
  rw [ends_pure]
  cases ok with
  | true =>
    refine h.stay hknows (fun _ => .inl (by rw [ht]; rfl)) fun ev' hev => .inl ?_
    rw [ht]
    exact hev
  | false => exact h.stay trivial (fun hc => by cases hc) fun ev' hev => by cases hev

theorem Good.select (h : Good s₀ es s) {ev : DeviceChange} {i : Nat} (ht : s.threads t = .selecting ev i) :
    Keeps s₀ es (t, .select) s (do selectIface ev.available i; return .exited) := by
  have hknows : Knows s.store.data (.selecting ev i) := ht ▸ h.knows t
  have hmutex : (s.threads t).configuring = true := by rw [ht]; rfl
  obtain ⟨u, hev⟩ := h.events t ev (by rw [ht]; rfl)
  rw [Keeps, ends_bind]
  intro x store hrun
  obtain ⟨hsame, htable, hgroups, halloc⟩ :=
    selectIface_table ev.available i h.lockable h.allocated x store hrun
  rw [ends_pure]
  exact h.move hsame.2 halloc (h.intact.setAvailable halloc htable hgroups)
    (h.kept.setAvailable hev hknows htable)
    trivial (h.others hmutex _) (fun hc => by cases hc) fun ev' hev => by cases hev

/-- Every step keeps the invariant. -/
theorem Good.step {s' : Remotes τ} (h : Good s₀ es s) (hstep : (remotes τ).step e s s') :
    Good s₀ (e :: es) s' := by
  obtain ⟨t, a⟩ := e
  obtain ⟨hfree, -, p, hp, phase, store, hrun, rfl⟩ := hstep
  suffices hkeeps : Keeps s₀ es (t, a) s p from hkeeps phase store hrun
  simp only at hp
  cases hthread : s.threads t with
  | absent =>
    rw [hthread] at hp
    cases a <;> cases hp
    rw [Keeps, ends_pure]
    exact h.stay trivial (fun hc => by cases hc) fun ev' hev => by cases hev; exact .inr rfl
  | waiting ev =>
    rw [hthread] at hp
    cases a <;> cases hp
    rw [Keeps, ends_pure]
    refine h.stay trivial (fun _ => .inr (hfree rfl)) fun ev' hev => .inl ?_
    rw [hthread]
    exact hev
  | counting ev =>
    rw [hthread] at hp
    cases a <;> cases hp
    exact h.count hthread
  | searching ev total i =>
    rw [hthread] at hp
    cases a <;> cases hp
    exact h.compare hthread
  | adding ev =>
    rw [hthread] at hp
    cases a <;> cases hp
    exact h.configure hthread
  | registering ev i =>
    rw [hthread] at hp
    cases a <;> cases hp
    exact h.register hthread
  | selecting ev i =>
    rw [hthread] at hp
    cases a <;> cases hp
    exact h.select hthread
  | exited =>
    rw [hthread] at hp
    cases a <;> cases hp

omit [DecidableEq τ] in
theorem Good.initial (h : Initial s) : Good s [] s := by
  constructor
  · exact h.lockable
  · exact h.allocated
  · exact h.intact
  · intro i d hd
    exact ⟨[], hd, fun a ha => by cases ha⟩
  · intro t u ht
    rw [h.threads t] at ht
    cases ht
  · intro t
    rw [h.threads t]
    trivial
  · intro t ev ht
    rw [h.threads t] at ht
    cases ht

theorem Good.run {s' : Remotes τ} (h : Good s [] s) (hrun : (remotes τ).Run s es s') : Good s es s' := by
  induction hrun with
  | nil => exact h
  | cons _ hstep ih => exact ih.step hstep

end Steps

/-! ## Every run -/

namespace Example

def next (e : Bool × Act) (s : Remotes Bool) : Option (Remotes Bool) := do
  let p ← e.2.program (s.threads e.1)
  let r ← p.run s.store
  return ⟨r.2, Function.update s.threads e.1 r.1⟩

/-- A step of one of two threads. -/
def move (e : Bool × Act) : (remotes Bool).Move where
  event := e
  edit s := (next e s).getD s
  ready s := (next e s).isSome && decide (e.2 = .lock → ∀ u, (s.threads u).configuring = false) &&
    decide (e.2.locksData = true → s.store.depth = 0)
  allowed s hs := by
    simp only [Bool.and_eq_true, decide_eq_true_eq] at hs
    obtain ⟨⟨hsome, hlock⟩, hdata⟩ := hs
    obtain ⟨s', hs'⟩ := Option.isSome_iff_exists.mp hsome
    obtain ⟨p, hp, hrest⟩ := Option.bind_eq_some_iff.mp hs'
    obtain ⟨⟨phase, store⟩, hrun, hedit⟩ := Option.bind_eq_some_iff.mp hrest
    rw [hs']
    exact ⟨hlock, hdata, p, hp, phase, store, hrun, (Option.some.inj hedit).symm⟩

/-- A table with one entry, and two groups. -/
def oneEntry (d : Iface) (available : Nat) : Remotes Bool where
  store := { data := {
    pIface := some (d :: List.replicate 31 {}), totalNumbWanInterfaces := 1
    group := some [{}, { interfaceAvailable := available }] } }
  threads _ := .absent

theorem initial_oneEntry {d : Iface} {available : Nat}
    (h : d.ifaceType = .remote → d.selection.group = 2 ∧ available.testBit 0 = true) :
    Initial (oneEntry d available) := by
  have htable : (oneEntry d available).store.data.table = [d] := rfl
  have hfirst : ∀ (i : Nat) (d' : Iface), [d][i]? = some d' → i = 0 ∧ d' = d := by
    intro i d' hd'
    rw [List.getElem?_singleton] at hd'
    split at hd'
    · next hi => exact ⟨hi, (Option.some.inj hd').symm⟩
    · cases hd'
  constructor
  · rfl
  · exact ⟨⟨_, rfl, rfl⟩, show 1 ≤ 32 by decide⟩
  · constructor
    · intro i j c c' hc hc' _ _ _
      rw [(hfirst i c (htable ▸ hc)).1, (hfirst j c' (htable ▸ hc')).1]
    · exact show 1 ≤ 32 by decide
    · intro i c hc hr g hg
      obtain ⟨rfl, rfl⟩ := hfirst i c (htable ▸ hc)
      obtain ⟨hgroup, hbit⟩ := h hr
      rw [hgroup] at hg
      rw [← Option.some.inj hg]
      exact hbit
  · intro t
    rfl

/-- The device is announced twice, in different spellings. -/
def twice : List (Bool × Act) :=
  [(true, .start ⟨"AA:BB:CC:DD:EE:01", true⟩), (false, .start ⟨"aa:bb:cc:dd:ee:01", true⟩),
    (true, .lock), (true, .count), (true, .compare), (true, .configure), (true, .register true),
    (true, .select), (false, .lock), (false, .count), (false, .compare), (false, .compare),
    (false, .select)]

/-- A known device is announced that is not to be selected. -/
def known : List (Bool × Act) :=
  [(true, .start ⟨"aa:bb:cc:dd:ee:01", true⟩), (true, .lock), (true, .count), (true, .compare),
    (true, .select)]

def disabledRemote : Iface :=
  { remoteCpeMac := "aa:bb:cc:dd:ee:01", ifaceType := .remote
    selection := { enable := false, group := 2 } }

end Example

/-- In every run the table holds a remote device once and is not too long, each remote interface is
available to its group, and the entries are kept, but for what the events for a device do to its own. -/
theorem table_intact {s s' : Remotes τ} {es : List (τ × Act)} (hs : Initial s)
    (hrun : (remotes τ).Run s es s') : Intact s'.store.data ∧ Kept es s.store.data s'.store.data :=
  have hgood := (Good.initial hs).run hrun
  ⟨hgood.intact, hgood.kept⟩

open Example in
/-- There is one entry for the device afterwards. -/
theorem table_intact_twice : ∃ es s', (remotes Bool).Run (oneEntry {} 0) es s' ∧
    s'.store.data.table.length = 2 ∧ Intact s'.store.data ∧
    Kept es (oneEntry {} 0).store.data s'.store.data := by
  have hplays : (remotes Bool).plays (twice.map move) (oneEntry {} 0) = true := by decide +kernel
  have hrun := Labelled.Run.play hplays
  refine ⟨_, _, hrun, by decide +kernel, table_intact (initial_oneEntry fun h => ?_) hrun⟩
  cases h

/-- What is configured of an interface: all but its status. -/
def configuration (d : Iface) : Iface := { d with baseInterfaceStatus := .down }

open Example in
/-- The event for a known device selects its interface. -/
theorem known_selected : ¬ ∀ (s s' : Remotes Bool) (es : List (Bool × Act)), Initial s →
    (remotes Bool).Run s es s' → Intact s'.store.data ∧
      ∀ (i : Nat) (d : Iface), s.store.data.table[i]? = some d →
        ∃ d', s'.store.data.table[i]? = some d' ∧ configuration d' = configuration d ∧
          (d.ifaceType = .local_ → d' = d) := by
  intro h
  have hplays : (remotes Bool).plays (known.map move) (oneEntry disabledRemote 1) = true := by
    decide +kernel
  have hinit : Initial (oneEntry disabledRemote 1) := initial_oneEntry fun _ => ⟨rfl, rfl⟩
  obtain ⟨d', hd', hconf, -⟩ := (h _ _ _ hinit (Labelled.Run.play hplays)).2 0 disabledRemote rfl
  have hentry : ((remotes Bool).play (known.map move) (oneEntry disabledRemote 1)).store.data.table[0]?.map
      (·.selection.enable) = some true := by decide +kernel
  rw [hd'] at hentry
  have henable : d'.selection.enable = true := Option.some.inj hentry
  have hkept : d'.selection.enable = disabledRemote.selection.enable :=
    congrArg (·.selection.enable) hconf
  rw [henable] at hkept
  cases hkept

end RemoteInterfaces
end WanManager
