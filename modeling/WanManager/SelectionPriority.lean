import Mathlib.Logic.Function.Basic
import WanManager.Concurrency.Labelled
import WanManager.RemoteTable

/-! # The priorities of the interfaces

A write of `Selection.Priority` looks at the other interfaces one after another and stores the value when
none has it. The lock of the data base is given back after each of them and before the value is stored, and
a remote interface gets its priority from a counter that nobody compares with those in use. -/

namespace WanManager
open Concurrency LockM

namespace SelectionPriority
open DataLayer

/-! ## The sections of a write -/

/-- The index in the entry of the instance. -/
def locate (i : Nat) : DataM (Option Nat) := do
  if (← getIfaceDataLocked i).isSome then
    let ifIndex ← observe fun db => (db.pIface.bind fun t => t[i]?).map (·.uiIfaceIdx)
    unlock
    return ifIndex
  else return none

/-- One turn of the loop of `WanManager_CheckGivenPriorityExists`. -/
def existsAt (ifIndex : Nat) (priority : Int) (i : Nat) : DataM Bool := do
  if (← getIfaceDataLocked i).isSome then
    let found ← observe fun db =>
      i != ifIndex && (db.pIface.bind fun t => t[i]?).any (·.selection.priority == priority)
    unlock
    return found
  else return false

def setPriority (priority : Int) (d : Iface) : Iface :=
  { d with selection := { d.selection with priority } }

/-- The value is stored. -/
def storeAt (i : Nat) (priority : Int) : DataM Bool := do
  if (← getIfaceDataLocked i).isSome then
    update (modifyIface i (setPriority priority))
    unlock
    return true
  else return false

/-! ## The callers -/

/-- Where a call of `WanIfSelectionCfg_SetParamIntValue` for `Priority` is. -/
inductive Phase where
  | idle
  | locating (i : Nat) (priority : Int)
  | counting (i ifIndex : Nat) (priority : Int)
  /-- in the loop, at an index below the total it has read -/
  | checking (i ifIndex : Nat) (priority : Int) (total j : Nat)
  | storing (i : Nat) (priority : Int)
  | returned (ok : Bool)
  deriving DecidableEq, Repr

inductive Act where
  | call (i : Nat) (priority : Int)
  | locate | count | check | store
  deriving DecidableEq, Repr

/-- The section a call enters next; the answer is where it is afterwards. -/
def Act.program : Act → Phase → Option (DataM Phase)
  | .call i priority, .idle | .call i priority, .returned _ => some (pure (.locating i priority))
  | .locate, .locating i priority => some do
    match ← SelectionPriority.locate i with
    | none => return .returned false
    | some ifIndex => return .counting i ifIndex priority
  | .count, .counting i ifIndex priority => some do
    let total ← getTotalWanIface
    return if total = 0 then .returned false else .checking i ifIndex priority total 0
  | .check, .checking i ifIndex priority total j => some do
    if ← existsAt ifIndex priority j then return .returned false
    else return if j + 1 < total then .checking i ifIndex priority total (j + 1) else .storing i priority
  | .store, .storing i priority => some do return .returned (← storeAt i priority)
  | _, _ => none

def Act.locksData : Act → Bool
  | .call _ _ => false
  | _ => true

variable {τ : Type} [DecidableEq τ]

/-- A caller takes a step, or the thread of a remote device adds its interface. -/
inductive Event (τ : Type) where
  | caller (t : τ) (a : Act)
  | addRemote (mac : String)
  deriving DecidableEq, Repr

/-- The data base with its lock, and the calls. -/
structure Writers (τ : Type) where
  store : Locked Database
  calls : τ → Phase

def writers (τ : Type) [DecidableEq τ] : Labelled (Event τ) (Writers τ) where
  step e s s' :=
    match e with
    | .caller t a => (a.locksData = true → s.store.depth = 0) ∧ ∃ p, a.program (s.calls t) = some p ∧
        ∃ phase store, p.run s.store = some (phase, store) ∧
          s' = ⟨store, Function.update s.calls t phase⟩
    | .addRemote mac => s.store.depth = 0 ∧
        ∃ added store, (remoteIfaceDataConfigure mac).run s.store = some (added, store) ∧
          s' = ⟨store, s.calls⟩

/-! ## Priorities -/

/-- No two interfaces have one priority that is not negative. -/
def Distinct (db : Database) : Prop :=
  ∀ (i j : Nat) (d d' : Iface), db.table[i]? = some d → db.table[j]? = some d' →
    0 ≤ d.selection.priority → d.selection.priority = d'.selection.priority → i = j

/-- Nobody but the interface has the priority. -/
def Free (db : Database) (i : Nat) (priority : Int) : Prop :=
  ∀ (n : Nat) (d : Iface), db.table[n]? = some d → n ≠ i → d.selection.priority ≠ priority

/-- The data base is set up, the entries know their places, and no call has begun. -/
structure Initial (s : Writers τ) : Prop where
  lockable : s.store.lockable = fun _ => true
  allocated : Allocated s.store.data
  indexed : ∀ (i : Nat) (d : Iface), s.store.data.table[i]? = some d → d.uiIfaceIdx = i
  calls : ∀ t, s.calls t = .idle

/-- The call wants the priority for another interface, and has not seen that this one got it: it has come
past its place, or counted the interfaces before it was there. -/
def Phase.HasPassed (i : Nat) (priority : Int) : Phase → Prop
  | .checking i' _ priority' total j => priority' = priority ∧ i' ≠ i ∧ (i < j ∨ total ≤ i)
  | .storing i' priority' => priority' = priority ∧ i' ≠ i
  | _ => False

instance (i : Nat) (priority : Int) (p : Phase) : Decidable (p.HasPassed i priority) := by
  unfold Phase.HasPassed
  split <;> infer_instance

/-- An interface gets a priority of `ps` when no call that wants it for another one has passed by, and a
remote interface when the value of the counter is not in use. -/
def Undisturbed (ps : Set Int) (e : Event τ) (s : Writers τ) : Prop :=
  match e with
  | .caller t .store => ∀ i priority, s.calls t = .storing i priority → priority ∈ ps →
      ∀ u, ¬ (s.calls u).HasPassed i priority
  | .addRemote _ => s.store.data.totalNumbWanInterfaces < maxWanInterfaceEntry →
      (∀ d ∈ s.store.data.table, d.selection.priority ≠ s.store.data.remotePriority) ∧
      ∀ u, ¬ (s.calls u).HasPassed s.store.data.totalNumbWanInterfaces s.store.data.remotePriority
  | _ => True

/-! ## Sections -/

section Sections

variable {s : Locked Database}

theorem ends_locate {Q : Option Nat → Locked Database → Prop} (i : Nat) (hl : s.lockable = fun _ => true)
    (h : Allocated s.data) :
    Ends (SelectionPriority.locate i) s Q ↔ Q (s.data.table[i]?.map (·.uiIfaceIdx)) s := by
  obtain ⟨t, ht, -⟩ := h.pIface
  rw [SelectionPriority.locate, ends_bind, ends_getIfaceDataLocked i hl h, getElem?_table ht]
  split
  · simp [ht]
  · simp

theorem ends_existsAt {Q : Bool → Locked Database → Prop} (ifIndex : Nat) (priority : Int) (i : Nat)
    (hl : s.lockable = fun _ => true) (h : Allocated s.data) :
    Ends (existsAt ifIndex priority i) s Q ↔
      Q (i != ifIndex && s.data.table[i]?.any (·.selection.priority == priority)) s := by
  obtain ⟨t, ht, -⟩ := h.pIface
  rw [existsAt, ends_bind, ends_getIfaceDataLocked i hl h, getElem?_table ht]
  split
  · simp [ht]
  · simp

theorem storeAt_table (i : Nat) (priority : Int) (hl : s.lockable = fun _ => true)
    (h : Allocated s.data) : Ends (storeAt i priority) s fun ok s' => Same s s' ∧
      Allocated s'.data ∧ s'.data.table = s.data.table.modify i (setPriority priority) ∧
      (ok = false → s'.data.table = s.data.table) := by
  rw [storeAt, ends_bind, ends_getIfaceDataLocked i hl h]
  split
  · simp only [Option.isSome_some, if_true, ends_bind, ends_update, ends_unlock, ends_pure,
      Nat.add_sub_cancel]
    exact ⟨⟨rfl, rfl⟩, h.modifyIface i _, table_modifyIface i _ _, fun hok => by cases hok⟩
  · next hi =>
    rw [Option.isSome_none, if_neg Bool.false_ne_true, ends_pure, h.modify_of_le _ hi]
    exact ⟨⟨rfl, rfl⟩, h, rfl, fun _ => rfl⟩

end Sections

/-! ## One step -/

/-- What a call knows of the table, if it wants a priority of `ps`. -/
def Knows (ps : Set Int) (db : Database) : Phase → Prop
  | .counting i ifIndex _ => ifIndex = i
  | .checking i ifIndex priority total j => ifIndex = i ∧ j < total ∧ total ≤ db.table.length ∧
      (priority ∈ ps → ∀ (n : Nat) (d : Iface), db.table[n]? = some d → n ≠ i → n < j ∨ total ≤ n →
        d.selection.priority ≠ priority)
  | .storing i priority => priority ∈ ps → Free db i priority
  | _ => True

/-- The invariant of a run that is not disturbed. -/
structure Good (ps : Set Int) (s : Writers τ) : Prop where
  lockable : s.store.lockable = fun _ => true
  allocated : Allocated s.store.data
  indexed : ∀ (i : Nat) (d : Iface), s.store.data.table[i]? = some d → d.uiIfaceIdx = i
  distinct : Distinct s.store.data
  knows : ∀ t, Knows ps s.store.data (s.calls t)

theorem getElem?_setPriority {db db' : Database} {i : Nat} {priority : Int}
    (h : db'.table = db.table.modify i (setPriority priority)) {n : Nat} {d' : Iface}
    (hd' : db'.table[n]? = some d') :
    ∃ d, db.table[n]? = some d ∧ d' = if n = i then setPriority priority d else d := by
  rw [h, List.getElem?_modify] at hd'
  obtain ⟨d, hd, rfl⟩ := Option.map_eq_some_iff.mp hd'
  refine ⟨d, hd, ?_⟩
  by_cases hn : n = i
  · rw [if_pos hn, if_pos hn.symm]
  · rw [if_neg hn, if_neg fun h => hn h.symm]

/-- A value that is free is stored. -/
theorem Distinct.setPriority {db db' : Database} {i : Nat} {priority : Int} (h : Distinct db)
    (hfree : 0 ≤ priority → Free db i priority)
    (htable : db'.table = db.table.modify i (setPriority priority)) : Distinct db' := by
  intro n m d d' hd hd' hpos heq
  obtain ⟨c, hc, rfl⟩ := getElem?_setPriority htable hd
  obtain ⟨c', hc', rfl⟩ := getElem?_setPriority htable hd'
  by_cases hn : n = i
  · by_cases hm : m = i
    · rw [hn, hm]
    · rw [if_pos hn] at hpos heq
      rw [if_neg hm] at heq
      exact absurd heq.symm (hfree hpos m c' hc' hm)
  · rw [if_neg hn] at hpos heq
    by_cases hm : m = i
    · rw [if_pos hm] at heq
      have hvalue : c.selection.priority = priority := heq
      exact absurd hvalue (hfree (hvalue ▸ hpos) n c hc hn)
    · rw [if_neg hm] at heq
      exact h n m c c' hc hc' hpos heq

/-- What a call knows is still true when a value is stored that it has not passed by. -/
theorem Knows.setPriority {ps : Set Int} {db db' : Database} {i : Nat} {priority : Int} {p : Phase}
    (h : Knows ps db p)
    (hpassed : priority ∈ ps → ¬ p.HasPassed i priority)
    (htable : db'.table = db.table.modify i (SelectionPriority.setPriority priority)) : Knows ps db' p := by
  cases p with
  | checking i' ifIndex priority' total j =>
    obtain ⟨hindex, hj, htotal, hnone⟩ := h
    refine ⟨hindex, hj, ?_, fun hpos n d hd hn hseen => ?_⟩
    · rw [htable, List.length_modify]
      exact htotal
    · obtain ⟨c, hc, rfl⟩ := getElem?_setPriority htable hd
      split
      · next hni =>
        intro heq
        have hvalue : priority = priority' := heq
        subst hni
        exact hpassed (hvalue ▸ hpos) ⟨hvalue.symm, fun h => hn h.symm, hseen⟩
      · exact hnone hpos n c hc hn hseen
  | storing i' priority' =>
    intro hpos n d hd hn
    obtain ⟨c, hc, rfl⟩ := getElem?_setPriority htable hd
    split
    · next hni =>
      intro heq
      have hvalue : priority = priority' := heq
      subst hni
      exact hpassed (hvalue ▸ hpos) ⟨hvalue.symm, fun h => hn h.symm⟩
    · exact h hpos n c hc hn
  | _ => exact h

/-- It is still true when a remote interface is added that it has not passed by. -/
theorem Knows.adds {ps : Set Int} {mac : String} {db db' : Database} {p : Phase} (h : Knows ps db p)
    (hadds : AddsRemote mac db db') (halloc : Allocated db)
    (hpassed : ¬ p.HasPassed db.totalNumbWanInterfaces db.remotePriority) : Knows ps db' p := by
  obtain ⟨d₁, htable, -, -, -, hpriority, -⟩ := hadds.table
  cases p with
  | checking i' ifIndex priority total j =>
    obtain ⟨hindex, hj, htotal, hnone⟩ := h
    refine ⟨hindex, hj, ?_, fun hpos n d hd hn hseen => ?_⟩
    · rw [htable, List.length_append]
      omega
    · rcases getElem?_adds htable hd with hd | ⟨rfl, rfl⟩
      · exact hnone hpos n d hd hn hseen
      · intro heq
        rw [halloc.table_length] at hn hseen
        exact hpassed ⟨heq.symm.trans hpriority, fun h => hn h.symm, hseen⟩
  | storing i' priority =>
    intro hpos n d hd hn
    rcases getElem?_adds htable hd with hd | ⟨rfl, rfl⟩
    · exact h hpos n d hd hn
    · intro heq
      rw [halloc.table_length] at hn
      exact hpassed ⟨heq.symm.trans hpriority, fun h => hn h.symm⟩
  | _ => exact h

section Steps

variable {ps : Set Int} {s : Writers τ} {t : τ} {p : Phase}

/-- A call comes to a place where it knows the table. -/
theorem Good.move (h : Good ps s) (hp : Knows ps s.store.data p) :
    Good ps ⟨s.store, Function.update s.calls t p⟩ := by
  refine ⟨h.lockable, h.allocated, h.indexed, h.distinct, fun u => ?_⟩
  by_cases hu : u = t
  · simpa [hu] using hp
  · simpa [hu] using h.knows u

/-- A section of a call keeps the invariant. -/
def Keeps (ps : Set Int) (t : τ) (s : Writers τ) (p : DataM Phase) : Prop :=
  Ends p s.store fun phase store => Good ps ⟨store, Function.update s.calls t phase⟩

theorem Good.locate (h : Good ps s) (i : Nat) (priority : Int) : Keeps ps t s (do
    match ← SelectionPriority.locate i with
    | none => return .returned false
    | some ifIndex => return .counting i ifIndex priority) := by
  rw [Keeps, ends_bind, ends_locate i h.lockable h.allocated]
  cases hd : s.store.data.table[i]? with
  | none => exact (ends_pure _).mpr (h.move trivial)
  | some d => exact (ends_pure _).mpr (h.move (h.indexed i d hd))

theorem Good.count (h : Good ps s) {i ifIndex : Nat} {priority : Int}
    (ht : s.calls t = .counting i ifIndex priority) : Keeps ps t s (do
      let total ← getTotalWanIface
      return if total = 0 then .returned false else .checking i ifIndex priority total 0) := by
  have hindex : ifIndex = i := (ht ▸ h.knows t : Knows ps _ (.counting i ifIndex priority))
  rw [Keeps, ends_bind, ends_getTotalWanIface h.lockable, ends_pure, ← h.allocated.table_length]
  split
  · exact h.move trivial
  · next htotal =>
    refine h.move ⟨hindex, by omega, Nat.le_refl _, fun _ n d hd _ hseen => ?_⟩
    obtain ⟨hn, -⟩ := List.getElem?_eq_some_iff.mp hd
    omega

theorem Good.check (h : Good ps s) {i ifIndex total j : Nat} {priority : Int}
    (ht : s.calls t = .checking i ifIndex priority total j) : Keeps ps t s (do
      if ← existsAt ifIndex priority j then return .returned false
      else return if j + 1 < total then .checking i ifIndex priority total (j + 1)
        else .storing i priority) := by
  obtain ⟨rfl, hj, htotal, hnone⟩ : Knows ps s.store.data (.checking i ifIndex priority total j) :=
    ht ▸ h.knows t
  rw [Keeps, ends_bind, ends_existsAt ifIndex priority j h.lockable h.allocated]
  cases hfound : (j != ifIndex && s.store.data.table[j]?.any (·.selection.priority == priority)) with
  | true => exact (ends_pure _).mpr (h.move trivial)
  | false =>
    rw [if_neg Bool.false_ne_true, ends_pure]
    have hnext : priority ∈ ps → ∀ (n : Nat) (d : Iface), s.store.data.table[n]? = some d →
        n ≠ ifIndex → n < j + 1 ∨ total ≤ n → d.selection.priority ≠ priority := by
      intro hpos n d hd hn hseen
      by_cases hnj : n = j
      · subst hnj
        simpa [hn, hd] using hfound
      · exact hnone hpos n d hd hn (by omega)
    split
    · next hmore => exact h.move ⟨rfl, hmore, htotal, hnext⟩
    · exact h.move fun hpos n d hd hn => hnext hpos n d hd hn (by omega)

theorem Good.store (h : Good ps s) {i : Nat} {priority : Int} (ht : s.calls t = .storing i priority)
    (hps : ∀ n, 0 ≤ n → n ∈ ps) (hguard : priority ∈ ps → ∀ u, ¬ (s.calls u).HasPassed i priority) :
    Keeps ps t s (do return .returned (← storeAt i priority)) := by
  have hfree : Knows ps s.store.data (.storing i priority) := ht ▸ h.knows t
  rw [Keeps, ends_bind]
  intro ok store hrun
  obtain ⟨hsame, halloc, htable, -⟩ := storeAt_table i priority h.lockable h.allocated ok store hrun
  rw [ends_pure]
  have hstored : Good ps ⟨store, s.calls⟩ := by
    refine ⟨hsame.2.trans h.lockable, halloc, fun n d' hd' => ?_,
      h.distinct.setPriority (fun hpos => hfree (hps _ hpos)) htable,
      fun u => (h.knows u).setPriority (fun hpos => hguard hpos u) htable⟩
    obtain ⟨d, hd, rfl⟩ := getElem?_setPriority htable hd'
    have hplace := h.indexed n d hd
    split
    · exact hplace
    · exact hplace
  exact hstored.move trivial

omit [DecidableEq τ] in
/-- A remote interface is added with a priority that nobody has. -/
theorem Good.addRemote (h : Good ps s) {mac : String} (hguard : Undisturbed ps (.addRemote mac) s) :
    Ends (remoteIfaceDataConfigure mac) s.store fun _ store => Good ps ⟨store, s.calls⟩ := by
  intro added store hrun
  obtain ⟨hl, htable⟩ := remoteIfaceDataConfigure_table mac h.lockable h.allocated added store hrun
  cases added with
  | false =>
    obtain ⟨-, hsame⟩ := htable
    refine ⟨hl.trans h.lockable, hsame.allocated h.allocated, ?_, ?_, fun u => ?_⟩
    · simpa only [hsame.table] using h.indexed
    · simpa only [Distinct, hsame.table] using h.distinct
    · have hknows := h.knows u
      cases hu : s.calls u with
      | checking i ifIndex priority total j =>
        rw [hu] at hknows
        simpa only [Knows, hsame.table] using hknows
      | storing i priority =>
        rw [hu] at hknows
        simpa only [Knows, Free, hsame.table] using hknows
      | counting i ifIndex priority =>
        rw [hu] at hknows
        exact hknows
      | _ => trivial
  | true =>
    obtain ⟨-, hadds⟩ := htable
    obtain ⟨hunused, hpassed⟩ := hguard hadds.room
    obtain ⟨d₁, happend, -, -, -, hpriority, hindex⟩ := hadds.table
    refine ⟨hl.trans h.lockable, hadds.allocated, fun n d hd => ?_, ?_,
      fun u => (h.knows u).adds hadds h.allocated (hpassed u)⟩
    · rcases getElem?_adds happend hd with hd | ⟨rfl, rfl⟩
      · exact h.indexed n d hd
      · rw [hindex, h.allocated.table_length]
    · intro n m d d' hd hd' hpos heq
      rcases getElem?_adds happend hd with hd | ⟨rfl, rfl⟩
      · rcases getElem?_adds happend hd' with hd' | ⟨rfl, rfl⟩
        · exact h.distinct n m d d' hd hd' hpos heq
        · exact absurd (heq.trans hpriority) (hunused d (List.mem_of_getElem? hd))
      · rcases getElem?_adds happend hd' with hd' | ⟨rfl, rfl⟩
        · exact absurd (heq.symm.trans hpriority) (hunused d' (List.mem_of_getElem? hd'))
        · rfl

theorem Good.step {e : Event τ} {s' : Writers τ} (hps : ∀ n, 0 ≤ n → n ∈ ps) (h : Good ps s)
    (hstep : ((writers τ).restrict (Undisturbed ps)).step e s s') : Good ps s' := by
  obtain ⟨hguard, hstep⟩ := hstep
  cases e with
  | addRemote mac =>
    obtain ⟨-, added, store, hrun, rfl⟩ := hstep
    exact h.addRemote hguard added store hrun
  | caller t a =>
    obtain ⟨-, p, hp, phase, store, hrun, rfl⟩ := hstep
    suffices hkeeps : Keeps ps t s p from hkeeps phase store hrun
    cases hcall : s.calls t with
    | idle =>
      rw [hcall] at hp
      cases a <;> cases hp
      exact (ends_pure _).mpr (h.move trivial)
    | returned ok =>
      rw [hcall] at hp
      cases a <;> cases hp
      exact (ends_pure _).mpr (h.move trivial)
    | locating i priority =>
      rw [hcall] at hp
      cases a <;> cases hp
      exact h.locate i priority
    | counting i ifIndex priority =>
      rw [hcall] at hp
      cases a <;> cases hp
      exact h.count hcall
    | checking i ifIndex priority total j =>
      rw [hcall] at hp
      cases a <;> cases hp
      exact h.check hcall
    | storing i priority =>
      rw [hcall] at hp
      cases a <;> cases hp
      exact h.store hcall hps (hguard i priority hcall)

omit [DecidableEq τ] in
theorem Good.initial (hs : Initial s) (hdistinct : Distinct s.store.data) : Good ps s := by
  refine ⟨hs.lockable, hs.allocated, hs.indexed, hdistinct, fun t => ?_⟩
  rw [hs.calls t]
  trivial

/-- A call that is refused has not changed the table. -/
theorem table_of_refused {a : Act} {s' : Writers τ} (hl : s.store.lockable = fun _ => true)
    (halloc : Allocated s.store.data) (hstep : (writers τ).step (.caller t a) s s')
    (hrefused : s'.calls t = .returned false) : s'.store.data.table = s.store.data.table := by
  obtain ⟨-, p, hp, phase, store, hrun, rfl⟩ := hstep
  simp only [Function.update_self] at hrefused
  suffices hends : Ends p s.store fun phase store =>
      phase = .returned false → store.data.table = s.store.data.table from
    hends phase store hrun hrefused
  cases hcall : s.calls t with
  | idle =>
    rw [hcall] at hp
    cases a <;> cases hp
    exact (ends_pure _).mpr fun _ => rfl
  | returned ok =>
    rw [hcall] at hp
    cases a <;> cases hp
    exact (ends_pure _).mpr fun _ => rfl
  | locating i priority =>
    rw [hcall] at hp
    cases a <;> cases hp
    rw [ends_bind, ends_locate i hl halloc]
    cases s.store.data.table[i]?.map (·.uiIfaceIdx) <;> exact (ends_pure _).mpr fun _ => rfl
  | counting i ifIndex priority =>
    rw [hcall] at hp
    cases a <;> cases hp
    rw [ends_bind, ends_getTotalWanIface hl, ends_pure]
    exact fun _ => rfl
  | checking i ifIndex priority total j =>
    rw [hcall] at hp
    cases a <;> cases hp
    rw [ends_bind, ends_existsAt ifIndex priority j hl halloc]
    split <;> exact (ends_pure _).mpr fun _ => rfl
  | storing i priority =>
    rw [hcall] at hp
    cases a <;> cases hp
    rw [ends_bind]
    intro ok store' hrun'
    obtain ⟨-, -, -, hno⟩ := storeAt_table i priority hl halloc ok store' hrun'
    rw [ends_pure]
    intro hphase
    exact hno (Phase.returned.inj hphase)

end Steps

/-! ## Every run -/

namespace Example

def next (e : Event Bool) (s : Writers Bool) : Option (Writers Bool) :=
  match e with
  | .caller t a => do
    let p ← a.program (s.calls t)
    let r ← p.run s.store
    return ⟨r.2, Function.update s.calls t r.1⟩
  | .addRemote mac => do
    let r ← (remoteIfaceDataConfigure mac).run s.store
    return ⟨r.2, s.calls⟩

/-- A step of one of two callers, or of a remote device. -/
def move (e : Event Bool) : (writers Bool).Move where
  event := e
  edit s := (next e s).getD s
  ready s := (next e s).isSome && decide (s.store.depth = 0)
  allowed s hs := by
    simp only [Bool.and_eq_true, decide_eq_true_eq] at hs
    obtain ⟨hsome, hdepth⟩ := hs
    obtain ⟨s', hs'⟩ := Option.isSome_iff_exists.mp hsome
    rw [hs']
    cases e with
    | caller t a =>
      obtain ⟨p, hp, hrest⟩ := Option.bind_eq_some_iff.mp hs'
      obtain ⟨⟨phase, store⟩, hrun, hedit⟩ := Option.bind_eq_some_iff.mp hrest
      exact ⟨fun _ => hdepth, p, hp, phase, store, hrun, (Option.some.inj hedit).symm⟩
    | addRemote mac =>
      obtain ⟨⟨added, store⟩, hrun, hedit⟩ := Option.bind_eq_some_iff.mp hs'
      exact ⟨hdepth, added, store, hrun, (Option.some.inj hedit).symm⟩

def undisturbed (e : Event Bool) (s : Writers Bool) : Bool :=
  match e with
  | .caller t .store =>
    match s.calls t with
    | .storing i priority => decide (∀ u, ¬ (s.calls u).HasPassed i priority)
    | _ => true
  | .addRemote _ => decide (s.store.data.totalNumbWanInterfaces < maxWanInterfaceEntry →
      (∀ d ∈ s.store.data.table, d.selection.priority ≠ s.store.data.remotePriority) ∧
      ∀ u, ¬ (s.calls u).HasPassed s.store.data.totalNumbWanInterfaces s.store.data.remotePriority)
  | _ => true

theorem of_undisturbed {e : Event Bool} {s : Writers Bool} (h : undisturbed e s = true) :
    Undisturbed Set.univ e s := by
  cases e with
  | addRemote mac =>
    simp only [undisturbed, decide_eq_true_eq] at h
    exact h
  | caller t a =>
    cases a with
    | store =>
      intro i priority hcall
      simp only [undisturbed, hcall] at h
      exact fun _ => of_decide_eq_true h
    | _ => trivial

def quietMove (e : Event Bool) : ((writers Bool).restrict (Undisturbed Set.univ)).Move :=
  (move e).guarded (undisturbed e) fun _ hs => of_undisturbed hs

/-- Two interfaces, with the priorities 0 and 1. -/
def start : Writers Bool where
  store := { data := {
    pIface := some ({ uiIfaceIdx := 0, selection := { priority := 0 } } ::
      { uiIfaceIdx := 1, selection := { priority := 1 } } :: List.replicate 30 {})
    totalNumbWanInterfaces := 2, group := some [{}, {}] } }
  calls _ := .idle

theorem table_start (i : Nat) (d : Iface) (h : start.store.data.table[i]? = some d) :
    i < 2 ∧ d.uiIfaceIdx = i ∧ d.selection.priority = i := by
  have htable : start.store.data.table =
      [{ uiIfaceIdx := 0, selection := { priority := 0 } },
        { uiIfaceIdx := 1, selection := { priority := 1 } }] := rfl
  rw [htable] at h
  match i with
  | 0 => cases h; exact ⟨by omega, rfl, rfl⟩
  | 1 => cases h; exact ⟨by omega, rfl, rfl⟩

theorem initial_start : Initial start := by
  refine ⟨rfl, ⟨⟨_, rfl, rfl⟩, show 2 ≤ 32 by omega⟩, fun i d hd => (table_start i d hd).2.1, fun _ => rfl⟩

theorem distinct_start : Distinct start.store.data := by
  intro i j d d' hd hd' _ heq
  obtain ⟨-, -, hi⟩ := table_start i d hd
  obtain ⟨-, -, hj⟩ := table_start j d' hd'
  rw [hi, hj] at heq
  exact Int.ofNat.inj heq

/-- A call up to its return, or to the value that is in its way. -/
def writes (t : Bool) (i : Nat) (priority : Int) (turns : Nat) : List (Event Bool) :=
  [.caller t (.call i priority), .caller t .locate, .caller t .count] ++
    List.replicate turns (.caller t .check)

/-- One call stores 5, another one is refused it, and a remote interface comes. -/
def inTurn : List (Event Bool) :=
  writes true 0 5 2 ++ [.caller true .store] ++ writes false 1 5 1 ++ [.addRemote "aa:bb:cc:dd:ee:01"]

/-- Two calls for 5 come to the end of their checks before one of them stores it. -/
def together : List (Event Bool) :=
  writes true 0 5 2 ++ writes false 1 5 2 ++ [.caller true .store, .caller false .store]

end Example

/-- In a run that is not disturbed for the priorities `ps` no two interfaces come to have one priority: a
call for one of these that is not refused wants a value that nobody else has, and one that is refused leaves
the table as it was. -/
theorem priorities_distinct {ps : Set Int} {s s' : Writers τ} {es : List (Event τ)}
    (hps : ∀ n, 0 ≤ n → n ∈ ps)
    (hs : Initial s) (hdistinct : Distinct s.store.data)
    (hrun : ((writers τ).restrict (Undisturbed ps)).Run s es s') :
    Distinct s'.store.data ∧
    (∀ t i priority, s'.calls t = .storing i priority → priority ∈ ps →
      Free s'.store.data i priority) ∧
    ∀ t a s'', (writers τ).step (.caller t a) s' s'' → s''.calls t = .returned false →
      s''.store.data.table = s'.store.data.table := by
  have hgood : Good ps s' :=
    hrun.invariant (K := fun _ => True) (fun _ _ => trivial) (Good.initial hs hdistinct)
      fun _ _ _ _ hu hstep => hu.step hps hstep
  refine ⟨hgood.distinct, fun t i priority hcall => ?_, fun t a s'' hstep hrefused => ?_⟩
  · exact (hcall ▸ hgood.knows t : Knows ps _ (.storing i priority))
  · exact table_of_refused hgood.lockable hgood.allocated hstep hrefused

open Example in
/-- The priorities are 5, 1 and 100 afterwards. -/
theorem priorities_distinct_in_turn :
    ∃ s', (∃ es, ((writers Bool).restrict (Undisturbed Set.univ)).Run start es s') ∧
    s'.store.data.table.map (·.selection.priority) = [5, 1, 100] ∧ s'.calls false = .returned false ∧
    Distinct s'.store.data := by
  have hplays :
      ((writers Bool).restrict (Undisturbed Set.univ)).plays (inTurn.map quietMove) start = true := by
    decide +kernel
  have hrun := Labelled.Run.play hplays
  refine ⟨_, ⟨_, hrun⟩, by decide +kernel, by decide +kernel, ?_⟩
  exact (priorities_distinct (fun _ _ => trivial) initial_start distinct_start hrun).1

open Example in
/-- Both calls store 5. -/
theorem priorities_collide : ¬ ∀ (s s' : Writers Bool) (es : List (Event Bool)), Initial s →
    Distinct s.store.data → (writers Bool).Run s es s' → (∀ t, ∃ ok, s'.calls t = .returned ok) →
      Distinct s'.store.data := by
  intro h
  have hplays : (writers Bool).plays (together.map move) start = true := by decide +kernel
  have hrun := Labelled.Run.play hplays
  have hdone : ∀ t, ∃ ok, ((writers Bool).play (together.map move) start).calls t = .returned ok := by
    intro t
    refine ⟨true, ?_⟩
    cases t <;> decide +kernel
  have hpriorities : ((writers Bool).play (together.map move) start).store.data.table.map
      (·.selection.priority) = [5, 5] := by decide +kernel
  have hentry : ∀ n : Nat, [5, 5][n]? = some (5 : Int) →
      ∃ d : Iface, ((writers Bool).play (together.map move) start).store.data.table[n]? = some d ∧
        d.selection.priority = 5 := by
    intro n hn
    have hmap := congrArg (·[n]?) hpriorities
    simp only [List.getElem?_map] at hmap
    exact Option.map_eq_some_iff.mp (hmap.trans hn)
  obtain ⟨d, hd, hfive⟩ := hentry 0 rfl
  obtain ⟨d', hd', hfive'⟩ := hentry 1 rfl
  have hsame := h _ _ _ initial_start distinct_start hrun hdone 0 1 d d' hd hd' (by omega)
    (hfive.trans hfive'.symm)
  cases hsame

end SelectionPriority
end WanManager
