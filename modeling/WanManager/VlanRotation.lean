import Mathlib.Data.List.Rotate
import WanManager.InterfaceSm

/-! # The rotation of a VLAN discovery

The entries of the VLAN list that `wan_transition_wan_refreshed` tries one after the other while the
timer of the discovery keeps running out, and the list itself, where each entry has its position for
its index. -/

namespace WanManager.InterfaceSm

/-! ## The list -/

/-- `DML_VLAN_IFACE_TABLE` -/
structure VlanIface where
  index : Nat
  interface : String
  deriving DecidableEq, Repr

/-- `WanMgr_AddVirtVlanIfToList` -/
def addVirtVlanIfToList (list : List VlanIface) (newNode : VlanIface) : List VlanIface :=
  list ++ [newNode]

/-- The list `WanMgr_VirtIfConfVLAN` makes of the stored names. -/
def virtIfConfVlan (names : List String) : List VlanIface :=
  names.zipIdx.foldl (fun list e => addVirtVlanIfToList list ⟨e.2, e.1⟩) []

/-- `WanMgr_getVirtVlanIfById`: the entry and what follows it, or `NULL`. -/
def getVirtVlanIfById (inst : Nat) : List VlanIface → List VlanIface
  | [] => []
  | vlanIf :: next => if vlanIf.index = inst then vlanIf :: next else getVirtVlanIfById inst next

/-- What `pVlanIf` leads to at the end of the walk. -/
def walkVlan (v : VirtIfVlan) : List VlanIface :=
  let list := virtIfConfVlan v.interfaceList
  if v.reset ∨ v.activeIndex = 2 ^ 32 - 1 then list
  else
    let next := (getVirtVlanIfById v.activeIndex list).tail
    if next = [] then list else next

theorem virtIfConfVlan_eq (names : List String) :
    virtIfConfVlan names = names.zipIdx.map fun e => ⟨e.2, e.1⟩ := by
  have hfold : ∀ (l : List (String × Nat)) (list : List VlanIface),
      l.foldl (fun list e => addVirtVlanIfToList list ⟨e.2, e.1⟩) list =
        list ++ l.map fun e => ⟨e.2, e.1⟩ := by
    intro l
    induction l with
    | nil => simp
    | cons e l ih =>
      intro list
      rw [List.foldl_cons, ih, addVirtVlanIfToList, List.append_assoc, List.map_cons,
        List.singleton_append]
  exact (hfold names.zipIdx []).trans (List.nil_append _)

@[simp] theorem length_virtIfConfVlan (names : List String) :
    (virtIfConfVlan names).length = names.length := by
  simp [virtIfConfVlan_eq]

theorem getElem?_virtIfConfVlan {names : List String} {i : Nat} (hi : i < names.length) :
    (virtIfConfVlan names)[i]? = some ⟨i, names.getD i ""⟩ := by
  simp [virtIfConfVlan_eq, List.getElem?_eq_getElem hi]

/-- The entries stand at their indices. -/
theorem getVirtVlanIfById_virtIfConfVlan (inst : Nat) (names : List String) :
    getVirtVlanIfById inst (virtIfConfVlan names) = (virtIfConfVlan names).drop inst := by
  have hdrop : ∀ (l : List String) (k : Nat), k ≤ inst →
      getVirtVlanIfById inst ((l.zipIdx k).map fun e => ⟨e.2, e.1⟩) =
        ((l.zipIdx k).map fun e => (⟨e.2, e.1⟩ : VlanIface)).drop (inst - k) := by
    intro l
    induction l with
    | nil => simp [getVirtVlanIfById]
    | cons name l ih =>
      intro k hk
      rw [List.zipIdx_cons, List.map_cons, getVirtVlanIfById]
      by_cases heq : k = inst
      · simp [heq]
      · have hsub : inst - k = (inst - (k + 1)) + 1 := by omega
        rw [if_neg heq, ih (k + 1) (by omega), hsub, List.drop_succ_cons]
  rw [virtIfConfVlan_eq]
  exact hdrop names 0 (Nat.zero_le _)

/-- The transition tries the entry the walk comes to. -/
theorem nextVlan_eq_walkVlan {v : VirtIfVlan} (hne : v.interfaceList ≠ []) :
    ∃ e, (walkVlan v).head? = some e ∧
      nextVlan v = { v with activeIndex := e.index, vlanInUse := e.interface } := by
  have hpos := List.length_pos_of_ne_nil hne
  have hhead : (virtIfConfVlan v.interfaceList).head? = some ⟨0, v.interfaceList.getD 0 ""⟩ := by
    rw [List.head?_eq_getElem?, getElem?_virtIfConfVlan hpos]
  unfold walkVlan nextVlan
  simp only [getVirtVlanIfById_virtIfConfVlan, List.tail_drop]
  by_cases hhome : v.reset ∨ v.activeIndex = 2 ^ 32 - 1
  · rw [if_pos hhome, if_pos hhome]
    exact ⟨_, hhead, rfl⟩
  rw [if_neg hhome, if_neg hhome]
  by_cases hlast : v.activeIndex + 1 < v.interfaceList.length
  · have hnext : (virtIfConfVlan v.interfaceList).drop (v.activeIndex + 1) ≠ [] := by
      simpa using hlast
    rw [if_neg hnext, if_pos hlast, List.head?_drop, getElem?_virtIfConfVlan hlast]
    exact ⟨_, rfl, rfl⟩
  · have hnext : (virtIfConfVlan v.interfaceList).drop (v.activeIndex + 1) = [] := by
      simpa using hlast
    rw [if_pos hnext, if_neg hlast]
    exact ⟨_, hhead, rfl⟩

/-! ## The expiries -/

/-- The entry in use. -/
def inUse (s : Vism) : VlanIface := ⟨s.virtIf.vlan.activeIndex, s.virtIf.vlan.vlanInUse⟩

/-- The timer has run out, the link is down, and no reset was asked for. -/
structure Expiry (s : Vism) : Prop where
  needsVlan : needsVlan s = true
  expired : s.virtIf.vlan.expired = true
  reset : s.virtIf.vlan.reset = false

/-- The transition handles one expiry after the other, with the list and the index left alone from
one to the next; each tries an entry. -/
inductive Expiries : Vism → List VlanIface → Vism → Prop
  | done (s : Vism) : Expiries s [] s
  | handle {s s' t : Vism} {tried : List VlanIface}
      (list : s'.virtIf.vlan.interfaceList = s.virtIf.vlan.interfaceList)
      (index : s'.virtIf.vlan.activeIndex = s.virtIf.vlan.activeIndex) (expiry : Expiry s')
      (rest : Expiries (wanTransitionWanRefreshed s').2 tried t) :
      Expiries s (inUse (wanTransitionWanRefreshed s').2 :: tried) t

theorem configureVlan_vlan (enable : Bool) (s : Vism) :
    (configureVlan enable s).virtIf.vlan.interfaceList = s.virtIf.vlan.interfaceList ∧
      inUse (configureVlan enable s) = inUse s := by
  unfold configureVlan
  split <;> exact ⟨rfl, rfl⟩

/-- An expiry or a reset, as far as the choice of the entry goes. -/
theorem wanTransitionWanRefreshed_vlan {s : Vism} (hneeds : needsVlan s = true)
    (hmoves : (s.virtIf.vlan.expired || s.virtIf.vlan.reset) = true) :
    (wanTransitionWanRefreshed s).2.virtIf.vlan.interfaceList = s.virtIf.vlan.interfaceList ∧
      inUse (wanTransitionWanRefreshed s).2 =
        ⟨(nextVlan s.virtIf.vlan).activeIndex, (nextVlan s.virtIf.vlan).vlanInUse⟩ := by
  have hvlan : ((s.mapVlan fun v => if v.expired || v.reset then nextVlan v else v).mapVlan
      fun v => { v with status := .configuring }).virtIf.vlan =
        { nextVlan s.virtIf.vlan with status := .configuring } :=
    congrArg (fun v : VirtIfVlan => { v with status := .configuring }) (if_pos hmoves)
  obtain ⟨hlist, huse⟩ := configureVlan_vlan true
    ((s.mapVlan fun v => if v.expired || v.reset then nextVlan v else v).mapVlan
      fun v => { v with status := .configuring })
  rw [hvlan] at hlist
  rw [inUse, inUse, hvlan] at huse
  simp only [wanTransitionWanRefreshed, if_pos hneeds]
  split
  · exact ⟨hlist, huse⟩
  · exact ⟨hlist, huse⟩

theorem nextVlan_activeIndex {v : VirtIfVlan} (hreset : v.reset = false)
    (hsize : v.interfaceList.length < 2 ^ 32) (hne : v.interfaceList ≠ []) :
    (nextVlan v).activeIndex =
      if v.activeIndex < v.interfaceList.length then (v.activeIndex + 1) % v.interfaceList.length
      else 0 := by
  have hpos := List.length_pos_of_ne_nil hne
  simp only [nextVlan, hreset, Bool.false_eq_true, false_or]
  by_cases hin : v.activeIndex < v.interfaceList.length
  · rw [if_pos hin]
    by_cases hlast : v.activeIndex + 1 < v.interfaceList.length
    · rw [if_neg (by omega), if_pos hlast, Nat.mod_eq_of_lt hlast]
    · have hend : v.activeIndex + 1 = v.interfaceList.length := by omega
      rw [if_neg hlast, ite_self, hend, Nat.mod_self]
  · have hend : ¬ v.activeIndex + 1 < v.interfaceList.length := by omega
    rw [if_neg hin, if_neg hend, ite_self]

/-- The entry tried first: the next one, or the head when there is no entry to start from. -/
def firstTried (s : Vism) : Nat :=
  if s.virtIf.vlan.activeIndex < s.virtIf.vlan.interfaceList.length then
    (s.virtIf.vlan.activeIndex + 1) % s.virtIf.vlan.interfaceList.length
  else 0

theorem inUse_expiry {s : Vism} (h : Expiry s) (hsize : s.virtIf.vlan.interfaceList.length < 2 ^ 32)
    (hne : s.virtIf.vlan.interfaceList ≠ []) :
    (wanTransitionWanRefreshed s).2.virtIf.vlan.interfaceList = s.virtIf.vlan.interfaceList ∧
      inUse (wanTransitionWanRefreshed s).2 =
        ⟨firstTried s, s.virtIf.vlan.interfaceList.getD (firstTried s) ""⟩ := by
  obtain ⟨hlist, huse⟩ := wanTransitionWanRefreshed_vlan h.needsVlan (by rw [h.expired, Bool.true_or])
  have hindex := nextVlan_activeIndex h.reset hsize hne
  have hname : (nextVlan s.virtIf.vlan).vlanInUse =
      s.virtIf.vlan.interfaceList.getD (nextVlan s.virtIf.vlan).activeIndex "" := rfl
  rw [huse, hname, hindex]
  exact ⟨hlist, rfl⟩

theorem firstTried_lt {s : Vism} (hne : s.virtIf.vlan.interfaceList ≠ []) :
    firstTried s < s.virtIf.vlan.interfaceList.length := by
  have hpos := List.length_pos_of_ne_nil hne
  unfold firstTried
  split
  · exact Nat.mod_lt _ hpos
  · exact hpos

/-- After any number of expiries each entry follows the one before it, around the list. -/
theorem Expiries.tried_getElem? {s t : Vism} {tried : List VlanIface} (h : Expiries s tried t)
    (hsize : s.virtIf.vlan.interfaceList.length < 2 ^ 32) (hne : s.virtIf.vlan.interfaceList ≠ []) :
    (∀ j, j < tried.length → tried[j]? = (virtIfConfVlan s.virtIf.vlan.interfaceList)[
        (firstTried s + j) % s.virtIf.vlan.interfaceList.length]?) ∧
      ∀ last ∈ tried.getLast?, inUse t = last := by
  induction h with
  | done s => simp
  | @handle s s' t tried list index expiry rest ih =>
    have hfirst : firstTried s' = firstTried s := by simp only [firstTried, list, index]
    rw [← list] at hsize hne ⊢
    obtain ⟨hlist, huse⟩ := inUse_expiry expiry hsize hne
    rw [hlist] at ih
    obtain ⟨hrest, hlast⟩ := ih hsize hne
    have hlt := firstTried_lt hne
    have hsecond : firstTried (wanTransitionWanRefreshed s').2 =
        (firstTried s + 1) % s'.virtIf.vlan.interfaceList.length := by
      have hindex := congrArg VlanIface.index huse
      simp only [inUse] at hindex
      rw [firstTried, hlist, hindex, if_pos hlt, hfirst]
    constructor
    · intro j hj
      cases j with
      | zero =>
        rw [← hfirst, Nat.add_zero, Nat.mod_eq_of_lt hlt, getElem?_virtIfConfVlan hlt,
          List.getElem?_cons_zero, huse]
      | succ j =>
        rw [List.getElem?_cons_succ, hrest j (by simpa using hj), hsecond, Nat.mod_add_mod,
          Nat.add_right_comm, Nat.add_assoc]
    · intro last hmem
      cases rest with
      | done => simpa [eq_comm] using hmem
      | handle => exact hlast last (by simpa using hmem)

theorem inUse_reset {s : Vism} (hneeds : needsVlan s = true) (hreset : s.virtIf.vlan.reset = true) :
    inUse (wanTransitionWanRefreshed s).2 = ⟨0, s.virtIf.vlan.interfaceList.getD 0 ""⟩ := by
  obtain ⟨-, huse⟩ := wanTransitionWanRefreshed_vlan hneeds (by rw [hreset, Bool.or_true])
  have hindex : (nextVlan s.virtIf.vlan).activeIndex = 0 := if_pos (.inl hreset)
  have hname : (nextVlan s.virtIf.vlan).vlanInUse =
      s.virtIf.vlan.interfaceList.getD (nextVlan s.virtIf.vlan).activeIndex "" := rfl
  rw [huse, hname, hindex]

/-- As many expiries as there are entries try each of them once: from an entry on around the list and
back to it, and from the head to the end when there is no entry to start from. A reset tries the
head. -/
theorem vlanRotation (s t : Vism) (tried : List VlanIface) (h : Expiries s tried t)
    (hne : s.virtIf.vlan.interfaceList ≠ []) (hsize : s.virtIf.vlan.interfaceList.length < 2 ^ 32)
    (hcount : tried.length = s.virtIf.vlan.interfaceList.length) :
    (s.virtIf.vlan.activeIndex < s.virtIf.vlan.interfaceList.length →
        tried = (virtIfConfVlan s.virtIf.vlan.interfaceList).rotate (s.virtIf.vlan.activeIndex + 1) ∧
          (virtIfConfVlan s.virtIf.vlan.interfaceList)[s.virtIf.vlan.activeIndex]? = some (inUse t)) ∧
      (s.virtIf.vlan.interfaceList.length ≤ s.virtIf.vlan.activeIndex →
        tried = virtIfConfVlan s.virtIf.vlan.interfaceList ∧ tried.getLast? = some (inUse t)) ∧
      ∀ r : Vism, needsVlan r = true → r.virtIf.vlan.reset = true → r.virtIf.vlan.interfaceList ≠ [] →
        (virtIfConfVlan r.virtIf.vlan.interfaceList).head? =
          some (inUse (wanTransitionWanRefreshed r).2) := by
  have hpos := List.length_pos_of_ne_nil hne
  obtain ⟨htried, hlast⟩ := h.tried_getElem? hsize hne
  have hrotated : tried = (virtIfConfVlan s.virtIf.vlan.interfaceList).rotate (firstTried s) := by
    refine List.ext_getElem? fun j => ?_
    by_cases hj : j < tried.length
    · have hj' : j < (virtIfConfVlan s.virtIf.vlan.interfaceList).length := by simpa [← hcount] using hj
      rw [htried j hj, List.getElem?_rotate hj', length_virtIfConfVlan, Nat.add_comm]
    · rw [List.getElem?_eq_none (by omega), List.getElem?_eq_none (by simp; omega)]
  have hend : tried.getLast? = some (inUse t) := by
    have hsome := List.getLast?_eq_some_getLast (List.ne_nil_of_length_pos (hcount ▸ hpos))
    rw [hsome, hlast _ hsome]
  refine ⟨fun hin => ?_, fun hout => ?_, fun r hneeds hreset hlist => ?_⟩
  · have hfirst : firstTried s = (s.virtIf.vlan.activeIndex + 1) % s.virtIf.vlan.interfaceList.length :=
      if_pos hin
    refine ⟨?_, ?_⟩
    · conv_lhs => rw [hrotated, hfirst, ← length_virtIfConfVlan, List.rotate_mod]
    · rw [← hend, List.getLast?_eq_getElem?, htried _ (by omega), hcount, hfirst, Nat.mod_add_mod]
      congr 1
      have hsum : s.virtIf.vlan.activeIndex + 1 + (s.virtIf.vlan.interfaceList.length - 1) =
          s.virtIf.vlan.activeIndex + s.virtIf.vlan.interfaceList.length := by omega
      rw [hsum, Nat.add_mod_right, Nat.mod_eq_of_lt hin]
  · have hfirst : firstTried s = 0 := if_neg (by omega)
    exact ⟨by rw [hrotated, hfirst, List.rotate_zero], hend⟩
  · rw [inUse_reset hneeds hreset, List.head?_eq_getElem?,
      getElem?_virtIfConfVlan (List.length_pos_of_ne_nil hlist)]

namespace Example

/-- The discovery starts from no entry. -/
def undiscovered : Vism :=
  { virtIf := { vlan := { enable := true, activeIndex := 2 ^ 32 - 1, interfaceList := ["vlan10", "vlan20"],
                          expired := true } } }

/-- The second of two entries is in use. -/
def discovering : Vism :=
  undiscovered.mapVlan fun v => { v with activeIndex := 1, vlanInUse := "vlan20" }

/-- The link of the entry tried does not come up in time. -/
def runsOut (s : Vism) : Vism :=
  (wanTransitionWanRefreshed s).2.mapVlan fun v => { v with status := .down, expired := true }

theorem expiries_twice {s : Vism} (h : Expiry s) (hagain : Expiry (runsOut s)) :
    Expiries s [inUse (runsOut s), inUse (wanTransitionWanRefreshed (runsOut s)).2]
      (wanTransitionWanRefreshed (runsOut s)).2 :=
  .handle rfl rfl h (.handle rfl rfl hagain (.done _))

end Example

open Example in
theorem vlanRotation_discovering :
    [inUse (runsOut discovering), inUse (wanTransitionWanRefreshed (runsOut discovering)).2] =
      (virtIfConfVlan ["vlan10", "vlan20"]).rotate 2 := by
  have hexpiries := expiries_twice (s := discovering) ⟨by decide, by decide, by decide⟩
    ⟨by decide, by decide, by decide⟩
  obtain ⟨hrotate, -⟩ := vlanRotation discovering _ _ hexpiries (by decide) (by decide) rfl
  exact (hrotate (by decide)).1

open Example in
/-- From no entry the two expiries end at the last entry, and there is none to return to. -/
theorem undiscovered_not_returned :
    ¬ ∀ (s t : Vism) (tried : List VlanIface), Expiries s tried t → s.virtIf.vlan.interfaceList ≠ [] →
      tried.length = s.virtIf.vlan.interfaceList.length →
        t.virtIf.vlan.activeIndex = s.virtIf.vlan.activeIndex := by
  intro h
  have hreturned := h undiscovered _ _
    (expiries_twice ⟨by decide, by decide, by decide⟩ ⟨by decide, by decide, by decide⟩) (by decide) rfl
  revert hreturned
  decide

end WanManager.InterfaceSm
