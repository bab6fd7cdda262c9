import WanManager.StoredConfig
import Mathlib.Data.List.Nodup

/-! # An interface configuration over a restart

What is loaded after the configuration was saved, call by call in any order. It is the
configuration that was saved exactly when nothing in it goes unwritten or is overwritten. -/

namespace WanManager
open Text Concurrency

namespace StoredConfig

/-! ## Keys -/

theorem IfaceKey.path_inj {a b : IfaceKey} : a.path = b.path ↔ a = b := by
  cases a <;> cases b <;> simp [path]

theorem VirifKey.path_inj {a b : VirifKey} : a.path = b.path ↔ a = b := by
  cases a <;> cases b <;> simp [path]

theorem not_dot_mem_repr (n : Nat) : '.' ∉ n.repr.toList := by
  intro h
  rw [Nat.toList_repr] at h
  exact absurd (isDigit_decimal _ h) (by decide)

theorem IfaceKey.not_dot_mem_path (k : IfaceKey) : ∀ s ∈ k.path, '.' ∉ s.toList := by
  cases k <;> decide

theorem VirifKey.not_dot_mem_path (k : VirifKey) : ∀ s ∈ k.path, '.' ∉ s.toList := by
  cases k <;> decide

theorem PsmKey.not_dot_mem_segments (key : PsmKey) : ∀ s ∈ key.segments, '.' ∉ s.toList := by
  have hfix : ∀ s ∈ ["dmsb", "wanmanager", "if", "VirtualInterface", "VLAN", "Interface", "Marking",
      "Entry"], '.' ∉ s.toList := by decide
  simp only [List.forall_mem_cons] at hfix
  have hrepr := not_dot_mem_repr
  cases key with
  | iface i k =>
    simp only [segments, List.forall_mem_append, List.forall_mem_cons, hfix, hrepr]
    exact ⟨by simp, k.not_dot_mem_path⟩
  | virif i j k =>
    simp only [segments, List.forall_mem_append, List.forall_mem_cons, hfix, hrepr]
    exact ⟨by simp, k.not_dot_mem_path⟩
  | vlanInterfaceEntry i j k =>
    simp only [segments, List.forall_mem_cons, hfix, hrepr]
    simp
  | vlanMarkingEntry i j k =>
    simp only [segments, List.forall_mem_cons, hfix, hrepr]
    simp

/-- What distinguishes the kinds of keys. -/
theorem IfaceKey.path_ne (k : IfaceKey) (l : List String) : k.path ≠ "VirtualInterface" :: l := by
  cases k <;> simp [path]

theorem VirifKey.path_ne (k : VirifKey) (l : List String) :
    k.path ≠ "VLAN" :: l ∧ k.path ≠ "Marking" :: l := by
  cases k <;> simp [path]

theorem PsmKey.text_inj {a b : PsmKey} : a.text = b.text ↔ a = b := by
  have hne : ∀ key : PsmKey, key.segments ≠ [] := by
    intro key
    cases key <;> simp [segments]
  rw [text, text, dotted_inj (hne a) (hne b) a.not_dot_mem_segments b.not_dot_mem_segments]
  cases a <;> cases b <;>
    simp only [segments, List.cons_append, List.nil_append, List.cons.injEq, repr_inj, IfaceKey.path_inj,
      VirifKey.path_inj, IfaceKey.path_ne, VirifKey.path_ne, (IfaceKey.path_ne _ _).symm,
      (VirifKey.path_ne _ _).1.symm, (VirifKey.path_ne _ _).2.symm, iface.injEq, virif.injEq,
      vlanInterfaceEntry.injEq, vlanMarkingEntry.injEq, String.reduceEq, true_and, and_true, and_false,
      and_self, reduceCtorEq]

/-! ## What is read back -/

section Reading

variable {writes : List (PsmKey × String)} {key : PsmKey} {t : String}

theorem store_eq_none (h : ∀ w ∈ writes, w.1 ≠ key) : store writes key.text = none := by
  rw [store, Crowd.lastWrite_eq_none]
  intro w hw
  exact if_neg fun heq => h w hw (PsmKey.text_inj.mp heq)

theorem store_mem (h : store writes key.text = some t) : (key, t) ∈ writes := by
  obtain ⟨w, hw, hwt⟩ := Crowd.lastWrite_mem h
  split at hwt
  · rename_i hkey
    have hw1 : w.1 = key := PsmKey.text_inj.mp hkey
    have hw2 : w.2 = t := Option.some.inj hwt
    rwa [← hw1, ← hw2]
  · cases hwt

theorem store_eq_some (hmem : (key, t) ∈ writes) (honly : ∀ w ∈ writes, w.1 = key → w.2 = t) :
    store writes key.text = some t := by
  cases hs : store writes key.text with
  | none =>
    have := Crowd.lastWrite_eq_none.mp hs (key, t) hmem
    simp at this
  | some t' => exact congrArg some (honly (key, t') (store_mem hs) rfl)

end Reading

theorem boolText_eq (b : Bool) : (boolText b = "TRUE") = (b = true) := by cases b <;> simp [boolText]

theorem scanOr_none (d : UInt32) : scanOr none d = d := rfl

theorem scanOr_printInt (n d : UInt32) : scanOr (some (printInt n)) d = n := by
  simp [scanOr, scanInt_printInt]

theorem Counted.count_toNat {α : Type} (c : Counted α) : c.count.toNat = c.entries.length :=
  UInt32.toNat_ofNat_of_lt c.length_lt

/-- A list that is built anew up to its count. -/
theorem Counted.ofFn_eq_iff {α : Type} (c : Counted α) (f : Nat → α) :
    Counted.ofFn c.count f = c ↔ ∀ k a, c.entries[k]? = some a → f k = a := by
  have hentries : Counted.ofFn c.count f = c ↔ (List.range c.entries.length).map f = c.entries := by
    rw [← c.count_toNat]
    cases c
    simp [ofFn]
  rw [hentries]
  constructor
  · intro h k a hk
    obtain ⟨hlt, rfl⟩ := List.getElem?_eq_some_iff.mp hk
    simpa [hlt] using congrArg (fun l => l[k]?) h
  · intro h
    apply List.ext_getElem?
    intro k
    cases hk : c.entries[k]? with
    | none =>
      rw [List.getElem?_eq_none_iff] at hk ⊢
      simpa using hk
    | some a =>
      have hlt : k < c.entries.length := (List.getElem?_eq_some_iff.mp hk).1
      simp [hlt, h k a hk]

/-! ## The writes of an interface -/

section Writes

variable {idx : Nat} {c : IfaceConf} {w : PsmKey × String}

theorem mem_virtIfCalls {j : Nat} {v : VirtIfConf} : w ∈ (virtIfCalls idx j v).flatten ↔
    w ∈ writeVirtualInterface (idx + 1) j v ∨
      (∃ k t, v.vlan.interfaceList.entries[k]? = some t ∧
        w = (.vlanMarkingEntry (idx + 1) (j + 1) (k + 1), t)) ∨
      ∃ k e, v.vlan.virtMarking.entries[k]? = some e ∧
        w = (.vlanMarkingEntry (idx + 1) (j + 1) (k + 1), printInt e) := by
  have hzip : ∀ {α : Type} (l : List α) (f : α → Nat → PsmKey × String),
      w ∈ (l.zipIdx.map fun e => [f e.1 e.2]).flatten ↔ ∃ k a, l[k]? = some a ∧ w = f a k := by
    intro α l f
    simp only [List.mem_flatten, List.mem_map, Prod.exists, List.mem_zipIdx_iff_getElem?]
    constructor
    · rintro ⟨-, ⟨a, k, hk, rfl⟩, hw⟩
      exact ⟨k, a, hk, List.mem_singleton.mp hw⟩
    · rintro ⟨k, a, hk, rfl⟩
      exact ⟨_, ⟨a, k, hk, rfl⟩, List.mem_singleton_self _⟩
  rw [virtIfCalls, List.flatten_cons, List.flatten_append, List.mem_append, List.mem_append]
  exact or_congr_right (or_congr
    (hzip _ fun t k => (.vlanMarkingEntry (idx + 1) (j + 1) (k + 1), t))
    (hzip _ fun e k => (.vlanMarkingEntry (idx + 1) (j + 1) (k + 1), printInt e)))

theorem mem_saveCalls : w ∈ (saveCalls idx c).flatten ↔
    w ∈ writeWanInterfaceParameters (idx + 1) c.data ∨
      ∃ j v, c.virtIfList.entries[j]? = some v ∧ w ∈ (virtIfCalls idx j v).flatten := by
  rw [saveCalls, List.flatten_cons, List.mem_append]
  refine or_congr_right ?_
  simp only [List.mem_flatten, List.mem_flatMap, Prod.exists, List.mem_zipIdx_iff_getElem?]
  constructor
  · rintro ⟨call, ⟨v, j, hj, hcall⟩, hw⟩
    exact ⟨j, v, hj, call, hcall, hw⟩
  · rintro ⟨j, v, hj, call, hcall, hw⟩
    exact ⟨call, ⟨v, j, hj, hcall⟩, hw⟩

theorem key_writeWanInterfaceParameters {i : Nat} {d : IfaceData} :
    ∀ w ∈ writeWanInterfaceParameters i d, ∃ k, w.1 = .iface i k := by
  simp [writeWanInterfaceParameters]

theorem key_writeVirtualInterface {i j : Nat} {v : VirtIfConf} :
    ∀ w ∈ writeVirtualInterface i j v, ∃ k, w.1 = .virif i (j + 1) k := by
  simp [writeVirtualInterface]

theorem nodup_writeWanInterfaceParameters (i : Nat) (d : IfaceData) :
    ((writeWanInterfaceParameters i d).map (·.1)).Nodup := by
  simp [writeWanInterfaceParameters]

theorem nodup_writeVirtualInterface (i j : Nat) (v : VirtIfConf) :
    ((writeVirtualInterface i j v).map (·.1)).Nodup := by
  simp [writeVirtualInterface]

/-- A call that writes its keys once says what is read under them. -/
theorem eq_of_nodup {call : List (PsmKey × String)} (h : (call.map (·.1)).Nodup) {key : PsmKey}
    {t : String} (ht : (key, t) ∈ call) (hw : w ∈ call) (hkey : w.1 = key) : w.2 = t :=
  congrArg Prod.snd (List.inj_on_of_nodup_map h hw ht hkey)

end Writes

/-- The calls were made, in some order. -/
abbrev Saved (idx : Nat) (c : IfaceConf) (calls : List (List (PsmKey × String))) : Prop :=
  calls.Perm (saveCalls idx c)

section Saved

variable {idx : Nat} {c : IfaceConf} {calls : List (List (PsmKey × String))} {j : Nat} {v : VirtIfConf}

theorem mem_calls {w : PsmKey × String} (h : Saved idx c calls) :
    w ∈ calls.flatten ↔ w ∈ (saveCalls idx c).flatten := by
  simp only [List.mem_flatten, h.mem_iff]

/-- Which call a key was written by; that of a marking may come from a VLAN interface. -/
theorem mem_cases (h : Saved idx c calls) {w : PsmKey × String} (hw : w ∈ calls.flatten) :
    (∃ k, w.1 = .iface (idx + 1) k ∧ w ∈ writeWanInterfaceParameters (idx + 1) c.data) ∨
      ∃ j v, c.virtIfList.entries[j]? = some v ∧
        ((∃ k, w.1 = .virif (idx + 1) (j + 1) k ∧ w ∈ writeVirtualInterface (idx + 1) j v) ∨
          ∃ k, w.1 = .vlanMarkingEntry (idx + 1) (j + 1) (k + 1) ∧
            (v.vlan.interfaceList.entries[k]? = some w.2 ∨
              ∃ e, v.vlan.virtMarking.entries[k]? = some e ∧ w.2 = printInt e)) := by
  obtain hw | ⟨j, v, hv, hw⟩ := mem_saveCalls.mp ((mem_calls h).mp hw)
  · obtain ⟨k, hk⟩ := key_writeWanInterfaceParameters w hw
    exact .inl ⟨k, hk, hw⟩
  · refine .inr ⟨j, v, hv, ?_⟩
    obtain hw | ⟨k, t, hk, rfl⟩ | ⟨k, e, hk, rfl⟩ := mem_virtIfCalls.mp hw
    · obtain ⟨k, hk⟩ := key_writeVirtualInterface w hw
      exact .inl ⟨k, hk, hw⟩
    · exact .inr ⟨k, rfl, .inl hk⟩
    · exact .inr ⟨k, rfl, .inr ⟨e, hk, rfl⟩⟩

theorem mem_of_iface (h : Saved idx c calls) {w : PsmKey × String} {k : IfaceKey}
    (hw : w ∈ calls.flatten) (hkey : w.1 = .iface (idx + 1) k) :
    w ∈ writeWanInterfaceParameters (idx + 1) c.data := by
  obtain ⟨k', hk', hw⟩ | ⟨j, v, -, ⟨k', hk', -⟩ | ⟨k', hk', -⟩⟩ := mem_cases h hw
  · exact hw
  · cases hk'.symm.trans hkey
  · cases hk'.symm.trans hkey

theorem mem_of_virif (h : Saved idx c calls) (hv : c.virtIfList.entries[j]? = some v)
    {w : PsmKey × String} {k : VirifKey} (hw : w ∈ calls.flatten)
    (hkey : w.1 = .virif (idx + 1) (j + 1) k) : w ∈ writeVirtualInterface (idx + 1) j v := by
  obtain ⟨k', hk', -⟩ | ⟨j', v', hv', ⟨k', hk', hw⟩ | ⟨k', hk', -⟩⟩ := mem_cases h hw
  · cases hk'.symm.trans hkey
  · cases hk'.symm.trans hkey
    cases hv.symm.trans hv'
    exact hw
  · cases hk'.symm.trans hkey

theorem mem_of_marking (h : Saved idx c calls) (hv : c.virtIfList.entries[j]? = some v)
    {w : PsmKey × String} {k : Nat} (hw : w ∈ calls.flatten)
    (hkey : w.1 = .vlanMarkingEntry (idx + 1) (j + 1) (k + 1)) :
    v.vlan.interfaceList.entries[k]? = some w.2 ∨
      ∃ e, v.vlan.virtMarking.entries[k]? = some e ∧ w.2 = printInt e := by
  obtain ⟨k', hk', -⟩ | ⟨j', v', hv', ⟨k', hk', -⟩ | ⟨k', hk', hval⟩⟩ := mem_cases h hw
  · cases hk'.symm.trans hkey
  · cases hk'.symm.trans hkey
  · cases hk'.symm.trans hkey
    cases hv.symm.trans hv'
    exact hval

theorem vlanInterfaceEntry_unwritten (h : Saved idx c calls) (i j k : Nat) :
    ∀ w ∈ calls.flatten, w.1 ≠ .vlanInterfaceEntry i j k := by
  intro w hw hkey
  obtain ⟨k', hk', -⟩ | ⟨j', v', -, ⟨k', hk', -⟩ | ⟨k', hk', -⟩⟩ := mem_cases h hw <;>
    cases hk'.symm.trans hkey

/-! What is read under the keys of each kind. -/

theorem store_iface (h : Saved idx c calls) {k : IfaceKey} {t : String}
    (ht : (.iface (idx + 1) k, t) ∈ writeWanInterfaceParameters (idx + 1) c.data) :
    store calls.flatten (PsmKey.iface (idx + 1) k).text = some t :=
  store_eq_some ((mem_calls h).mpr (mem_saveCalls.mpr (.inl ht))) fun _ hw hkey =>
    eq_of_nodup (nodup_writeWanInterfaceParameters _ _) ht (mem_of_iface h hw hkey) hkey

theorem store_iface_unwritten (h : Saved idx c calls) {k : IfaceKey}
    (hk : ∀ w ∈ writeWanInterfaceParameters (idx + 1) c.data, w.1 ≠ .iface (idx + 1) k) :
    store calls.flatten (PsmKey.iface (idx + 1) k).text = none :=
  store_eq_none fun w hw hkey => hk w (mem_of_iface h hw hkey) hkey

theorem store_virif (h : Saved idx c calls) (hv : c.virtIfList.entries[j]? = some v) {k : VirifKey}
    {t : String} (ht : (.virif (idx + 1) (j + 1) k, t) ∈ writeVirtualInterface (idx + 1) j v) :
    store calls.flatten (PsmKey.virif (idx + 1) (j + 1) k).text = some t :=
  store_eq_some
    ((mem_calls h).mpr (mem_saveCalls.mpr (.inr ⟨j, v, hv, mem_virtIfCalls.mpr (.inl ht)⟩)))
    fun _ hw hkey => eq_of_nodup (nodup_writeVirtualInterface _ _ _) ht (mem_of_virif h hv hw hkey) hkey

theorem store_virif_unwritten (h : Saved idx c calls) (hv : c.virtIfList.entries[j]? = some v)
    {k : VirifKey}
    (hk : ∀ w ∈ writeVirtualInterface (idx + 1) j v, w.1 ≠ .virif (idx + 1) (j + 1) k) :
    store calls.flatten (PsmKey.virif (idx + 1) (j + 1) k).text = none :=
  store_eq_none fun w hw hkey => hk w (mem_of_virif h hv hw hkey) hkey

/-! ## What is loaded -/

/-- What the loader makes of the interface: the parameters that are not written are fresh. -/
theorem getWanInterfaceParameters_saved (h : Saved idx c calls) :
    getWanInterfaceParameters (store calls.flatten) (idx + 1) =
      ({ baseInterface := c.data.baseInterface
         type := c.data.type
         selection :=
           { c.data.selection with
             activeLink := false
             timeout := if c.data.selection.timeout < 20 then 20 else c.data.selection.timeout } }, 1) := by
  have hnone : ∀ k ∈ [IfaceKey.name, .displayName, .alias_, .selectionActiveLink, .virifCount],
      store calls.flatten (PsmKey.iface (idx + 1) k).text = none := by
    intro k hk
    apply store_iface_unwritten h
    simp only [List.mem_cons, List.not_mem_nil, or_false] at hk
    obtain rfl | rfl | rfl | rfl | rfl := hk <;> simp [writeWanInterfaceParameters]
  have hsome : ∀ e ∈ writeWanInterfaceParameters (idx + 1) c.data,
      store calls.flatten e.1.text = some e.2 := by
    intro e he
    obtain ⟨k, hk⟩ := key_writeWanInterfaceParameters e he
    rw [hk]
    exact store_iface h (hk ▸ he)
  simp only [List.forall_mem_cons, writeWanInterfaceParameters] at hnone hsome
  simp [getWanInterfaceParameters, hnone, hsome, boolText_eq, scanOr_printInt, scanOr_none]

/-- What the loader makes of a virtual interface. -/
theorem loadVirtualInterface_saved (h : Saved idx c calls) (hv : c.virtIfList.entries[j]? = some v)
    {maptRfc : String} (hrfc : maptRfc ≠ "true") :
    loadVirtualInterface (store calls.flatten) maptRfc idx j =
      { v with
        pppEnable := startsWith "Device.PPP.Interface." v.pppInterface
        vlan :=
          { enable := 0 < v.vlan.interfaceList.count
            timeout := v.vlan.timeout
            interfaceList := .ofFn v.vlan.interfaceList.count fun _ => ""
            virtMarking :=
              vlanMarkingEntries (store calls.flatten) idx j v.vlan.virtMarking.count }
        ip := { v.ip with connectivityCheckType := 0 } } := by
  have hnone : ∀ k ∈ [VirifKey.vlanInUse, .connectivityCheckType],
      store calls.flatten (PsmKey.virif (idx + 1) (j + 1) k).text = none := by
    intro k hk
    apply store_virif_unwritten h hv
    simp only [List.mem_cons, List.not_mem_nil, or_false] at hk
    obtain rfl | rfl := hk <;> simp [writeVirtualInterface]
  have hsome : ∀ e ∈ writeVirtualInterface (idx + 1) j v,
      store calls.flatten e.1.text = some e.2 := by
    intro e he
    obtain ⟨k, hk⟩ := key_writeVirtualInterface e he
    rw [hk]
    exact store_virif h hv (hk ▸ he)
  have hentries : ∀ n, vlanInterfaceEntries (store calls.flatten) idx j n = .ofFn n fun _ => "" := by
    intro n
    simp only [vlanInterfaceEntries, store_eq_none (vlanInterfaceEntry_unwritten h _ _ _),
      Option.getD_none]
  have htable : startsWith "Device.X_RDK_Ethernet.VLANTermination." "" = false := by decide
  simp only [List.forall_mem_cons, writeVirtualInterface] at hnone hsome
  simp [loadVirtualInterface, hnone, hsome, hrfc, htable, hentries, boolText_eq, scanOr_printInt,
    scanOr_none]

theorem vlanMarkingEntries_eq_iff {psm : String → Option String} {markings : Counted UInt32} :
    vlanMarkingEntries psm idx j markings.count = markings ↔ ∀ k e, markings.entries[k]? = some e →
      scanOr (psm (PsmKey.vlanMarkingEntry (idx + 1) (j + 1) (k + 1)).text) 0 = e :=
  Counted.ofFn_eq_iff _ _

end Saved

/-! ## What survives -/

/-- What is loaded after the configuration was saved is that configuration, in whatever
order it was saved. -/
def Survives (maptRfc : String) (idx : Nat) (c : IfaceConf) : Prop :=
  ∀ calls, Saved idx c calls → loadInterface (store calls.flatten) maptRfc idx = c

/-- A virtual interface whose fields that are not written are fresh, whose flags are those
the loader derives, and whose VLAN interfaces have no names and no markings beside them. -/
structure VirtIfConf.Restorable (v : VirtIfConf) : Prop where
  vlanInUse : v.vlan.vlanInUse = ""
  connectivityCheckType : v.ip.connectivityCheckType = 0
  pppEnable : v.pppEnable = startsWith "Device.PPP.Interface." v.pppInterface
  vlanEnable : v.vlan.enable = decide (v.vlan.interfaceList.entries ≠ [])
  interfaces : ∀ t ∈ v.vlan.interfaceList.entries, t = ""
  markings : ∀ k e, k < v.vlan.interfaceList.entries.length →
    v.vlan.virtMarking.entries[k]? = some e → e = 0

/-- An interface whose fields that are not written are fresh, with one virtual interface. -/
structure IfaceConf.Restorable (c : IfaceConf) : Prop where
  name : c.data.name = ""
  displayName : c.data.displayName = ""
  aliasName : c.data.aliasName = ""
  activeLink : c.data.selection.activeLink = false
  virtIf : ∃ v, c.virtIfList.entries = [v] ∧ v.Restorable

section Survives

variable {idx : Nat} {c : IfaceConf} {calls : List (List (PsmKey × String))} {v : VirtIfConf}
  {maptRfc : String}

/-- A marking is read as it was written unless a VLAN interface was written over it. -/
theorem scanOr_marking {j : Nat} (h : Saved idx c calls) (hv : c.virtIfList.entries[j]? = some v)
    (hinterfaces : ∀ t ∈ v.vlan.interfaceList.entries, t = "")
    (hmarkings : ∀ k e, k < v.vlan.interfaceList.entries.length →
      v.vlan.virtMarking.entries[k]? = some e → e = 0) {k : Nat} {e : UInt32}
    (he : v.vlan.virtMarking.entries[k]? = some e) :
    scanOr (store calls.flatten (PsmKey.vlanMarkingEntry (idx + 1) (j + 1) (k + 1)).text) 0 = e := by
  have hwritten : (PsmKey.vlanMarkingEntry (idx + 1) (j + 1) (k + 1), printInt e) ∈ calls.flatten :=
    (mem_calls h).mpr (mem_saveCalls.mpr
      (.inr ⟨j, v, hv, mem_virtIfCalls.mpr (.inr (.inr ⟨k, e, he, rfl⟩))⟩))
  cases hs : store calls.flatten (PsmKey.vlanMarkingEntry (idx + 1) (j + 1) (k + 1)).text with
  | none =>
    have := Crowd.lastWrite_eq_none.mp hs _ hwritten
    simp at this
  | some t =>
    obtain ht | ⟨e', he', ht⟩ := mem_of_marking h hv (store_mem hs) rfl
    · have hk := (List.getElem?_eq_some_iff.mp ht).1
      rw [hinterfaces t (List.mem_of_getElem? ht), hmarkings k e hk he]
      decide
    · cases he.symm.trans he'
      rw [show t = printInt e from ht, scanOr_printInt]

/-- The order in which the VLAN interfaces are written last. -/
def vlanLast (idx : Nat) (d : IfaceData) (v : VirtIfConf) : List (List (PsmKey × String)) :=
  writeWanInterfaceParameters (idx + 1) d :: writeVirtualInterface (idx + 1) 0 v ::
    (v.vlan.virtMarking.entries.zipIdx.map (fun e => writeVirtMarking idx 0 e.2 e.1) ++
      v.vlan.interfaceList.entries.zipIdx.map fun e => writeVlanInterface idx 0 e.2 e.1)

theorem saved_vlanLast (hv : c.virtIfList.entries = [v]) : Saved idx c (vlanLast idx c.data v) := by
  have hcalls : saveCalls idx c = writeWanInterfaceParameters (idx + 1) c.data :: virtIfCalls idx 0 v := by
    simp [saveCalls, hv]
  rw [Saved, hcalls, vlanLast, virtIfCalls]
  exact .cons _ (.cons _ List.perm_append_comm)

theorem store_append (a b : List (PsmKey × String)) (name : String) :
    store (a ++ b) name = (store b name).or (store a name) := Crowd.lastWrite_append a b

/-- The VLAN interface written last under the key of a marking is what is read. -/
theorem store_vlanLast {k : Nat} (hk : k < v.vlan.interfaceList.entries.length) (d : IfaceData)
    (hinterfaces : ∀ t ∈ v.vlan.interfaceList.entries, t = "") :
    store (vlanLast idx d v).flatten (PsmKey.vlanMarkingEntry (idx + 1) (0 + 1) (k + 1)).text = some "" := by
  have hlast : store (v.vlan.interfaceList.entries.zipIdx.map
      fun e => writeVlanInterface idx 0 e.2 e.1).flatten
      (PsmKey.vlanMarkingEntry (idx + 1) (0 + 1) (k + 1)).text = some "" := by
    apply store_eq_some
    · have hget : v.vlan.interfaceList.entries[k]? = some "" := by
        rw [List.getElem?_eq_getElem hk, hinterfaces _ (List.getElem_mem hk)]
      refine List.mem_flatten.mpr ⟨writeVlanInterface idx 0 k "", ?_, List.mem_singleton_self _⟩
      exact List.mem_map.mpr ⟨("", k), List.mem_zipIdx_iff_getElem?.mpr hget, rfl⟩
    · intro w hw _
      obtain ⟨call, hcall, hw⟩ := List.mem_flatten.mp hw
      obtain ⟨e, he, rfl⟩ := List.mem_map.mp hcall
      rw [List.mem_singleton.mp hw]
      exact hinterfaces _ (List.mem_of_getElem? (List.mem_zipIdx_iff_getElem?.mp he))
  rw [vlanLast, List.flatten_cons, List.flatten_cons, List.flatten_append, store_append, store_append,
    store_append, hlast]
  rfl

theorem loadInterface_saved (h : Saved idx c calls) (hmin : 20 ≤ c.data.selection.timeout) :
    loadInterface (store calls.flatten) maptRfc idx =
      { data :=
          { c.data with
            name := "", displayName := "", aliasName := ""
            selection := { c.data.selection with activeLink := false } }
        virtIfList := .ofFn 1 fun j => loadVirtualInterface (store calls.flatten) maptRfc idx j } := by
  have htimeout : ¬ c.data.selection.timeout < 20 := UInt32.not_lt.mpr hmin
  simp [loadInterface, getWanInterfaceParameters_saved h, htimeout]

theorem loadVirtualInterface_eq_iff {j : Nat} (h : Saved idx c calls)
    (hv : c.virtIfList.entries[j]? = some v) (hrfc : maptRfc ≠ "true") :
    loadVirtualInterface (store calls.flatten) maptRfc idx j = v ↔
      v.vlan.vlanInUse = "" ∧ v.ip.connectivityCheckType = 0 ∧
      v.pppEnable = startsWith "Device.PPP.Interface." v.pppInterface ∧
      v.vlan.enable = decide (v.vlan.interfaceList.entries ≠ []) ∧
      (∀ t ∈ v.vlan.interfaceList.entries, t = "") ∧
      ∀ k e, v.vlan.virtMarking.entries[k]? = some e →
        scanOr (store calls.flatten (PsmKey.vlanMarkingEntry (idx + 1) (j + 1) (k + 1)).text) 0 = e := by
  have hcount : decide (0 < v.vlan.interfaceList.count) = decide (v.vlan.interfaceList.entries ≠ []) := by
    rw [decide_eq_decide, UInt32.lt_iff_toNat_lt, Counted.count_toNat]
    exact List.length_pos_iff
  have hlist : Counted.ofFn v.vlan.interfaceList.count (fun _ => "") = v.vlan.interfaceList ↔
      ∀ t ∈ v.vlan.interfaceList.entries, t = "" := by
    rw [Counted.ofFn_eq_iff]
    exact ⟨fun h t ht => (List.getElem?_of_mem ht).elim fun k hk => (h k t hk).symm,
      fun h k t hk => (h t (List.mem_of_getElem? hk)).symm⟩
  rw [loadVirtualInterface_saved h hv hrfc, hcount, ← hlist, ← vlanMarkingEntries_eq_iff]
  obtain ⟨name, alias_, enable, mapt, dslite, ppp, pppInterface, vlan, ip⟩ := v
  obtain ⟨vlanEnable, vlanInUse, timeout, interfaceList, virtMarking⟩ := vlan
  obtain ⟨interface, mode, v4, dhcpv4, v6, dhcpv6, preferred, force, check⟩ := ip
  simp only [VirtIfConf.mk.injEq, VlanConf.mk.injEq, IpConf.mk.injEq, true_and]
  constructor
  · rintro ⟨hppp, ⟨henable, huse, hinterfaces, hmarkings⟩, hcheck⟩
    exact ⟨huse.symm, hcheck.symm, hppp.symm, henable.symm, hinterfaces, hmarkings⟩
  · rintro ⟨huse, hcheck, hppp, henable, hinterfaces, hmarkings⟩
    exact ⟨hppp.symm, ⟨henable.symm, huse.symm, hinterfaces, hmarkings⟩, hcheck.symm⟩

/-- Exactly these configurations survive a restart. -/
theorem survives_iff (maptRfc : String) (idx : Nat) (c : IfaceConf)
    (hmin : 20 ≤ c.data.selection.timeout) (hrfc : maptRfc ≠ "true") :
    Survives maptRfc idx c ↔ c.Restorable := by
  constructor
  · intro h
    have hload : ∀ calls, Saved idx c calls → _ = c := fun calls hs =>
      Eq.trans (b := loadInterface (store calls.flatten) maptRfc idx)
        (loadInterface_saved hs hmin).symm (h calls hs)
    have hfirst := hload _ (.refl _)
    obtain ⟨v, hv⟩ : ∃ v, c.virtIfList.entries = [v] := by
      rw [← hfirst]
      exact ⟨_, rfl⟩
    have hv0 : c.virtIfList.entries[0]? = some v := by rw [hv]; rfl
    -- each order of the calls says what it takes for the virtual interface
    have hvirt : ∀ calls, Saved idx c calls → _ := fun calls hs =>
      (loadVirtualInterface_eq_iff hs hv0 hrfc).mp (by
        have := congrArg (fun c => c.virtIfList.entries) (hload calls hs)
        rw [hv] at this
        exact List.head_eq_of_cons_eq this)
    obtain ⟨huse, hcheck, hppp, henable, hinterfaces, -⟩ := hvirt _ (.refl _)
    refine ⟨?_, ?_, ?_, ?_, v, hv, ⟨huse, hcheck, hppp, henable, hinterfaces, ?_⟩⟩
    · rw [← hfirst]
    · rw [← hfirst]
    · rw [← hfirst]
    · rw [← hfirst]
    · intro k e hk he
      have hread := (hvirt _ (saved_vlanLast hv)).2.2.2.2.2 k e he
      rw [store_vlanLast hk c.data hinterfaces] at hread
      exact hread.symm.trans (by decide)
  · rintro ⟨hname, hdisplay, halias, hlink, v, hv, hrest⟩ calls hs
    have hv0 : c.virtIfList.entries[0]? = some v := by rw [hv]; rfl
    have hvirt : loadVirtualInterface (store calls.flatten) maptRfc idx 0 = v :=
      (loadVirtualInterface_eq_iff hs hv0 hrfc).mpr
        ⟨hrest.vlanInUse, hrest.connectivityCheckType, hrest.pppEnable, hrest.vlanEnable,
          hrest.interfaces, fun k e he => scanOr_marking hs hv0 hrest.interfaces hrest.markings he⟩
    have hlist : Counted.ofFn 1 (fun j => loadVirtualInterface (store calls.flatten) maptRfc idx j) =
        c.virtIfList := by
      apply Counted.ext
      rw [hv]
      exact congrArg (fun v => [v]) hvirt
    rw [loadInterface_saved hs hmin, hlist]
    obtain ⟨⟨name, display, aliasName, baseInterface, type, selection⟩, virtIfList⟩ := c
    obtain ⟨enable, activeLink, priority, timeout, group, reboot⟩ := selection
    simp_all

/-- An interface with one virtual interface and no VLANs. -/
def plainInterface : IfaceConf where
  data := { baseInterface := "eth0", selection := { enable := true, timeout := 20 } }
  virtIfList := ⟨[{ name := "erouter0", enable := true }], by decide⟩

theorem survives_plainInterface : Survives "" 0 plainInterface :=
  (survives_iff "" 0 plainInterface (by decide) (by decide)).mpr
    ⟨rfl, rfl, rfl, rfl, _, rfl, ⟨rfl, rfl, by decide, rfl, by decide, by simp [Counted.empty]⟩⟩

/-- An interface with one named VLAN interface. -/
def vlanInterface : IfaceConf where
  data := { baseInterface := "eth0", selection := { enable := true, timeout := 20 } }
  virtIfList := ⟨[{ name := "erouter0", enable := true
                    vlan := { enable := true
                              interfaceList := ⟨["Device.X_RDK_Ethernet.VLANTermination.1."], by decide⟩ } }],
    by decide⟩

/-- The name of a VLAN interface is written where it is not looked for. -/
theorem vlan_interface_lost :
    ¬ ∀ (maptRfc : String) (idx : Nat) (c : IfaceConf), 20 ≤ c.data.selection.timeout →
      maptRfc ≠ "true" → Survives maptRfc idx c := by
  intro h
  have hload := h "" 0 vlanInterface (by decide) (by decide) _ (.refl _)
  rw [loadInterface_saved (.refl _) (by decide)] at hload
  have hlists := congrArg (fun c => c.virtIfList.entries) hload
  have hvirt := (loadVirtualInterface_eq_iff (.refl _) rfl (by decide)).mp
    (List.head_eq_of_cons_eq hlists)
  exact absurd (hvirt.2.2.2.2.1 _ List.mem_cons_self) (by decide)

end Survives

end StoredConfig
end WanManager
