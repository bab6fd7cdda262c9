import Mathlib.Data.List.Nodup
import Mathlib.Logic.Function.Basic
import WanManager.Concurrency.Labelled
import WanManager.Text.Scan

/-! # The sent options of the DHCPv6 client

The table of `wanmgr_dhcpv6_apis.c` in memory and its records in syscfg, which are numbered from 1.
Entries are added, deleted and changed; the writes to syscfg succeed, the allocations may fail. -/

namespace WanManager.SentOptions
open Concurrency

/-! ## The records -/

/-- `DML_DHCPCV6_SENT` -/
structure SentOption where
  instanceNumber : Nat
  aliasName : String
  bEnabled : Bool
  tag : Nat
  value : String
  deriving DecidableEq, Repr

inductive Field where
  | instanceNumber | aliasName | enabled | tag | value
  deriving DecidableEq, Repr

def Field.suffix : Field → String
  | instanceNumber => ""
  | aliasName => "_alias"
  | enabled => "_enabled"
  | tag => "_tag"
  | value => "_value"

/-- `SYSCFG_DHCP6C_SENT_OPTION_FORMAT` -/
def sentOptionName (index : Nat) : String := "tr_dhcp6c_sent_option_" ++ index.repr

def key (index : Nat) (f : Field) : String := sentOptionName index ++ f.suffix

def numKey : String := "tr_dhcp6c_sent_option_num"

def SentOption.text (e : SentOption) : Field → String
  | .instanceNumber => e.instanceNumber.repr
  | .aliasName => e.aliasName
  | .enabled => if e.bEnabled then "1" else "0"
  | .tag => e.tag.repr
  | .value => e.value

abbrev Syscfg := String → Option String

def syscfgSet (name value : String) (store : Syscfg) : Syscfg := Function.update store name (some value)

/-- `syscfg_unset`, which joins the names in its own way. -/
def syscfgUnset (ns name : String) (store : Syscfg) : Syscfg :=
  Function.update store (ns ++ "::" ++ name) none

/-- `_syscfg_add_sent_option` -/
def addRecord (e : SentOption) (index : Nat) (store : Syscfg) : Syscfg :=
  [Field.instanceNumber, .aliasName, .enabled, .tag, .value].foldl
    (fun store f => syscfgSet (key index f) (e.text f) store) store

/-- The fields `WanMgr_DmlDhcpv6cSetSentOption` compares. -/
def differs (e old : SentOption) : Field → Bool
  | .instanceNumber => false
  | .aliasName => e.aliasName ≠ old.aliasName
  | .enabled => e.bEnabled ≠ old.bEnabled
  | .tag => e.tag ≠ old.tag
  | .value => e.value ≠ old.value

def setRecord (e old : SentOption) (index : Nat) (store : Syscfg) : Syscfg :=
  [Field.aliasName, .enabled, .tag, .value].foldl
    (fun store f => if differs e old f then syscfgSet (key index f) (e.text f) store else store) store

/-! ## The table -/

structure Table where
  /-- `g_dhcpv6_client.Cfg.InstanceNumber` -/
  client : Nat
  /-- `g_sent_option_num` -/
  num : Nat := 0
  /-- `g_sent_options`; `none` is memory that nothing was written to. -/
  options : List (Option SentOption) := []
  syscfg : Syscfg := fun _ => none
  /-- `CLIENT_SENT_OPTIONS_FILE`, and how often the client was restarted for it. -/
  file : List String := []
  restarts : Nat := 0

inductive Status where
  | success | failure | cantFind
  deriving DecidableEq, Repr

namespace Table

/-- `_write_dibbler_sent_option_file`, then the restart of the client. -/
def restartClient (t : Table) : Table :=
  let enabled := ((t.options.take t.num).filterMap id).filter (·.bEnabled)
  { t with
    file := enabled.map fun e => e.tag.repr ++ ":" ++ (e.value.length / 2).repr ++ ":" ++ e.value
    restarts := t.restarts + 1 }

def restartIf (c : Bool) (t : Table) : Table := if c then t.restartClient else t

/-- `realloc`, for `n` entries. -/
def resize (n : Nat) (options : List (Option SentOption)) : List (Option SentOption) :=
  options.take n ++ List.replicate (n - options.length) none

/-- `WanMgr_DmlDhcpv6cAddSentOption`; the number is counted up before the answer of `realloc`. -/
def addSentOption (client : Nat) (allocates : Bool) (e : SentOption) (t : Table) : Status × Table :=
  if client ≠ t.client then (.failure, t)
  else
    let t := { t with num := t.num + 1 }
    if allocates then
      let store := syscfgSet numKey t.num.repr (addRecord e t.num t.syscfg)
      let t := { t with options := (resize t.num t.options).set (t.num - 1) (some e), syscfg := store }
      (.success, t.restartIf e.bEnabled)
    else (.failure, t)

/-- The loop that looks for an instance number among `n` entries, and what it finds where. `none` is a
loop that reads memory nothing was written to. -/
def search (inst : Nat) : Nat → List (Option SentOption) → Option (Option (Nat × SentOption))
  | 0, _ => some none
  | n + 1, some e :: rest =>
    if e.instanceNumber = inst then some (some (0, e))
    else (search inst n rest).map (Option.map fun found => (found.1 + 1, found.2))
  | _ + 1, _ => none

/-- The loop of `WanMgr_DmlDhcpv6cDelSentOption` from `j` on, with so many entries behind `j`. -/
def shift : Nat → Nat → Table → Option Table
  | 0, _, t => some t
  | n + 1, j, t =>
    match t.options[j + 1]? with
    | some (some e) =>
      shift n (j + 1)
        { t with options := t.options.set j (some e), syscfg := addRecord e (j + 1) t.syscfg }
    | _ => none

/-- `WanMgr_DmlDhcpv6cDelSentOption` -/
def delSentOption (client inst : Nat) (t : Table) : Option (Status × Table) :=
  if client ≠ t.client then some (.failure, t)
  else
    match search inst t.num t.options with
    | none => none
    | some none => some (.cantFind, t)
    | some (some (i, old)) =>
      (shift (t.num - 1 - i) i t).map fun t =>
        let t := { t with num := t.num - 1 }
        let store := ["inst_num", "alias", "enabled", "tag", "value"].foldl
          (fun store name => syscfgUnset (sentOptionName (t.num + 1)) name store) t.syscfg
        (.success, restartIf old.bEnabled { t with syscfg := syscfgSet numKey t.num.repr store })

/-- `WanMgr_DmlDhcpv6cSetSentOption`, whatever the client; an unknown number is no error. -/
def setSentOption (e : SentOption) (t : Table) : Option (Status × Table) :=
  match search e.instanceNumber t.num t.options with
  | none => none
  | some none => some (.success, t)
  | some (some (i, old)) =>
    let needRestart := differs e old .enabled || differs e old .tag || differs e old .value
    let t := { t with syscfg := setRecord e old (i + 1) t.syscfg, options := t.options.set i (some e) }
    some (.success, t.restartIf needRestart)

end Table

/-! ## Keys -/

theorem toList_key (i : Nat) (f : Field) :
    (key i f).toList = "tr_dhcp6c_sent_option_".toList ++ (Text.decimal i ++ f.suffix.toList) := by
  have happend : ∀ start : String, (start ++ i.repr ++ f.suffix).toList =
      start.toList ++ (Text.decimal i ++ f.suffix.toList) := by
    intro start
    rw [String.toList_append, String.toList_append, Nat.toList_repr, List.append_assoc]
  exact happend _

theorem key_ne_numKey (i : Nat) (f : Field) : key i f ≠ numKey := by
  intro h
  have htext : numKey.toList = "tr_dhcp6c_sent_option_".toList ++ ('n' :: "um".toList) := by
    decide +kernel
  rw [← String.toList_inj, toList_key, htext, List.append_cancel_left_eq] at h
  obtain ⟨d, ds, hd⟩ : ∃ d ds, Text.decimal i = d :: ds :=
    List.exists_cons_of_ne_nil Nat.toDigits_ne_nil
  rw [hd, List.cons_append, List.cons.injEq] at h
  have hdigit : d.isDigit := Text.isDigit_decimal d (by rw [hd]; simp)
  rw [h.1] at hdigit
  exact absurd hdigit (by decide)

theorem suffix_inj {f g : Field} : f.suffix = g.suffix ↔ f = g := by
  cases f <;> cases g <;> decide

theorem key_inj {i j : Nat} {f g : Field} : key i f = key j g ↔ i = j ∧ f = g := by
  have hfirst : ∀ f : Field, f.suffix.toList.head? = none ∨ f.suffix.toList.head? = some '_' := by
    intro f
    cases f <;> decide
  have hsuffix : ∀ f : Field, ∀ c ∈ f.suffix.toList.head?, ¬ c.isDigit := by
    intro f c hc
    obtain hnone | hfirst := hfirst f
    · rw [hnone] at hc
      cases hc
    · obtain rfl : '_' = c := Option.some.inj (hfirst.symm.trans hc)
      decide
  constructor
  · intro h
    rw [← String.toList_inj, toList_key, toList_key, List.append_cancel_left_eq] at h
    obtain ⟨htake, hdrop⟩ := Text.span_digits (@Text.isDigit_decimal i) (hsuffix f)
    obtain ⟨htake', hdrop'⟩ := Text.span_digits (@Text.isDigit_decimal j) (hsuffix g)
    rw [h, htake'] at htake
    rw [h, hdrop'] at hdrop
    have hindex := congrArg (fun digits => Nat.ofDigitChars 10 digits 0) htake
    simp only [Nat.ofDigitChars_ten_toDigits] at hindex
    exact ⟨hindex.symm, suffix_inj.mp (String.toList_inj.mp hdrop.symm)⟩
  · rintro ⟨rfl, rfl⟩
    rfl

theorem colon_notMem_key (i : Nat) (f : Field) : ':' ∉ (key i f).toList := by
  rw [toList_key, List.mem_append, List.mem_append, not_or, not_or]
  refine ⟨by decide, fun h => absurd (Text.isDigit_decimal _ h) (by decide), ?_⟩
  cases f <;> decide

/-- The names that are unset are the names of no record. -/
theorem syscfgUnset_of_notMem {ns name k : String} {store : Syscfg} (hk : ':' ∉ k.toList) :
    syscfgUnset ns name store k = store k := by
  refine Function.update_of_ne ?_ _ _
  rintro rfl
  simp at hk

theorem syscfgSet_key (i j : Nat) (f g : Field) (value : String) (store : Syscfg) :
    syscfgSet (key i f) value store (key j g) =
      if j = i ∧ g = f then some value else store (key j g) := by
  simp only [syscfgSet, Function.update_apply, key_inj]

theorem syscfgSet_numKey (i : Nat) (f : Field) (value : String) (store : Syscfg) :
    syscfgSet (key i f) value store numKey = store numKey :=
  Function.update_of_ne (key_ne_numKey i f).symm _ _

theorem syscfgSet_num_key (i : Nat) (f : Field) (value : String) (store : Syscfg) :
    syscfgSet numKey value store (key i f) = store (key i f) :=
  Function.update_of_ne (key_ne_numKey i f) _ _

theorem addRecord_key (e : SentOption) (i j : Nat) (g : Field) (store : Syscfg) :
    addRecord e i store (key j g) = if j = i then some (e.text g) else store (key j g) := by
  by_cases hij : j = i
  · cases g <;> simp [addRecord, syscfgSet_key, hij]
  · simp [addRecord, syscfgSet_key, hij]

/-- A field that does not differ has the text it had. -/
theorem text_eq_of_not_differs {e old : SentOption} (hinst : e.instanceNumber = old.instanceNumber)
    {f : Field} (h : differs e old f = false) : old.text f = e.text f := by
  cases f <;> simp_all [differs, SentOption.text]

theorem setRecord_key (e old : SentOption) (i j : Nat) (g : Field) (store : Syscfg) :
    setRecord e old i store (key j g) =
      if j = i ∧ differs e old g = true then some (e.text g) else store (key j g) := by
  have hfold : ∀ (fs : List Field) (store : Syscfg),
      fs.foldl (fun store f =>
          if differs e old f then syscfgSet (key i f) (e.text f) store else store) store (key j g) =
        if j = i ∧ g ∈ fs ∧ differs e old g = true then some (e.text g) else store (key j g) := by
    intro fs
    induction fs with
    | nil => simp
    | cons f fs ih =>
      intro store
      rw [List.foldl_cons, ih]
      by_cases hwritten : j = i ∧ g ∈ fs ∧ differs e old g = true
      · simp [hwritten]
      · rw [if_neg hwritten]
        by_cases hf : differs e old f = true
        · rw [if_pos hf, syscfgSet_key]
          by_cases hhere : j = i ∧ g = f
          · obtain ⟨rfl, rfl⟩ := hhere
            simp [hf]
          · rw [if_neg hhere, if_neg]
            rintro ⟨hj, hg, hdiffers⟩
            obtain rfl | hg := List.mem_cons.mp hg
            · exact hhere ⟨hj, rfl⟩
            · exact hwritten ⟨hj, hg, hdiffers⟩
        · rw [if_neg hf, if_neg]
          rintro ⟨hj, hg, hdiffers⟩
          obtain rfl | hg := List.mem_cons.mp hg
          · exact hf hdiffers
          · exact hwritten ⟨hj, hg, hdiffers⟩
  rw [setRecord, hfold]
  cases g <;> simp [differs]

theorem setRecord_numKey (e old : SentOption) (i : Nat) (store : Syscfg) :
    setRecord e old i store numKey = store numKey := by
  have hwrite : ∀ (f : Field) (store : Syscfg),
      (if differs e old f then syscfgSet (key i f) (e.text f) store else store) numKey = store numKey := by
    intro f store
    split
    · exact syscfgSet_numKey _ _ _ _
    · rfl
  simp only [setRecord, List.foldl_cons, List.foldl_nil, hwrite]

/-! ## The mirror -/

/-- The record of an entry. -/
def Holds (store : Syscfg) (index : Nat) (e : SentOption) : Prop :=
  ∀ f, store (key index f) = some (e.text f)

/-- The records of the entries, numbered from 1. -/
def Records (store : Syscfg) (es : List SentOption) : Prop :=
  ∀ p e, es[p]? = some e → Holds store (p + 1) e

/-- The table holds the entries `es` and the store their records and their number, and no two of them
have an instance number in common. -/
structure MirrorsAs (es : List SentOption) (t : Table) : Prop where
  num : t.num = es.length
  options : t.options.take t.num = es.map some
  records : Records t.syscfg es
  count : t.syscfg numKey = some t.num.repr ∨ t.num = 0 ∧ t.syscfg numKey = none
  nodup : (es.map (·.instanceNumber)).Nodup

def Mirrors (t : Table) : Prop := ∃ es, MirrorsAs es t

/-! ### What is in memory -/

/-- The entries of the table in memory, whatever is in the store. -/
structure Lists (es : List SentOption) (t : Table) : Prop where
  num : t.num = es.length
  options : t.options.take t.num = es.map some

/-- The store as it belongs to the entries `es`. -/
structure Stores (es : List SentOption) (t : Table) : Prop where
  records : Records t.syscfg es
  count : t.syscfg numKey = some t.num.repr ∨ t.num = 0 ∧ t.syscfg numKey = none

theorem MirrorsAs.lists {es : List SentOption} {t : Table} (h : MirrorsAs es t) : Lists es t :=
  ⟨h.num, h.options⟩

theorem MirrorsAs.stores {es : List SentOption} {t : Table} (h : MirrorsAs es t) : Stores es t :=
  ⟨h.records, h.count⟩

theorem Lists.mirrors {es : List SentOption} {t : Table} (h : Lists es t) (hstores : Stores es t)
    (hnodup : (es.map (·.instanceNumber)).Nodup) : MirrorsAs es t :=
  ⟨h.num, h.options, hstores.records, hstores.count, hnodup⟩

@[simp] theorem restartIf_client (c : Bool) (t : Table) : (t.restartIf c).client = t.client := by
  cases c <;> rfl

theorem Lists.restartIf {es : List SentOption} {t : Table} (h : Lists es t) (c : Bool) :
    Lists es (t.restartIf c) := by
  cases c
  · exact h
  · exact ⟨h.num, h.options⟩

theorem Stores.restartIf {es : List SentOption} {t : Table} (h : Stores es t) (c : Bool) :
    Stores es (t.restartIf c) := by
  cases c
  · exact h
  · exact ⟨h.records, h.count⟩

theorem Lists.le_length {es : List SentOption} {t : Table} (h : Lists es t) :
    t.num ≤ t.options.length := by
  have hlength := congrArg List.length h.options
  rw [List.length_take, List.length_map, ← h.num] at hlength
  omega

theorem holds_addRecord (e : SentOption) (i : Nat) (store : Syscfg) : Holds (addRecord e i store) i e :=
  fun f => by rw [addRecord_key, if_pos rfl]

theorem Holds.addRecord {store : Syscfg} {i j : Nat} {e : SentOption} (h : Holds store i e) (hij : i ≠ j)
    (e' : SentOption) : Holds (addRecord e' j store) i e :=
  fun f => by rw [addRecord_key, if_neg hij, h f]

theorem Records.of_eq {store store' : Syscfg} {es : List SentOption} (h : Records store es)
    (hkeys : ∀ i f, store' (key i f) = store (key i f)) : Records store' es :=
  fun p e hp f => (hkeys _ f).trans (h p e hp f)

/-- One more record behind those that are there. -/
theorem Records.concat {store : Syscfg} {es : List SentOption} (h : Records store es) (e : SentOption) :
    Records (SentOptions.addRecord e (es.length + 1) store) (es ++ [e]) := by
  intro p e' hp
  by_cases hlt : p < es.length
  · rw [List.getElem?_append_left hlt] at hp
    exact (h p e' hp).addRecord (by omega) e
  · have hlast : p = es.length := by
      have hbound := (List.getElem?_eq_some_iff.mp hp).1
      simp only [List.length_append, List.length_singleton] at hbound
      omega
    subst hlast
    rw [List.getElem?_concat_length, Option.some.injEq] at hp
    exact hp ▸ holds_addRecord _ _ _

/-! ### The calls -/

theorem resize_set {n : Nat} {options : List (Option SentOption)} (h : n ≤ options.length)
    (cell : Option SentOption) :
    (Table.resize (n + 1) options).set n cell = options.take n ++ [cell] := by
  have hresize : ∃ c, Table.resize (n + 1) options = options.take n ++ [c] := by
    unfold Table.resize
    by_cases hlt : n < options.length
    · refine ⟨options[n], ?_⟩
      rw [List.take_succ_eq_append_getElem hlt, Nat.sub_eq_zero_of_le hlt, List.replicate_zero,
        List.append_nil]
    · obtain rfl : n = options.length := by omega
      refine ⟨none, ?_⟩
      rw [List.take_of_length_le (by omega), List.take_length, Nat.add_sub_cancel_left]
      rfl
  obtain ⟨c, hc⟩ := hresize
  have hwidth : (options.take n).length = n := by rw [List.length_take, Nat.min_eq_left h]
  rw [hc, List.set_append_right _ _ (by omega), hwidth, Nat.sub_self]
  rfl

/-- An entry that finds memory stands behind the others, in memory and in the store. -/
theorem Lists.addSentOption {es : List SentOption} {t : Table} (h : Lists es t) (e : SentOption) :
    let u := (t.addSentOption t.client true e).2
    Lists (es ++ [e]) u ∧ (Stores es t → Stores (es ++ [e]) u) := by
  have hset := resize_set h.le_length (some e)
  simp only [Table.addSentOption, ne_eq, not_true, if_false, if_true]
  refine ⟨Lists.restartIf ⟨?_, ?_⟩ _, fun hstores => Stores.restartIf ⟨?_, .inl ?_⟩ _⟩
  · simp [h.num]
  · simp only [Nat.add_sub_cancel]
    rw [hset, h.options, List.map_append, List.map_singleton, List.take_of_length_le]
    simp [h.num]
  · have hrecords := hstores.records.concat e
    rw [← h.num] at hrecords
    exact hrecords.of_eq fun i f => syscfgSet_num_key i f _ _
  · simp only [syscfgSet, Function.update_self]

/-- The loop finds the first entry with the number, if there is one. -/
theorem search_spec {es : List SentOption} {options : List (Option SentOption)} (inst : Nat)
    (h : options.take es.length = es.map some) :
    (∀ e ∈ es, e.instanceNumber ≠ inst) ∧ Table.search inst es.length options = some none ∨
      ∃ front old rest, es = front ++ old :: rest ∧ (∀ e ∈ front, e.instanceNumber ≠ inst) ∧
        old.instanceNumber = inst ∧
          Table.search inst es.length options = some (some (front.length, old)) := by
  induction es generalizing options with
  | nil => exact .inl ⟨fun e he => (List.not_mem_nil he).elim, rfl⟩
  | cons e es ih =>
    cases options with
    | nil => simp at h
    | cons cell options =>
      rw [List.length_cons, List.take_succ_cons, List.map_cons, List.cons.injEq] at h
      obtain ⟨rfl, htail⟩ := h
      rw [List.length_cons, Table.search]
      by_cases he : e.instanceNumber = inst
      · rw [if_pos he]
        exact .inr ⟨[], e, es, rfl, fun e he => (List.not_mem_nil he).elim, he, rfl⟩
      · rw [if_neg he]
        obtain ⟨hes, hnone⟩ | ⟨front, old, rest, rfl, hfront, hold, hfound⟩ := ih htail
        · rw [hnone]
          exact .inl ⟨List.forall_mem_cons.mpr ⟨he, hes⟩, rfl⟩
        · rw [hfound]
          exact .inr ⟨e :: front, old, rest, rfl, List.forall_mem_cons.mpr ⟨he, hfront⟩, hold, rfl⟩

/-- The search in a table that holds `es`. -/
theorem Lists.search {es : List SentOption} {t : Table} (h : Lists es t) (inst : Nat) :
    (∀ e ∈ es, e.instanceNumber ≠ inst) ∧ Table.search inst t.num t.options = some none ∨
      ∃ front old rest, es = front ++ old :: rest ∧ (∀ e ∈ front, e.instanceNumber ≠ inst) ∧
        old.instanceNumber = inst ∧
          Table.search inst t.num t.options = some (some (front.length, old)) ∧
            t.options = (front ++ old :: rest).map some ++ t.options.drop t.num := by
  have hoptions := h.options
  rw [h.num] at hoptions
  obtain ⟨hes, hnone⟩ | ⟨front, old, rest, rfl, hfront, hold, hfound⟩ := search_spec inst hoptions
  · exact .inl ⟨hes, h.num ▸ hnone⟩
  · refine .inr ⟨front, old, rest, rfl, hfront, hold, h.num ▸ hfound, ?_⟩
    rw [← h.options, List.take_append_drop]

/-- The entries behind the deleted one move down by one, in memory and in the store. -/
theorem shift_spec {stale : List (Option SentOption)} (rest : List SentOption) :
    ∀ (front : List SentOption) (x : SentOption) (t : Table),
      t.options = (front ++ x :: rest).map some ++ stale →
      ∃ y u, Table.shift rest.length front.length t = some u ∧
        u.options = (front ++ rest ++ [y]).map some ++ stale ∧
        (Records t.syscfg front → Records u.syscfg (front ++ rest)) ∧
        u.num = t.num ∧ u.client = t.client := by
  induction rest with
  | nil =>
    intro front x t hoptions
    rw [List.append_nil]
    exact ⟨x, t, rfl, hoptions, id, rfl, rfl⟩
  | cons e rest ih =>
    intro front x t hoptions
    have hnext : t.options[front.length + 1]? = some (some e) := by
      rw [hoptions]
      simp
    have hmoved : t.options.set front.length (some e) = ((front ++ [e]) ++ e :: rest).map some ++ stale := by
      rw [hoptions]
      simp
    have hfront : front.length + 1 = (front ++ [e]).length := by simp
    obtain ⟨y, u, hshift, hoptions', hrecords', hnum, hclient⟩ := ih (front ++ [e]) e
      { t with
        options := t.options.set front.length (some e)
        syscfg := addRecord e (front.length + 1) t.syscfg } hmoved
    refine ⟨y, u, ?_, ?_, fun hrecords => ?_, hnum, hclient⟩
    · rw [List.length_cons, Table.shift, hnext]
      rw [← hfront] at hshift
      exact hshift
    · rw [hoptions', List.append_assoc front, List.singleton_append]
    · have hbehind := hrecords' (hrecords.concat e)
      rwa [List.append_assoc, List.singleton_append] at hbehind

/-- The first entry with the number goes, in memory and in the store; without one nothing happens. -/
theorem Lists.delSentOption {es : List SentOption} {t : Table} (h : Lists es t) (inst : Nat) :
    ∃ st u, t.delSentOption t.client inst = some (st, u) ∧ u.client = t.client ∧
      Lists (es.eraseP (·.instanceNumber = inst)) u ∧
        (Stores es t → Stores (es.eraseP (·.instanceNumber = inst)) u) := by
  unfold Table.delSentOption
  rw [if_neg (not_not_intro rfl)]
  obtain ⟨hes, hnone⟩ | ⟨front, old, rest, rfl, hfront, hold, hfound, hsplit⟩ := h.search inst
  · rw [hnone, List.eraseP_of_forall_not fun e he => by simpa using hes e he]
    exact ⟨_, _, rfl, rfl, h, id⟩
  · obtain ⟨y, u, hshift, hoptions', hrecords', hnum, hclient⟩ := shift_spec rest front old t hsplit
    have hlength : t.num = front.length + rest.length + 1 := by
      rw [h.num, List.length_append, List.length_cons, Nat.add_assoc]
    have hbehind : front.length + rest.length + 1 - 1 - front.length = rest.length := by omega
    have herase : (front ++ old :: rest).eraseP (·.instanceNumber = inst) = front ++ rest := by
      rw [List.eraseP_append_right _ fun e he => by simpa using hfront e he,
        List.eraseP_cons_of_pos (by simpa using hold)]
    rw [hfound, herase]
    simp only [hlength, hbehind, hshift, Option.map_some]
    refine ⟨_, _, rfl, by simp [hclient], Lists.restartIf ⟨?_, ?_⟩ _,
      fun hstores => Stores.restartIf ⟨?_, .inl ?_⟩ _⟩
    · simp only [hnum, hlength, List.length_append]
      omega
    · simp only [hnum, hlength, hoptions']
      rw [List.map_append, List.append_assoc, List.take_append_of_le_length (by simp),
        List.take_of_length_le (by simp)]
    · have hrecords : Records t.syscfg front := fun p e hp =>
        hstores.records p e (List.getElem?_append_left (List.getElem?_eq_some_iff.mp hp).1 ▸ hp)
      refine (hrecords' hrecords).of_eq fun i f => ?_
      simp only [syscfgSet_num_key, List.foldl_cons, List.foldl_nil,
        syscfgUnset_of_notMem (colon_notMem_key i f)]
    · simp only [syscfgSet, Function.update_self]

/-- The record of a changed entry gets the fields that differ; the other records stay. -/
theorem Records.setRecord {store : Syscfg} {front rest : List SentOption} {old e : SentOption}
    (h : Records store (front ++ old :: rest)) (hinst : e.instanceNumber = old.instanceNumber) :
    Records (setRecord e old (front.length + 1) store) (front ++ e :: rest) := by
  intro p e' hp f
  rw [setRecord_key]
  by_cases hhere : p = front.length
  · subst hhere
    obtain rfl : e = e' := by simpa using hp
    have hkept := h front.length old (by simp) f
    by_cases hdiffers : differs e old f = true
    · rw [if_pos ⟨rfl, hdiffers⟩]
    · have htext := text_eq_of_not_differs hinst (Bool.not_eq_true _ ▸ hdiffers)
      rw [if_neg fun hboth => hdiffers hboth.2, hkept, htext]
  · have hother : (front ++ old :: rest)[p]? = some e' := by
      rw [← hp]
      obtain hlt | hgt := Nat.lt_or_gt_of_ne hhere
      · rw [List.getElem?_append_left hlt, List.getElem?_append_left hlt]
      · rw [List.getElem?_append_right (by omega), List.getElem?_append_right (by omega),
          show p - front.length = p - front.length - 1 + 1 by omega, List.getElem?_cons_succ,
          List.getElem?_cons_succ]
    rw [if_neg fun hboth => hhere (by omega)]
    exact h p e' hother f

/-- The first entry with the number of `e` becomes `e`. -/
def replaceFirst (e : SentOption) (es : List SentOption) : List SentOption :=
  es.set (es.findIdx (·.instanceNumber = e.instanceNumber)) e

theorem replaceFirst_of_forall_ne {e : SentOption} {es : List SentOption}
    (h : ∀ old ∈ es, old.instanceNumber ≠ e.instanceNumber) : replaceFirst e es = es := by
  unfold replaceFirst
  rw [List.findIdx_eq_length.mpr fun old hold => by simpa using h old hold]
  exact List.set_eq_of_length_le le_rfl

theorem replaceFirst_append {e old : SentOption} {front rest : List SentOption}
    (hfront : ∀ x ∈ front, x.instanceNumber ≠ e.instanceNumber)
    (hold : old.instanceNumber = e.instanceNumber) :
    replaceFirst e (front ++ old :: rest) = front ++ e :: rest := by
  have hindex : (front ++ old :: rest).findIdx (·.instanceNumber = e.instanceNumber) = front.length := by
    rw [List.findIdx_append, List.findIdx_eq_length.mpr fun x hx => by simpa using hfront x hx]
    simp [List.findIdx_cons, hold]
  unfold replaceFirst
  rw [hindex, List.set_append_right _ _ le_rfl, Nat.sub_self]
  rfl

theorem map_instanceNumber_replaceFirst (e : SentOption) (es : List SentOption) :
    (replaceFirst e es).map (·.instanceNumber) = es.map (·.instanceNumber) := by
  unfold replaceFirst
  refine List.ext_getElem (by simp) fun i hi _ => ?_
  simp only [List.getElem_map, List.getElem_set]
  split
  next hindex =>
    subst hindex
    rw [List.length_map, List.length_set] at hi
    have hfound := List.findIdx_getElem (w := hi)
    exact (of_decide_eq_true hfound).symm
  next => rfl

/-- An entry that is changed keeps its number and its place. -/
theorem Lists.setSentOption {es : List SentOption} {t : Table} (h : Lists es t) (e : SentOption) :
    ∃ st u, t.setSentOption e = some (st, u) ∧ u.client = t.client ∧ Lists (replaceFirst e es) u ∧
      (Stores es t → Stores (replaceFirst e es) u) := by
  unfold Table.setSentOption
  obtain ⟨hes, hnone⟩ | ⟨front, old, rest, rfl, hfront, hold, hfound, hsplit⟩ :=
    h.search e.instanceNumber
  · rw [hnone, replaceFirst_of_forall_ne hes]
    exact ⟨_, _, rfl, rfl, h, id⟩
  · rw [hfound, replaceFirst_append hfront hold]
    refine ⟨_, _, rfl, by simp, Lists.restartIf ⟨?_, ?_⟩ _,
      fun hstores => Stores.restartIf ⟨hstores.records.setRecord hold.symm, ?_⟩ _⟩
    · simp [h.num]
    · have hset : t.options.set front.length (some e) =
          (front ++ e :: rest).map some ++ t.options.drop t.num := by
        conv_lhs => rw [hsplit]
        simp
      have hlength : (front ++ old :: rest).length = ((front ++ e :: rest).map some).length := by simp
      simp only [hset, h.num]
      rw [List.take_append_of_le_length (by omega), List.take_of_length_le (by omega)]
    · simp only [setRecord_numKey]
      exact hstores.count

/-! ## Runs -/

inductive Call where
  | add (client : Nat) (allocates : Bool) (e : SentOption)
  | del (client inst : Nat)
  | set (e : SentOption)

def Call.perform : Call → Table → Option (Status × Table)
  | .add client allocates e, t => some (t.addSentOption client allocates e)
  | .del client inst, t => t.delSentOption client inst
  | .set e, t => t.setSentOption e

/-- The calls, one after the other. -/
def calls : Labelled Call Table where
  step c t u := ∃ st, c.perform t = some (st, u)

/-- An entry that is added to the client finds memory, and no entry has its instance number. -/
def Fresh : Call → Table → Prop
  | .add client allocates e, t => client = t.client →
      allocates = true ∧ ∀ old, some old ∈ t.options.take t.num → old.instanceNumber ≠ e.instanceNumber
  | _, _ => True

theorem Mirrors.perform {t : Table} (h : Mirrors t) {c : Call} (hfresh : Fresh c t) :
    ∃ st u, c.perform t = some (st, u) ∧ Mirrors u := by
  obtain ⟨es, h⟩ := h
  cases c with
  | add client allocates e =>
    refine ⟨(t.addSentOption client allocates e).1, (t.addSentOption client allocates e).2, rfl, ?_⟩
    by_cases hclient : client = t.client
    · obtain ⟨rfl, hnew⟩ := hfresh hclient
      subst hclient
      obtain ⟨hlists, hstores⟩ := h.lists.addSentOption e
      refine ⟨_, hlists.mirrors (hstores h.stores) ?_⟩
      rw [List.map_append, List.map_singleton, List.nodup_append]
      refine ⟨h.nodup, List.nodup_singleton _, ?_⟩
      simp only [List.mem_singleton, forall_eq]
      rintro inst hinst rfl
      obtain ⟨old, hold, heq⟩ := List.mem_map.mp hinst
      exact hnew old (h.options ▸ List.mem_map_of_mem hold) heq
    · have hother : t.addSentOption client allocates e = (.failure, t) := if_pos hclient
      rw [hother]
      exact ⟨es, h⟩
  | del client inst =>
    by_cases hclient : client = t.client
    · subst hclient
      obtain ⟨st, u, hdel, -, hlists, hstores⟩ := h.lists.delSentOption inst
      have hsub := (List.eraseP_sublist (p := (·.instanceNumber = inst)) (l := es)).map
        (·.instanceNumber)
      exact ⟨st, u, hdel, _, hlists.mirrors (hstores h.stores) (hsub.nodup h.nodup)⟩
    · exact ⟨.failure, t, if_pos hclient, es, h⟩
  | set e =>
    obtain ⟨st, u, hset, -, hlists, hstores⟩ := h.lists.setSentOption e
    refine ⟨st, u, hset, _, hlists.mirrors (hstores h.stores) ?_⟩
    rw [map_instanceNumber_replaceFirst]
    exact h.nodup

/-- After any sequence of calls in which each added entry finds memory and is new, the store mirrors the
table, and every such call still can be made. -/
theorem mirrors_run {s t : Table} {cs : List Call} (hs : Mirrors s)
    (hrun : (calls.restrict Fresh).Run s cs t) :
    Mirrors t ∧ ∀ c, Fresh c t → ∃ st u, c.perform t = some (st, u) := by
  have ht : Mirrors t := hrun.invariant (K := fun _ => True) (fun _ _ => trivial) hs
    fun c u v _ hu hstep => by
      obtain ⟨hfresh, st, hperform⟩ := hstep
      obtain ⟨st', v', hperform', hv⟩ := hu.perform hfresh
      rw [hperform] at hperform'
      obtain ⟨-, rfl⟩ : st = st' ∧ v = v' := by simpa using hperform'
      exact hv
  refine ⟨ht, fun c hfresh => ?_⟩
  obtain ⟨st, u, hperform, -⟩ := ht.perform hfresh
  exact ⟨st, u, hperform⟩

namespace Example

/-- The table of client 1, with nothing in it. -/
def empty : Table := { client := 1 }

theorem empty_mirrors : Mirrors empty :=
  ⟨[], rfl, rfl, fun p e hp => by simp at hp, .inr ⟨rfl, rfl⟩, List.nodup_nil⟩

def vendorClass : SentOption :=
  { instanceNumber := 1, aliasName := "cpe-option-1", bEnabled := true, tag := 16, value := "0000" }

def userClass : SentOption :=
  { instanceNumber := 2, aliasName := "cpe-option-2", bEnabled := false, tag := 15, value := "0001" }

/-- Two entries are added, one of them is changed and the other deleted; the last call stands first. -/
def changes : List Call :=
  [.del 1 1, .set { userClass with bEnabled := true }, .add 1 true userClass, .add 1 true vendorClass]

def added : Table := (empty.addSentOption 1 true vendorClass).2

end Example

open Example in
theorem mirrors_added : ∃ t, (calls.restrict Fresh).Run empty changes t ∧ t.num = 1 ∧ Mirrors t ∧
    ∀ c, Fresh c t → ∃ st u, c.perform t = some (st, u) := by
  have hfirst : (calls.restrict Fresh).Run empty [.add 1 true vendorClass] added :=
    .cons .nil ⟨fun _ => ⟨rfl, fun old hold => by simp [empty] at hold⟩, .success, rfl⟩
  have hnew : Fresh (.add 1 true userClass) added := by
    refine fun _ => ⟨rfl, fun old hold => ?_⟩
    obtain rfl : old = vendorClass := Option.some.inj (List.mem_singleton.mp hold)
    decide
  have hboth : (calls.restrict Fresh).Run empty [.add 1 true userClass, .add 1 true vendorClass] _ :=
    .cons hfirst ⟨hnew, .success, rfl⟩
  have hrun : (calls.restrict Fresh).Run empty changes _ :=
    .cons (.cons hboth ⟨trivial, .success, rfl⟩) ⟨trivial, .success, rfl⟩
  exact ⟨_, hrun, rfl, mirrors_run empty_mirrors hrun⟩

open Example in
/-- Without memory for the entry the number has been counted up all the same. -/
theorem unallocated_not_mirrored :
    ¬ ∀ (s t : Table) (cs : List Call), Mirrors s → calls.Run s cs t → Mirrors t := by
  intro h
  obtain ⟨es, hmirrors⟩ := h empty (empty.addSentOption 1 false vendorClass).2 [.add 1 false vendorClass]
    empty_mirrors (.cons .nil ⟨.failure, rfl⟩)
  have hlength := congrArg List.length hmirrors.options
  rw [List.length_map, ← hmirrors.num] at hlength
  exact absurd hlength (by decide)

end WanManager.SentOptions
