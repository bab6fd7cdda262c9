import Mathlib.Data.List.Dedup
import WanManager.SentOptions

/-! # The sent options in the data model

Above the table of the sent options stands the list of the data model, which also has the entries that
were added and not yet committed. A request sets parameters of some entries; the entries are then
validated, and all of them committed or all rolled back. The handlers are those of
`wanmgr_dml_dhcpv6.c`. An entry is known by its instance number, as its handle stands for it. Texts are
copied into fields of fixed size, and nothing looks whether there is room. -/

namespace WanManager.SentOptions
open Concurrency

namespace DataModel

/-! ## The list -/

/-- `CONTEXT_LINK_OBJECT`, with the option it is about. -/
structure Link where
  entry : SentOption
  bNew : Bool

def Link.number (l : Link) : Nat := l.entry.instanceNumber

/-- `DHCPCV6_CONTEXT_LINK_OBJECT` of the client, above the table of the options. -/
structure Client where
  /-- `Cfg.InstanceNumber` -/
  instanceNumber : Nat
  bNew : Bool := false
  maxInstanceOfSent : Nat := 0
  aliasOfSent : String := ""
  sentOptionList : List Link := []
  table : Table

def Client.link? (c : Client) (inst : Nat) : Option Link := c.sentOptionList.find? (·.number == inst)

def Client.modifyLink (inst : Nat) (f : Link → Link) (c : Client) : Client :=
  { c with sentOptionList := c.sentOptionList.map fun l => if l.number = inst then f l else l }

def Client.remove (inst : Nat) (c : Client) : Client :=
  { c with sentOptionList := c.sentOptionList.filter (·.number ≠ inst) }

/-- `SListPushEntryByInsNum` -/
def pushEntryByInsNum (l : Link) : List Link → List Link
  | [] => [l]
  | l' :: rest => if l.number < l'.number then l :: l' :: rest else l' :: pushEntryByInsNum l rest

/-! ## The handlers -/

/-- `DML_ALIAS_NAME_LENGTH`, and `COSA_DML_DHCPV6_ALIAS` for the alias that is kept. -/
def aliasLength : Nat := 64

/-- The size of `Value`. -/
def valueLength : Nat := 255

/-- There is room for the text and its terminator. -/
def Room (size : Nat) (s : String) : Prop := s.utf8ByteSize < size

instance (size : Nat) (s : String) : Decidable (Room size s) := inferInstanceAs (Decidable (_ < _))

/-- `AnscCopyString`; `none` is a write past the end of the field. -/
def copyString (size : Nat) (s : String) : Option String := if Room size s then some s else none

/-- What `%d` prints of a `ULONG`: its low 32 bits, as an `int`. -/
def printed (n : Nat) : String := (BitVec.ofNat 32 n).toInt.repr

/-- The counter of a `ULONG` comes round to 1. -/
def nextInstance (width : Nat) (c : Client) : Nat :=
  if (c.maxInstanceOfSent + 1) % 2 ^ width = 0 then 1 else (c.maxInstanceOfSent + 1) % 2 ^ width

/-- `SentOption1_AddEntry` -/
def addEntry (width : Nat) (c : Client) : Client :=
  let n := nextInstance width c
  { c with
    maxInstanceOfSent := n
    sentOptionList := pushEntryByInsNum
      { entry := ⟨n, "SentOption" ++ printed n, false, 0, ""⟩, bNew := true } c.sentOptionList }

/-- `SentOption1_DelEntry`; `none` is a search of the table in memory nothing was written to. -/
def delEntry (inst : Nat) (c : Client) : Option Client :=
  match c.link? inst with
  | none => some c
  | some l =>
    if l.bNew then some (c.remove inst)
    else (c.table.delSentOption c.instanceNumber inst).map fun r =>
      if r.1 = .success then { c.remove inst with table := r.2 } else { c with table := r.2 }

inductive Edit where
  | enable (b : Bool)
  | tag (n : Nat)
  | aliasName (s : String)
  | value (s : String)

/-- What `SentOption1_SetParamBoolValue` and its like write; `Tag` is cast to a `UCHAR`. -/
def Edit.write : Edit → SentOption → Option SentOption
  | .enable b, e => some { e with bEnabled := b }
  | .tag n, e => some { e with tag := n % 256 }
  | .aliasName s, e => (copyString aliasLength s).map fun s => { e with aliasName := s }
  | .value s, e => (copyString valueLength s).map fun s => { e with value := s }

/-- The alias an entry had is kept for the whole list. -/
def Edit.backup (edit : Edit) (l : Link) (c : Client) : Option String :=
  match edit with
  | .aliasName _ => copyString aliasLength l.entry.aliasName
  | _ => some c.aliasOfSent

def setParam (inst : Nat) (edit : Edit) (c : Client) : Option Client :=
  match c.link? inst with
  | none => some c
  | some l => (edit.backup l c).bind fun kept => (edit.write l.entry).map fun e =>
    { c.modifyLink inst (fun l => { l with entry := e }) with aliasOfSent := kept }

/-- The parameters of a request, one after the other. -/
def setParams : List (Nat × Edit) → Client → Option Client
  | [], c => some c
  | (inst, edit) :: edits, c => (setParam inst edit c).bind (setParams edits)

/-- The parameter in which two entries must differ and do not. -/
def conflict? (e e' : SentOption) : Option String :=
  if e.aliasName = e'.aliasName then some "Alias"
  else if e.bEnabled ∧ e'.bEnabled ∧ e.tag = e'.tag then some "Tag"
  else none

/-- `SentOption1_Validate`, with the name of the parameter that is not valid. -/
def validate (c : Client) (inst : Nat) : Bool × String :=
  match c.link? inst with
  | none => (false, "")
  | some l =>
    if c.bNew then (false, "")
    else match (c.sentOptionList.filter (·.number ≠ inst)).findSome? (conflict? l.entry ·.entry) with
      | some name => (false, name)
      | none => (true, "")

/-- `DHCPV6_SENTOPTION_SET_DEFAULTVALUE` -/
def setDefaultValue (e : SentOption) : SentOption := { e with bEnabled := false, tag := 0, value := "" }

/-- The alias that was kept is written back, into a field of the same size. -/
def Client.restoreAlias (c : Client) (e : SentOption) : SentOption :=
  if c.aliasOfSent = "" then e else { e with aliasName := c.aliasOfSent }

/-- `SentOption1_Commit`; the table reports success for every change of an option. -/
def commit (allocates : Bool) (inst : Nat) (c : Client) : Option Client :=
  match c.link? inst with
  | none => some c
  | some l =>
    if l.bNew then
      let r := c.table.addSentOption c.instanceNumber allocates l.entry
      let f : Link → Link := fun l =>
        if r.1 = .success then { l with bNew := false }
        else { l with entry := c.restoreAlias (setDefaultValue l.entry) }
      some { c.modifyLink inst f with table := r.2, aliasOfSent := "" }
    else (c.table.setSentOption l.entry).map fun r => { c with table := r.2, aliasOfSent := "" }

/-- `WanMgr_DmlDhcpv6cGetSentOptionbyInsNum` -/
def getSentOptionByInsNum (t : Table) (e : SentOption) : Option SentOption :=
  (Table.search e.instanceNumber t.num t.options).map fun found => (found.map (·.2)).getD e

/-- `SentOption1_Rollback` -/
def rollback (inst : Nat) (c : Client) : Option Client :=
  match c.link? inst with
  | none => some c
  | some l =>
    let e := c.restoreAlias l.entry
    (if l.bNew then some (setDefaultValue e) else getSentOptionByInsNum c.table e).map fun e' =>
      { c.modifyLink inst (fun l => { l with entry := e' }) with aliasOfSent := "" }

def commitAll (allocates : Nat → Bool) : List Nat → Client → Option Client
  | [], c => some c
  | inst :: entries, c => (commit (allocates inst) inst c).bind (commitAll allocates entries)

def rollbackAll : List Nat → Client → Option Client
  | [], c => some c
  | inst :: entries, c => (rollback inst c).bind (rollbackAll entries)

def validateAll (entries : List Nat) (c : Client) : Bool := entries.all fun inst => (validate c inst).1

/-- The entries of a request. -/
def touched (edits : List (Nat × Edit)) : List Nat := (edits.map (·.1)).dedup

/-- The parameters of a request are set, and its entries validated; then all are committed, or none. -/
def request (allocates : Nat → Bool) (edits : List (Nat × Edit)) (c : Client) : Option Client :=
  (setParams edits c).bind fun c₁ =>
    if validateAll (touched edits) c₁ then commitAll allocates (touched edits) c₁
    else rollbackAll (touched edits) c₁

inductive Act where
  | add
  | del (inst : Nat)
  | request (allocates : Nat → Bool) (edits : List (Nat × Edit))

def Act.perform (width : Nat) : Act → Client → Option Client
  | .add, c => some (addEntry width c)
  | .del inst, c => delEntry inst c
  | .request allocates edits, c => DataModel.request allocates edits c

/-- The data model and the table below it. -/
def dataModel (width : Nat) : Labelled Act Client where
  step a c c' := a.perform width c = some c'

/-! ## What every request keeps -/

/-- The rows of the table, and their records in syscfg, are the committed entries; no two of these have
an alias in common, or a tag if they are enabled. Every alias has room in its field. -/
structure Consistent (c : Client) : Prop where
  rows : ∃ es, MirrorsAs es c.table ∧ ∀ e, e ∈ es ↔ ⟨e, false⟩ ∈ c.sentOptionList
  client : c.table.client = c.instanceNumber
  nodup : (c.sentOptionList.map Link.number).Nodup
  counted : ∀ l ∈ c.sentOptionList, l.number ≤ c.maxInstanceOfSent
  fits : ∀ l ∈ c.sentOptionList, Room aliasLength l.entry.aliasName
  kept : Room aliasLength c.aliasOfSent
  apart : ∀ e e', ⟨e, false⟩ ∈ c.sentOptionList → ⟨e', false⟩ ∈ c.sentOptionList →
    e.instanceNumber ≠ e'.instanceNumber → conflict? e e' = none

/-- There is room for the text of a parameter. -/
def Edit.Fits : Edit → Prop
  | .aliasName s => Room aliasLength s
  | .value s => Room valueLength s
  | .enable _ | .tag _ => True

/-- The counter of the instance numbers does not come round, there is memory for what is committed, and
room for the texts that are set. -/
def Served (width : Nat) : Act → Client → Prop
  | .add, c => c.maxInstanceOfSent + 1 < 2 ^ width
  | .del _, _ => True
  | .request allocates edits, _ => (∀ inst, allocates inst = true) ∧ ∀ e ∈ edits, e.2.Fits

/-- What the table has of an entry, whose committed value may have been set in the meantime. -/
structure Backs (set : List Nat) (es : List SentOption) (l : Link) : Prop where
  fresh : l.bNew = true → ∀ e ∈ es, e.instanceNumber ≠ l.number
  fits : Room aliasLength l.entry.aliasName
  row : l.bNew = false → ∃ e ∈ es, e.instanceNumber = l.number ∧ Room aliasLength e.aliasName ∧
    (l.number ∉ set → e = l.entry)

/-- The table has the rows `es`, which are the committed entries as they were before some were set. -/
structure Backed (set : List Nat) (es : List SentOption) (c : Client) : Prop where
  mirrors : MirrorsAs es c.table
  client : c.table.client = c.instanceNumber
  nodup : (c.sentOptionList.map Link.number).Nodup
  counted : ∀ l ∈ c.sentOptionList, l.number ≤ c.maxInstanceOfSent
  kept : Room aliasLength c.aliasOfSent
  links : ∀ l ∈ c.sentOptionList, Backs set es l
  covered : ∀ e ∈ es, ∃ l ∈ c.sentOptionList, l.number = e.instanceNumber

/-! ### Entries of the list -/

section

variable {c c' : Client} {l : Link} {ls : List Link} {inst : Nat} {set set' : List Nat}
  {es es' : List SentOption} {f : Link → Link}

theorem link?_eq_some (h : c.link? inst = some l) : l ∈ c.sentOptionList ∧ l.number = inst :=
  ⟨List.mem_of_find?_eq_some h, by simpa using List.find?_some h⟩

theorem link?_eq_none (h : c.link? inst = none) : ∀ l ∈ c.sentOptionList, l.number ≠ inst := by
  simpa [Client.link?] using h

/-- The number tells the entries apart. -/
theorem eq_of_number (h : (ls.map Link.number).Nodup) (hl : l ∈ ls) {l' : Link} (hl' : l' ∈ ls)
    (hnumber : l.number = l'.number) : l = l' :=
  List.inj_on_of_nodup_map h hl hl' hnumber

theorem mem_modifyLink (h : l ∈ (c.modifyLink inst f).sentOptionList) :
    ∃ l' ∈ c.sentOptionList, l = if l'.number = inst then f l' else l' := by
  obtain ⟨l', hl', rfl⟩ := List.mem_map.mp h
  exact ⟨l', hl', rfl⟩

theorem numbers_modifyLink (hf : ∀ l, l.number = inst → (f l).number = inst) :
    (c.modifyLink inst f).sentOptionList.map Link.number = c.sentOptionList.map Link.number := by
  unfold Client.modifyLink
  rw [List.map_map]
  refine List.map_congr_left fun l _ => ?_
  rw [Function.comp_apply]
  split
  next hinst => exact (hf l hinst).trans hinst.symm
  next => rfl

theorem Backs.congr (h : Backs set es l) (hes : ∀ e, e.instanceNumber = l.number → (e ∈ es' ↔ e ∈ es))
    (hset : l.number ∉ set' → l.number ∉ set) : Backs set' es' l where
  fresh hnew e he hnumber := h.fresh hnew e ((hes e hnumber).mp he) hnumber
  fits := h.fits
  row hnew := by
    obtain ⟨e, he, hnumber, hfits, hentry⟩ := h.row hnew
    exact ⟨e, (hes e hnumber).mpr he, hnumber, hfits, fun hn => hentry (hset hn)⟩

theorem Backed.congr (h : Backed set es c) (hset : ∀ l ∈ c.sentOptionList, l.number ∉ set' → l.number ∉ set) :
    Backed set' es c :=
  { h with links := fun l hl => (h.links l hl).congr (fun _ _ => Iff.rfl) (hset l hl) }

/-- What changes one entry, and in the table its row, leaves the others as they are. -/
theorem Backed.modify (h : Backed set es c) (hl : c.link? inst = some l)
    (hf : ∀ l, l.number = inst → (f l).number = inst)
    (hlist : c'.sentOptionList = (c.modifyLink inst f).sentOptionList)
    (hmax : c'.maxInstanceOfSent = c.maxInstanceOfSent) (hmirrors : MirrorsAs es' c'.table)
    (hclient : c'.table.client = c'.instanceNumber) (hkept : Room aliasLength c'.aliasOfSent)
    (hoff : ∀ e, e.instanceNumber ≠ inst → (e ∈ es' ↔ e ∈ es)) (hset : ∀ n, n ≠ inst → n ∉ set' → n ∉ set)
    (hback : Backs set' es' (f l)) : Backed set' es' c' where
  mirrors := hmirrors
  client := hclient
  nodup := by
    rw [hlist, numbers_modifyLink hf]
    exact h.nodup
  counted := by
    have hcounted : ∀ n ∈ c'.sentOptionList.map Link.number, n ≤ c'.maxInstanceOfSent := by
      rw [hlist, numbers_modifyLink hf, hmax]
      exact List.forall_mem_map.mpr h.counted
    exact List.forall_mem_map.mp hcounted
  kept := hkept
  links := by
    intro l' hl'
    rw [hlist] at hl'
    obtain ⟨k, hk, rfl⟩ := mem_modifyLink hl'
    obtain ⟨hmem, hnumber⟩ := link?_eq_some hl
    split
    next hinst =>
      rw [eq_of_number h.nodup hk hmem (hinst.trans hnumber.symm)]
      exact hback
    next hinst => exact (h.links k hk).congr (fun e he => hoff e (he ▸ hinst)) (hset _ hinst)
  covered := by
    have hnumbers : ∀ n, (∃ l ∈ c.sentOptionList, l.number = n) → ∃ l ∈ c'.sentOptionList, l.number = n := by
      intro n hn
      have hmem := List.mem_map.mpr hn
      rw [← numbers_modifyLink hf, ← hlist] at hmem
      exact List.mem_map.mp hmem
    intro e he
    refine hnumbers _ ?_
    by_cases hinst : e.instanceNumber = inst
    · obtain ⟨hmem, hnumber⟩ := link?_eq_some hl
      exact ⟨l, hmem, hnumber.trans hinst.symm⟩
    · exact h.covered e ((hoff e hinst).mp he)

/-! ### Parameters are set -/

theorem room_empty : Room aliasLength "" := by decide

theorem copyString_of_room {size : Nat} {s : String} (h : Room size s) : copyString size s = some s :=
  if_pos h

/-- What is set changes no number, and an alias still fits. -/
theorem Edit.Fits.write {edit : Edit} (h : edit.Fits) {e : SentOption} (he : Room aliasLength e.aliasName) :
    ∃ e', edit.write e = some e' ∧ e'.instanceNumber = e.instanceNumber ∧
      Room aliasLength e'.aliasName := by
  cases edit with
  | enable b => exact ⟨_, rfl, rfl, he⟩
  | tag n => exact ⟨_, rfl, rfl, he⟩
  | aliasName s =>
    have hcopy := copyString_of_room h
    exact ⟨{ e with aliasName := s }, by simp only [Edit.write, hcopy, Option.map_some], rfl, h⟩
  | value s =>
    have hcopy := copyString_of_room h
    exact ⟨{ e with value := s }, by simp only [Edit.write, hcopy, Option.map_some], rfl, he⟩

theorem exists_backup (edit : Edit) (hl : Room aliasLength l.entry.aliasName)
    (hc : Room aliasLength c.aliasOfSent) :
    ∃ kept, edit.backup l c = some kept ∧ Room aliasLength kept := by
  cases edit with
  | aliasName s => exact ⟨_, copyString_of_room hl, hl⟩
  | enable _ | tag _ | value _ => exact ⟨_, rfl, hc⟩

/-- There is room for a text of the data model, and the other entries stay as they are. -/
theorem Backed.setParam (h : Backed set es c) (hinst : inst ∈ set) {edit : Edit} (hedit : edit.Fits) :
    ∃ c', setParam inst edit c = some c' ∧ Backed set es c' ∧ c'.table = c.table ∧
      ∀ l ∈ c'.sentOptionList, l.number ≠ inst → l ∈ c.sentOptionList := by
  unfold DataModel.setParam
  cases hl : c.link? inst with
  | none => exact ⟨c, rfl, h, rfl, fun l hl _ => hl⟩
  | some l =>
    obtain ⟨hmem, hnumber⟩ := link?_eq_some hl
    have hback := h.links l hmem
    obtain ⟨kept, hbackup, hkept⟩ := exists_backup edit hback.fits h.kept
    obtain ⟨e', hwrite, hsame, hfits⟩ := hedit.write hback.fits
    have hsame' : Link.number { l with entry := e' } = l.number := hsame
    refine ⟨{ c.modifyLink inst (fun l => { l with entry := e' }) with aliasOfSent := kept },
      by simp only [hbackup, hwrite, Option.bind_some, Option.map_some], ?_, rfl, fun k hk hne => ?_⟩
    · refine h.modify hl (f := fun l => { l with entry := e' }) (fun _ _ => hsame.trans hnumber) rfl rfl
        h.mirrors h.client hkept (fun _ _ => Iff.rfl) (fun _ _ => id)
        ⟨fun hnew => hsame' ▸ hback.fresh hnew, hfits, fun hnew => ?_⟩
      obtain ⟨e, he, heq, hrow, -⟩ := hback.row hnew
      exact ⟨e, he, hsame' ▸ heq, hrow, fun hn => absurd hinst (by rwa [hsame', hnumber] at hn)⟩
    · obtain ⟨k', hk', rfl⟩ := mem_modifyLink hk
      split at hne
      next => exact absurd (hsame.trans hnumber) hne
      next hother => rwa [if_neg hother]

theorem Backed.setParams (h : Backed set es c) {edits : List (Nat × Edit)} (hset : ∀ e ∈ edits, e.1 ∈ set)
    (hedits : ∀ e ∈ edits, e.2.Fits) :
    ∃ c', setParams edits c = some c' ∧ Backed set es c' ∧ c'.table = c.table ∧
      ∀ l ∈ c'.sentOptionList, l.number ∉ edits.map (·.1) → l ∈ c.sentOptionList := by
  induction edits generalizing c with
  | nil => exact ⟨c, rfl, h, rfl, fun l hl _ => hl⟩
  | cons e edits ih =>
    obtain ⟨c₁, hsetParam, h₁, htable₁, hothers₁⟩ :=
      h.setParam (hset e List.mem_cons_self) (hedits e List.mem_cons_self)
    obtain ⟨c', hall, h', htable', hothers'⟩ := ih h₁ (fun e he => hset e (List.mem_cons_of_mem _ he))
      fun e he => hedits e (List.mem_cons_of_mem _ he)
    refine ⟨c', ?_, h', htable'.trans htable₁, fun l hl hn => ?_⟩
    · rw [DataModel.setParams, hsetParam, Option.bind_some, hall]
    · rw [List.map_cons, List.mem_cons, not_or] at hn
      exact hothers₁ l (hothers' l hl hn.2) hn.1

/-! ### Entries are committed -/

/-- The row of an entry that was committed before. -/
theorem Backed.row (h : Backed set es c) (hl : c.link? inst = some l) (hnew : l.bNew = false) :
    ∃ front old rest, es = front ++ old :: rest ∧ (∀ e ∈ front, e.instanceNumber ≠ inst) ∧
      old.instanceNumber = inst ∧ Room aliasLength old.aliasName ∧
        Table.search inst c.table.num c.table.options = some (some (front.length, old)) := by
  obtain ⟨hmem, hnumber⟩ := link?_eq_some hl
  obtain ⟨e, he, heq, hfits, -⟩ := (h.links l hmem).row hnew
  obtain ⟨hes, -⟩ | ⟨front, old, rest, hsplit, hfront, hold, hfound, -⟩ := h.mirrors.lists.search inst
  · exact absurd (heq.trans hnumber) (hes e he)
  · have hmem : old ∈ es := by simp [hsplit]
    have hsame : e = old :=
      List.inj_on_of_nodup_map h.mirrors.nodup he hmem ((heq.trans hnumber).trans hold.symm)
    exact ⟨front, old, rest, hsplit, hfront, hold, hsame ▸ hfits, hfound⟩

/-- What an entry is when the entries `set` have been committed. -/
def settle (set : List Nat) (l : Link) : Link := if l.number ∈ set then { l with bNew := false } else l

@[simp] theorem entry_settle (set : List Nat) (l : Link) : (settle set l).entry = l.entry := by
  unfold settle
  split <;> rfl

theorem settle_settle (inst : Nat) (set : List Nat) (l : Link) :
    settle set (settle [inst] l) = settle (inst :: set) l := by
  by_cases hinst : l.number = inst
  · have hsettled : settle [inst] l = { l with bNew := false } := if_pos (List.mem_singleton.mpr hinst)
    have hboth : settle (inst :: set) l = { l with bNew := false } := if_pos (List.mem_cons.mpr (.inl hinst))
    rw [hsettled, hboth, settle]
    split <;> rfl
  · simp [settle, hinst]

theorem map_settle_of (h : ∀ l ∈ ls, l.number ∈ set → l.bNew = false) : ls.map (settle set) = ls := by
  refine (List.map_congr_left fun l hl => ?_).trans (List.map_id _)
  unfold settle
  split
  next hset => rw [← h l hl hset, id_def]
  next => rfl

theorem addSentOption_success (t : Table) (e : SentOption) : (t.addSentOption t.client true e).1 = .success := by
  simp [Table.addSentOption]

theorem client_addSentOption (t : Table) (e : SentOption) :
    (t.addSentOption t.client true e).2.client = t.client := by
  simp [Table.addSentOption]

/-- A new entry gets a row behind the others. -/
theorem Backed.add (h : Backed (inst :: set) es c) (hl : c.link? inst = some l) (hnew : l.bNew = true) :
    ∃ c', commit true inst c = some c' ∧ Backed set (es ++ [l.entry]) c' ∧
      c'.sentOptionList = c.sentOptionList.map (settle [inst]) := by
  obtain ⟨hmem, hnumber⟩ := link?_eq_some hl
  have hsuccess := addSentOption_success c.table l.entry
  have hclient := client_addSentOption c.table l.entry
  obtain ⟨hlists, hstores⟩ := h.mirrors.lists.addSentOption l.entry
  unfold commit
  rw [← h.client]
  simp only [hl, hnew, if_true, hsuccess]
  refine ⟨_, rfl, ?_, List.map_congr_left fun k _ => by simp [settle]⟩
  have hfits := (h.links l hmem).fits
  refine h.modify hl (f := fun l => { l with bNew := false }) (fun _ => id) rfl rfl ?_
    (hclient.trans h.client) room_empty ?_ (fun n => List.not_mem_cons_of_ne_of_not_mem)
    ⟨nofun, hfits, fun _ => ⟨l.entry, by simp, rfl, hfits, fun _ => rfl⟩⟩
  · refine hlists.mirrors (hstores h.mirrors.stores) ?_
    rw [List.map_append, List.map_singleton, ← List.concat_eq_append, List.nodup_concat]
    refine ⟨fun hold => ?_, h.mirrors.nodup⟩
    obtain ⟨old, hold, heq⟩ := List.mem_map.mp hold
    exact (h.links l hmem).fresh hnew old hold heq
  · intro e he
    rw [List.mem_append, List.mem_singleton, or_iff_left]
    rintro rfl
    exact he hnumber

/-- The row of an entry that was committed before is renewed. -/
theorem Backed.renew (h : Backed (inst :: set) es c) (hl : c.link? inst = some l) (hnew : l.bNew = false) :
    ∃ c', commit true inst c = some c' ∧ Backed set (replaceFirst l.entry es) c' ∧
      c'.sentOptionList = c.sentOptionList.map (settle [inst]) := by
  obtain ⟨hmem, hnumber⟩ := link?_eq_some hl
  obtain ⟨st, u, hset, hclient, hlists, hstores⟩ := h.mirrors.lists.setSentOption l.entry
  obtain ⟨front, old, rest, hsplit, hfront, hold, -, -⟩ := h.row hl hnew
  have hreplaced : replaceFirst l.entry es = front ++ l.entry :: rest := by
    rw [hsplit]
    exact replaceFirst_append (fun e he => (hfront e he).trans_eq hnumber.symm) (hold.trans hnumber.symm)
  have hsettled : c.sentOptionList = c.sentOptionList.map (settle [inst]) := by
    refine (map_settle_of fun k hk hinst => ?_).symm
    rwa [eq_of_number h.nodup hk hmem ((List.mem_singleton.mp hinst).trans hnumber.symm)]
  unfold commit
  simp only [hl, hnew, hset, Option.map_some]
  refine ⟨_, rfl, ?_, hsettled⟩
  have hfits := (h.links l hmem).fits
  refine h.modify hl (f := id) (fun _ => id) ?_ rfl ?_ (hclient.trans h.client) room_empty ?_
    (fun n => List.not_mem_cons_of_ne_of_not_mem)
    ⟨fun hfresh => ?_, hfits, fun _ => ⟨l.entry, ?_, rfl, hfits, fun _ => rfl⟩⟩
  · simp [Client.modifyLink]
  · refine hlists.mirrors (hstores h.mirrors.stores) ?_
    rw [map_instanceNumber_replaceFirst]
    exact h.mirrors.nodup
  · intro e he
    have hne : e ≠ l.entry := fun heq => he (heq ▸ hnumber)
    have hne' : e ≠ old := fun heq => he (heq ▸ hold)
    rw [hreplaced, hsplit]
    simp [hne, hne']
  · exact absurd (hfresh.symm.trans hnew) (by simp)
  · rw [hreplaced]
    simp

theorem Backed.skip (h : Backed (inst :: set) es c) (hl : c.link? inst = none) : Backed set es c :=
  h.congr fun l hmem => List.not_mem_cons_of_ne_of_not_mem (link?_eq_none hl l hmem)

theorem Backed.commit (h : Backed (inst :: set) es c) :
    ∃ c' es', commit true inst c = some c' ∧ Backed set es' c' ∧
      c'.sentOptionList = c.sentOptionList.map (settle [inst]) := by
  cases hl : c.link? inst with
  | none =>
    refine ⟨c, es, by simp [DataModel.commit, hl], h.skip hl, (map_settle_of fun k hk hinst => ?_).symm⟩
    exact absurd (List.mem_singleton.mp hinst) (link?_eq_none hl k hk)
  | some l =>
    cases hnew : l.bNew with
    | true =>
      obtain ⟨c', hc'⟩ := h.add hl hnew
      exact ⟨c', _, hc'⟩
    | false =>
      obtain ⟨c', hc'⟩ := h.renew hl hnew
      exact ⟨c', _, hc'⟩

theorem Backed.commitAll (h : Backed set es c) {allocates : Nat → Bool} (hmemory : ∀ inst, allocates inst = true) :
    ∃ c' es', commitAll allocates set c = some c' ∧ Backed [] es' c' ∧
      c'.sentOptionList = c.sentOptionList.map (settle set) := by
  induction set generalizing c es with
  | nil => exact ⟨c, es, rfl, h, (map_settle_of fun k _ hset => absurd hset List.not_mem_nil).symm⟩
  | cons inst set ih =>
    obtain ⟨c₁, es₁, hcommit, hbacked, hlist⟩ := h.commit
    obtain ⟨c', es', hall, hbacked', hlist'⟩ := ih hbacked
    refine ⟨c', es', ?_, hbacked', ?_⟩
    · rw [DataModel.commitAll, hmemory inst, hcommit, Option.bind_some, hall]
    · rw [hlist', hlist, List.map_map]
      exact List.map_congr_left fun l _ => settle_settle inst set l

/-! ### Entries are rolled back -/

@[simp] theorem instanceNumber_restoreAlias (c : Client) (e : SentOption) :
    (c.restoreAlias e).instanceNumber = e.instanceNumber := by
  unfold Client.restoreAlias
  split <;> rfl

theorem fits_restoreAlias {e : SentOption} (hkept : Room aliasLength c.aliasOfSent)
    (he : Room aliasLength e.aliasName) : Room aliasLength (c.restoreAlias e).aliasName := by
  unfold Client.restoreAlias
  split
  · exact he
  · exact hkept

theorem Backed.rollback (h : Backed (inst :: set) es c) :
    ∃ c', rollback inst c = some c' ∧ Backed set es c' ∧ c'.table = c.table := by
  unfold DataModel.rollback
  cases hl : c.link? inst with
  | none => exact ⟨c, rfl, h.skip hl, rfl⟩
  | some l =>
    obtain ⟨hmem, hnumber⟩ := link?_eq_some hl
    have hback := h.links l hmem
    have hwritten {e' : SentOption} (he' : e'.instanceNumber = inst)
        (hback : Backs set es { l with entry := e' }) :
        Backed set es { c.modifyLink inst (fun l => { l with entry := e' }) with aliasOfSent := "" } :=
      h.modify hl (f := fun l => { l with entry := e' }) (fun _ _ => he') rfl rfl h.mirrors h.client
        room_empty (fun _ _ => Iff.rfl) (fun n => List.not_mem_cons_of_ne_of_not_mem) hback
    cases hnew : l.bNew with
    | true =>
      have he' : (setDefaultValue (c.restoreAlias l.entry)).instanceNumber = inst :=
        (instanceNumber_restoreAlias c l.entry).trans hnumber
      have hback : Backs set es { l with entry := setDefaultValue (c.restoreAlias l.entry) } :=
        ⟨fun _ e he => (hback.fresh hnew e he).trans_eq (hnumber.trans he'.symm),
          fits_restoreAlias h.kept hback.fits, fun hold => absurd (hold.symm.trans hnew) (by simp)⟩
      have hc' := hwritten he' hback
      exact ⟨_, by simp only [hnew, if_true, Option.map_some], hc', rfl⟩
    | false =>
      obtain ⟨front, old, rest, hsplit, -, hold, hfits, hfound⟩ := h.row hl hnew
      have hsearch : getSentOptionByInsNum c.table (c.restoreAlias l.entry) = some old := by
        unfold getSentOptionByInsNum
        rw [instanceNumber_restoreAlias, show l.entry.instanceNumber = inst from hnumber, hfound]
        rfl
      have hback : Backs set es { l with entry := old } :=
        ⟨fun hfresh => absurd (hfresh.symm.trans hnew) (by simp), hfits,
          fun _ => ⟨old, by simp [hsplit], rfl, hfits, fun _ => rfl⟩⟩
      have hc' := hwritten hold hback
      exact ⟨_, by simp only [hnew, hsearch]; rfl, hc', rfl⟩

theorem Backed.rollbackAll (h : Backed set es c) :
    ∃ c', rollbackAll set c = some c' ∧ Backed [] es c' ∧ c'.table = c.table := by
  induction set generalizing c with
  | nil => exact ⟨c, rfl, h, rfl⟩
  | cons inst set ih =>
    obtain ⟨c₁, hrollback, hbacked, htable⟩ := h.rollback
    obtain ⟨c', hall, hbacked', htable'⟩ := ih hbacked
    refine ⟨c', ?_, hbacked', htable'.trans htable⟩
    rw [DataModel.rollbackAll, hrollback, Option.bind_some, hall]

/-! ### What is consistent -/

theorem Backed.mem_iff (h : Backed [] es c) (e : SentOption) : e ∈ es ↔ ⟨e, false⟩ ∈ c.sentOptionList := by
  constructor
  · intro he
    obtain ⟨⟨e', bNew⟩, hl, hnumber⟩ := h.covered e he
    cases bNew with
    | true => exact absurd hnumber.symm ((h.links _ hl).fresh rfl e he)
    | false =>
      obtain ⟨e₁, he₁, hnumber₁, -, heq⟩ := (h.links _ hl).row rfl
      have hsame : e₁ = e := List.inj_on_of_nodup_map h.mirrors.nodup he₁ he (hnumber₁.trans hnumber)
      rwa [← hsame, heq List.not_mem_nil]
  · intro hl
    obtain ⟨e₁, he₁, -, -, heq⟩ := (h.links _ hl).row rfl
    rwa [heq List.not_mem_nil] at he₁

/-- No two of the options have an alias in common, or a tag if they are enabled. -/
def Apart (es : List SentOption) : Prop :=
  ∀ e ∈ es, ∀ e' ∈ es, e.instanceNumber ≠ e'.instanceNumber → conflict? e e' = none

theorem Backed.consistent (h : Backed [] es c) (hapart : Apart es) : Consistent c where
  rows := ⟨es, h.mirrors, h.mem_iff⟩
  client := h.client
  nodup := h.nodup
  counted := h.counted
  fits l hl := (h.links l hl).fits
  kept := h.kept
  apart e e' he he' := hapart e ((h.mem_iff e).mpr he) e' ((h.mem_iff e').mpr he')

theorem Consistent.backed (h : Consistent c) : ∃ es, Backed [] es c ∧ Apart es := by
  obtain ⟨es, hmirrors, hrows⟩ := h.rows
  refine ⟨es, ⟨hmirrors, h.client, h.nodup, h.counted, h.kept, fun l hl => ?_, fun e he => ?_⟩,
    fun e he e' he' => h.apart e e' ((hrows e).mp he) ((hrows e').mp he')⟩
  · refine ⟨fun hnew e he hnumber => ?_, h.fits l hl,
      fun hnew => ⟨l.entry, (hrows _).mpr ?_, rfl, h.fits l hl, fun _ => rfl⟩⟩
    · have hsame := eq_of_number h.nodup hl ((hrows e).mp he) hnumber.symm
      rw [hsame] at hnew
      cases hnew
    · rwa [← hnew]
  · exact ⟨_, (hrows e).mp he, rfl⟩

theorem conflict?_comm (e e' : SentOption) : conflict? e e' = conflict? e' e := by
  unfold conflict?
  simp only [eq_comm (a := e.aliasName), eq_comm (a := e.tag), and_left_comm (a := (e.bEnabled : Prop))]

theorem apart_of_validate (h : (validate c l.number).1 = true) (hnodup : (c.sentOptionList.map Link.number).Nodup)
    (hl : l ∈ c.sentOptionList) {l' : Link} (hl' : l' ∈ c.sentOptionList) (hne : l.number ≠ l'.number) :
    conflict? l.entry l'.entry = none := by
  unfold validate at h
  cases hfound : c.link? l.number with
  | none => exact absurd rfl (link?_eq_none hfound l hl)
  | some k =>
    obtain ⟨hk, hnumber⟩ := link?_eq_some hfound
    obtain rfl := eq_of_number hnodup hk hl hnumber
    simp only [hfound] at h
    split at h
    · cases h
    split at h
    · cases h
    next hnone =>
      refine List.findSome?_eq_none_iff.mp hnone l' (List.mem_filter.mpr ⟨hl', ?_⟩)
      simpa using Ne.symm hne

/-- Entries that were found valid leave the options apart when they are committed. -/
theorem apart_of_validateAll {entries : List Nat} {c₀ : Client} {es₀ : List SentOption} (h₀ : Backed [] es₀ c₀)
    (hapart : Apart es₀) (hkept : ∀ l ∈ c.sentOptionList, l.number ∉ entries → l ∈ c₀.sentOptionList)
    (hnodup : (c.sentOptionList.map Link.number).Nodup) (hvalid : validateAll entries c = true)
    (hlist : c'.sentOptionList = c.sentOptionList.map (settle entries)) (h : Backed [] es' c') : Apart es' := by
  rw [validateAll, List.all_eq_true] at hvalid
  have hentry : ∀ e ∈ es', ∃ l ∈ c.sentOptionList, l.entry = e ∧ (e.instanceNumber ∈ entries ∨ e ∈ es₀) := by
    intro e he
    have hmem := (h.mem_iff e).mp he
    rw [hlist] at hmem
    obtain ⟨l, hl, hsettled⟩ := List.mem_map.mp hmem
    obtain rfl : l.entry = e := by simpa using congrArg Link.entry hsettled
    refine ⟨l, hl, rfl, ?_⟩
    by_cases hin : l.number ∈ entries
    · exact .inl hin
    · rw [settle, if_neg hin] at hsettled
      exact .inr ((h₀.mem_iff _).mpr (hsettled ▸ hkept l hl hin))
  intro e he e' he' hne
  obtain ⟨l, hl, rfl, hin | hold⟩ := hentry e he
  · obtain ⟨l', hl', rfl, -⟩ := hentry e' he'
    exact apart_of_validate (hvalid _ hin) hnodup hl hl' hne
  · obtain ⟨l', hl', rfl, hin' | hold'⟩ := hentry e' he'
    · rw [conflict?_comm]
      exact apart_of_validate (hvalid _ hin') hnodup hl' hl hne.symm
    · exact hapart _ hold _ hold' hne

/-! ### The acts -/

/-- What a request comes to: all its entries are committed with what was set, or the table stays as it
is, and so do the committed entries. -/
def AllOrNone (edits : List (Nat × Edit)) (c c' : Client) : Prop :=
  ∃ c₁, setParams edits c = some c₁ ∧
    if validateAll (touched edits) c₁ then
      c'.sentOptionList = c₁.sentOptionList.map (settle (touched edits))
    else c'.table = c.table ∧ ∀ e, ⟨e, false⟩ ∈ c'.sentOptionList ↔ ⟨e, false⟩ ∈ c.sentOptionList

theorem Consistent.request (h : Consistent c) {allocates : Nat → Bool} (hmemory : ∀ inst, allocates inst = true)
    {edits : List (Nat × Edit)} (hedits : ∀ e ∈ edits, e.2.Fits) :
    ∃ c', request allocates edits c = some c' ∧ Consistent c' ∧ AllOrNone edits c c' := by
  obtain ⟨es, hbacked, hapart⟩ := h.backed
  have hspared : Backed (touched edits) es c := hbacked.congr fun _ _ _ => List.not_mem_nil
  obtain ⟨c₁, hsetParams, hset, htable, hothers⟩ :=
    hspared.setParams (fun e he => List.mem_dedup.mpr (List.mem_map_of_mem he)) hedits
  have hkept : ∀ l ∈ c₁.sentOptionList, l.number ∉ touched edits → l ∈ c.sentOptionList :=
    fun l hl hn => hothers l hl fun hin => hn (List.mem_dedup.mpr hin)
  by_cases hvalid : validateAll (touched edits) c₁ = true
  · obtain ⟨c', es', hall, hbacked', hlist⟩ := hset.commitAll hmemory
    have hapart' := apart_of_validateAll hbacked hapart hkept hset.nodup hvalid hlist hbacked'
    refine ⟨c', ?_, hbacked'.consistent hapart', c₁, hsetParams, ?_⟩
    · rw [DataModel.request, hsetParams, Option.bind_some, if_pos hvalid, hall]
    · rwa [if_pos hvalid]
  · obtain ⟨c', hall, hbacked', htable'⟩ := hset.rollbackAll
    refine ⟨c', ?_, hbacked'.consistent hapart, c₁, hsetParams, ?_⟩
    · rw [DataModel.request, hsetParams, Option.bind_some, if_neg hvalid, hall]
    · rw [if_neg hvalid]
      exact ⟨htable'.trans htable, fun e => (hbacked'.mem_iff e).symm.trans (hbacked.mem_iff e)⟩

theorem pushEntryByInsNum_perm (l : Link) (ls : List Link) : (pushEntryByInsNum l ls).Perm (l :: ls) := by
  induction ls with
  | nil => exact .refl _
  | cons l' ls ih =>
    unfold pushEntryByInsNum
    split
    · exact .refl _
    · exact (ih.cons l').trans (.swap l l' ls)

/-! A number of 32 bits is printed with eleven characters at most. -/

theorem utf8ByteSize_digit : ∀ {n : Nat}, n < 10 → n.repr.utf8ByteSize = 1 := by decide

theorem utf8ByteSize_repr_le {n k : Nat} (h : n < 10 ^ (k + 1)) : n.repr.utf8ByteSize ≤ k + 1 := by
  induction k generalizing n with
  | zero =>
    rw [Nat.zero_add, Nat.pow_one] at h
    revert n
    decide
  | succ k ih =>
    by_cases hn : n < 10
    · have hdigit : n < 10 ^ (k + 1) := hn.trans_le (Nat.le_pow (Nat.succ_pos k))
      exact (ih hdigit).trans (Nat.le_succ _)
    · have htens : n / 10 < 10 ^ (k + 1) := Nat.div_lt_of_lt_mul (by rwa [← Nat.pow_succ'])
      have hunits : n % 10 < 10 ^ (k + 1) :=
        (Nat.mod_lt n (by decide)).trans_le (Nat.le_pow (Nat.succ_pos k))
      rw [Nat.repr_eq_repr_append_repr (Nat.not_lt.mp hn), String.utf8ByteSize_append]
      have hfront := ih htens
      have hunit := utf8ByteSize_digit (Nat.mod_lt n (by decide))
      omega

theorem utf8ByteSize_printed (n : Nat) : (printed n).utf8ByteSize ≤ 11 := by
  have hlt := BitVec.toInt_lt (x := BitVec.ofNat 32 n)
  have hge := BitVec.le_toInt (BitVec.ofNat 32 n)
  unfold printed
  cases hn : (BitVec.ofNat 32 n).toInt with
  | ofNat m =>
    have hm : m < 10 ^ (9 + 1) := by
      rw [hn, Int.ofNat_eq_natCast] at hlt
      omega
    exact (utf8ByteSize_repr_le hm).trans (by decide)
  | negSucc m =>
    have hm : m.succ < 10 ^ (9 + 1) := by
      rw [hn] at hge
      omega
    have hsign : "-".utf8ByteSize = 1 := by decide
    have hdigits := utf8ByteSize_repr_le hm
    rw [Int.repr, String.utf8ByteSize_append]
    omega

theorem room_addEntry (n : Nat) : Room aliasLength ("SentOption" ++ printed n) := by
  have hname : "SentOption".utf8ByteSize = 10 := by decide
  have hnumber := utf8ByteSize_printed n
  rw [Room, aliasLength, String.utf8ByteSize_append]
  omega

theorem Consistent.addEntry {width : Nat} (h : Consistent c) (hwidth : c.maxInstanceOfSent + 1 < 2 ^ width) :
    Consistent (addEntry width c) := by
  have hnext : nextInstance width c = c.maxInstanceOfSent + 1 := by
    unfold nextInstance
    rw [Nat.mod_eq_of_lt hwidth, if_neg (Nat.succ_ne_zero _)]
  have hperm := fun l : Link => pushEntryByInsNum_perm l c.sentOptionList
  obtain ⟨es, hmirrors, hrows⟩ := h.rows
  have hcommitted : ∀ e, ⟨e, false⟩ ∈ (DataModel.addEntry width c).sentOptionList ↔
      ⟨e, false⟩ ∈ c.sentOptionList := by
    intro e
    refine (hperm _).mem_iff.trans ?_
    simp
  refine ⟨⟨es, hmirrors, fun e => (hrows e).trans (hcommitted e).symm⟩, h.client, ?_, fun l hl => ?_,
    fun l hl => ?_, h.kept, fun e e' he he' => h.apart e e' ((hcommitted e).mp he) ((hcommitted e').mp he')⟩
  · refine ((hperm _).map Link.number).nodup_iff.mpr (List.nodup_cons.mpr ⟨fun hin => ?_, h.nodup⟩)
    obtain ⟨l, hl, hnumber⟩ := List.mem_map.mp hin
    have hin : l.number = nextInstance width c := hnumber
    have hcounted := h.counted l hl
    omega
  · show l.number ≤ nextInstance width c
    rcases List.mem_cons.mp ((hperm _).mem_iff.mp hl) with rfl | hl
    · exact le_rfl
    · exact (h.counted l hl).trans (by omega)
  · rcases List.mem_cons.mp ((hperm _).mem_iff.mp hl) with rfl | hl
    · exact room_addEntry _
    · exact h.fits l hl

theorem mem_remove : l ∈ (c.remove inst).sentOptionList ↔ l ∈ c.sentOptionList ∧ l.number ≠ inst := by
  simp [Client.remove]

/-- An entry is removed, and in the table its row. -/
theorem Consistent.remove (h : Consistent c) (hlist : c'.sentOptionList = (c.remove inst).sentOptionList)
    (hmax : c'.maxInstanceOfSent = c.maxInstanceOfSent) (hkept : c'.aliasOfSent = c.aliasOfSent)
    (hmirrors : MirrorsAs es' c'.table) (hclient : c'.table.client = c'.instanceNumber)
    (hrows : ∀ e, e ∈ es' ↔ ⟨e, false⟩ ∈ c.sentOptionList ∧ e.instanceNumber ≠ inst) : Consistent c' where
  rows := ⟨es', hmirrors, fun e => by rw [hrows, hlist, mem_remove]; rfl⟩
  client := hclient
  nodup := by
    rw [hlist]
    exact (List.filter_sublist.map Link.number).nodup h.nodup
  counted l hl := by
    rw [hlist, mem_remove] at hl
    exact hmax ▸ h.counted l hl.1
  fits l hl := by
    rw [hlist, mem_remove] at hl
    exact h.fits l hl.1
  kept := hkept ▸ h.kept
  apart e e' he he' := by
    rw [hlist, mem_remove] at he he'
    exact h.apart e e' he.1 he'.1

theorem delSentOption_success {t u : Table} {st : SentOptions.Status} {found : Nat × SentOption}
    (h : t.delSentOption t.client inst = some (st, u))
    (hfound : Table.search inst t.num t.options = some (some found)) : st = .success := by
  unfold Table.delSentOption at h
  rw [if_neg (not_not_intro rfl), hfound] at h
  obtain ⟨v, -, hv⟩ := Option.map_eq_some_iff.mp h
  exact (congrArg Prod.fst hv).symm

theorem mem_eraseP_iff (h : (es.map (·.instanceNumber)).Nodup) (e : SentOption) :
    e ∈ es.eraseP (·.instanceNumber = inst) ↔ e ∈ es ∧ e.instanceNumber ≠ inst := by
  induction es with
  | nil => simp
  | cons e₀ es ih =>
    rw [List.map_cons, List.nodup_cons] at h
    by_cases h₀ : e₀.instanceNumber = inst
    · rw [List.eraseP_cons_of_pos (by simpa using h₀), List.mem_cons]
      have hothers : ∀ e ∈ es, e.instanceNumber ≠ inst := fun e he heq =>
        h.1 (List.mem_map.mpr ⟨e, he, heq.trans h₀.symm⟩)
      constructor
      · exact fun he => ⟨.inr he, hothers e he⟩
      · rintro ⟨rfl | he, hne⟩
        · exact absurd h₀ hne
        · exact he
    · rw [List.eraseP_cons_of_neg (by simpa using h₀), List.mem_cons, List.mem_cons, ih h.2, or_and_right]
      refine or_congr_left (iff_self_and.mpr ?_)
      rintro rfl
      exact h₀

theorem Consistent.delEntry (h : Consistent c) (inst : Nat) :
    ∃ c', delEntry inst c = some c' ∧ Consistent c' := by
  obtain ⟨es, hbacked, -⟩ := h.backed
  unfold DataModel.delEntry
  cases hl : c.link? inst with
  | none => exact ⟨c, rfl, h⟩
  | some l =>
    obtain ⟨hmem, hnumber⟩ := link?_eq_some hl
    cases hnew : l.bNew with
    | true =>
      refine ⟨c.remove inst, by simp [hnew],
        h.remove rfl rfl rfl hbacked.mirrors hbacked.client fun e => ?_⟩
      rw [hbacked.mem_iff, iff_self_and]
      exact fun he => hnumber ▸ (hbacked.links l hmem).fresh hnew e ((hbacked.mem_iff e).mpr he)
    | false =>
      obtain ⟨st, u, hdel, hclient, hlists, hstores⟩ := hbacked.mirrors.lists.delSentOption inst
      obtain ⟨front, old, rest, -, -, -, -, hfound⟩ := hbacked.row hl hnew
      obtain rfl := delSentOption_success hdel hfound
      rw [hbacked.client] at hdel
      refine ⟨{ c.remove inst with table := u }, by simp [hnew, hdel], ?_⟩
      refine h.remove rfl rfl rfl (hlists.mirrors (hstores hbacked.mirrors.stores) ?_)
        (hclient.trans hbacked.client) fun e => ?_
      · exact (List.eraseP_sublist.map _).nodup hbacked.mirrors.nodup
      · rw [mem_eraseP_iff hbacked.mirrors.nodup, hbacked.mem_iff]

theorem Consistent.perform {width : Nat} (h : Consistent c) {a : Act} (hserved : Served width a c) :
    ∃ c', a.perform width c = some c' ∧ Consistent c' := by
  cases a with
  | add => exact ⟨_, rfl, h.addEntry hserved⟩
  | del inst => exact h.delEntry inst
  | request allocates edits =>
    obtain ⟨c', hrequest, hc', -⟩ := h.request hserved.1 hserved.2
    exact ⟨c', hrequest, hc'⟩

theorem Consistent.run {width : Nat} {as : List Act} (hc : Consistent c)
    (hrun : ((dataModel width).restrict (Served width)).Run c as c') : Consistent c' :=
  hrun.invariant (K := fun _ => True) (fun _ _ => trivial) hc fun a u v _ hu hstep => by
    obtain ⟨hserved, hperform⟩ := hstep
    obtain ⟨v', hperform', hv⟩ := hu.perform hserved
    obtain rfl := Option.some.inj (hperform.symm.trans hperform')
    exact hv

/-- After any requests for which there is memory and room, the table and its records in syscfg
are those of the committed entries, which are apart, and every such request still can be served. -/
theorem consistent_run {width : Nat} {as : List Act} (hc : Consistent c)
    (hrun : ((dataModel width).restrict (Served width)).Run c as c') :
    Consistent c' ∧ ∀ a, Served width a c' → ∃ c'', a.perform width c' = some c'' := by
  have hc' := hc.run hrun
  refine ⟨hc', fun a hserved => ?_⟩
  obtain ⟨c'', hperform, -⟩ := hc'.perform hserved
  exact ⟨c'', hperform⟩

/-- Whenever parameters are set, however many and of however many entries, all is taken over or nothing. -/
theorem request_all_or_none {width : Nat} {as : List Act} {allocates : Nat → Bool} (hc : Consistent c)
    (hrun : ((dataModel width).restrict (Served width)).Run c as c') (hmemory : ∀ inst, allocates inst = true)
    {edits : List (Nat × Edit)} (hedits : ∀ e ∈ edits, e.2.Fits) :
    ∃ c'', request allocates edits c' = some c'' ∧ AllOrNone edits c' c'' := by
  obtain ⟨c'', hrequest, -, hall⟩ := (hc.run hrun).request hmemory hedits
  exact ⟨c'', hrequest, hall⟩

end

/-! ## An option of a new client -/

namespace NewClient

/-- Client 1, without options. -/
def client : Client := { instanceNumber := 1, table := { client := 1 } }

theorem consistent : Consistent client where
  rows := by
    refine ⟨[], ⟨rfl, rfl, fun p e hp => ?_, .inr ⟨rfl, rfl⟩, List.nodup_nil⟩, fun e => ?_⟩
    · cases hp
    · simp [client]
  client := rfl
  nodup := List.nodup_nil
  counted l hl := absurd hl List.not_mem_nil
  fits l hl := absurd hl List.not_mem_nil
  kept := room_empty
  apart e e' he := absurd he List.not_mem_nil

/-- The parameters of an option, with the name `name`. -/
def params (inst : Nat) (name value : String) : List (Nat × Edit) :=
  [(inst, .aliasName name), (inst, .tag 16), (inst, .value value), (inst, .enable true)]

theorem fits_params {inst : Nat} {name value : String} (hname : Room aliasLength name)
    (hvalue : Room valueLength value) : ∀ e ∈ params inst name value, e.2.Fits := by
  simp [params, Edit.Fits, hname, hvalue]

/-- The parameters of the option that is added are set. -/
def setUp : Act := .request (fun _ => true) (params 1 "vendor" "0000")

end NewClient

open NewClient in
theorem consistent_run_setUp : ∃ c, ((dataModel 64).restrict (Served 64)).Run client [setUp, .add] c ∧
    c.table.num = 1 ∧ Consistent c ∧ ∀ a, Served 64 a c → ∃ c', a.perform 64 c = some c' := by
  have hadded : ((dataModel 64).restrict (Served 64)).Run client [.add] (addEntry 64 client) :=
    .cons .nil ⟨(by decide : 0 + 1 < 2 ^ 64), rfl⟩
  have hset : ((dataModel 64).restrict (Served 64)).Run client [setUp, .add] _ :=
    .cons hadded ⟨⟨fun _ => rfl, fits_params (by decide) (by decide)⟩, rfl⟩
  exact ⟨_, hset, rfl, consistent_run consistent hset⟩

open NewClient in
/-- Another option with the tag does not come into the table. -/
theorem request_all_or_none_tag : ∃ c c', ((dataModel 64).restrict (Served 64)).Run client [.add, setUp, .add] c ∧
    request (fun _ => true) (params 2 "other" "0001") c = some c' ∧
      c'.table.num = 1 ∧ AllOrNone (params 2 "other" "0001") c c' := by
  have hadded : ((dataModel 64).restrict (Served 64)).Run client [.add] (addEntry 64 client) :=
    .cons .nil ⟨(by decide : 0 + 1 < 2 ^ 64), rfl⟩
  have hset : ((dataModel 64).restrict (Served 64)).Run client [setUp, .add] _ :=
    .cons hadded ⟨⟨fun _ => rfl, fits_params (by decide) (by decide)⟩, rfl⟩
  have hanother : ((dataModel 64).restrict (Served 64)).Run client [.add, setUp, .add] _ :=
    .cons hset ⟨(by decide : 1 + 1 < 2 ^ 64), rfl⟩
  have hmemory : ∀ inst, (fun _ => true : Nat → Bool) inst = true := fun _ => rfl
  have hfits : ∀ e ∈ params 2 "other" "0001", e.2.Fits := fits_params (by decide) (by decide)
  obtain ⟨c', hrequest, hall⟩ := request_all_or_none consistent hanother hmemory hfits
  refine ⟨_, c', hanother, hrequest, ?_, hall⟩
  obtain rfl := Option.some.inj hrequest
  rfl

end DataModel

end WanManager.SentOptions
