import WanManager.WebConfig
import WanManager.Text.Buffer
import WanManager.Wire.Keyed

/-! # Decoding webconfig blobs

`WanMgrDmlWanDataSet` and `WanMgrDmlWanFailOverDataSet` make a request of an unpacked message, which
`WanMgr_Process_Webconfig_Request` then carries out. The unpacking is the message library's, the
allocations are taken to succeed, and a byte is a character. -/

namespace WanManager.WebConfigDecoding
open Text Wire

/-! ## Messages -/

/-- `msgpack_object`; what is in the objects of a type that is never looked at is left out. -/
inductive Obj where
  | nil | float | bin | ext
  | boolean (b : Bool)
  | positiveInteger (u : UInt64)
  | negativeInteger (i : Int64)
  | str (s : List Char)
  | array (xs : List Obj)
  | map (kvs : List (List Char × Obj))

/-- `msgpack_object_kv` with a string for a key -/
abbrev Entry := List Char × Obj

namespace Obj

def boolean? : Obj → Option Bool
  | .boolean b => some b
  | _ => none

def unsigned? : Obj → Option UInt64
  | .positiveInteger u => some u
  | _ => none

/-- An integer, cut to an `int`. -/
def int? : Obj → Option Int32
  | .positiveInteger u => some u.toUInt32.toInt32
  | .negativeInteger i => some i.toInt32
  | _ => none

def str? : Obj → Option (List Char)
  | .str s => some s
  | _ => none

def array? : Obj → Option (List Obj)
  | .array xs => some xs
  | _ => none

def map? : Obj → Option (List Entry)
  | .map kvs => some kvs
  | _ => none

end Obj

/-- How a decoder ends without a request: it reports a failure, or it writes past a buffer or takes
something for a map that is not one. -/
inductive Failure where
  | refused | fault
  deriving DecidableEq

/-! ## Requests -/

/-- `WebConfig_Wan_Marking_Table_t`, cleared but for its number. -/
structure Marking where
  uiMarkingInstanceNumber : Nat
  alias_ : Buffer 16 := .zero
  ethernetPriorityMark : Int32 := 0

/-- `WebConfig_Wan_Interface_Table_t`, cleared but for its number. -/
structure Iface where
  uiIfInstanceNumber : Nat
  name : Buffer 64 := .zero
  markingTable : Option (List Marking) := none

/-- `WanMgr_WebConfig_t`, cleared. -/
structure Request where
  subdocName : Buffer 64 := .zero
  version : UInt32 := 0
  transactionId : UInt16 := 0
  ifTable : Option (List Iface) := none
  /-- `AllowRemoteIface` of `pWanFailOverData` -/
  failOver : Option Bool := none

/-- The names of the entries. -/
def aliasKey : List Char := "Alias".toList
def markKey : List Char := "EthernetPriorityMark".toList
def nameKey : List Char := "Name".toList
def markingKey : List Char := "Marking".toList
def cpeInterfaceKey : List Char := "CPEInterface".toList
def allowKey : List Char := "allow_remote_interfaces".toList
def subdocKey : List Char := "subdoc_name".toList
def versionKey : List Char := "version".toList
def transactionKey : List Char := "transaction_id".toList
def wanmanagerKey : List Char := "wanmanager".toList
def wanfailoverKey : List Char := "wanfailover".toList

/-! ## The decoder -/

/-- An entry of a marking in `WaneMgr_WebConfig_Process_MarkingEntry`; the alias is cut to 15
characters. -/
def markingParam (e : Marking) (p : Entry) : Marking :=
  match p.2 with
  | .str s =>
    if strncmp p.1 aliasKey then
      { e with
        alias_ := e.alias_.write (padded (s.take 15)) (by rw [length_padded, List.length_take]; omega) }
    else e
  | .negativeInteger i =>
    if strncmp p.1 markKey then { e with ethernetPriorityMark := i.toInt32 } else e
  | .positiveInteger u =>
    if strncmp p.1 markKey then { e with ethernetPriorityMark := u.toUInt32.toInt32 } else e
  | _ => e

/-- `WaneMgr_WebConfig_Process_MarkingEntry` for the `j`th element of the array. -/
def processMarkingEntry (x : Obj × Nat) : Except Failure Marking :=
  match x.1 with
  | .map kvs => .ok (kvs.foldl markingParam { uiMarkingInstanceNumber := x.2 + 1 })
  | _ => .error .refused

/-- An entry of an interface in `WanMgr_WebConfig_Process_ifParams`. -/
def ifParam (e : Iface) (p : Entry) : Except Failure Iface :=
  match p.2 with
  | .str s =>
    if strncmp p.1 nameKey then
      match e.name.strncpy s with
      | some name => .ok { e with name }
      | none => .error .fault
    else .ok e
  | .array xs =>
    if strncmp p.1 markingKey then do
      let table ← xs.zipIdx.mapM processMarkingEntry
      return { e with markingTable := some table }
    else .ok e
  | _ => .ok e

/-- `WanMgr_WebConfig_Process_ifParams` for the `j`th element of the array. -/
def processIfParams (x : Obj × Nat) : Except Failure Iface :=
  match x.1 with
  | .map kvs => kvs.foldlM ifParam { uiIfInstanceNumber := x.2 }
  | _ => .error .refused

/-- An entry in `WanMgr_WebConfig_Process_Wanmanager_Params`. -/
def wanmanagerParam (r : Request) (p : Entry) : Except Failure Request :=
  if strncmp p.1 cpeInterfaceKey then
    match p.2 with
    | .array xs => do
      let table ← xs.zipIdx.mapM processIfParams
      return { r with ifTable := some table }
    | _ => .ok r
  else .ok r

/-- `WanMgr_WebConfig_Process_Wanmanager_Params`, which does not look at the type of the object. -/
def processWanmanagerParams (r : Request) : Obj → Except Failure Request
  | .map kvs => kvs.foldlM wanmanagerParam r
  | _ => .error .fault

/-- An entry in `WanMgr_WebConfig_Process_WanFailOver_Params`. -/
def wanFailOverParam (allow : Bool) (p : Entry) : Bool :=
  match p.2 with
  | .boolean b => if strncmp p.1 allowKey then b else allow
  | _ => allow

/-- `WanMgr_WebConfig_Process_WanFailOver_Params`, which does not look at the type of the object
either; `memory` is what stands in the memory it allocates and does not clear. -/
def processWanFailOverParams (memory : Bool) (r : Request) : Obj → Except Failure Request
  | .map kvs => .ok { r with failOver := some (kvs.foldl wanFailOverParam memory) }
  | _ => .error .fault

/-- An entry whose name both decoders know. -/
def commonParam (r : Request) (p : Entry) : Except Failure Request :=
  if strncmp p.1 subdocKey then
    match p.2 with
    | .str s =>
      -- the null behind the copy goes to the index of its length
      if h : s.length < 64 then
        .ok { r with
          subdocName := r.subdocName.write (padded s ++ ['\x00']) (by
            rw [List.length_append, length_padded]
            exact h) }
      else .error .fault
    | _ => .ok r
  else if strncmp p.1 versionKey then
    match p.2 with
    | .positiveInteger u => .ok { r with version := u.toUInt32 }
    | _ => .ok r
  else if strncmp p.1 transactionKey then
    match p.2 with
    | .positiveInteger u => .ok { r with transactionId := u.toUInt16 }
    | _ => .ok r
  else .ok r

def wanParam (r : Request) (p : Entry) : Except Failure Request :=
  if strncmp p.1 wanmanagerKey then processWanmanagerParams r p.2 else commonParam r p

def failOverParam (memory : Bool) (r : Request) (p : Entry) : Except Failure Request :=
  if strncmp p.1 wanfailoverKey then processWanFailOverParams memory r p.2 else commonParam r p

/-- `WanMgrDmlWanDataSet`: the request that is pushed. -/
def wanMgrDmlWanDataSet (blob : List Entry) : Except Failure Request := blob.foldlM wanParam {}

/-- `WanMgrDmlWanFailOverDataSet` -/
def wanMgrDmlWanFailOverDataSet (memory : Bool) (blob : List Entry) : Except Failure Request :=
  blob.foldlM (failOverParam memory) {}

/-! ## The request the blob stands for -/

/-- The values of the entries with a name, where they are of the type that is looked for. -/
def valuesOf {α : Type} (name : List Char) (get : Obj → Option α) (kvs : List Entry) : List α :=
  kvs.flatMap fun p => if p.1 = name then (get p.2).toList else []

/-- The maps under `wanmanager`. -/
def wanMaps (blob : List Entry) : List (List Entry) := valuesOf wanmanagerKey Obj.map? blob

/-- The arrays of interfaces. -/
def tables (blob : List Entry) : List (List Obj) :=
  (wanMaps blob).flatMap (valuesOf cpeInterfaceKey Obj.array?)

/-- The maps of the interfaces. -/
def ifMaps (blob : List Entry) : List (List Entry) :=
  (tables blob).flatMap (·.filterMap Obj.map?)

/-- The maps of the markings. -/
def markingMaps (blob : List Entry) : List (List Entry) :=
  (ifMaps blob).flatMap fun kvs =>
    (valuesOf markingKey Obj.array? kvs).flatMap (·.filterMap Obj.map?)

/-- The fields of a marking are the last values given for them; without a value for the mark, a
marking sets none. -/
structure MarkingFilled (kvs : List Entry) (e : Marking) : Prop where
  alias_ : e.alias_.text =
    cString (((valuesOf aliasKey Obj.str? kvs).getLast?.getD []).take 15)
  marked : ∀ v ∈ (valuesOf markKey Obj.int? kvs).getLast?, e.ethernetPriorityMark = v
  unmarked : valuesOf markKey Obj.int? kvs = [] → ∀ row : WebConfig.Marking,
    row.setEthernetPriorityMark e.ethernetPriorityMark.toInt = row

/-- The fields of an interface are the last values given for them. -/
structure IfaceFilled (kvs : List Entry) (e : Iface) : Prop where
  name : e.name.text = cString ((valuesOf nameKey Obj.str? kvs).getLast?.getD [])
  markings : Option.Rel
    (List.Forall₂ fun x e => ∃ kvs, x = .map kvs ∧ MarkingFilled kvs e)
    (valuesOf markingKey Obj.array? kvs).getLast? e.markingTable

/-- The fields that both decoders know are the last values given for them. -/
structure CommonFilled (blob : List Entry) (r : Request) : Prop where
  subdocName : r.subdocName.text = cString ((valuesOf subdocKey Obj.str? blob).getLast?.getD [])
  version : r.version = ((valuesOf versionKey Obj.unsigned? blob).getLast?.getD 0).toUInt32
  transactionId : r.transactionId =
    ((valuesOf transactionKey Obj.unsigned? blob).getLast?.getD 0).toUInt16

/-! ## Keys -/

/-- A key that the comparison takes for a name it is not: a start of it, or the name with a null
behind it. -/
def Mistakable (key name : List Char) : Prop :=
  key ≠ name ∧ (key <+: name ∨ name ++ ['\x00'] <+: key)

instance (key name : List Char) : Decidable (Mistakable key name) :=
  inferInstanceAs (Decidable (_ ∧ _))

/-- An entry that is taken for one with the name has no value for it. -/
def Apart {α : Type} (name : List Char) (get : Obj → Option α) (p : Entry) : Prop :=
  Mistakable p.1 name → get p.2 = none

theorem strncmp_of_mistakable {key name : List Char} (hname : '\x00' ∉ name)
    (h : Mistakable key name) : strncmp key name = true := (strncmp_iff hname).mpr h.2

theorem mistakable_of_strncmp {key name : List Char} (hname : '\x00' ∉ name) (hne : key ≠ name)
    (h : strncmp key name = true) : Mistakable key name := ⟨hne, (strncmp_iff hname).mp h⟩

/-- The text of a string that writes something. -/
def Obj.text? : Obj → Option (List Char)
  | .str s => if s = [] then none else some s
  | _ => none

theorem mem_valuesOf {α : Type} {name : List Char} {get : Obj → Option α} {kvs : List Entry}
    {v : α} : v ∈ valuesOf name get kvs ↔ ∃ p ∈ kvs, p.1 = name ∧ get p.2 = some v := by
  rw [valuesOf, List.mem_flatMap]
  constructor
  · rintro ⟨p, hp, hv⟩
    split at hv
    · next hname => exact ⟨p, hp, hname, by simpa using hv⟩
    · simp at hv
  · rintro ⟨p, hp, hname, hv⟩
    exact ⟨p, hp, by simp [hname, hv]⟩

/-! ## Markings -/

/-- A mark that is written shows in some entry. -/
theorem exists_other_mark (mark : Int32) : ∃ e : Marking, e.ethernetPriorityMark ≠ mark := by
  by_cases h : mark = 0
  · exact ⟨{ uiMarkingInstanceNumber := 0, ethernetPriorityMark := 1 }, by subst h; decide⟩
  · exact ⟨{ uiMarkingInstanceNumber := 0 }, Ne.symm h⟩

theorem markingParam_ignored {p : Entry} (ha : p.1 ≠ aliasKey) (hm : p.1 ≠ markKey) :
    (∀ e, markingParam e p = e) ↔ Apart aliasKey Obj.text? p ∧ Apart markKey Obj.int? p := by
  obtain ⟨key, v⟩ := p
  have hnull : '\x00' ∉ aliasKey ∧ '\x00' ∉ markKey := by decide
  constructor
  · intro h
    constructor
    · intro hkey
      cases v with
      | str s =>
        by_contra hs
        have hne : s ≠ [] := fun he => hs (by simp [Obj.text?, he])
        have hpad : padded (s.take 15) ≠ [] := by
          rw [← List.length_pos_iff, length_padded, List.length_take]
          have := List.length_pos_iff.mpr hne
          omega
        have hfits : (padded (s.take 15)).length ≤ 16 := by
          rw [length_padded, List.length_take]
          omega
        obtain ⟨b, hb⟩ := Buffer.exists_write_ne hpad hfits
        have hwrite := h { uiMarkingInstanceNumber := 0, alias_ := b }
        simp only [markingParam, strncmp_of_mistakable hnull.1 hkey, if_true,
          Marking.mk.injEq, true_and, and_true] at hwrite
        exact hb hwrite
      | _ => rfl
    · intro hkey
      have hcmp := strncmp_of_mistakable hnull.2 hkey
      cases v with
      | positiveInteger u =>
        obtain ⟨e, he⟩ := exists_other_mark u.toUInt32.toInt32
        have hwrite := congrArg Marking.ethernetPriorityMark (h e)
        simp only [markingParam, hcmp, if_true] at hwrite
        exact absurd hwrite.symm he
      | negativeInteger i =>
        obtain ⟨e, he⟩ := exists_other_mark i.toInt32
        have hwrite := congrArg Marking.ethernetPriorityMark (h e)
        simp only [markingParam, hcmp, if_true] at hwrite
        exact absurd hwrite.symm he
      | _ => rfl
  · rintro ⟨halias, hmark⟩ e
    cases v with
    | str s =>
      by_cases hcmp : strncmp key aliasKey = true
      · have hs := halias (mistakable_of_strncmp hnull.1 ha hcmp)
        have hnil : s = [] := by simpa [Obj.text?] using hs
        subst hnil
        simp [markingParam, Buffer.write, overlay, padded, cString]
      · simp [markingParam, hcmp]
    | positiveInteger u =>
      by_cases hcmp : strncmp key markKey = true
      · simpa [Obj.int?] using hmark (mistakable_of_strncmp hnull.2 hm hcmp)
      · simp [markingParam, hcmp]
    | negativeInteger i =>
      by_cases hcmp : strncmp key markKey = true
      · simpa [Obj.int?] using hmark (mistakable_of_strncmp hnull.2 hm hcmp)
      · simp [markingParam, hcmp]
    | _ => rfl

/-- No entry of a marking is mistaken for one of its fields. -/
def MarkingApart (kvs : List Entry) : Prop :=
  ∀ p ∈ kvs, Apart aliasKey Obj.text? p ∧ Apart markKey Obj.int? p

/-- The alias is the last one whatever was there before, and there is a mark. -/
def MarkingSettled (kvs : List Entry) : Prop :=
  LastShows ((valuesOf aliasKey Obj.str? kvs).map (·.take 15)) ∧ valuesOf markKey Obj.int? kvs ≠ []

theorem markingParam_alias {p : Entry} (hp : Apart aliasKey Obj.text? p ∧ Apart markKey Obj.int? p)
    (e : Marking) :
    (markingParam e p).alias_.cells = overlays
      (((if p.1 = aliasKey then (Obj.str? p.2).toList else []).map (·.take 15)).map padded)
      e.alias_.cells := by
  obtain ⟨key, v⟩ := p
  by_cases ha : key = aliasKey
  · subst ha
    have hself : strncmp aliasKey aliasKey = true := by decide
    have hmark : strncmp aliasKey markKey = false := by decide
    cases v <;> simp [markingParam, hself, hmark, Obj.str?, Buffer.write]
  · rw [if_neg ha]
    by_cases hm : key = markKey
    · subst hm
      have halias : strncmp markKey aliasKey = false := by decide
      cases v <;> simp [markingParam, halias] <;> (split <;> rfl)
    · rw [(markingParam_ignored ha hm).mpr hp e]
      rfl

theorem markingParam_mark {p : Entry} (hp : Apart aliasKey Obj.text? p ∧ Apart markKey Obj.int? p)
    (e : Marking) :
    (markingParam e p).ethernetPriorityMark =
      (if p.1 = markKey then Obj.int? p.2 else none).getD e.ethernetPriorityMark := by
  obtain ⟨key, v⟩ := p
  by_cases hm : key = markKey
  · subst hm
    have hself : strncmp markKey markKey = true := by decide
    have halias : strncmp markKey aliasKey = false := by decide
    cases v <;> simp [markingParam, hself, halias, Obj.int?]
  · rw [if_neg hm]
    by_cases ha : key = aliasKey
    · subst ha
      have hmark : strncmp aliasKey markKey = false := by decide
      cases v <;> simp [markingParam, hmark]; (split <;> rfl)
    · rw [(markingParam_ignored ha hm).mpr hp e]
      rfl

/-- What is in a marking of which no key is mistaken. -/
theorem markingEntry_eq {kvs : List Entry} (hkeys : MarkingApart kvs) (j : Nat) :
    (kvs.foldl markingParam { uiMarkingInstanceNumber := j }).alias_.cells =
      overlays (((valuesOf aliasKey Obj.str? kvs).map (·.take 15)).map padded)
        (List.replicate 16 '\x00') ∧
    (kvs.foldl markingParam { uiMarkingInstanceNumber := j }).ethernetPriorityMark =
      (valuesOf markKey Obj.int? kvs).getLast?.getD 0 := by
  constructor
  · apply foldl_collect (R := fun (vs : List (List Char)) (e : Marking) => e.alias_.cells =
      overlays ((vs.map (·.take 15)).map padded) (List.replicate 16 '\x00')) rfl
    intro p hp e vs hvs
    rw [markingParam_alias (hkeys p hp), hvs, List.map_append, List.map_append, overlays_append]
  · apply foldl_collect (R := fun (vs : List Int32) (e : Marking) =>
      e.ethernetPriorityMark = vs.getLast?.getD 0) rfl
    intro p hp e vs hvs
    rw [markingParam_mark (hkeys p hp), hvs]
    split
    · cases p.2.int? <;> simp
    · simp

theorem getLast?_take (values : List (List Char)) :
    (values.map (·.take 15)).getLast?.getD [] = (values.getLast?.getD []).take 15 := by
  rw [List.getLast?_map]
  cases values.getLast? <;> rfl

theorem markingFilled_iff {kvs : List Entry} (hkeys : MarkingApart kvs) {j : Nat} {e : Marking}
    (h : processMarkingEntry (.map kvs, j) = .ok e) : MarkingFilled kvs e ↔ MarkingSettled kvs := by
  obtain rfl := Except.ok.inj h
  obtain ⟨halias, hmark⟩ := markingEntry_eq hkeys (j + 1)
  have htext := cString_overlays 16 ((valuesOf aliasKey Obj.str? kvs).map (·.take 15))
  rw [← halias, getLast?_take] at htext
  constructor
  · intro hfilled
    refine ⟨htext.mp hfilled.alias_, fun hnil => ?_⟩
    have hrow := hfilled.unmarked hnil { instanceNumber := 0 }
    rw [hmark, hnil] at hrow
    exact absurd hrow (by decide)
  · rintro ⟨hlast, hgiven⟩
    refine ⟨htext.mpr hlast, fun v hv => ?_, fun hnil => absurd hnil hgiven⟩
    rw [hmark, Option.mem_def.mp hv]
    rfl

/-! ## Interfaces -/

theorem ifParam_ignored {p : Entry} (hn : p.1 ≠ nameKey) (hm : p.1 ≠ markingKey) :
    (∀ e, ifParam e p = .ok e) ↔ Apart nameKey Obj.text? p ∧ Apart markingKey Obj.array? p := by
  obtain ⟨key, v⟩ := p
  have hnull : '\x00' ∉ nameKey ∧ '\x00' ∉ markingKey := by decide
  constructor
  · intro h
    constructor
    · intro hkey
      cases v with
      | str s =>
        by_contra hs
        have hne : padded s ≠ [] := by
          rw [← List.length_pos_iff, length_padded, List.length_pos_iff]
          exact fun he => hs (by simp [Obj.text?, he])
        by_cases hfit : s.length ≤ 64
        · obtain ⟨b, hb⟩ := Buffer.exists_write_ne (n := 64) hne (by simpa using hfit)
          have hwrite := h { uiIfInstanceNumber := 0, name := b }
          simp only [ifParam, strncmp_of_mistakable hnull.1 hkey, if_true, Buffer.strncpy, hfit,
            dif_pos, Except.ok.injEq, Iface.mk.injEq, true_and, and_true] at hwrite
          exact hb hwrite
        · have hwrite := h { uiIfInstanceNumber := 0 }
          simp [ifParam, strncmp_of_mistakable hnull.1 hkey, Buffer.strncpy, hfit] at hwrite
      | _ => rfl
    · intro hkey
      cases v with
      | array xs =>
        have hwrite := h { uiIfInstanceNumber := 0 }
        simp only [ifParam, strncmp_of_mistakable hnull.2 hkey, if_true] at hwrite
        cases htable : xs.zipIdx.mapM processMarkingEntry with
        | error e => simp [htable, bind, Except.bind] at hwrite
        | ok t => simp [htable, bind, Except.bind, pure, Except.pure] at hwrite
      | _ => rfl
  · rintro ⟨hname, hmarking⟩ e
    cases v with
    | str s =>
      by_cases hcmp : strncmp key nameKey = true
      · have hs := hname (mistakable_of_strncmp hnull.1 hn hcmp)
        have hnil : s = [] := by simpa [Obj.text?] using hs
        subst hnil
        simp [ifParam, Buffer.strncpy, Buffer.write, overlay, padded, cString]
      · simp [ifParam, hcmp]
    | array xs =>
      by_cases hcmp : strncmp key markingKey = true
      · simpa [Obj.array?] using hmarking (mistakable_of_strncmp hnull.2 hm hcmp)
      · simp [ifParam, hcmp]
    | _ => rfl

/-- No entry of an interface is mistaken for one of its fields. -/
def IfaceApart (kvs : List Entry) : Prop :=
  ∀ p ∈ kvs, Apart nameKey Obj.text? p ∧ Apart markingKey Obj.array? p

/-- The name and the aliases are the last ones whatever was there before, and there are marks. -/
def IfaceSettled (kvs : List Entry) : Prop :=
  LastShows (valuesOf nameKey Obj.str? kvs) ∧
    ∀ xs ∈ (valuesOf markingKey Obj.array? kvs).getLast?, ∀ x ∈ xs, ∀ m, x = .map m →
      MarkingSettled m

/-- What an entry of which no key is mistaken does to an interface. -/
theorem ifParam_cases {p : Entry} (hp : Apart nameKey Obj.text? p ∧ Apart markingKey Obj.array? p)
    {e e' : Iface} (h : ifParam e p = .ok e') :
    (∃ s hfit, p = (nameKey, .str s) ∧ e' = { e with name := e.name.write (padded s) hfit }) ∨
    (∃ xs t, p = (markingKey, .array xs) ∧ xs.zipIdx.mapM processMarkingEntry = .ok t ∧
      e' = { e with markingTable := some t }) ∨
    ((p.1 = nameKey → Obj.str? p.2 = none) ∧ (p.1 = markingKey → Obj.array? p.2 = none) ∧
      e' = e) := by
  obtain ⟨key, v⟩ := p
  have hne : nameKey ≠ markingKey := by decide
  by_cases hn : key = nameKey
  · subst hn
    have hself : strncmp nameKey nameKey = true := by decide
    have hmarking : strncmp nameKey markingKey = false := by decide
    cases v with
    | str s =>
      by_cases hfit : s.length ≤ 64
      · simp only [ifParam, hself, if_true, Buffer.strncpy, hfit, dif_pos, Except.ok.injEq] at h
        exact .inl ⟨s, by simpa using hfit, rfl, h.symm⟩
      · simp [ifParam, hself, Buffer.strncpy, hfit] at h
    | array xs =>
      simp only [ifParam, hmarking, Bool.false_eq_true, if_false, Except.ok.injEq] at h
      exact .inr (.inr ⟨fun _ => rfl, fun he => absurd he hne, h.symm⟩)
    | _ => exact .inr (.inr ⟨fun _ => rfl, fun _ => rfl, (Except.ok.inj h).symm⟩)
  · by_cases hm : key = markingKey
    · subst hm
      have hname : strncmp markingKey nameKey = false := by decide
      have hself : strncmp markingKey markingKey = true := by decide
      cases v with
      | str s =>
        simp only [ifParam, hname, Bool.false_eq_true, if_false, Except.ok.injEq] at h
        exact .inr (.inr ⟨fun he => absurd he hn, fun _ => rfl, h.symm⟩)
      | array xs =>
        simp only [ifParam, hself, if_true] at h
        cases ht : xs.zipIdx.mapM processMarkingEntry with
        | error _ => simp [ht, bind, Except.bind] at h
        | ok t =>
          rw [ht] at h
          exact .inr (.inl ⟨xs, t, rfl, ht, (Except.ok.inj h).symm⟩)
      | _ => exact .inr (.inr ⟨fun _ => rfl, fun _ => rfl, (Except.ok.inj h).symm⟩)
    · have he := Except.ok.inj (((ifParam_ignored hn hm).mpr hp e).symm.trans h)
      exact .inr (.inr ⟨fun he => absurd he hn, fun he => absurd he hm, he.symm⟩)

theorem processIfParams_eq {kvs : List Entry} (hkeys : IfaceApart kvs) {j : Nat} {e : Iface}
    (h : processIfParams (.map kvs, j) = .ok e) :
    e.name.cells = overlays ((valuesOf nameKey Obj.str? kvs).map padded)
      (List.replicate 64 '\x00') ∧
    Option.Rel (fun xs t => xs.zipIdx.mapM processMarkingEntry = .ok t)
      (valuesOf markingKey Obj.array? kvs).getLast? e.markingTable := by
  constructor
  · refine foldlM_collect (R := fun (vs : List (List Char)) (e : Iface) => e.name.cells =
      overlays (vs.map padded) (List.replicate 64 '\x00')) rfl ?_ h
    intro p hp e e' vs hvs hstep
    obtain ⟨s, hfit, rfl, rfl⟩ | ⟨xs, t, rfl, -, rfl⟩ | ⟨hname, -, rfl⟩ :=
      ifParam_cases (hkeys p hp) hstep
    · rw [if_pos rfl, List.map_append, overlays_append, ← hvs]
      rfl
    · simpa [show markingKey ≠ nameKey by decide] using hvs
    · by_cases hn : p.1 = nameKey
      · simpa [hname hn] using hvs
      · simpa [hn] using hvs
  · refine foldlM_collect (R := fun (vs : List (List Obj)) (e : Iface) =>
      Option.Rel (fun xs t => xs.zipIdx.mapM processMarkingEntry = .ok t) vs.getLast?
        e.markingTable) .none ?_ h
    intro p hp e e' vs hvs hstep
    obtain ⟨s, hfit, rfl, rfl⟩ | ⟨xs, t, rfl, ht, rfl⟩ | ⟨-, hmarking, rfl⟩ :=
      ifParam_cases (hkeys p hp) hstep
    · simpa [show nameKey ≠ markingKey by decide] using hvs
    · simpa [Obj.array?] using Option.Rel.some ht
    · by_cases hm : p.1 = markingKey
      · simpa [hmarking hm] using hvs
      · simpa [hm] using hvs

theorem ifaceFilled_iff {kvs : List Entry} (hkeys : IfaceApart kvs)
    (hmarkings : ∀ xs ∈ valuesOf markingKey Obj.array? kvs, ∀ x ∈ xs, ∀ m, x = .map m →
      MarkingApart m) {j : Nat} {e : Iface} (h : processIfParams (.map kvs, j) = .ok e) :
    IfaceFilled kvs e ↔ IfaceSettled kvs := by
  obtain ⟨hname, htable⟩ := processIfParams_eq hkeys h
  have htext := cString_overlays 64 (valuesOf nameKey Obj.str? kvs)
  rw [← hname] at htext
  have hrel := rel_iff (S := List.Forall₂ fun x e => ∃ kvs, x = .map kvs ∧ MarkingFilled kvs e)
    (C := fun xs => ∀ x ∈ xs, ∀ m, x = .map m → MarkingSettled m) htable fun xs hxs t ht => by
      apply forall₂_iff (forall₂_of_mapM_zipIdx ht)
      rintro x hx e ⟨i, he⟩
      have hapart := hmarkings xs (List.mem_of_getLast? hxs) x hx
      cases x with
      | map m =>
        have hfilled := markingFilled_iff (hapart m rfl) he
        constructor
        · rintro ⟨_, hm, hf⟩ m' hm'
          obtain rfl : m = _ := Obj.map.inj hm
          obtain rfl : m = _ := Obj.map.inj hm'
          exact hfilled.mp hf
        · exact fun hs => ⟨m, rfl, hfilled.mpr (hs m rfl)⟩
      | _ => exact absurd he (by simp [processMarkingEntry])
  constructor
  · exact fun hf => ⟨htext.mp hf.name, hrel.mp hf.markings⟩
  · exact fun hs => ⟨htext.mpr hs.1, hrel.mpr hs.2⟩

/-! ## Tables of interfaces -/

theorem wanmanagerParam_ignored {p : Entry} (hp : p.1 ≠ cpeInterfaceKey) :
    (∀ r, wanmanagerParam r p = .ok r) ↔ Apart cpeInterfaceKey Obj.array? p := by
  obtain ⟨key, v⟩ := p
  have hnull : '\x00' ∉ cpeInterfaceKey := by decide
  constructor
  · intro h hkey
    cases v with
    | array xs =>
      have hwrite := h {}
      simp only [wanmanagerParam, strncmp_of_mistakable hnull hkey, if_true] at hwrite
      cases htable : xs.zipIdx.mapM processIfParams with
      | error e => simp [htable, bind, Except.bind] at hwrite
      | ok t => simp [htable, bind, Except.bind, pure, Except.pure] at hwrite
    | _ => rfl
  · intro h r
    by_cases hcmp : strncmp key cpeInterfaceKey = true
    · have harray := h (mistakable_of_strncmp hnull hp hcmp)
      cases v <;> simp_all [wanmanagerParam, Obj.array?]
    · simp [wanmanagerParam, hcmp]

/-- Every entry that is taken for a table leaves one. -/
theorem wanmanagerParam_array {p : Entry} {xs : List Obj} (hkey : strncmp p.1 cpeInterfaceKey = true)
    (harray : Obj.array? p.2 = some xs) {r r' : Request} (h : wanmanagerParam r p = .ok r') :
    ∃ t, xs.zipIdx.mapM processIfParams = .ok t ∧ r' = { r with ifTable := some t } := by
  obtain ⟨key, v⟩ := p
  cases v with
  | array ys =>
    obtain rfl : ys = xs := Option.some.inj harray
    simp only [wanmanagerParam, hkey, if_true] at h
    cases ht : ys.zipIdx.mapM processIfParams with
    | error e => simp [ht, bind, Except.bind] at h
    | ok t =>
      rw [ht] at h
      exact ⟨t, rfl, (Except.ok.inj h).symm⟩
  | _ => exact absurd harray (by simp [Obj.array?])

theorem wanmanagerParam_none {p : Entry}
    (hp : strncmp p.1 cpeInterfaceKey = true → Obj.array? p.2 = none) (r : Request) :
    wanmanagerParam r p = .ok r := by
  obtain ⟨key, v⟩ := p
  by_cases hcmp : strncmp key cpeInterfaceKey = true
  · have harray := hp hcmp
    cases v <;> simp_all [wanmanagerParam, Obj.array?]
  · simp [wanmanagerParam, hcmp]

/-- The table is all that these entries change. -/
theorem wanmanagerParams_table {kvs : List Entry} {r r' : Request}
    (h : kvs.foldlM wanmanagerParam r = .ok r') : ∃ t, r' = { r with ifTable := t } := by
  refine foldlM_collect (g := fun _ => ([] : List Unit))
    (R := fun _ r' => ∃ t, r' = { r with ifTable := t }) ⟨_, rfl⟩ ?_ h
  rintro p - s s' - ⟨t, rfl⟩ hstep
  cases harray : Obj.array? p.2 with
  | none =>
    rw [wanmanagerParam_none fun _ => harray] at hstep
    exact ⟨t, (Except.ok.inj hstep).symm⟩
  | some xs =>
    by_cases hcmp : strncmp p.1 cpeInterfaceKey = true
    · obtain ⟨t', -, rfl⟩ := wanmanagerParam_array hcmp harray hstep
      exact ⟨_, rfl⟩
    · rw [wanmanagerParam_none fun hc => absurd hc hcmp] at hstep
      exact ⟨t, (Except.ok.inj hstep).symm⟩

/-- Entries without effect are none that are taken for a table. -/
theorem wanmanagerParams_ignored {kvs : List Entry} :
    (∀ r, kvs.foldlM wanmanagerParam r = .ok r) ↔
      ∀ p ∈ kvs, strncmp p.1 cpeInterfaceKey = true → Obj.array? p.2 = none := by
  constructor
  · intro h p hp hcmp
    by_contra hne
    obtain ⟨xs, hxs⟩ := Option.ne_none_iff_exists'.mp hne
    have hsome := foldlM_collect
      (g := fun p => if strncmp p.1 cpeInterfaceKey then (Obj.array? p.2).toList else [])
      (R := fun (vs : List (List Obj)) (r : Request) => vs ≠ [] → r.ifTable ≠ none) (by simp)
      (fun q _ s s' vs hvs hstep => by
        by_cases hq : strncmp q.1 cpeInterfaceKey = true
        · cases harray : Obj.array? q.2 with
          | none =>
            rw [wanmanagerParam_none fun _ => harray] at hstep
            obtain rfl := Except.ok.inj hstep
            simpa [hq] using hvs
          | some ys =>
            obtain ⟨t, -, rfl⟩ := wanmanagerParam_array hq harray hstep
            simp
        · rw [wanmanagerParam_none fun hc => absurd hc hq] at hstep
          obtain rfl := Except.ok.inj hstep
          simpa [hq] using hvs) (h {})
    refine hsome (fun hnil => ?_) rfl
    have hmem := List.flatMap_eq_nil_iff.mp hnil p hp
    simp [hcmp, hxs] at hmem
  · exact fun h r => foldlM_eq_self fun p hp => wanmanagerParam_none (h p hp) r

/-- What the table of a request was made of. -/
def TableRead (o : Option (List Obj)) (t : Option (List Iface)) : Prop :=
  Option.Rel (fun xs t => xs.zipIdx.mapM processIfParams = .ok t) o t

theorem wanmanagerParams_read {kvs : List Entry} (hkeys : ∀ p ∈ kvs, Apart cpeInterfaceKey Obj.array? p)
    {before : List (List Obj)} {r r' : Request} (hr : TableRead before.getLast? r.ifTable)
    (h : kvs.foldlM wanmanagerParam r = .ok r') :
    TableRead (before ++ valuesOf cpeInterfaceKey Obj.array? kvs).getLast? r'.ifTable := by
  have hself : strncmp cpeInterfaceKey cpeInterfaceKey = true := by decide
  refine foldlM_collect (R := fun (vs : List (List Obj)) (r : Request) =>
    TableRead (before ++ vs).getLast? r.ifTable) (by simpa using hr) ?_ h
  intro p hp s s' vs hvs hstep
  by_cases hkey : p.1 = cpeInterfaceKey
  · cases harray : Obj.array? p.2 with
    | none =>
      rw [wanmanagerParam_none fun _ => harray] at hstep
      obtain rfl := Except.ok.inj hstep
      simpa using hvs
    | some xs =>
      obtain ⟨t, ht, rfl⟩ := wanmanagerParam_array (hkey ▸ hself) harray hstep
      have hread : TableRead (some xs) (some t) := .some ht
      simpa [hkey, ← List.append_assoc] using hread
  · rw [(wanmanagerParam_ignored hkey).mpr (hkeys p hp)] at hstep
    obtain rfl := Except.ok.inj hstep
    simpa [hkey] using hvs

/-! ## The entries both decoders know -/

/-- A key that is not empty is not taken for two names with different first characters. -/
theorem strncmp_head {key : List Char} {a b : Char} {s t : List Char} (hne : key ≠ []) (hab : a ≠ b)
    (h : strncmp key (a :: s) = true) : strncmp key (b :: t) = false := by
  obtain ⟨c, key, rfl⟩ := List.exists_cons_of_ne_nil hne
  have hc : c = a := by
    rw [strncmp, Bool.and_eq_true, decide_eq_true_eq] at h
    exact h.1
  have hcb : c ≠ b := hc ▸ hab
  simp [strncmp, hcb]

/-- No entry of a blob is mistaken for one of the fields that both decoders know. -/
def CommonApart (p : Entry) : Prop :=
  Apart subdocKey Obj.str? p ∧ Apart versionKey Obj.unsigned? p ∧
    Apart transactionKey Obj.unsigned? p

theorem commonParam_ignored {p : Entry} (hne : p.1 ≠ []) (hs : p.1 ≠ subdocKey)
    (hv : p.1 ≠ versionKey) (ht : p.1 ≠ transactionKey) :
    (∀ r, commonParam r p = .ok r) ↔ CommonApart p := by
  obtain ⟨key, v⟩ := p
  have hnull : '\x00' ∉ subdocKey ∧ '\x00' ∉ versionKey ∧ '\x00' ∉ transactionKey := by decide
  constructor
  · intro h
    refine ⟨fun hkey => ?_, fun hkey => ?_, fun hkey => ?_⟩
    · have hcmp := strncmp_of_mistakable hnull.1 hkey
      cases v with
      | str s =>
        by_cases hfit : s.length < 64
        · obtain ⟨b, hb⟩ := Buffer.exists_write_ne (n := 64) (p := padded s ++ ['\x00'])
            (by simp) (by simp; omega)
          have hwrite := h { subdocName := b }
          simp only [commonParam, hcmp, if_true, hfit, dif_pos, Except.ok.injEq,
            Request.mk.injEq, and_true] at hwrite
          exact absurd hwrite hb
        · have hwrite := h {}
          simp [commonParam, hcmp, hfit] at hwrite
      | _ => rfl
    · have hcmp := strncmp_of_mistakable hnull.2.1 hkey
      have hsub : strncmp key subdocKey = false := strncmp_head hne (by decide) hcmp
      cases v with
      | positiveInteger u =>
        have hzero := h { version := 0 }
        have hone := h { version := 1 }
        simp only [commonParam, hsub, hcmp, Bool.false_eq_true, if_false, if_true,
          Except.ok.injEq, Request.mk.injEq, true_and, and_true] at hzero hone
        exact absurd (hzero.symm.trans hone) (by decide)
      | _ => rfl
    · have hcmp := strncmp_of_mistakable hnull.2.2 hkey
      have hsub : strncmp key subdocKey = false := strncmp_head hne (by decide) hcmp
      have hver : strncmp key versionKey = false := strncmp_head hne (by decide) hcmp
      cases v with
      | positiveInteger u =>
        have hzero := h { transactionId := 0 }
        have hone := h { transactionId := 1 }
        simp only [commonParam, hsub, hver, hcmp, Bool.false_eq_true, if_false, if_true,
          Except.ok.injEq, Request.mk.injEq, true_and, and_true] at hzero hone
        exact absurd (hzero.symm.trans hone) (by decide)
      | _ => rfl
  · rintro ⟨hsub, hver, htx⟩ r
    by_cases hcs : strncmp key subdocKey = true
    · have hstr := hsub (mistakable_of_strncmp hnull.1 hs hcs)
      cases v <;> simp_all [commonParam, Obj.str?]
    · by_cases hcv : strncmp key versionKey = true
      · have hint := hver (mistakable_of_strncmp hnull.2.1 hv hcv)
        cases v <;> simp_all [commonParam, Obj.unsigned?]
      · by_cases hct : strncmp key transactionKey = true
        · have hint := htx (mistakable_of_strncmp hnull.2.2 ht hct)
          cases v <;> simp_all [commonParam, Obj.unsigned?]
        · simp [commonParam, hcs, hcv, hct]

/-- What an entry does to the fields that both decoders know. -/
def CommonStep (p : Entry) (r r' : Request) : Prop :=
  (∃ s hfit, p = (subdocKey, .str s) ∧
    r' = { r with subdocName := r.subdocName.write (padded s ++ ['\x00']) hfit }) ∨
  (∃ u, p = (versionKey, .positiveInteger u) ∧ r' = { r with version := u.toUInt32 }) ∨
  (∃ u, p = (transactionKey, .positiveInteger u) ∧ r' = { r with transactionId := u.toUInt16 }) ∨
  ((p.1 = subdocKey → Obj.str? p.2 = none) ∧ (p.1 = versionKey → Obj.unsigned? p.2 = none) ∧
    (p.1 = transactionKey → Obj.unsigned? p.2 = none) ∧
    r' = { r with ifTable := r'.ifTable, failOver := r'.failOver })

theorem commonParam_step {p : Entry} {r r' : Request}
    (hp : p.1 = subdocKey ∨ p.1 = versionKey ∨ p.1 = transactionKey)
    (h : commonParam r p = .ok r') : CommonStep p r r' := by
  obtain ⟨key, v⟩ := p
  have hss : strncmp subdocKey subdocKey = true := by decide
  have hvs : strncmp versionKey subdocKey = false := by decide
  have hvv : strncmp versionKey versionKey = true := by decide
  have hts : strncmp transactionKey subdocKey = false := by decide
  have htv : strncmp transactionKey versionKey = false := by decide
  have htt : strncmp transactionKey transactionKey = true := by decide
  have hsv : subdocKey ≠ versionKey := by decide
  have hst : subdocKey ≠ transactionKey := by decide
  have hvt : versionKey ≠ transactionKey := by decide
  obtain rfl | rfl | rfl : key = subdocKey ∨ key = versionKey ∨ key = transactionKey := hp
  · cases v with
    | str s =>
      by_cases hfit : s.length < 64
      · simp only [commonParam, hss, if_true, hfit, dif_pos, Except.ok.injEq] at h
        exact .inl ⟨s, by simp; omega, rfl, h.symm⟩
      · simp [commonParam, hss, hfit] at h
    | _ =>
      simp only [commonParam, hss, if_true, Except.ok.injEq] at h
      subst h
      exact .inr (.inr (.inr ⟨fun _ => rfl, fun he => absurd he hsv, fun he => absurd he hst, rfl⟩))
  · cases v with
    | positiveInteger u =>
      simp only [commonParam, hvs, hvv, Bool.false_eq_true, if_false, if_true,
        Except.ok.injEq] at h
      exact .inr (.inl ⟨u, rfl, h.symm⟩)
    | _ =>
      simp only [commonParam, hvs, hvv, Bool.false_eq_true, if_false, if_true,
        Except.ok.injEq] at h
      subst h
      exact .inr (.inr (.inr ⟨fun he => absurd he.symm hsv, fun _ => rfl,
        fun he => absurd he hvt, rfl⟩))
  · cases v with
    | positiveInteger u =>
      simp only [commonParam, hts, htv, htt, Bool.false_eq_true, if_false, if_true,
        Except.ok.injEq] at h
      exact .inr (.inr (.inl ⟨u, rfl, h.symm⟩))
    | _ =>
      simp only [commonParam, hts, htv, htt, Bool.false_eq_true, if_false, if_true,
        Except.ok.injEq] at h
      subst h
      exact .inr (.inr (.inr ⟨fun he => absurd he.symm hst, fun he => absurd he.symm hvt,
        fun _ => rfl, rfl⟩))

theorem commonParam_rest {p : Entry} {r r' : Request} (h : commonParam r p = .ok r') :
    r'.ifTable = r.ifTable ∧ r'.failOver = r.failOver := by
  obtain ⟨key, v⟩ := p
  cases v <;> simp only [commonParam] at h <;> split_ifs at h <;> cases h <;> exact ⟨rfl, rfl⟩

/-- A decoder whose entries do this fills the fields that both know. -/
theorem commonFilled {step : Request → Entry → Except Failure Request} {blob : List Entry}
    {r : Request} (h : ∀ p ∈ blob, ∀ {s s'}, step s p = .ok s' → CommonStep p s s')
    (hrun : blob.foldlM step {} = .ok r) : CommonFilled blob r := by
  have hsv : subdocKey ≠ versionKey := by decide
  have hst : subdocKey ≠ transactionKey := by decide
  have hvt : versionKey ≠ transactionKey := by decide
  constructor
  · refine foldlM_collect (R := fun (vs : List (List Char)) (r : Request) =>
      r.subdocName.text = cString (vs.getLast?.getD [])) ?_ ?_ hrun
    · decide +kernel
    · intro p hp s s' vs hvs hstep
      obtain ⟨v, hfit, rfl, rfl⟩ | ⟨u, rfl, rfl⟩ | ⟨u, rfl, rfl⟩ | ⟨hnone, -, -, hs'⟩ :=
        h p hp hstep
      · simp [Buffer.text, Buffer.write, overlay, Obj.str?, cString_padded_null]
      · simpa [hsv.symm] using hvs
      · simpa [hst.symm] using hvs
      · rw [hs']
        by_cases hkey : p.1 = subdocKey
        · simpa [hnone hkey] using hvs
        · simpa [hkey] using hvs
  · refine foldlM_collect (R := fun (vs : List UInt64) (r : Request) =>
      r.version = (vs.getLast?.getD 0).toUInt32) rfl ?_ hrun
    intro p hp s s' vs hvs hstep
    obtain ⟨v, hfit, rfl, rfl⟩ | ⟨u, rfl, rfl⟩ | ⟨u, rfl, rfl⟩ | ⟨-, hnone, -, hs'⟩ :=
      h p hp hstep
    · simpa [hsv] using hvs
    · simp [Obj.unsigned?]
    · simpa [hvt.symm] using hvs
    · rw [hs']
      by_cases hkey : p.1 = versionKey
      · simpa [hnone hkey] using hvs
      · simpa [hkey] using hvs
  · refine foldlM_collect (R := fun (vs : List UInt64) (r : Request) =>
      r.transactionId = (vs.getLast?.getD 0).toUInt16) rfl ?_ hrun
    intro p hp s s' vs hvs hstep
    obtain ⟨v, hfit, rfl, rfl⟩ | ⟨u, rfl, rfl⟩ | ⟨u, rfl, rfl⟩ | ⟨-, -, hnone, hs'⟩ :=
      h p hp hstep
    · simpa [hst] using hvs
    · simpa [hvt] using hvs
    · simp [Obj.unsigned?]
    · rw [hs']
      by_cases hkey : p.1 = transactionKey
      · simpa [hnone hkey] using hvs
      · simpa [hkey] using hvs

/-! ## Refusals and faults -/

/-- What a part of a blob ends the decoder with, if it does. -/
def markingCheck : Obj → Except Failure Unit
  | .map _ => .ok ()
  | _ => .error .refused

def ifParamCheck (p : Entry) : Except Failure Unit :=
  match p.2 with
  | .str s => if strncmp p.1 nameKey ∧ 64 < s.length then .error .fault else .ok ()
  | .array xs => if strncmp p.1 markingKey then forM xs markingCheck else .ok ()
  | _ => .ok ()

def ifaceCheck : Obj → Except Failure Unit
  | .map kvs => forM kvs ifParamCheck
  | _ => .error .refused

def wanmanagerParamCheck (p : Entry) : Except Failure Unit :=
  match p.2 with
  | .array xs => if strncmp p.1 cpeInterfaceKey then forM xs ifaceCheck else .ok ()
  | _ => .ok ()

def commonCheck (p : Entry) : Except Failure Unit :=
  match p.2 with
  | .str s => if strncmp p.1 subdocKey ∧ 64 ≤ s.length then .error .fault else .ok ()
  | _ => .ok ()

/-- The value of an entry that is taken for `wanmanager` is a map. -/
def wanCheck (p : Entry) : Except Failure Unit :=
  if strncmp p.1 wanmanagerKey then
    match p.2 with
    | .map kvs => forM kvs wanmanagerParamCheck
    | _ => .error .fault
  else commonCheck p

/-- The value of an entry that is taken for `wanfailover` is a map. -/
def failOverCheck (p : Entry) : Except Failure Unit :=
  if strncmp p.1 wanfailoverKey then
    match p.2 with
    | .map _ => .ok ()
    | _ => .error .fault
  else commonCheck p

theorem processMarkingEntry_error (x : Obj) (i : Nat) (f : Failure) :
    processMarkingEntry (x, i) = .error f ↔ markingCheck x = .error f := by
  cases x <;> simp [processMarkingEntry, markingCheck]

theorem ifParam_error (p : Entry) (e : Iface) (f : Failure) :
    ifParam e p = .error f ↔ ifParamCheck p = .error f := by
  obtain ⟨key, v⟩ := p
  cases v with
  | str s =>
    by_cases hcmp : strncmp key nameKey = true
    · by_cases hfit : s.length ≤ 64
      · simp [ifParam, ifParamCheck, hcmp, Buffer.strncpy, hfit, Nat.not_lt.mpr hfit]
      · simp [ifParam, ifParamCheck, hcmp, Buffer.strncpy, hfit, Nat.lt_of_not_le hfit]
    · simp [ifParam, ifParamCheck, hcmp]
  | array xs =>
    by_cases hcmp : strncmp key markingKey = true
    · have hxs := mapM_zipIdx_eq_error (fun x _ => processMarkingEntry_error x) 0 f (l := xs)
      simp only [ifParam, ifParamCheck, hcmp, if_true]
      rw [← hxs]
      cases xs.zipIdx.mapM processMarkingEntry <;> simp [bind, Except.bind, pure, Except.pure]
    · simp [ifParam, ifParamCheck, hcmp]
  | _ => simp [ifParam, ifParamCheck]

theorem processIfParams_error (x : Obj) (i : Nat) (f : Failure) :
    processIfParams (x, i) = .error f ↔ ifaceCheck x = .error f := by
  cases x with
  | map kvs => exact foldlM_eq_error (fun p _ => ifParam_error p) _ f
  | _ => simp [processIfParams, ifaceCheck]

theorem wanmanagerParam_error (p : Entry) (r : Request) (f : Failure) :
    wanmanagerParam r p = .error f ↔ wanmanagerParamCheck p = .error f := by
  obtain ⟨key, v⟩ := p
  by_cases hcmp : strncmp key cpeInterfaceKey = true
  · cases v with
    | array xs =>
      have hxs := mapM_zipIdx_eq_error (fun x _ => processIfParams_error x) 0 f (l := xs)
      simp only [wanmanagerParam, wanmanagerParamCheck, hcmp, if_true]
      rw [← hxs]
      cases xs.zipIdx.mapM processIfParams <;> simp [bind, Except.bind, pure, Except.pure]
    | _ => simp [wanmanagerParam, wanmanagerParamCheck, hcmp]
  · cases v <;> simp [wanmanagerParam, wanmanagerParamCheck, hcmp]

theorem commonParam_error (p : Entry) (r : Request) (f : Failure) :
    commonParam r p = .error f ↔ commonCheck p = .error f := by
  obtain ⟨key, v⟩ := p
  by_cases hcs : strncmp key subdocKey = true
  · cases v with
    | str s =>
      by_cases hfit : s.length < 64
      · simp [commonParam, commonCheck, hcs, hfit, Nat.not_le.mpr hfit]
      · simp [commonParam, commonCheck, hcs, hfit, Nat.le_of_not_lt hfit]
    | _ => simp [commonParam, commonCheck, hcs]
  · by_cases hcv : strncmp key versionKey = true
    · cases v <;> simp [commonParam, commonCheck, hcs, hcv]
    · by_cases hct : strncmp key transactionKey = true
      · cases v <;> simp [commonParam, commonCheck, hcs, hcv, hct]
      · cases v <;> simp [commonParam, commonCheck, hcs, hcv, hct]

theorem wanParam_error (p : Entry) (r : Request) (f : Failure) :
    wanParam r p = .error f ↔ wanCheck p = .error f := by
  by_cases hcmp : strncmp p.1 wanmanagerKey = true
  · simp only [wanParam, wanCheck, hcmp, if_true]
    cases p.2 with
    | map kvs => exact foldlM_eq_error (fun p _ => wanmanagerParam_error p) r f
    | _ => simp [processWanmanagerParams]
  · simp only [wanParam, wanCheck, hcmp, Bool.false_eq_true, if_false]
    exact commonParam_error p r f

theorem failOverParam_error (memory : Bool) (p : Entry) (r : Request) (f : Failure) :
    failOverParam memory r p = .error f ↔ failOverCheck p = .error f := by
  by_cases hcmp : strncmp p.1 wanfailoverKey = true
  · simp only [failOverParam, failOverCheck, hcmp, if_true]
    cases p.2 <;> simp [processWanFailOverParams]
  · simp only [failOverParam, failOverCheck, hcmp, Bool.false_eq_true, if_false]
    exact commonParam_error p r f

/-- A decoder makes a request of a blob that its check passes. -/
theorem exists_ok {step : Request → Entry → Except Failure Request} {check : Entry → Except Failure Unit}
    {blob : List Entry} (h : ∀ p r f, step r p = .error f ↔ check p = .error f) (r : Request) :
    forM blob check = .ok () ↔ ∃ r', blob.foldlM step r = .ok r' := by
  have herror := foldlM_eq_error (l := blob) (fun p _ => h p) r
  constructor
  · intro hcheck
    cases hrun : blob.foldlM step r with
    | ok r' => exact ⟨r', rfl⟩
    | error f => exact absurd ((herror f).mp hrun) (by simp [hcheck])
  · rintro ⟨r', hrun⟩
    cases hcheck : forM blob check with
    | ok => rfl
    | error f => exact absurd ((herror f).mpr hcheck) (by simp [hrun])

end WanManager.WebConfigDecoding
