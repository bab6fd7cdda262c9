import WanManager.Text.CString
import WanManager.Text.Scan
import WanManager.Types
import WanManager.WebConfig

/-! # The persisted markings of an interface

`DmlCheckAndProceedMarkingOperations` keeps a list of aliases in PSM, joined by `-`, and four
records for each of them. Every operation takes the list apart and composes it anew, in buffers of
64 characters. -/

namespace WanManager

namespace MarkingRecords

open Text
open WebConfig (Marking)

/-- What decides whether an alias is in a list. -/
scoped instance lawfulBEq_alias : LawfulBEq (List Char) := inferInstance

/-! ## Records -/

/-- The records of a marking. -/
inductive Field where
  | alias_ | skbPort | skbMark | ethPriorityMask
  deriving DecidableEq, Repr

/-- In the order they are written. -/
def Field.all : List Field := [.alias_, .skbPort, .skbMark, .ethPriorityMask]

theorem mem_all (f : Field) : f ∈ Field.all := by
  cases f <;> decide

instance (p : Field → Prop) [DecidablePred p] : Decidable (∀ f, p f) :=
  decidable_of_iff (∀ f ∈ Field.all, p f) ⟨fun h f => h f (mem_all f), fun h f _ => h f⟩

/-- How their names end. -/
def Field.leaf : Field → List Char
  | .alias_ => ".Alias".toList
  | .skbPort => ".SKBPort".toList
  | .skbMark => ".SKBMark".toList
  | .ethPriorityMask => ".EthernetPriorityMark".toList

/-- How the names of an interface start. The number is short, so that the name of the list fits the
buffers for names. -/
def tableName (number : Nat) : List Char :=
  "dmsb.wanmanager.if.".toList ++ decimal number ++ ".Marking.".toList

/-- `PSM_MARKING_LIST` -/
def markingList (number : Nat) : List Char := tableName number ++ "List".toList

/-- `PSM_MARKING_ALIAS` and the other three. -/
def markingRecord (number : Nat) (a : List Char) (f : Field) : List Char :=
  tableName number ++ (a ++ f.leaf)

/-- A name in the 64 characters of `acPSMRecEntry`. -/
def recEntry (name : List Char) : List Char := (CStr.snprintf name : CStr 64).chars

/-- The records in PSM. What is written comes from buffers of 64 characters. -/
abbrev Psm := List Char → Option (CStr 64)

/-- A record is set, or deleted. -/
def Psm.write (psm : Psm) (name : List Char) (value : Option (CStr 64)) : Psm :=
  fun n => if n = name then value else psm n

/-- The answers from outside. -/
structure Host where
  /-- PSM takes a value for a name, or deletes it -/
  accepts : List Char → Option (CStr 64) → Bool
  /-- `InterfaceVLANMarkingSupport`, which only some products ask for -/
  interfaceVLANMarkingSupport : Bool

variable (host : Host)

/-- `DmlWanSetPSMRecordValue` -/
def dmlWanSetPSMRecordValue (name : List Char) (value : CStr 64) (psm : Psm) : Bool × Psm :=
  if host.accepts name (some value) then (true, psm.write name (some value)) else (false, psm)

/-- `DmlWanDeletePSMRecordValue`; its result is not looked at. -/
def dmlWanDeletePSMRecordValue (name : List Char) (psm : Psm) : Psm :=
  if host.accepts name none then psm.write name none else psm

/-- What is printed into the record of a field. -/
def value (m : Marking) : Field → List Char
  | .alias_ => m.alias_.toList
  | .skbPort => decimal m.skbPort
  | .skbMark => decimal m.skbMark
  | .ethPriorityMask => (toString m.ethernetPriorityMark).toList

/-- The records of a marking are set. -/
def setRecords (number : Nat) (m : Marking) (psm : Psm) : Psm :=
  Field.all.foldl (fun psm f =>
    (dmlWanSetPSMRecordValue host (recEntry (markingRecord number m.alias_.toList f))
      (.snprintf (value m f)) psm).2) psm

/-- They are deleted. -/
def deleteRecords (number : Nat) (a : List Char) (psm : Psm) : Psm :=
  Field.all.foldl (fun psm f =>
    dmlWanDeletePSMRecordValue host (recEntry (markingRecord number a f)) psm) psm

/-! ## The list -/

/-- The list is the format of its own copy, which `strtok` takes apart. -/
def tokens (list : CStr 64) : Option (List (List Char)) :=
  (CStr.formatted list.chars).map fun tmp => words '-' (CStr.snprintf tmp : CStr 64).chars

/-- One token on its way to `acNewMarkingList`, with `iTotalMarking`. -/
def copyOther (a : List Char) (new : Nat × CStr 64) (token : List Char) :
    Option (Nat × CStr 64) :=
  if token = a then some new
  else if new.1 = 0 then some (1, .snprintf token)
  else do
    let list ← new.2.strcat ['-']
    let list ← list.strcat token
    some (new.1 + 1, list)

/-- All tokens except one alias, as a list again. -/
def listWithout (a : List Char) (tokens : List (List Char)) : Option (CStr 64) := do
  let new ← tokens.foldlM (copyOther a) (0, .snprintf [])
  some (if new.1 = 0 then .snprintf [] else .snprintf new.2.chars)

/-! ## Operations -/

/-- `DML_WAN_MARKING_DML_OPERATIONS` -/
inductive Operation where
  | add | delete | update
  deriving DecidableEq, Repr

/-- The numbers that a new marking gets: `SKBPort` and `SKBMark` are `UINT`. -/
def numbered (m : Marking) : Marking :=
  let number := m.instanceNumber + 1
  { m with instanceNumber := number, skbPort := number % 2 ^ 32
           skbMark := number * 1048576 % 2 ^ 32 }

/-- `DmlCheckAndProceedMarkingOperations` for a marking of the interface with a number. -/
def dmlCheckAndProceedMarkingOperations (number : Nat) (op : Operation) (m : Marking) (psm : Psm) :
    Option (AnscStatus × Marking × Psm) :=
  if host.interfaceVLANMarkingSupport = false then some (.failure, m, psm)
  else
    match psm (markingList number) with
    | none => some (.success, m, psm)
    | some list => do
      let found := m.alias_.toList ∈ (← tokens list)
      match op with
      | .add =>
        if found then some (.failure, m, psm)
        else
          let new : CStr 64 :=
            if 0 < list.chars.length then .snprintf (list.chars ++ '-' :: m.alias_.toList)
            else .snprintf m.alias_.toList
          match dmlWanSetPSMRecordValue host (markingList number) new psm with
          | (false, psm) => some (.failure, m, psm)
          | (true, psm) =>
            some (.success, numbered m, setRecords host number (numbered m) psm)
      | .update =>
        if found then some (.success, m, setRecords host number m psm)
        else some (.failure, m, psm)
      | .delete =>
        if found then
          let psm := deleteRecords host number m.alias_.toList psm
          let new ← listWithout m.alias_.toList (← tokens list)
          some (.success, m, (dmlWanSetPSMRecordValue host (markingList number) new psm).2)
        else some (.failure, m, psm)

/-- `DmlAddMarking` -/
def dmlAddMarking (number : Nat) (m : Marking) (psm : Psm) : Option (AnscStatus × Marking × Psm) :=
  -- the status is printed and not returned
  (dmlCheckAndProceedMarkingOperations host number .add m psm).map fun r => (.success, r.2)

/-- `DmlDeleteMarking` -/
def dmlDeleteMarking (number : Nat) (m : Marking) (psm : Psm) :
    Option (AnscStatus × Marking × Psm) :=
  dmlCheckAndProceedMarkingOperations host number .delete m psm

/-- `DmlSetMarking` -/
def dmlSetMarking (number : Nat) (m : Marking) (psm : Psm) : Option (AnscStatus × Marking × Psm) :=
  dmlCheckAndProceedMarkingOperations host number .update m psm

/-- A call of one of them, for a marking. -/
structure Request where
  op : Operation
  marking : Marking
  deriving DecidableEq, Repr

/-- The alias it is about. -/
def Request.alias_ (r : Request) : List Char := r.marking.alias_.toList

def Request.call (number : Nat) (r : Request) (psm : Psm) : Option (AnscStatus × Marking × Psm) :=
  match r.op with
  | .add => dmlAddMarking host number r.marking psm
  | .delete => dmlDeleteMarking host number r.marking psm
  | .update => dmlSetMarking host number r.marking psm

/-! ## What they are for -/

/-- What a request makes of a set of aliases in order of addition; `none` rejects it. -/
def accepted (r : Request) (as : List (List Char)) : Option (List (List Char)) :=
  if host.interfaceVLANMarkingSupport = false then none
  else
    match r.op with
    | .add => if r.alias_ ∈ as then none else some (as ++ [r.alias_])
    | .update => if r.alias_ ∈ as then some as else none
    | .delete => if r.alias_ ∈ as then some (as.erase r.alias_) else none

/-- PSM has a list of some aliases, and the records of these. -/
structure Persists (number : Nat) (psm : Psm) (as : List (List Char)) : Prop where
  nodup : as.Nodup
  list : ((psm (markingList number)).map CStr.chars).getD [] = CStr.joined '-' as
  records : ∀ a f, (psm (markingRecord number a f)).isSome ↔ a ∈ as

/-- A run of requests keeps the list and the records, and each of them reports failure exactly when
it is rejected. -/
def KeepsList (number : Nat) : List Request → Psm → List (List Char) → Prop
  | [], psm, as => Persists number psm as
  | r :: rs, psm, as => Persists number psm as ∧
    ∃ status m psm', r.call host number psm = some (status, m, psm') ∧
      (status = .failure ↔ accepted host r as = none) ∧
      KeepsList number rs psm' ((accepted host r as).getD as)

/-- A request does not reach a fault: the list can be read, and what is added is new and fits, with
the names of its records. -/
def Meets (number : Nat) (listed : Bool) (r : Request) (as : List (List Char)) : Prop :=
  (host.interfaceVLANMarkingSupport = true → listed = true) ∧
  (r.op = .add → host.interfaceVLANMarkingSupport = true ∧ r.alias_ ∉ as ∧
    (CStr.joined '-' (as ++ [r.alias_])).length < 64 ∧
    ∀ f, (markingRecord number r.alias_ f).length < 64)

instance (number : Nat) (listed : Bool) (r : Request) (as : List (List Char)) :
    Decidable (Meets host number listed r as) :=
  inferInstanceAs (Decidable (_ ∧ (_ → _ ∧ _ ∧ _ ∧ _)))

def AllMeet (number : Nat) (listed : Bool) : List Request → List (List Char) → Prop
  | [], _ => True
  | r :: rs, as => Meets host number listed r as ∧
    AllMeet number listed rs ((accepted host r as).getD as)

instance decidableAllMeet (number : Nat) (listed : Bool) :
    (rs : List Request) → (as : List (List Char)) → Decidable (AllMeet host number listed rs as)
  | [], _ => isTrue trivial
  | r :: rs, as =>
    have := decidableAllMeet number listed rs ((accepted host r as).getD as)
    inferInstanceAs (Decidable (_ ∧ _))

/-! ## Names -/

theorem leaf_of_suffix {f g : Field} (h : f.leaf <:+ g.leaf) : f = g := by
  revert h
  cases f <;> cases g <;> decide

/-- The end of a name tells what it is the name of. -/
theorem leaf_cancel {a b : List Char} {f g : Field} (h : a ++ f.leaf = b ++ g.leaf) :
    a = b ∧ f = g := by
  have hf : f.leaf <:+ b ++ g.leaf := h ▸ List.suffix_append a f.leaf
  have hfg : f = g := by
    obtain hle | hle := List.suffix_or_suffix_of_suffix hf (List.suffix_append b g.leaf)
    · exact leaf_of_suffix hle
    · exact (leaf_of_suffix hle).symm
  subst hfg
  exact ⟨List.append_cancel_right h, rfl⟩

theorem markingRecord_inj {number : Nat} {a b : List Char} {f g : Field} :
    markingRecord number a f = markingRecord number b g ↔ a = b ∧ f = g := by
  constructor
  · intro h
    exact leaf_cancel (List.append_cancel_left h)
  · rintro ⟨rfl, rfl⟩
    rfl

theorem markingList_ne (number : Nat) (a : List Char) (f : Field) :
    markingList number ≠ markingRecord number a f := by
  intro h
  have hleaf : '.' ∈ a ++ f.leaf := by
    rw [List.mem_append]
    exact .inr (by cases f <;> decide)
  have heq : "List".toList = a ++ f.leaf := List.append_cancel_left h
  have hlist : '.' ∉ "List".toList := by decide
  exact hlist (heq ▸ hleaf)

theorem recEntry_of_length {name : List Char} (h : name.length < 64) : recEntry name = name :=
  List.take_of_length_le (Nat.le_of_lt_succ h)

theorem length_recEntry (name : List Char) : (recEntry name).length < 64 :=
  (CStr.snprintf name : CStr 64).fits

/-! ## What is written -/

@[simp] theorem Psm.write_same (psm : Psm) (name : List Char) (value : Option (CStr 64)) :
    psm.write name value name = value := if_pos rfl

theorem Psm.write_other (psm : Psm) {name n : List Char} (value : Option (CStr 64)) (h : n ≠ name) :
    psm.write name value n = psm n := if_neg h

/-- The records of fields are written one after the other. -/
def writeAll (fields : List Field) (entry : Field → List Char) (v : Field → Option (CStr 64))
    (psm : Psm) : Psm :=
  fields.foldl (fun psm f => psm.write (entry f) (v f)) psm

theorem writeAll_other {fields : List Field} {entry : Field → List Char}
    {v : Field → Option (CStr 64)} {psm : Psm} {n : List Char} (h : ∀ f ∈ fields, n ≠ entry f) :
    writeAll fields entry v psm n = psm n := by
  induction fields generalizing psm with
  | nil => rfl
  | cons f fields ih =>
    calc writeAll (f :: fields) entry v psm n
        = writeAll fields entry v (psm.write (entry f) (v f)) n := rfl
      _ = psm n := by
        rw [ih fun g hg => h g (by simp [hg]), Psm.write_other psm _ (h f (by simp))]

theorem writeAll_mem {fields : List Field} (entry : Field → List Char)
    (v : Field → Option (CStr 64)) (psm : Psm) {f : Field} (hf : f ∈ fields) :
    ∃ g ∈ fields, writeAll fields entry v psm (entry f) = v g := by
  induction fields generalizing psm f with
  | nil => cases hf
  | cons g fields ih =>
    have hcons : writeAll (g :: fields) entry v psm (entry f) =
        writeAll fields entry v (psm.write (entry g) (v g)) (entry f) := rfl
    by_cases hlater : ∃ f' ∈ fields, entry f = entry f'
    · obtain ⟨f', hf', heq⟩ := hlater
      obtain ⟨k, hk, hv⟩ := ih (psm.write (entry g) (v g)) hf'
      exact ⟨k, by simp [hk], by rw [hcons, heq, hv]⟩
    · have hg : entry f = entry g := by
        obtain rfl | hmem := List.mem_cons.mp hf
        · rfl
        · exact absurd ⟨f, hmem, rfl⟩ hlater
      have hnone : ∀ f' ∈ fields, entry f ≠ entry f' := fun f' hf' he => hlater ⟨f', hf', he⟩
      exact ⟨g, by simp, by rw [hcons, writeAll_other hnone, hg, Psm.write_same]⟩

variable {host} (hset : ∀ name value, host.accepts name value = true)
include hset

theorem setRecords_eq (number : Nat) (m : Marking) (psm : Psm) :
    setRecords host number m psm =
      writeAll Field.all (fun f => recEntry (markingRecord number m.alias_.toList f))
        (fun f => some (.snprintf (value m f))) psm := by
  simp [setRecords, writeAll, dmlWanSetPSMRecordValue, hset]

theorem deleteRecords_eq (number : Nat) (a : List Char) (psm : Psm) :
    deleteRecords host number a psm =
      writeAll Field.all (fun f => recEntry (markingRecord number a f)) (fun _ => none) psm := by
  simp [deleteRecords, writeAll, dmlWanDeletePSMRecordValue, hset]

omit hset

/-! ## Lists -/

/-- An alias that an operation can be about. -/
def Plain (a : List Char) : Prop := a ≠ [] ∧ '-' ∉ a ∧ '%' ∉ a

instance : DecidablePred Plain := fun _ => inferInstanceAs (Decidable (_ ∧ _ ∧ _))

theorem percent_notMem_joined {as : List (List Char)} (h : ∀ a ∈ as, Plain a) :
    '%' ∉ CStr.joined '-' as := by
  cases as with
  | nil => simp [CStr.joined_nil]
  | cons a as =>
    rw [CStr.joined_cons (h a (by simp)).1, List.mem_append, List.mem_flatMap]
    rintro (ha | ⟨b, hb, hmem⟩)
    · exact (h a (by simp)).2.2 ha
    · obtain hdash | hb' := List.mem_cons.mp hmem
      · exact absurd hdash (by decide)
      · exact (h b (by simp [hb])).2.2 hb'

theorem tokens_of_formatted {list : CStr 64} (h : '%' ∉ list.chars) :
    tokens list = some (words '-' list.chars) := by
  rw [tokens, CStr.formatted_of_notMem h, Option.map_some, CStr.snprintf_chars]

theorem tokens_of_joined {list : CStr 64} {as : List (List Char)}
    (hlist : list.chars = CStr.joined '-' as) (h : ∀ a ∈ as, Plain a) : tokens list = some as := by
  rw [tokens_of_formatted (hlist ▸ percent_notMem_joined h), hlist,
    words_joined fun a ha => ⟨(h a ha).1, (h a ha).2.1⟩]

/-- The first token is printed and each later one is appended behind a separator. -/
theorem foldlM_copyOther {a : List Char} {tokens : List (List Char)}
    (h : ∀ w ∈ tokens, w ≠ [] ∧ w.length < 64) {new : Nat × CStr 64}
    (hnew : new.1 = 0 ↔ new.2.chars = []) :
    tokens.foldlM (copyOther a) new =
      ((tokens.filter (· ≠ a)).foldlM (CStr.addItem '-') new.2).map fun list =>
        (new.1 + (tokens.filter (· ≠ a)).length, list) := by
  induction tokens generalizing new with
  | nil => simp
  | cons w tokens ih =>
    obtain ⟨hne, hlen⟩ := h w (by simp)
    have ih : ∀ {new : Nat × CStr 64}, (new.1 = 0 ↔ new.2.chars = []) → _ :=
      ih fun w' hw' => h w' (by simp [hw'])
    by_cases hw : w = a
    · rw [List.foldlM_cons, copyOther, if_pos hw, List.filter_cons_of_neg (by simp [hw])]
      exact ih hnew
    · rw [List.foldlM_cons, copyOther, if_neg hw, List.filter_cons_of_pos (by simp [hw]),
        List.foldlM_cons]
      by_cases hzero : new.1 = 0
      · have hempty := hnew.mp hzero
        have hadd : CStr.addItem '-' new.2 w = some (.snprintf w) := by
          rw [CStr.addItem, if_neg (not_not.mpr hempty), Option.bind_some, CStr.strcat, hempty,
            List.nil_append, CStr.ofList?_eq_some, CStr.chars_snprintf hlen]
        have hfirst : ((1, .snprintf w) : Nat × CStr 64).1 = 0 ↔
            ((1, .snprintf w) : Nat × CStr 64).2.chars = [] := by
          simp [CStr.snprintf, hne]
        rw [if_pos hzero, hadd]
        simp only [Option.bind_eq_bind, Option.bind_some]
        rw [ih hfirst, hzero]
        simp [Nat.add_comm]
      · have hne' : new.2.chars ≠ [] := fun he => hzero (hnew.mpr he)
        have hadd : (do
            let list ← new.2.strcat ['-']
            let list ← list.strcat w
            some (new.1 + 1, list)) =
            (CStr.addItem '-' new.2 w).map fun list => (new.1 + 1, list) := by
          rw [CStr.addItem, if_pos hne']
          cases new.2.strcat ['-'] with
          | none => rfl
          | some list => cases hcat : list.strcat w <;> simp [hcat]
        rw [if_neg hzero, hadd]
        cases hitem : CStr.addItem '-' new.2 w with
        | none => rfl
        | some list =>
          rw [CStr.addItem_of_ne_nil hne', CStr.ofList?_eq_some] at hitem
          have hlater : (new.1 + 1, list).1 = 0 ↔ (new.1 + 1, list).2.chars = [] := by
            simp [hitem]
          simp only [Option.map_some, Option.bind_eq_bind, Option.bind_some]
          rw [ih hlater]
          simp [Nat.add_assoc, Nat.add_comm 1]

theorem listWithout_eq {a : List Char} {tokens : List (List Char)}
    (h : ∀ w ∈ tokens, w ≠ [] ∧ w.length < 64) :
    listWithout a tokens = CStr.ofList? (CStr.joined '-' (tokens.filter (· ≠ a))) := by
  have hnew : ((0, .snprintf []) : Nat × CStr 64).1 = 0 ↔
      ((0, .snprintf []) : Nat × CStr 64).2.chars = [] := by
    simp [CStr.snprintf]
  rw [listWithout, foldlM_copyOther h hnew, CStr.foldlM_addItem '-' _ (by simp [CStr.snprintf])]
  cases hlist : (CStr.ofList? (CStr.joined '-' (tokens.filter (· ≠ a))) : Option (CStr 64)) with
  | none => rfl
  | some list =>
    simp only [Option.map_some, Option.bind_eq_bind, Option.bind_some, Nat.zero_add,
      CStr.snprintf_chars]
    split
    · rename_i hzero
      rw [List.length_eq_zero_iff] at hzero
      rw [hzero, CStr.joined_nil, CStr.ofList?_eq_some] at hlist
      rw [Option.some_inj, CStr.ext_iff, hlist]
      rfl
    · rfl

/-! ## What the operations leave -/

/-- What a run keeps: the aliases are plain, and the names of their records fit. -/
structure Stored (number : Nat) (psm : Psm) (as : List (List Char)) (listed : Bool) : Prop
    extends Persists number psm as where
  plain : ∀ a ∈ as, Plain a
  names : ∀ a ∈ as, ∀ f, (markingRecord number a f).length < 64
  listed : (psm (markingList number)).isSome = listed

section

variable {number : Nat} {a : List Char} {m : Marking} {psm : Psm} {as : List (List Char)}
  {listed : Bool}

theorem writeAll_list {v : Field → Option (CStr 64)}
    (hnames : ∀ f, (markingRecord number a f).length < 64) :
    writeAll Field.all (fun f => recEntry (markingRecord number a f)) v psm (markingList number) =
      psm (markingList number) := by
  apply writeAll_other
  intro f _
  rw [recEntry_of_length (hnames f)]
  exact markingList_ne number a f

/-- Records of one alias are written and those of the others stay. -/
theorem writeAll_record (psm : Psm) (v : Field → Option (CStr 64))
    (hnames : ∀ f, (markingRecord number a f).length < 64) (b : List Char) (f : Field) :
    (b ≠ a → writeAll Field.all (fun f => recEntry (markingRecord number a f)) v psm
        (markingRecord number b f) = psm (markingRecord number b f)) ∧
      ∃ g, writeAll Field.all (fun f => recEntry (markingRecord number a f)) v psm
        (markingRecord number a f) = v g := by
  constructor
  · intro hb
    apply writeAll_other
    intro g _ heq
    rw [recEntry_of_length (hnames g), markingRecord_inj] at heq
    exact hb heq.1
  · obtain ⟨g, -, hg⟩ := writeAll_mem (fun f => recEntry (markingRecord number a f)) v psm
      (mem_all f)
    simp only [recEntry_of_length (hnames f)] at hg
    exact ⟨g, hg⟩

/-- A name that is too long is not written. -/
theorem writeAll_long {v : Field → Option (CStr 64)} {n : List Char} (h : 64 ≤ n.length) :
    writeAll Field.all (fun f => recEntry (markingRecord number a f)) v psm n = psm n := by
  apply writeAll_other
  rintro f - rfl
  exact absurd (length_recEntry (markingRecord number a f)) (by omega)

variable (hset : ∀ name value, host.accepts name value = true)
include hset

theorem stored_add (h : Stored number psm as listed) (hplain : Plain m.alias_.toList)
    (hnew : m.alias_.toList ∉ as)
    (hnames : ∀ f, (markingRecord number m.alias_.toList f).length < 64) {list : CStr 64}
    (hlist : list.chars = CStr.joined '-' (as ++ [m.alias_.toList])) :
    Stored number (setRecords host number m (psm.write (markingList number) (some list)))
      (as ++ [m.alias_.toList]) true := by
  rw [setRecords_eq hset]
  refine ⟨⟨?_, ?_, ?_⟩, ?_, ?_, ?_⟩
  · rw [List.nodup_append]
    refine ⟨h.nodup, by simp, ?_⟩
    rintro a ha b hb rfl
    exact hnew (List.mem_singleton.mp hb ▸ ha)
  · rw [writeAll_list hnames, Psm.write_same]
    exact hlist
  · intro b f
    have hwrite := writeAll_record (psm.write (markingList number) (some list))
      (fun f => some (.snprintf (value m f))) hnames b f
    by_cases hb : b = m.alias_.toList
    · obtain ⟨g, hg⟩ := hwrite.2
      subst hb
      simp [hg]
    · rw [hwrite.1 hb, Psm.write_other psm _ (markingList_ne number b f).symm, h.records]
      simp [hb]
  · intro b hb
    obtain hb | hb := List.mem_append.mp hb
    · exact h.plain b hb
    · exact List.mem_singleton.mp hb ▸ hplain
  · intro b hb
    obtain hb | hb := List.mem_append.mp hb
    · exact h.names b hb
    · exact List.mem_singleton.mp hb ▸ hnames
  · rw [writeAll_list hnames, Psm.write_same]
    rfl

theorem stored_update (h : Stored number psm as listed) (hmem : m.alias_.toList ∈ as) :
    Stored number (setRecords host number m psm) as listed := by
  have hnames := h.names _ hmem
  rw [setRecords_eq hset]
  refine ⟨⟨h.nodup, ?_, ?_⟩, h.plain, h.names, ?_⟩
  · rw [writeAll_list hnames]
    exact h.list
  · intro b f
    have hwrite := writeAll_record psm (fun f => some (.snprintf (value m f))) hnames b f
    by_cases hb : b = m.alias_.toList
    · obtain ⟨g, hg⟩ := hwrite.2
      subst hb
      simp [hg, hmem]
    · rw [hwrite.1 hb, h.records]
  · rw [writeAll_list hnames]
    exact h.listed

theorem stored_delete (h : Stored number psm as listed) (hmem : a ∈ as) {list : CStr 64}
    (hlist : list.chars = CStr.joined '-' (as.erase a)) :
    Stored number ((deleteRecords host number a psm).write (markingList number) (some list))
      (as.erase a) true := by
  have hnames := h.names _ hmem
  rw [deleteRecords_eq hset]
  refine ⟨⟨h.nodup.erase a, ?_, ?_⟩, ?_, ?_, ?_⟩
  · rw [Psm.write_same]
    exact hlist
  · intro b f
    have hwrite := writeAll_record psm (fun _ => none) hnames b f
    rw [Psm.write_other _ _ (markingList_ne number b f).symm, h.nodup.mem_erase_iff]
    by_cases hb : b = a
    · obtain ⟨g, hg⟩ := hwrite.2
      subst hb
      simp [hg]
    · rw [hwrite.1 hb, h.records]
      simp [hb]
  · exact fun b hb => h.plain b (List.mem_of_mem_erase hb)
  · exact fun b hb => h.names b (List.mem_of_mem_erase hb)
  · rw [Psm.write_same]
    rfl

omit hset in
/-- Without support, a request is rejected. -/
theorem call_unsupported (hsup : host.interfaceVLANMarkingSupport = false) (r : Request) :
    r.call host number psm =
      some (if r.op = .add then .success else .failure, r.marking, psm) := by
  cases hop : r.op <;>
    simp [Request.call, hop, dmlAddMarking, dmlDeleteMarking, dmlSetMarking,
      dmlCheckAndProceedMarkingOperations, hsup]

omit hset in
/-- Without a list, nothing is done, and success is reported. -/
theorem call_unlisted (hsup : host.interfaceVLANMarkingSupport = true)
    (hlist : psm (markingList number) = none) (r : Request) :
    r.call host number psm = some (.success, r.marking, psm) := by
  cases hop : r.op <;>
    simp [Request.call, hop, dmlAddMarking, dmlDeleteMarking, dmlSetMarking,
      dmlCheckAndProceedMarkingOperations, hsup, hlist]

omit hset in
theorem Stored.list_chars (h : Stored number psm as listed) {list : CStr 64}
    (hlist : psm (markingList number) = some list) : list.chars = CStr.joined '-' as := by
  have hchars := h.list
  rwa [hlist] at hchars

omit hset in
theorem Stored.fits_erase (h : Stored number psm as listed) {list : CStr 64}
    (hlist : psm (markingList number) = some list) (a : List Char) :
    (CStr.joined '-' (as.erase a)).length < 64 := by
  have hle : (CStr.joined '-' (as.erase a)).length ≤ (CStr.joined '-' as).length :=
    CStr.length_joined_sublist List.erase_sublist fun w hw => (h.plain w hw).1
  have hlt := list.fits
  rw [h.list_chars hlist] at hlt
  exact Nat.lt_of_le_of_lt hle hlt

omit hset in
theorem listWithout_stored (h : Stored number psm as listed) {list : CStr 64}
    (hlist : psm (markingList number) = some list) (a : List Char) :
    listWithout a as = some (.snprintf (CStr.joined '-' (as.erase a))) := by
  have hshort : ∀ w ∈ as, w ≠ [] ∧ w.length < 64 := by
    intro w hw
    have hname := h.names w hw .alias_
    simp only [markingRecord, List.length_append] at hname
    exact ⟨(h.plain w hw).1, by omega⟩
  have herase : as.filter (· ≠ a) = as.erase a := by
    rw [h.nodup.erase_eq_filter]
    congr 1
    funext b
    by_cases hb : b = a <;> simp [hb]
  rw [listWithout_eq hshort, herase, CStr.ofList?_eq_some,
    CStr.chars_snprintf (h.fits_erase hlist a)]

omit hset in
theorem Stored.eq_nil (h : Stored number psm as listed) (hlist : psm (markingList number) = none) :
    as = [] := by
  have hjoined := h.list
  rw [hlist] at hjoined
  cases as with
  | nil => rfl
  | cons a as =>
    have hne := (h.plain a (by simp)).1
    rw [CStr.joined_cons hne] at hjoined
    exact absurd (List.append_eq_nil_iff.mp hjoined.symm).1 hne

/-- What an operation does with a list that can be read. -/
theorem call_listed (hsup : host.interfaceVLANMarkingSupport = true)
    (h : Stored number psm as listed) {list : CStr 64}
    (hlist : psm (markingList number) = some list) {r : Request} (hplain : Plain r.alias_) :
    r.call host number psm =
      match r.op with
      | .add =>
        if r.alias_ ∈ as then some (.success, r.marking, psm)
        else
          some (.success, numbered r.marking, setRecords host number (numbered r.marking)
            (psm.write (markingList number)
              (some (.snprintf (CStr.joined '-' (as ++ [r.alias_]))))))
      | .update =>
        if r.alias_ ∈ as then some (.success, r.marking, setRecords host number r.marking psm)
        else some (.failure, r.marking, psm)
      | .delete =>
        if r.alias_ ∈ as then
          some (.success, r.marking, (deleteRecords host number r.alias_ psm).write
            (markingList number) (some (.snprintf (CStr.joined '-' (as.erase r.alias_)))))
        else some (.failure, r.marking, psm) := by
  have hchars := h.list_chars hlist
  have htokens := tokens_of_joined hchars h.plain
  cases hop : r.op with
  | add =>
    have hsnoc : CStr.joined '-' (as ++ [r.alias_]) =
        if 0 < list.chars.length then list.chars ++ '-' :: r.alias_ else r.alias_ := by
      rw [hchars]
      exact CStr.joined_snoc (fun w hw => (h.plain w hw).1) hplain.1
    have hnew : (if 0 < list.chars.length then .snprintf (list.chars ++ '-' :: r.alias_)
        else .snprintf r.alias_ : CStr 64) = .snprintf (CStr.joined '-' (as ++ [r.alias_])) := by
      rw [hsnoc]
      split <;> rfl
    simp only [Request.alias_] at hnew ⊢
    by_cases hmem : r.marking.alias_.toList ∈ as <;>
      simp [Request.call, hop, dmlAddMarking, dmlCheckAndProceedMarkingOperations, hsup, hlist,
        htokens, dmlWanSetPSMRecordValue, hset, hnew, hmem]
  | update =>
    simp only [Request.alias_]
    by_cases hmem : r.marking.alias_.toList ∈ as <;>
      simp [Request.call, hop, dmlSetMarking, dmlCheckAndProceedMarkingOperations, hsup, hlist,
        htokens, hmem]
  | delete =>
    have hwithout := listWithout_stored h hlist r.alias_
    simp only [Request.alias_] at hwithout ⊢
    by_cases hmem : r.marking.alias_.toList ∈ as <;>
      simp [Request.call, hop, dmlDeleteMarking, dmlCheckAndProceedMarkingOperations, hsup, hlist,
        htokens, hwithout, dmlWanSetPSMRecordValue, hset, hmem]

/-- A request that reaches no fault does what it is for. -/
theorem call_stored (h : Stored number psm as listed) {r : Request} (hplain : Plain r.alias_)
    (hmeets : Meets host number listed r as) :
    ∃ status m psm', r.call host number psm = some (status, m, psm') ∧
      (status = .failure ↔ accepted host r as = none) ∧
      Stored number psm' ((accepted host r as).getD as) listed := by
  obtain ⟨hlisted, hadd⟩ := hmeets
  cases hsup : host.interfaceVLANMarkingSupport with
  | false =>
    have hop : r.op ≠ .add := fun hop => by simp [hsup] at hadd; exact hadd hop
    refine ⟨_, _, _, call_unsupported hsup r, ?_, ?_⟩
    · simp [hop, accepted, hsup]
    · simpa [accepted, hsup] using h
  | true =>
    obtain rfl : listed = true := hlisted hsup
    obtain ⟨list, hlist⟩ := Option.isSome_iff_exists.mp h.listed
    rw [call_listed hset hsup h hlist hplain]
    cases hop : r.op with
    | add =>
      obtain ⟨-, hnew, hfits, hnames⟩ := hadd hop
      have haccepted : accepted host r as = some (as ++ [r.alias_]) := by
        simp [accepted, hsup, hop, hnew]
      refine ⟨_, _, _, if_neg hnew, by simp [haccepted], ?_⟩
      rw [haccepted]
      exact stored_add hset (m := numbered r.marking) h hplain hnew hnames
        (CStr.chars_snprintf hfits)
    | update =>
      by_cases hmem : r.alias_ ∈ as
      · refine ⟨_, _, _, if_pos hmem, ?_, ?_⟩
        · simp [accepted, hsup, hop, hmem]
        · simpa [accepted, hsup, hop, hmem] using stored_update hset h hmem
      · refine ⟨_, _, _, if_neg hmem, ?_, ?_⟩
        · simp [accepted, hsup, hop, hmem]
        · simpa [accepted, hsup, hop, hmem] using h
    | delete =>
      by_cases hmem : r.alias_ ∈ as
      · have haccepted : accepted host r as = some (as.erase r.alias_) := by
          simp [accepted, hsup, hop, hmem]
        refine ⟨_, _, _, if_pos hmem, by simp [haccepted], ?_⟩
        rw [haccepted]
        exact stored_delete hset h hmem (CStr.chars_snprintf (h.fits_erase hlist r.alias_))
      · refine ⟨_, _, _, if_neg hmem, ?_, ?_⟩
        · simp [accepted, hsup, hop, hmem]
        · simpa [accepted, hsup, hop, hmem] using h

omit hset in
theorem KeepsList.persists {rs : List Request} (h : KeepsList host number rs psm as) :
    Persists number psm as := by
  cases rs with
  | nil => exact h
  | cons r rs => exact h.1

/-- A request that does what it is for reaches no fault. -/
theorem meets_of_call (h : Stored number psm as listed) {r : Request} (hplain : Plain r.alias_)
    {status : AnscStatus} {m' : Marking} {psm' : Psm}
    (hcall : r.call host number psm = some (status, m', psm'))
    (hstatus : status = .failure ↔ accepted host r as = none)
    (hpersists : Persists number psm' ((accepted host r as).getD as)) :
    Meets host number listed r as := by
  cases hsup : host.interfaceVLANMarkingSupport with
  | false =>
    rw [call_unsupported hsup, Option.some_inj, Prod.mk.injEq] at hcall
    have hfailure : status = .failure := hstatus.mpr (by simp [accepted, hsup])
    rw [← hcall.1] at hfailure
    refine ⟨fun ht => absurd (hsup.symm.trans ht) (by decide), fun hop => ?_⟩
    rw [if_pos hop] at hfailure
    cases hfailure
  | true =>
    cases hlist : psm (markingList number) with
    | none =>
      rw [call_unlisted hsup hlist, Option.some_inj, Prod.mk.injEq, Prod.mk.injEq] at hcall
      obtain ⟨rfl, -, rfl⟩ := hcall
      have hempty : as = [] := h.eq_nil hlist
      subst hempty
      cases hop : r.op with
      | add =>
        have haccepted : accepted host r [] = some [r.alias_] := by simp [accepted, hsup, hop]
        rw [haccepted] at hpersists
        have hrecord := (hpersists.records r.alias_ .alias_).mpr (by simp)
        exact absurd ((h.records _ _).mp hrecord) (by simp)
      | update => exact absurd (hstatus.mpr (by simp [accepted, hop])) (by decide)
      | delete => exact absurd (hstatus.mpr (by simp [accepted, hop])) (by decide)
    | some list =>
      obtain rfl : listed = true := by rw [← h.listed, hlist]; rfl
      refine ⟨fun _ => rfl, fun hop => ?_⟩
      rw [call_listed hset hsup h hlist hplain, hop] at hcall
      by_cases hmem : r.alias_ ∈ as
      · simp only [if_pos hmem, Option.some_inj, Prod.mk.injEq] at hcall
        have hfailure := hstatus.mpr (by simp [accepted, hsup, hop, hmem])
        rw [← hcall.1] at hfailure
        cases hfailure
      · simp only [if_neg hmem, Option.some_inj, Prod.mk.injEq] at hcall
        obtain ⟨-, -, rfl⟩ := hcall
        have haccepted : accepted host r as = some (as ++ [r.alias_]) := by
          simp [accepted, hsup, hop, hmem]
        rw [haccepted, setRecords_eq hset] at hpersists
        have hnames : ∀ f, (markingRecord number r.alias_ f).length < 64 := by
          intro f
          by_contra hlong
          have hrecord := (hpersists.records r.alias_ f).mpr (by simp)
          rw [writeAll_long (Nat.le_of_not_lt hlong),
            Psm.write_other psm _ (markingList_ne number r.alias_ f).symm, h.records] at hrecord
          exact hmem hrecord
        have hchars := hpersists.list
        rw [writeAll_list (a := (numbered r.marking).alias_.toList) hnames, Psm.write_same,
          Option.map_some, Option.getD_some, Option.getD_some] at hchars
        refine ⟨hsup, hmem, ?_, hnames⟩
        rw [← hchars]
        exact CStr.fits _

/-- With a list that can be read, an addition does what a blob relies on. -/
theorem dmlAddMarking_eq (hsup : host.interfaceVLANMarkingSupport = true) {list : CStr 64}
    (hlist : psm (markingList number) = some list) (hpercent : '%' ∉ list.chars)
    (hfits : list.chars.length + m.alias_.toList.length + 1 < 64)
    (hnames : ∀ f, (markingRecord number m.alias_.toList f).length < 64)
    (hport : m.instanceNumber + 1 < 2 ^ 32) :
    ∃ m' psm', dmlAddMarking host number m psm = some (.success, m', psm') ∧
      WebConfig.dmlAddMarking true (some (String.ofList list.chars)) m =
        (m', (psm' (markingList number)).map fun l => String.ofList l.chars) := by
  have htokens := tokens_of_formatted hpercent
  have hwords : WebConfig.psmTokens (String.ofList list.chars) = words '-' list.chars := by
    simp [WebConfig.psmTokens, words]
  by_cases hmem : m.alias_.toList ∈ words '-' list.chars
  · refine ⟨m, psm, ?_, ?_⟩
    · simp [dmlAddMarking, dmlCheckAndProceedMarkingOperations, hsup, hlist, htokens, hmem]
    · simp [WebConfig.dmlAddMarking, hwords, hmem, hlist]
  · refine ⟨numbered m, setRecords host number (numbered m) (psm.write (markingList number)
      (some (if 0 < list.chars.length then .snprintf (list.chars ++ '-' :: m.alias_.toList)
        else .snprintf m.alias_.toList))), ?_, ?_⟩
    · simp [dmlAddMarking, dmlCheckAndProceedMarkingOperations, hsup, hlist, htokens, hmem,
        dmlWanSetPSMRecordValue, hset]
    · rw [setRecords_eq hset, writeAll_list (a := (numbered m).alias_.toList) hnames,
        Psm.write_same]
      have hport' : numbered m = { m with
          instanceNumber := m.instanceNumber + 1, skbPort := m.instanceNumber + 1
          skbMark := (m.instanceNumber + 1) * 1048576 % 2 ^ 32 } := by
        simp only [numbered, Nat.mod_eq_of_lt hport]
      have hlong : (list.chars ++ '-' :: m.alias_.toList).length < 64 := by
        rw [List.length_append, List.length_cons]
        omega
      have hshort : m.alias_.toList.length < 64 := by omega
      simp only [WebConfig.dmlAddMarking, hwords, hmem, if_false, if_true, String.length_ofList]
      rw [hport', Option.map_some]
      split
      · rw [CStr.chars_snprintf hlong]
        simp [← String.toList_inj]
      · rw [CStr.chars_snprintf hshort, String.ofList_toList]

/-- From a state that is stored, requests keep the list and the records exactly when none of them
reaches a fault. -/
theorem keepsList_iff {rs : List Request} (h : Stored number psm as listed)
    (hplain : ∀ r ∈ rs, Plain r.alias_) :
    KeepsList host number rs psm as ↔ AllMeet host number listed rs as := by
  induction rs generalizing psm as with
  | nil => exact iff_of_true h.toPersists trivial
  | cons r rs ih =>
    have hr := hplain r (by simp)
    have ih : ∀ {psm as}, Stored number psm as listed → _ :=
      fun h => ih h fun r' hr' => hplain r' (by simp [hr'])
    constructor
    · rintro ⟨-, status, m, psm', hcall, hstatus, hrest⟩
      have hmeets := meets_of_call hset h hr hcall hstatus hrest.persists
      obtain ⟨_, _, _, hcall', -, hstored⟩ := call_stored hset h hr hmeets
      rw [hcall, Option.some_inj, Prod.mk.injEq, Prod.mk.injEq] at hcall'
      obtain ⟨rfl, rfl, rfl⟩ := hcall'
      exact ⟨hmeets, (ih hstored).mp hrest⟩
    · rintro ⟨hmeets, hrest⟩
      obtain ⟨status, m, psm', hcall, hstatus, hstored⟩ := call_stored hset h hr hmeets
      exact ⟨h.toPersists, status, m, psm', hcall, hstatus, (ih hstored).mpr hrest⟩

/-- From nothing stored, any requests for plain aliases keep PSM to the aliases added and not
deleted since, and report what is rejected, exactly when the interface has a list and every addition
is of a new alias that fits into 63 characters with the others, and the names of its records
alike. -/
theorem markings_persisted_iff (h : Persists number psm []) {rs : List Request}
    (hplain : ∀ r ∈ rs, Plain r.alias_) :
    KeepsList host number rs psm [] ↔
      AllMeet host number (psm (markingList number)).isSome rs [] :=
  keepsList_iff hset ⟨h, by simp, by simp, rfl⟩ hplain

end

namespace Example

/-- PSM takes everything, and markings are supported. -/
def accepting : Host := ⟨fun _ _ => true, true⟩

/-- An interface whose list is empty. -/
def emptyList : Psm := fun n => if n = markingList 1 then some (.snprintf []) else none

/-- A marking with an alias. -/
def marking (a : String) : Marking := { instanceNumber := 1, alias_ := a }

end Example

open Example in
theorem emptyList_persists : Persists 1 emptyList [] := by
  refine ⟨List.nodup_nil, by simp [emptyList, CStr.joined_nil, CStr.snprintf], fun a f => ?_⟩
  simp [emptyList, (markingList_ne 1 a f).symm]

open Example in
theorem markings_persisted_five :
    KeepsList accepting 1 [⟨.add, marking "VOICE"⟩, ⟨.add, marking "DATA"⟩,
      ⟨.delete, marking "VOICE"⟩, ⟨.update, marking "DATA"⟩, ⟨.delete, marking "VOICE"⟩]
      emptyList [] :=
  (markings_persisted_iff (fun _ _ => rfl) emptyList_persists (by decide)).mpr (by decide)

open Example in
/-- An alias that is added twice is reported as added, and the names of the records of one with 14
characters are cut. -/
theorem markings_not_persisted :
    ¬ KeepsList accepting 1 [⟨.add, marking "VOICE"⟩, ⟨.add, marking "VOICE"⟩] emptyList [] ∧
      ¬ KeepsList accepting 1 [⟨.add, marking "premium_stream"⟩] emptyList [] := by
  have hstored : Stored 1 emptyList [] true := ⟨emptyList_persists, by simp, by simp, rfl⟩
  constructor
  · rw [keepsList_iff (fun _ _ => rfl) hstored (by decide)]
    decide
  · rw [keepsList_iff (fun _ _ => rfl) hstored (by decide)]
    decide

end MarkingRecords

end WanManager
