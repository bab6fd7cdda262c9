import WanManager.Text.CString
import WanManager.Text.Scan
import WanManager.Types

/-! # Recovery of the stored records

`WanMgr_CheckAndResetV2PSMEntries` looks for interfaces whose records in PSM are corrupted, and
then takes the records of all interfaces from the file of the defaults. The number of interfaces is
in the range of an `int`. -/

namespace WanManager

namespace RecordRecovery

open Text

/-! ## The function -/

/-- The records in PSM. -/
abbrev Psm := List Char → Option (List Char)

def ifName (i : Nat) : List Char := "dmsb.wanmanager.if.".toList ++ decimal i

/-- `PSM_WANMANAGER_IF_BASEINTERFACE` -/
def ifBaseInterface (i : Nat) : List Char := ifName i ++ ".BaseInterface".toList

/-- `PSM_WANMANAGER_IF_SELECTION_ENABLE` -/
def ifSelectionEnable (i : Nat) : List Char := ifName i ++ ".Selection.Enable".toList

/-- `PSM_WANMANAGER_IF_VIRIF_ENABLE` -/
def ifVirifEnable (i j : Nat) : List Char :=
  ifName i ++ ".VirtualInterface.".toList ++ decimal j ++ ".Enable".toList

/-- `WanMgr_RdkBus_GetParamValuesFromDB` with the 256 characters of `param_value` -/
def getParamValuesFromDB (psm : Psm) (name : List Char) : Option (CStr 256) :=
  (psm name).map CStr.snprintf

/-- The loop over the interfaces, with `psmDefaultSetRequired` so far. -/
def checkInterfaces (psm : Psm) : List Nat → Bool → Bool
  | [], required => required
  | i :: is, required =>
    if (getParamValuesFromDB psm (ifBaseInterface i)).any (·.chars = []) then true
    else if (getParamValuesFromDB psm (ifSelectionEnable i)).any (·.chars = "TRUE".toList) then
      -- the flag is set anew, whatever it was
      checkInterfaces psm is
        !(getParamValuesFromDB psm (ifVirifEnable i 1)).any (·.chars = "TRUE".toList)
    else checkInterfaces psm is required

/-- A line that is about the base or a virtual interface. -/
def isMarked (line : List Char) : Bool :=
  (Text.strstr "dmsb.wanmanager.if.".toList line).isSome &&
    ((Text.strstr ".BaseInterface".toList line).isSome ||
      (Text.strstr ".VirtualInterface".toList line).isSome)

/-- `sscanf` with `%*[^<]<Record name="%[^"]%*[^>]>%[^<]%*[^\n]`; what is not stored is empty, and
`none` writes past a buffer. -/
def scanRecord (line : List Char) : Option (CStr 512 × CStr 256) := do
  let name := do
    let s ← scanUntil '<' line
    let s ← scanText "<Record".toList s.2
    let s ← scanText "name=\"".toList (s.dropWhile isBlank)
    scanUntil '"' s
  let value := do
    let s ← name
    let s ← scanUntil '>' s.2
    let s ← scanText ['>'] s.2
    scanUntil '<' s
  let paramName ← CStr.ofList? ((name.map Prod.fst).getD [])
  let paramValue ← CStr.ofList? ((value.map Prod.fst).getD [])
  some (paramName, paramValue)

/-- `WanMgr_CheckAndResetV2PSMEntries`, with the records that are written. -/
def checkAndResetV2PSMEntries (psm : Psm) (ifaceCount : Nat) (file : Option (List Char)) :
    Option (AnscStatus × List (CStr 512 × CStr 256)) :=
  if !checkInterfaces psm (List.range' 1 ifaceCount) false then some (.success, [])
  else
    match file with
    | none => some (.failure, [])
    | some text =>
      (((getlines [] text).filter isMarked).mapM scanRecord).map ((.success, ·))

/-! ## The file of the defaults -/

/-- The texts that lines are searched for. -/
def marks : List (List Char) :=
  ["dmsb.wanmanager.if.".toList, ".BaseInterface".toList, ".VirtualInterface".toList]

/-- A name of a record of the base or a virtual interface. -/
def Concerned (name : List Char) : Prop :=
  "dmsb.wanmanager.if.".toList <:+: name ∧
    (".BaseInterface".toList <:+: name ∨ ".VirtualInterface".toList <:+: name)

instance (name : List Char) : Decidable (Concerned name) := inferInstanceAs (Decidable (_ ∧ _))

/-- A line with a record; what the lines are searched for stands in names only. -/
structure RecordLine where
  indent : List Char
  name : CStr 512
  attrs : List Char
  value : CStr 256
  tail : List Char
  indent_ne : indent ≠ []
  name_ne : name.chars ≠ []
  indent_free : '<' ∉ indent
  name_free : '"' ∉ name.chars
  attrs_free : '>' ∉ attrs
  value_free : '<' ∉ value.chars
  newline : ∀ s ∈ [indent, name.chars, attrs, value.chars, tail], '\n' ∉ s
  before_free : ∀ mark ∈ marks, ¬ mark <:+: indent ++ "<Record name=".toList
  after_free : ∀ mark ∈ marks, ¬ mark <:+: attrs ++ '>' :: value.chars ++ '<' :: tail

def RecordLine.text (r : RecordLine) : List Char :=
  r.indent ++ "<Record name=".toList ++ '"' :: (r.name.chars ++ '"' ::
    (r.attrs ++ '>' :: r.value.chars ++ '<' :: r.tail))

/-- A line of the file. -/
inductive Line where
  | record (r : RecordLine)
  | other (text : List Char) (newline : '\n' ∉ text) (unmarked : isMarked text = false)

def Line.text : Line → List Char
  | .record r => r.text
  | .other text _ _ => text

/-- The default of a line. -/
def Line.default? : Line → Option (CStr 512 × CStr 256)
  | .record r => if Concerned r.name.chars then some (r.name, r.value) else none
  | .other _ _ _ => none

abbrev DefaultFile := List Line

def DefaultFile.text (file : DefaultFile) : List Char :=
  (file.map Line.text).flatMap (· ++ ['\n'])

/-- The defaults of the base and virtual interfaces. -/
def DefaultFile.defaults (file : DefaultFile) : List (CStr 512 × CStr 256) :=
  file.filterMap Line.default?

/-! ## What the function is for -/

def EmptyBase (psm : Psm) (i : Nat) : Prop := psm (ifBaseInterface i) = some []

def Selected (psm : Psm) (i : Nat) : Prop := psm (ifSelectionEnable i) = some "TRUE".toList

def VirtualEnabled (psm : Psm) (i : Nat) : Prop := psm (ifVirifEnable i 1) = some "TRUE".toList

instance (psm : Psm) (i : Nat) : Decidable (EmptyBase psm i) := inferInstanceAs (Decidable (_ = _))

instance (psm : Psm) (i : Nat) : Decidable (Selected psm i) := inferInstanceAs (Decidable (_ = _))

instance (psm : Psm) (i : Nat) : Decidable (VirtualEnabled psm i) :=
  inferInstanceAs (Decidable (_ = _))

def Corrupted (psm : Psm) (i : Nat) : Prop :=
  EmptyBase psm i ∨ Selected psm i ∧ ¬ VirtualEnabled psm i

/-- The records are taken from the defaults if and only if an interface is corrupted. -/
def Recovers (psm : Psm) (ifaceCount : Nat) (file : DefaultFile) : Prop :=
  ∃ status writes,
    checkAndResetV2PSMEntries psm ifaceCount (some file.text) = some (status, writes) ∧
      ((∃ i, 1 ≤ i ∧ i ≤ ifaceCount ∧ Corrupted psm i) → writes = file.defaults) ∧
      (¬ (∃ i, 1 ≤ i ∧ i ≤ ifaceCount ∧ Corrupted psm i) → writes = [])

/-- The interfaces with selection enabled, in order. -/
def selecting (psm : Psm) (is : List Nat) : List Nat := is.filter fun i => Selected psm i

/-! ## The verdict -/

variable {psm : Psm} {is : List Nat}

/-- A short value is told from all others in spite of the buffer. -/
theorem any_getParamValuesFromDB {name t : List Char} (h : t.length < 255) :
    (getParamValuesFromDB psm name).any (·.chars = t) ↔ psm name = some t := by
  rw [getParamValuesFromDB]
  cases psm name with
  | none => simp
  | some v =>
    have hcut : v.take 255 = t ↔ v = t := by
      constructor
      · rintro rfl
        rw [List.length_take] at h
        exact (List.take_of_length_le (by omega)).symm
      · rintro rfl
        exact List.take_of_length_le (by omega)
    simpa [CStr.snprintf] using hcut

/-- The loop comes to an interface with an empty record, or its verdict is that of the last
interface with selection enabled. -/
theorem checkInterfaces_iff (required : Bool) :
    checkInterfaces psm is required = true ↔
      (∃ i ∈ is, EmptyBase psm i) ∨
        ((selecting psm is).getLast?.elim (required = true) fun i => ¬ VirtualEnabled psm i) := by
  induction is generalizing required with
  | nil => simp [checkInterfaces, selecting]
  | cons i is ih =>
    have hbase : (getParamValuesFromDB psm (ifBaseInterface i)).any (·.chars = []) ↔
        EmptyBase psm i := any_getParamValuesFromDB (by decide)
    have hselected : (getParamValuesFromDB psm (ifSelectionEnable i)).any
        (·.chars = "TRUE".toList) ↔ Selected psm i := any_getParamValuesFromDB (by decide)
    have hvirtual : (getParamValuesFromDB psm (ifVirifEnable i 1)).any
        (·.chars = "TRUE".toList) ↔ VirtualEnabled psm i := any_getParamValuesFromDB (by decide)
    simp only [checkInterfaces, hbase, hselected, List.exists_mem_cons_iff]
    by_cases hempty : EmptyBase psm i
    · simp [hempty]
    by_cases hsel : Selected psm i
    · have hlast : (selecting psm (i :: is)).getLast? =
          some ((selecting psm is).getLast?.getD i) := by
        rw [selecting, List.filter_cons_of_pos (by simpa using hsel), List.getLast?_cons]
        rfl
      rw [if_neg hempty, if_pos hsel, ih, hlast]
      cases (selecting psm is).getLast? with
      | none => simp [hempty, ← hvirtual]
      | some j => simp [hempty]
    · have hrest : selecting psm (i :: is) = selecting psm is :=
        List.filter_cons_of_neg (by simpa using hsel)
      rw [if_neg hempty, if_neg hsel, ih, hrest]
      simp [hempty]

/-! ## The defaults -/

theorem isMarked_iff {line : List Char} : isMarked line = true ↔ Concerned line := by
  have hfound : ∀ mark, (Text.strstr mark line).isSome = true ↔ mark <:+: line := by
    intro mark
    rw [← not_iff_not, ← strstr_eq_none, Option.not_isSome_iff_eq_none]
  rw [isMarked, Bool.and_eq_true, Bool.or_eq_true, hfound, hfound, hfound, Concerned]

theorem mark_line {mark line : List Char} (h : mark ∈ marks) :
    mark <:+: line ++ ['\n'] ↔ mark <:+: line := by
  have hfree : ∀ mark ∈ marks, '\n' ∉ mark := by decide
  exact infix_line (hfree mark h)

theorem isMarked_line (line : List Char) : isMarked (line ++ ['\n']) = isMarked line := by
  rw [Bool.eq_iff_iff, isMarked_iff, isMarked_iff, Concerned, Concerned,
    mark_line (by decide), mark_line (by decide), mark_line (by decide)]

theorem mark_record {mark : List Char} (h : mark ∈ marks) (r : RecordLine) :
    mark <:+: r.text ↔ mark <:+: r.name.chars := by
  have hfree : ∀ mark ∈ marks, '"' ∉ mark := by decide
  rw [RecordLine.text, infix_beside (hfree mark h), infix_beside (hfree mark h),
    or_iff_right (r.before_free mark h), or_iff_left (r.after_free mark h)]

theorem isMarked_record (r : RecordLine) : isMarked r.text = true ↔ Concerned r.name.chars := by
  rw [isMarked_iff, Concerned, Concerned, mark_record (by decide), mark_record (by decide),
    mark_record (by decide)]

theorem scanRecord_record (r : RecordLine) :
    scanRecord (r.text ++ ['\n']) = some (r.name, r.value) := by
  have htext : r.text ++ ['\n'] =
      r.indent ++ '<' :: ("Record name=".toList ++ '"' :: (r.name.chars ++ '"' ::
        (r.attrs ++ '>' :: (r.value.chars ++ '<' :: (r.tail ++ ['\n']))))) := by
    simp [RecordLine.text]
  have hindent := scanUntil_append r.indent_free r.indent_ne
  have hrecord : ∀ s, scanText "<Record".toList ('<' :: ("Record name=".toList ++ '"' :: s)) =
      some (' ' :: "name=".toList ++ '"' :: s) :=
    fun s => scanText_append "<Record".toList (" name=\"".toList ++ s)
  have hblank : ∀ s, (' ' :: "name=".toList ++ '"' :: s).dropWhile isBlank =
      "name=\"".toList ++ s := by
    intro s
    simp [isBlank]
  have hname := scanUntil_append r.name_free r.name_ne
  have hattrs : ∀ s, scanUntil '>' ('"' :: (r.attrs ++ '>' :: s)) =
      some ('"' :: r.attrs, '>' :: s) :=
    @scanUntil_append '>' ('"' :: r.attrs) (by simp [r.attrs_free]) (by simp)
  have hgreater : ∀ s, scanText ['>'] ('>' :: s) = some s := scanText_append ['>']
  rw [htext, scanRecord]
  simp only [Option.bind_eq_bind, hindent, Option.bind_some, hrecord, hblank, scanText_append,
    hname, hattrs, hgreater, Option.map_some, Option.getD_some, CStr.ofList?_chars]
  by_cases hvalue : r.value.chars = []
  · have hempty : (CStr.ofList? [] : Option (CStr 256)) = some r.value := by
      rw [CStr.ofList?_eq_some, hvalue]
    simp [hvalue, scanUntil_cons, hempty]
  · simp [scanUntil_append r.value_free hvalue]

theorem newline_notMem_text (l : Line) : '\n' ∉ l.text := by
  cases l with
  | record r =>
    have h := r.newline
    simp only [List.forall_mem_cons] at h
    obtain ⟨hindent, hname, hattrs, hvalue, htail, -⟩ := h
    simp [Line.text, RecordLine.text, hindent, hname, hattrs, hvalue, htail]
  | other text newline unmarked => exact newline

/-- What is written is the defaults. -/
theorem rewrite_defaults (file : DefaultFile) :
    ((getlines [] file.text).filter isMarked).mapM scanRecord = some file.defaults := by
  have hlines : ∀ l ∈ file.map Line.text, '\n' ∉ l := by
    intro l hl
    obtain ⟨l, -, rfl⟩ := List.mem_map.mp hl
    exact newline_notMem_text l
  rw [DefaultFile.text, getlines_flatten hlines]
  clear hlines
  induction file with
  | nil => rfl
  | cons l file ih =>
    cases l with
    | record r =>
      rw [List.map_cons, List.map_cons, Line.text, DefaultFile.defaults, List.filterMap_cons,
        Line.default?]
      by_cases hname : Concerned r.name.chars
      · rw [List.filter_cons_of_pos (by rw [isMarked_line]; exact (isMarked_record r).mpr hname),
          List.mapM_cons, scanRecord_record, ih, if_pos hname]
        rfl
      · rw [List.filter_cons_of_neg (by rw [isMarked_line, isMarked_record r]; exact hname), ih,
          if_neg hname]
        rfl
    | other text newline unmarked =>
      rw [List.map_cons, List.map_cons, Line.text, DefaultFile.defaults, List.filterMap_cons,
        Line.default?, List.filter_cons_of_neg (by rw [isMarked_line, unmarked]; decide), ih]
      rfl

/-! ## When the records are recovered -/

/-- The loop tells whether an interface is corrupted when one has an empty record, or the last interface
with selection enabled is corrupted if any of these is. -/
theorem checkInterfaces_eq (is : List Nat) :
    (checkInterfaces psm is false = true ↔ ∃ i ∈ is, Corrupted psm i) ↔
      (∃ i ∈ is, EmptyBase psm i) ∨
        ((∃ i ∈ is, Selected psm i ∧ ¬ VirtualEnabled psm i) →
          ∀ i ∈ (selecting psm is).getLast?, ¬ VirtualEnabled psm i) := by
  rw [checkInterfaces_iff]
  by_cases hempty : ∃ i ∈ is, EmptyBase psm i
  · obtain ⟨i, hi, hbase⟩ := hempty
    exact iff_of_true (iff_of_true (.inl ⟨i, hi, hbase⟩) ⟨i, hi, .inl hbase⟩) (.inl ⟨i, hi, hbase⟩)
  have hcorrupted : (∃ i ∈ is, Corrupted psm i) ↔
      ∃ i ∈ is, Selected psm i ∧ ¬ VirtualEnabled psm i := by
    refine exists_congr fun i => and_congr_right fun hi => or_iff_right ?_
    exact fun hbase => hempty ⟨i, hi, hbase⟩
  rw [hcorrupted, or_iff_right hempty, or_iff_right hempty]
  cases hlast : (selecting psm is).getLast? with
  | none =>
    have hnone : ¬ ∃ i ∈ is, Selected psm i ∧ ¬ VirtualEnabled psm i := by
      rintro ⟨i, hi, hsel, -⟩
      have hmem : i ∈ selecting psm is := List.mem_filter.mpr ⟨hi, decide_eq_true hsel⟩
      rw [List.getLast?_eq_none_iff.mp hlast] at hmem
      exact absurd hmem List.not_mem_nil
    simp [hnone]
  | some j =>
    obtain ⟨hj, hsel⟩ := List.mem_filter.mp (List.mem_of_getLast? hlast)
    rw [decide_eq_true_iff] at hsel
    simp only [Option.elim_some, Option.mem_some, forall_eq']
    constructor
    · exact fun h hexists => h.mpr hexists
    · exact fun h => ⟨fun hvirtual => ⟨j, hj, hsel, hvirtual⟩, h⟩

theorem exists_interface {P : Nat → Prop} {n : Nat} :
    (∃ i, 1 ≤ i ∧ i ≤ n ∧ P i) ↔ ∃ i ∈ List.range' 1 n, P i := by
  refine exists_congr fun i => ?_
  rw [List.mem_range'_1, Nat.add_comm, Nat.lt_succ_iff, and_assoc]

theorem check_file (ifaceCount : Nat) (file : DefaultFile) :
    checkAndResetV2PSMEntries psm ifaceCount (some file.text) =
      some (.success, if checkInterfaces psm (List.range' 1 ifaceCount) false then file.defaults
        else []) := by
  rw [checkAndResetV2PSMEntries, rewrite_defaults]
  cases checkInterfaces psm (List.range' 1 ifaceCount) false <;> rfl

/-- The records are recovered as they should be exactly when a corrupted interface is not followed
by a healthy one with selection enabled, unless one has an empty record or there is nothing to
write. -/
theorem records_recovered_iff (psm : Psm) (ifaceCount : Nat) (file : DefaultFile) :
    Recovers psm ifaceCount file ↔
      file.defaults = [] ∨ (∃ i, 1 ≤ i ∧ i ≤ ifaceCount ∧ EmptyBase psm i) ∨
        ((∃ i, 1 ≤ i ∧ i ≤ ifaceCount ∧ Selected psm i ∧ ¬ VirtualEnabled psm i) →
          ∀ i ∈ (selecting psm (List.range' 1 ifaceCount)).getLast?, ¬ VirtualEnabled psm i) := by
  rw [Recovers, check_file]
  simp only [exists_interface, ← checkInterfaces_eq]
  generalize hcorrupted : (∃ i ∈ List.range' 1 ifaceCount, Corrupted psm i) = corrupted
  by_cases hdefaults : file.defaults = []
  · refine iff_of_true ⟨.success, [], ?_, fun _ => hdefaults.symm, fun _ => rfl⟩ (.inl hdefaults)
    rw [hdefaults, ite_self]
  rw [or_iff_right hdefaults]
  cases checkInterfaces psm (List.range' 1 ifaceCount) false with
  | true =>
    constructor
    · rintro ⟨status, writes, hwrites, -, hnone⟩
      obtain ⟨-, rfl⟩ := Prod.mk.inj (Option.some.inj hwrites)
      exact iff_of_true rfl (Classical.byContradiction fun h => hdefaults (hnone h))
    · intro h
      exact ⟨.success, file.defaults, rfl, fun _ => rfl, fun hnot => absurd (h.mp rfl) hnot⟩
  | false =>
    constructor
    · rintro ⟨status, writes, hwrites, hall, -⟩
      obtain ⟨-, rfl⟩ := Prod.mk.inj (Option.some.inj hwrites)
      exact iff_of_false Bool.false_ne_true fun h => hdefaults (hall h).symm
    · intro h
      exact ⟨.success, [], rfl, fun hc => absurd (h.mpr hc) Bool.false_ne_true, fun _ => rfl⟩

/-! ## Examples -/

namespace Example

def baseRecord : RecordLine where
  indent := "  ".toList
  name := ⟨"dmsb.wanmanager.if.1.BaseInterface".toList, by decide⟩
  attrs := " type=\"astr\"".toList
  value := ⟨"erouter0".toList, by decide⟩
  tail := "/Record>".toList
  indent_ne := by decide
  name_ne := by decide
  indent_free := by decide
  name_free := by decide
  attrs_free := by decide
  value_free := by decide
  newline := by decide
  before_free := by decide
  after_free := by decide

def defaults : DefaultFile :=
  [.other "<Provision>".toList (by decide) (by decide), .record baseRecord]

/-- Selection is enabled for both interfaces, and the virtual interface of the first one is not. -/
def healedPsm : Psm := fun name =>
  if name = ifBaseInterface 1 then some "eth0".toList
  else if name = ifBaseInterface 2 then some "eth1".toList
  else if name = ifSelectionEnable 1 ∨ name = ifSelectionEnable 2 then some "TRUE".toList
  else if name = ifVirifEnable 1 1 then some "FALSE".toList
  else if name = ifVirifEnable 2 1 then some "TRUE".toList
  else none

end Example

/-- A corrupted interface is forgotten at a healthy one behind it. -/
theorem corruption_forgotten : ¬ Recovers Example.healedPsm 2 Example.defaults := by
  rintro ⟨status, writes, hresult, hall, -⟩
  have hnothing : checkAndResetV2PSMEntries Example.healedPsm 2 (some Example.defaults.text) =
      some (.success, []) := by decide +kernel
  obtain ⟨-, rfl⟩ := Prod.mk.inj (Option.some.inj (hresult.symm.trans hnothing))
  have hcorrupted : Corrupted Example.healedPsm 1 := by
    refine .inr ⟨?_, ?_⟩ <;> decide +kernel
  have hdefaults := hall ⟨1, Nat.le_refl 1, by decide, hcorrupted⟩
  exact absurd hdefaults (by decide +kernel)

end RecordRecovery

end WanManager
