import WanManager.Text.CString
import WanManager.Text.Scan
import WanManager.Types

/-! # What is kept for a restart

`WanMgr_SetRestartWanInfo` and `WanMgr_RestartUpdateCfg` keep values in a file, a line
`key=value` each. Both find the line of a key with `strstr`, wherever it stands in a line. The files
can be opened, written and renamed. -/

namespace WanManager

namespace RestartInfo

open Text

/-! ## The functions -/

/-- A parameter, which is a format for its key when it has an index; a negative index is none. -/
structure Key where
  param : List Char
  idx : Option Nat := none
  deriving DecidableEq, Repr

/-- What a conversion makes of an `int` that is not negative. One that takes something else has no
meaning. -/
def digitsOf (idx : Nat) : Char → Option (List Char)
  | 'd' | 'i' | 'u' => some (Nat.toDigits 10 idx)
  | 'o' => some (Nat.toDigits 8 idx)
  | 'x' => some (Nat.toDigits 16 idx)
  | 'X' => some ((Nat.toDigits 16 idx).map Char.toUpper)
  | _ => none

/-- The digits in a field of the given width. -/
def inField (flags : List Char) (width : Nat) (digits : List Char) : List Char :=
  if '-' ∈ flags then digits ++ List.replicate (width - digits.length) ' '
  else List.replicate (width - digits.length) (if '0' ∈ flags then '0' else ' ') ++ digits

/-- A conversion behind its `%`, with the flags `0` and `-` and a width, and what follows it. -/
def conversion (idx : Nat) (s : List Char) : Option (List Char × List Char) :=
  let flags := s.takeWhile (['0', '-'].contains ·)
  let field := s.dropWhile (['0', '-'].contains ·)
  let width := Nat.ofDigitChars 10 (field.takeWhile Char.isDigit) 0
  match field.dropWhile Char.isDigit with
  | c :: rest => (digitsOf idx c).map fun digits => (inField flags width digits, rest)
  | [] => none

/-- What `snprintf` prints of a format and one `int`. -/
def printed (idx : Nat) : List Char → Option (List Char)
  | [] => some []
  | c :: s =>
    if c = '%' then
      match s with
      | '%' :: s => (printed idx s).map ('%' :: ·)
      | s => (conversion idx s).bind fun r => (CStr.formatted r.2).map (r.1 ++ ·)
    else (printed idx s).map (c :: ·)

example : printed 10 "wan.if.%03x.enable".toList = some "wan.if.00a.enable".toList := by decide +kernel

/-- The text of a key. -/
def Key.text? (k : Key) : Option (List Char) :=
  match k.idx with
  | some idx => printed idx k.param
  | none => some k.param

/-- `key` -/
def Key.buffer (k : Key) : Option (CStr 256) := k.text?.map CStr.snprintf

/-- `WanMgr_SetRestartWanInfo`: the file when it is done. It reports success. -/
def setRestartWanInfo (k : Key) (value : List Char) (file : Option (List Char)) :
    Option (List Char) := do
  let key ← k.buffer
  let kept := (getlines [] (file.getD [])).filter fun line => (Text.strstr key.chars line).isNone
  let keyValue : CStr 512 := .snprintf (key.chars ++ '=' :: value ++ ['\n'])
  some (kept.flatten ++ keyValue.chars)

/-- `WanMgr_RestartUpdateCfg`; `none` reads behind the end of a line or in front of the output. -/
def restartUpdateCfg {n : Nat} (k : Key) (file : Option (List Char)) (output : CStr n) :
    Option (AnscStatus × CStr n) :=
  match file with
  | none => some (.failure, output)
  | some text => do
    let key ← k.buffer
    match (getlines [] text).findSome? (Text.strstr key.chars) with
    | none => some (.success, output.refill [])
    | some c =>
      if c.length ≤ key.chars.length then none
      else
        let output := output.refill (c.drop (key.chars.length + 1))
        match output.chars.getLast? with
        -- `output[strlen(output) - 1]`
        | none => none
        | some last =>
          some (.success, if last = '\n' then output.refill output.chars.dropLast else output)

/-! ## What they are for -/

/-- What has been stored last for each key, in the order of the calls. -/
abbrev Stored := List (Key × List Char)

/-- The value of a key; one that has not been set is empty. -/
def Stored.value (stored : Stored) (k : Key) : List Char :=
  ((stored.find? (·.1 = k)).map Prod.snd).getD []

def Stored.set (stored : Stored) (k : Key) (value : List Char) : Stored :=
  stored.filter (·.1 ≠ k) ++ [(k, value)]

/-- A call of one of the functions. -/
inductive Call where
  | set (k : Key) (value : List Char)
  | get (k : Key) (size : Nat) (output : CStr size)

/-- What is stored after a call. -/
def Call.stored : Call → Stored → Stored
  | .set k value, stored => stored.set k value
  | .get _ _ _, stored => stored

/-- The calls of a run keep to the memory they are given, and each that reads a key reads what has
been stored for it. -/
def Keeps : List Call → Option (List Char) → Stored → Prop
  | [], _, _ => True
  | .set k value :: calls, file, stored =>
    ∃ text, setRestartWanInfo k value file = some text ∧
      Keeps calls (some text) (stored.set k value)
  | .get k _ output :: calls, file, stored =>
    (∃ status output', restartUpdateCfg k file output = some (status, output') ∧
      output'.chars = stored.value k) ∧ Keeps calls file stored

/-! ## When that holds -/

/-- The text of a key, when it has one. -/
def Key.text (k : Key) : List Char := k.text?.getD []

/-- The line of a value, without its end. -/
def line (e : Key × List Char) : List Char := e.1.text ++ '=' :: e.2

/-- Keys and values have no newline and fit their buffers. -/
def Call.Fits : Call → Prop
  | .set k value => '\n' ∉ k.param ∧ '\n' ∉ value ∧ k.text.length < 256 ∧
      k.text.length + value.length + 2 < 512
  | .get k _ _ => '\n' ∉ k.param ∧ k.text.length < 256

/-- The lines of other keys do not have a key in them. -/
def Apart (k : Key) (stored : Stored) : Prop :=
  ∀ e ∈ stored, e.1 ≠ k → ¬ k.text <:+: line e

/-- A call does not meet a fault: the format of its key is right, and a key that is set, or is read
and has not been set, is in no other line; an output has room for a value and its newline or a part
of it, and is empty while there is no file. -/
def Meets (stored : Stored) : Call → Prop
  | .set k _ => k.text?.isSome ∧ Apart k stored
  | .get k size output =>
    if stored = [] then output.chars = []
    else k.text?.isSome ∧
      if k ∈ stored.map Prod.fst then (stored.value k).length < size ∧ 1 < size
      else Apart k stored

instance : ∀ c : Call, Decidable c.Fits
  | .set _ _ => inferInstanceAs (Decidable (_ ∧ _))
  | .get _ _ _ => inferInstanceAs (Decidable (_ ∧ _))

instance (k : Key) (stored : Stored) : Decidable (Apart k stored) :=
  inferInstanceAs (Decidable (∀ e ∈ stored, e.1 ≠ k → ¬ k.text <:+: line e))

instance (stored : Stored) : ∀ c, Decidable (Meets stored c)
  | .set k _ => inferInstanceAs (Decidable (k.text?.isSome ∧ Apart k stored))
  | .get k size output => inferInstanceAs (Decidable (if stored = [] then output.chars = [] else
      k.text?.isSome ∧ if k ∈ stored.map Prod.fst then (stored.value k).length < size ∧ 1 < size
        else Apart k stored))

/-- No call of a run meets a fault. -/
def AllMeet : List Call → Stored → Prop
  | [], _ => True
  | call :: calls, stored => Meets stored call ∧ AllMeet calls (call.stored stored)

instance : ∀ calls stored, Decidable (AllMeet calls stored)
  | [], _ => .isTrue trivial
  | call :: calls, stored =>
    have := instDecidableAllMeet calls (call.stored stored)
    inferInstanceAs (Decidable (_ ∧ _))

/-! ## Keys -/

theorem mem_toDigits {b n : Nat} (hb : 1 < b) {c : Char} (hc : c ∈ Nat.toDigits b n) :
    ∃ d : Nat, c = d.digitChar := by
  induction n using Nat.strongRecOn with
  | ind n ih =>
    rw [Nat.toDigits_eq_if hb] at hc
    split at hc
    · exact ⟨n, List.mem_singleton.mp hc⟩
    · next hn =>
      rcases List.mem_append.mp hc with hc | hc
      · exact ih _ (Nat.div_lt_self (by omega) hb) hc
      · exact ⟨n % b, List.mem_singleton.mp hc⟩

theorem digitChar_ne_newline (d : Nat) : d.digitChar ≠ '\n' ∧ d.digitChar.toUpper ≠ '\n' :=
  match d with
  | 0 | 1 | 2 | 3 | 4 | 5 | 6 | 7 | 8 | 9 | 10 | 11 | 12 | 13 | 14 | 15 => by decide
  | _ + 16 => by simp [Nat.digitChar]

theorem newline_notMem_digitsOf {idx : Nat} {c : Char} {digits : List Char}
    (h : digitsOf idx c = some digits) : '\n' ∉ digits := by
  have hlower {b : Nat} (hb : 1 < b) : '\n' ∉ Nat.toDigits b idx := fun hmem => by
    obtain ⟨d, hd⟩ := mem_toDigits hb hmem
    exact (digitChar_ne_newline d).1 hd.symm
  unfold digitsOf at h
  split at h <;> cases h
  any_goals exact hlower (by decide)
  intro hmem
  obtain ⟨c, hc, hupper⟩ := List.mem_map.mp hmem
  obtain ⟨d, rfl⟩ := mem_toDigits (by decide) hc
  exact (digitChar_ne_newline d).2 hupper

theorem newline_notMem_inField {flags digits : List Char} {width : Nat} (h : '\n' ∉ digits) :
    '\n' ∉ inField flags width digits := by
  unfold inField
  split
  · simp [h]
  · split <;> simp [h]

/-- A conversion prints no newline, and what follows it is the end of the format. -/
theorem conversion_spec {idx : Nat} {s text rest : List Char} (h : conversion idx s = some (text, rest)) :
    '\n' ∉ text ∧ ∀ c ∈ rest, c ∈ s := by
  unfold conversion at h
  dsimp only at h
  split at h
  · next c rest' hfield =>
    obtain ⟨digits, hdigits, heq⟩ := Option.map_eq_some_iff.mp h
    obtain ⟨rfl, rfl⟩ := Prod.mk.inj heq
    refine ⟨newline_notMem_inField (newline_notMem_digitsOf hdigits), fun c' hc' => ?_⟩
    have hmem : c' ∈ (s.dropWhile (['0', '-'].contains ·)).dropWhile Char.isDigit := by
      rw [hfield]
      exact List.mem_cons_of_mem _ hc'
    exact (List.dropWhile_sublist _).subset ((List.dropWhile_sublist _).subset hmem)
  · cases h

theorem newline_notMem_printed {idx : Nat} {s t : List Char} (ht : printed idx s = some t) (h : '\n' ∉ s) :
    '\n' ∉ t := by
  fun_induction printed idx s generalizing t with
  | case1 =>
    obtain rfl := Option.some.inj ht
    exact h
  | case2 s ih =>
    obtain ⟨t, hs, rfl⟩ := Option.map_eq_some_iff.mp ht
    have hrest := ih hs (by simpa using h)
    simpa using hrest
  | case3 s =>
    obtain ⟨⟨text, rest⟩, hconversion, ht⟩ := Option.bind_eq_some_iff.mp ht
    obtain ⟨more, hmore, rfl⟩ := Option.map_eq_some_iff.mp ht
    obtain ⟨htext, hrest⟩ := conversion_spec hconversion
    rw [List.mem_append, not_or]
    exact ⟨htext, fun hmem => h (List.mem_cons_of_mem _ (hrest _ (CStr.mem_formatted hmore hmem)))⟩
  | case4 d s _ ih =>
    obtain ⟨t, hs, rfl⟩ := Option.map_eq_some_iff.mp ht
    rw [List.mem_cons, not_or] at h ⊢
    exact ⟨h.1, ih hs h.2⟩

theorem buffer_of_isSome {k : Key} (h : k.text?.isSome) : k.buffer = some (.snprintf k.text) := by
  obtain ⟨t, ht⟩ := Option.isSome_iff_exists.mp h
  rw [Key.buffer, Key.text, ht, Option.map_some, Option.getD_some]

theorem newline_notMem_text {k : Key} (h : '\n' ∉ k.param) : '\n' ∉ k.text := by
  cases htext : k.text? with
  | none => simp [Key.text, htext]
  | some t =>
    rw [Key.text, htext, Option.getD_some]
    rw [Key.text?] at htext
    split at htext
    · exact newline_notMem_printed htext h
    · exact Option.some.inj htext ▸ h

/-! ## The file -/

/-- The file has the lines of what is stored, and no line has the key of a later one in it. -/
structure Written (stored : Stored) (file : Option (List Char)) : Prop where
  file : file = if stored = [] then none else some (stored.flatMap fun e => line e ++ ['\n'])
  nodup : (stored.map Prod.fst).Nodup
  lines : ∀ e ∈ stored, '\n' ∉ line e
  apart : stored.Pairwise fun e e' => ¬ e'.1.text <:+: line e

variable {stored : Stored} {file : Option (List Char)} {k : Key} {value : List Char}

theorem Written.getlines (h : Written stored file) :
    getlines [] (file.getD []) = stored.map fun e => line e ++ ['\n'] := by
  have hlines : ∀ l ∈ stored.map line, '\n' ∉ l := by
    intro l hl
    obtain ⟨e, he, rfl⟩ := List.mem_map.mp hl
    exact h.lines e he
  have hread := getlines_flatten hlines
  rw [List.flatMap_map, List.map_map] at hread
  rw [h.file]
  split
  · rename_i hnil
    subst hnil
    rfl
  · exact hread

theorem prefix_line (k : Key) (value : List Char) : k.text <+: line (k, value) :=
  List.prefix_append k.text ('=' :: value)

/-- The lines that are kept are those of the other keys. -/
theorem filter_lines (hnewline : '\n' ∉ k.text)
    (hapart : ∀ e ∈ stored, e.1 ≠ k → ¬ k.text <:+: line e) :
    ((stored.map fun e => line e ++ ['\n']).filter fun line => (Text.strstr k.text line).isNone) =
      (stored.filter (·.1 ≠ k)).map fun e => line e ++ ['\n'] := by
  rw [List.filter_map]
  congr 1
  apply List.filter_congr
  intro e he
  rw [Function.comp_apply, Bool.eq_iff_iff, Option.isNone_iff_eq_none, strstr_eq_none,
    infix_line hnewline, decide_eq_true_iff]
  constructor
  · rintro hnot rfl
    exact hnot (prefix_line e.1 e.2).isInfix
  · exact hapart e he

/-- A line that is written behind those of the other keys. -/
theorem Written.set (h : Written stored file) (hline : '\n' ∉ line (k, value))
    (hapart : ∀ e ∈ stored, e.1 ≠ k → ¬ k.text <:+: line e) :
    Written (stored.set k value)
      (some ((stored.set k value).flatMap fun e => line e ++ ['\n'])) := by
  refine ⟨by simp [Stored.set], ?_, ?_, ?_⟩
  · rw [Stored.set, List.map_append, List.map_singleton, List.nodup_append]
    refine ⟨h.nodup.sublist (List.filter_sublist.map _), by simp, ?_⟩
    rintro a ha b hb rfl
    obtain rfl := List.mem_singleton.mp hb
    obtain ⟨e, he, rfl⟩ := List.mem_map.mp ha
    simp at he
  · intro e he
    obtain he | he := List.mem_append.mp he
    · exact h.lines e (List.mem_of_mem_filter he)
    · obtain rfl := List.mem_singleton.mp he
      exact hline
  · rw [Stored.set, List.pairwise_append]
    refine ⟨h.apart.sublist List.filter_sublist, List.pairwise_singleton _ _, ?_⟩
    intro e he e' he'
    obtain rfl := List.mem_singleton.mp he'
    rw [List.mem_filter, decide_eq_true_iff] at he
    exact hapart e he.1 he.2

theorem written_set (h : Written stored file) (hfits : (Call.set k value).Fits)
    (hmeets : Meets stored (.set k value)) :
    ∃ text, setRestartWanInfo k value file = some text ∧
      Written (stored.set k value) (some text) := by
  obtain ⟨hparam, hvalue, hkey, hline⟩ := hfits
  obtain ⟨htext, hapart⟩ := hmeets
  have hnewline := newline_notMem_text hparam
  have hbuffer := buffer_of_isSome htext
  have hwhole : '\n' ∉ line (k, value) := by
    rw [line, List.mem_append, List.mem_cons]
    rintro (hmem | hmem | hmem)
    · exact hnewline hmem
    · exact absurd hmem (by decide)
    · exact hvalue hmem
  have hkeyValue : (CStr.snprintf (k.text ++ '=' :: value ++ ['\n']) : CStr 512).chars =
      line (k, value) ++ ['\n'] := by
    apply CStr.chars_snprintf
    simp only [List.length_append, List.length_cons, List.length_nil]
    omega
  refine ⟨_, ?_, h.set hwhole hapart⟩
  rw [setRestartWanInfo, hbuffer]
  simp only [Option.bind_eq_bind, Option.bind_some, CStr.chars_snprintf hkey, h.getlines,
    filter_lines hnewline hapart, hkeyValue]
  simp [Stored.set, List.flatMap]

/-! ## Reading -/

theorem Written.value_mem (h : Written stored file) (hk : k ∈ stored.map Prod.fst) :
    (k, stored.value k) ∈ stored := by
  obtain ⟨e, he, rfl⟩ := List.mem_map.mp hk
  rw [Stored.value, find?_of_nodup h.nodup he]
  exact he

theorem Written.newline_notMem_value (h : Written stored file) (hk : k ∈ stored.map Prod.fst) :
    '\n' ∉ stored.value k := by
  intro hmem
  apply h.lines _ (h.value_mem hk)
  simp [line, hmem]

theorem value_eq_nil (hk : k ∉ stored.map Prod.fst) : stored.value k = [] := by
  have hnone : stored.find? (·.1 = k) = none := by
    rw [List.find?_eq_none]
    intro e he heq
    rw [decide_eq_true_iff] at heq
    exact hk (heq ▸ List.mem_map_of_mem he)
  rw [Stored.value, hnone]
  rfl

/-- No line has a key in it. -/
theorem findSome?_eq_none (h : Written stored file) (hparam : '\n' ∉ k.param)
    (hapart : ∀ e ∈ stored, ¬ k.text <:+: line e) :
    (getlines [] (file.getD [])).findSome? (Text.strstr k.text) = none := by
  rw [h.getlines, List.findSome?_map, List.findSome?_eq_none_iff]
  intro e he
  rw [Function.comp_apply, strstr_eq_none, infix_line (newline_notMem_text hparam)]
  exact hapart e he

/-- The first line that has a stored key in it is the line of the key. -/
theorem findSome?_eq_line (h : Written stored file) (hparam : '\n' ∉ k.param)
    (hk : k ∈ stored.map Prod.fst) :
    (getlines [] (file.getD [])).findSome? (Text.strstr k.text) =
      some (line (k, stored.value k) ++ ['\n']) := by
  obtain ⟨before, after, hstored⟩ := List.append_of_mem (h.value_mem hk)
  have hpairs := h.apart
  rw [hstored, List.pairwise_append] at hpairs
  have hbefore : before.findSome? (Text.strstr k.text ∘ fun e => line e ++ ['\n']) = none := by
    rw [List.findSome?_eq_none_iff]
    intro e he
    rw [Function.comp_apply, strstr_eq_none, infix_line (newline_notMem_text hparam)]
    exact hpairs.2.2 e he (k, stored.value k) (List.mem_cons_self ..)
  have hown : Text.strstr k.text (line (k, stored.value k) ++ ['\n']) =
      some (line (k, stored.value k) ++ ['\n']) :=
    strstr_of_prefix ((prefix_line k (stored.value k)).trans (List.prefix_append _ _))
  rw [h.getlines, hstored, List.findSome?_map, List.findSome?_append, hbefore, Option.none_or,
    List.findSome?_cons, Function.comp_apply]
  rw [← hstored, hown]

/-- The value is read, with the end of its line when there is room, which is taken off. -/
theorem restartUpdateCfg_line {size : Nat} (output : CStr size) {text : List Char}
    (hbuffer : k.buffer = some (.snprintf k.text)) (hkey : k.text.length < 256)
    (hfound : (getlines [] text).findSome? (Text.strstr k.text) =
      some (line (k, value) ++ ['\n']))
    (hvalue : '\n' ∉ value) (hsize : value.length < size) (hone : 1 < size) :
    ∃ output', restartUpdateCfg k (some text) output = some (.success, output') ∧
      output'.chars = value := by
  have hlength : ¬ (line (k, value) ++ ['\n']).length ≤ k.text.length := by
    simp only [line, List.length_append, List.length_cons]
    omega
  have hdrop : (line (k, value) ++ ['\n']).drop (k.text.length + 1) = value ++ ['\n'] := by
    rw [line, List.append_assoc, List.drop_length_add_append, List.cons_append, List.drop_one,
      List.tail_cons]
  simp only [restartUpdateCfg, hbuffer, Option.bind_eq_bind, Option.bind_some,
    CStr.chars_snprintf hkey, hfound, if_neg hlength, hdrop]
  by_cases hroom : value.length + 1 < size
  · have hchars : (output.refill (value ++ ['\n'])).chars = value ++ ['\n'] :=
      CStr.chars_refill output (by simpa using hroom)
    refine ⟨(output.refill (value ++ ['\n'])).refill value, ?_, CStr.chars_refill _ hsize⟩
    rw [hchars, List.getLast?_concat, List.dropLast_concat]
    simp
  · have hchars : (output.refill (value ++ ['\n'])).chars = value := by
      have hcut : size - 1 = value.length := by omega
      change (value ++ ['\n']).take (size - 1) = value
      rw [hcut, List.take_left]
    have hne : value ≠ [] := by
      rintro rfl
      simp at hroom
      omega
    refine ⟨output.refill (value ++ ['\n']), ?_, hchars⟩
    rw [hchars, List.getLast?_eq_some_getLast hne]
    have hlast : value.getLast hne ≠ '\n' := fun heq => hvalue (heq ▸ List.getLast_mem hne)
    simp only [if_neg hlast]

theorem get_none (h : Written [] file) {size : Nat} {output : CStr size}
    (houtput : output.chars = []) :
    restartUpdateCfg k file output = some (.failure, output) ∧
      output.chars = Stored.value [] k := by
  rw [h.file]
  exact ⟨rfl, houtput⟩

theorem written_get (h : Written stored file) {size : Nat} {output : CStr size}
    (hfits : (Call.get k size output).Fits) (hmeets : Meets stored (.get k size output)) :
    ∃ status output', restartUpdateCfg k file output = some (status, output') ∧
      output'.chars = stored.value k := by
  obtain ⟨hparam, hkey⟩ := hfits
  rw [Meets] at hmeets
  split at hmeets
  · rename_i hnil
    subst hnil
    exact ⟨_, _, get_none h hmeets⟩
  rename_i hne
  obtain ⟨htext, hmeets⟩ := hmeets
  have hbuffer := buffer_of_isSome htext
  have hfile := h.file
  rw [if_neg hne] at hfile
  split at hmeets
  · rename_i hmem
    obtain ⟨hsize, hone⟩ := hmeets
    have hfound := findSome?_eq_line h hparam hmem
    rw [hfile, Option.getD_some] at hfound
    have hvalue := h.newline_notMem_value hmem
    obtain ⟨output', hread, hchars⟩ :=
      restartUpdateCfg_line output hbuffer hkey hfound hvalue hsize hone
    exact ⟨.success, output', hfile ▸ hread, hchars⟩
  · rename_i hmem
    have hapart : ∀ e ∈ stored, ¬ k.text <:+: line e := by
      intro e he
      exact hmeets e he fun heq => hmem (heq ▸ List.mem_map_of_mem he)
    have hfound := findSome?_eq_none h hparam hapart
    rw [hfile, Option.getD_some] at hfound
    refine ⟨.success, output.refill [], ?_, ?_⟩
    · rw [hfile, restartUpdateCfg, hbuffer]
      simp only [Option.bind_eq_bind, Option.bind_some, CStr.chars_snprintf hkey, hfound]
    · rw [value_eq_nil hmem]
      simp [CStr.refill]

/-! ## Runs -/

/-- What a run does holds of the file and of what is stored, from any file that has been written. -/
theorem keeps_of_written {calls : List Call} (h : Written stored file)
    (hfits : ∀ c ∈ calls, c.Fits) (hmeets : AllMeet calls stored) : Keeps calls file stored := by
  induction calls generalizing stored file with
  | nil => trivial
  | cons call calls ih =>
    have hcall := hfits call (List.mem_cons_self ..)
    have hrest : ∀ c ∈ calls, c.Fits := fun c hc => hfits c (List.mem_cons_of_mem _ hc)
    obtain ⟨hmeet, hmeets⟩ := hmeets
    cases call with
    | set k value =>
      obtain ⟨text, htext, hwritten⟩ := written_set h hcall hmeet
      exact ⟨text, htext, ih hwritten hrest hmeets⟩
    | get k size output => exact ⟨written_get h hcall hmeet, ih h hrest hmeets⟩

/-- As long as no key is in the line of another one, a key that is read has the value it was set to
last. -/
theorem restart_info_kept (calls : List Call) (hfits : ∀ c ∈ calls, c.Fits)
    (hmeets : AllMeet calls []) : Keeps calls none [] := by
  have hwritten : Written [] none := ⟨rfl, List.nodup_nil, by simp, List.Pairwise.nil⟩
  exact keeps_of_written hwritten hfits hmeets

/-! ## Examples -/

namespace Example

def enable (idx : Nat) : Key := ⟨"wan.if.%d.enable".toList, some idx⟩

def name : Key := ⟨"name".toList, none⟩

def alias' : Key := ⟨"wan.name".toList, none⟩

def empty : CStr 8 := ⟨[], by decide⟩

def apart : List Call :=
  [.get name 8 empty, .set (enable 1) "true".toList, .set (enable 11) "false".toList,
    .set (enable 1) [], .get (enable 11) 8 empty, .get (enable 1) 8 ⟨['x'], by decide⟩,
    .get name 8 empty]

def contained : List Call :=
  [.set alias' "erouter0".toList, .set name "eth0".toList, .get alias' 9 ⟨[], by decide⟩]

end Example

theorem restart_info_kept_apart : Keeps Example.apart none [] :=
  restart_info_kept Example.apart (by decide +kernel) (by decide +kernel)

/-- A key that is set takes a key away that has it as its end. -/
theorem restart_info_lost :
    (∀ c ∈ Example.contained, c.Fits) ∧ ¬ Keeps Example.contained none [] := by
  refine ⟨by decide +kernel, ?_⟩
  rintro ⟨text, htext, text', htext', ⟨status, output', hread, hvalue⟩, -⟩
  have hfirst : setRestartWanInfo Example.alias' "erouter0".toList none =
      some "wan.name=erouter0\n".toList := by decide +kernel
  obtain rfl := Option.some.inj (htext.symm.trans hfirst)
  have hsecond : setRestartWanInfo Example.name "eth0".toList
      (some "wan.name=erouter0\n".toList) = some "name=eth0\n".toList := by decide +kernel
  obtain rfl := Option.some.inj (htext'.symm.trans hsecond)
  have hempty : restartUpdateCfg Example.alias' (some "name=eth0\n".toList)
      (⟨[], by decide⟩ : CStr 9) = some (.success, ⟨[], by decide⟩) := by decide +kernel
  obtain ⟨-, rfl⟩ := Prod.mk.inj (Option.some.inj (hread.symm.trans hempty))
  exact absurd hvalue (by decide +kernel)

end RestartInfo

end WanManager
