import Mathlib.Algebra.GroupWithZero.Nat
import Mathlib.Data.List.TakeWhile

/-! # C strings in buffers

A buffer of fixed size holds a string that is shorter. Appends that keep to the buffer, the words
between delimiters that `strtok` hands out, and the pieces `fgets` reads of a file. -/

namespace WanManager.Text

/-- What stands in a buffer of `n` characters, up to its terminator. -/
structure CStr (n : Nat) where
  chars : List Char
  fits : chars.length < n
  deriving DecidableEq

namespace CStr

variable {n : Nat}

@[ext] theorem ext {s t : CStr n} (h : s.chars = t.chars) : s = t := by
  cases s
  cases t
  simpa using h

/-- A text in a buffer, if there is room for it and its terminator. -/
def ofList? (s : List Char) : Option (CStr n) :=
  if h : s.length < n then some ⟨s, h⟩ else none

@[simp] theorem isSome_ofList? {s : List Char} :
    (ofList? s : Option (CStr n)).isSome = decide (s.length < n) := by
  by_cases h : s.length < n <;> simp [ofList?, h]

theorem ofList?_eq_some {s : List Char} {t : CStr n} : ofList? s = some t ↔ t.chars = s := by
  rw [ofList?]
  split
  · rw [Option.some_inj, CStr.ext_iff]
    exact eq_comm
  · rename_i h
    constructor
    · simp
    · rintro rfl
      exact absurd t.fits h

@[simp] theorem ofList?_chars (s : CStr n) : ofList? s.chars = some s := ofList?_eq_some.mpr rfl

/-- The sizes of the buffers that several modules print to. -/
instance neZero_64 : NeZero 64 := ⟨by decide⟩

instance neZero_256 : NeZero 256 := ⟨by decide⟩

/-- `snprintf`, which cuts the text to the buffer. -/
def snprintf [NeZero n] (s : List Char) : CStr n where
  chars := s.take (n - 1)
  fits := by
    have h := Nat.pos_of_neZero n
    rw [List.length_take]
    omega

/-- What fits is printed as it is. -/
theorem chars_snprintf [NeZero n] {s : List Char} (h : s.length < n) :
    (snprintf s : CStr n).chars = s :=
  List.take_of_length_le (Nat.le_sub_one_of_lt h)

@[simp] theorem snprintf_chars [NeZero n] (s : CStr n) : snprintf s.chars = s :=
  CStr.ext (chars_snprintf s.fits)

/-- A buffer that is printed to anew. -/
def refill (b : CStr n) (s : List Char) : CStr n where
  chars := s.take (n - 1)
  fits := by
    have h := b.fits
    rw [List.length_take]
    omega

theorem chars_refill (b : CStr n) {s : List Char} (h : s.length < n) : (b.refill s).chars = s :=
  List.take_of_length_le (Nat.le_sub_one_of_lt h)

/-- What `snprintf` prints of a format that it gets no values for: a conversion in it is not
defined, and `%%` is a percent sign. -/
def formatted : List Char → Option (List Char)
  | [] => some []
  | c :: s =>
    if c = '%' then
      match s with
      | '%' :: s => (formatted s).map ('%' :: ·)
      | _ => none
    else (formatted s).map (c :: ·)

theorem formatted_of_notMem {s : List Char} (h : '%' ∉ s) : formatted s = some s := by
  induction s with
  | nil => rfl
  | cons c s ih =>
    rw [List.mem_cons, not_or] at h
    unfold formatted
    rw [if_neg (Ne.symm h.1), ih h.2, Option.map_some]

/-- Nothing is printed that is not in the format. -/
theorem mem_formatted {s t : List Char} (ht : formatted s = some t) {c : Char} (hc : c ∈ t) :
    c ∈ s := by
  fun_induction formatted s generalizing t with
  | case1 =>
    obtain rfl := Option.some.inj ht
    exact hc
  | case2 s ih =>
    obtain ⟨t, hs, rfl⟩ := Option.map_eq_some_iff.mp ht
    obtain rfl | hc := List.mem_cons.mp hc
    · simp
    · simp [ih hs hc]
  | case3 => cases ht
  | case4 d s _ ih =>
    obtain ⟨t, hs, rfl⟩ := Option.map_eq_some_iff.mp ht
    obtain rfl | hc := List.mem_cons.mp hc
    · simp
    · simp [ih hs hc]

/-- `strcat`; `none` writes past the buffer. -/
def strcat (dst : CStr n) (src : List Char) : Option (CStr n) := ofList? (dst.chars ++ src)

@[simp] theorem strcat_nil (dst : CStr n) : dst.strcat [] = some dst := by
  simp [strcat]

/-- Where a text does not fit, neither does a longer one. -/
theorem ofList?_bind {s : List Char} {f : CStr n → Option (CStr n)} {more : List Char}
    (hf : ∀ t : CStr n, t.chars = s → f t = ofList? (s ++ more)) :
    (ofList? s).bind f = ofList? (s ++ more) := by
  by_cases h : s.length < n
  · have hs : (ofList? s : Option (CStr n)) = some ⟨s, h⟩ := dif_pos h
    rw [hs, Option.bind_some]
    exact hf _ rfl
  · have hlong : ¬ (s ++ more).length < n := by
      rw [List.length_append]
      omega
    rw [ofList?, ofList?, dif_neg h, dif_neg hlong, Option.bind_none]

/-! ## Lists with a separator -/

/-- Appends an item, behind a separator unless it is the first. -/
def addItem (sep : Char) (dst : CStr n) (item : List Char) : Option (CStr n) :=
  (if dst.chars ≠ [] then dst.strcat [sep] else some dst).bind fun dst => dst.strcat item

/-- Appends an item, behind a separator unless it is the first; an empty item adds nothing. -/
def addEntry (sep : Char) (dst : CStr n) (item : List Char) : Option (CStr n) :=
  (if dst.chars ≠ [] ∧ item ≠ [] then dst.strcat [sep] else some dst).bind fun dst =>
    dst.strcat item

/-- The items, separated; what is empty before the first item that is not leaves no trace. -/
def joined (sep : Char) (items : List (List Char)) : List Char :=
  [sep].intercalate (items.dropWhile (· = []))

theorem intercalate_eq_flatMap (sep : Char) (item : List Char) (items : List (List Char)) :
    [sep].intercalate (item :: items) = item ++ items.flatMap (sep :: ·) := by
  induction items generalizing item with
  | nil => simp
  | cons next items ih => simp [ih]

theorem joined_nil (sep : Char) : joined sep [] = [] := rfl

theorem joined_cons_nil (sep : Char) (items : List (List Char)) :
    joined sep ([] :: items) = joined sep items := by
  simp [joined]

theorem joined_cons {sep : Char} {item : List Char} {items : List (List Char)} (h : item ≠ []) :
    joined sep (item :: items) = item ++ items.flatMap (sep :: ·) := by
  simp [joined, h, intercalate_eq_flatMap]

theorem joined_snoc {sep : Char} {items : List (List Char)} {item : List Char}
    (h : ∀ item ∈ items, item ≠ []) (hitem : item ≠ []) :
    joined sep (items ++ [item]) =
      if 0 < (joined sep items).length then joined sep items ++ sep :: item else item := by
  cases items with
  | nil => simp [joined_cons hitem, joined_nil]
  | cons first items =>
    have hfirst := h first (by simp)
    have hpos : 0 < (first ++ items.flatMap (sep :: ·)).length := by
      rw [List.length_append]
      exact Nat.add_pos_left (List.length_pos_iff.mpr hfirst) _
    rw [List.cons_append, joined_cons hfirst, joined_cons hfirst, if_pos hpos]
    simp

theorem length_joined (sep : Char) (items : List (List Char)) :
    (joined sep items).length =
      (items.map List.length).sum + ((items.dropWhile (· = [])).length - 1) := by
  have hflat : ∀ items : List (List Char),
      (items.flatMap (sep :: ·)).length = (items.map List.length).sum + items.length := by
    intro items
    induction items with
    | nil => rfl
    | cons item items ih =>
      simp only [List.flatMap_cons, List.length_append, List.length_cons, List.map_cons,
        List.sum_cons, ih]
      omega
  induction items with
  | nil => rfl
  | cons item items ih =>
    by_cases h : item = []
    · subst h
      simpa [joined_cons_nil] using ih
    · rw [joined_cons h, List.length_append, hflat]
      simp [h, Nat.add_assoc]

theorem length_joined_sublist {sep : Char} {items items' : List (List Char)}
    (h : items.Sublist items') (hne : ∀ item ∈ items', item ≠ []) :
    (joined sep items).length ≤ (joined sep items').length := by
  have hkept : ∀ l : List (List Char), (∀ item ∈ l, item ≠ []) → l.dropWhile (· = []) = l := by
    intro l hl
    cases l with
    | nil => rfl
    | cons item l => rw [List.dropWhile_cons_of_neg (by simpa using hl item (by simp))]
  have hsum : (items.map List.length).sum ≤ (items'.map List.length).sum := by
    clear hne hkept
    induction h with
    | slnil => exact Nat.le_refl _
    | cons item _ ih => simpa using Nat.le_add_left_of_le ih
    | cons_cons item _ ih => simpa using ih
  have hlength := h.length_le
  rw [length_joined, length_joined, hkept _ hne, hkept _ fun item hi => hne item (h.subset hi)]
  omega

/-- The entries that are not empty, separated. -/
def entries (sep : Char) (items : List (List Char)) : List Char :=
  [sep].intercalate (items.filter (· ≠ []))

theorem dropWhile_filter (items : List (List Char)) :
    (items.filter (· ≠ [])).dropWhile (· = []) = items.filter (· ≠ []) := by
  induction items with
  | nil => rfl
  | cons item items ih =>
    by_cases h : item = []
    · rwa [List.filter_cons_of_neg (by simp [h])]
    · rw [List.filter_cons_of_pos (by simp [h]), List.dropWhile_cons_of_neg (by simp [h])]

theorem joined_filter (sep : Char) (items : List (List Char)) :
    joined sep (items.filter (· ≠ [])) = entries sep items := by
  rw [joined, entries, dropWhile_filter]

/-- The room a list of entries of given lengths takes; an empty entry takes none. -/
def entriesLength (lengths : List Nat) : Nat :=
  lengths.sum + ((lengths.filter (0 < ·)).length - 1)

theorem length_entries (sep : Char) (items : List (List Char)) :
    (entries sep items).length = entriesLength (items.map List.length) := by
  have hsum : ((items.filter (· ≠ [])).map List.length).sum = (items.map List.length).sum := by
    induction items with
    | nil => rfl
    | cons item items ih => cases item <;> simpa using ih
  have hcount : (items.filter (· ≠ [])).length =
      ((items.map List.length).filter (0 < ·)).length := by
    clear hsum
    induction items with
    | nil => rfl
    | cons item items ih => cases item <;> simpa using ih
  rw [← joined_filter, length_joined, dropWhile_filter, hsum, hcount, entriesLength]

theorem entriesLength_perm {l l' : List Nat} (h : l.Perm l') :
    entriesLength l = entriesLength l' := by
  rw [entriesLength, entriesLength, h.sum_nat, (h.filter _).length_eq]

theorem addItem_of_ne_nil {sep : Char} {dst : CStr n} (h : dst.chars ≠ []) (item : List Char) :
    addItem sep dst item = ofList? (dst.chars ++ sep :: item) := by
  have hcat : dst.chars ++ sep :: item = (dst.chars ++ [sep]) ++ item := by simp
  rw [addItem, if_pos h, strcat, hcat]
  apply ofList?_bind
  intro t ht
  rw [strcat, ht]

theorem foldlM_addItem_of_ne_nil (sep : Char) (items : List (List Char)) {dst : CStr n}
    (h : dst.chars ≠ []) :
    items.foldlM (addItem sep) dst = ofList? (dst.chars ++ items.flatMap (sep :: ·)) := by
  induction items generalizing dst with
  | nil => simp
  | cons item items ih =>
    rw [List.foldlM_cons, addItem_of_ne_nil h, List.flatMap_cons, ← List.append_assoc]
    apply ofList?_bind
    intro t ht
    have hne : t.chars ≠ [] := by simp [ht]
    rw [ih hne, ht]

/-- Appending item after item to an empty buffer makes their list, if that fits. -/
theorem foldlM_addItem (sep : Char) (items : List (List Char)) {dst : CStr n}
    (h : dst.chars = []) : items.foldlM (addItem sep) dst = ofList? (joined sep items) := by
  induction items with
  | nil => simp [joined_nil, ← h]
  | cons item items ih =>
    rw [List.foldlM_cons, addItem, if_neg (not_not.mpr h), Option.bind_some]
    by_cases hitem : item = []
    · subst hitem
      rw [strcat_nil, joined_cons_nil]
      exact ih
    · rw [strcat, h, List.nil_append, joined_cons hitem]
      apply ofList?_bind
      intro t ht
      have hne : t.chars ≠ [] := by simp [ht, hitem]
      rw [foldlM_addItem_of_ne_nil sep items hne, ht]

theorem addEntry_nil (sep : Char) (dst : CStr n) : addEntry sep dst [] = some dst := by
  simp [addEntry]

theorem addEntry_of_ne_nil {sep : Char} {item : List Char} (h : item ≠ []) (dst : CStr n) :
    addEntry sep dst item = addItem sep dst item := by
  simp [addEntry, addItem, h]

/-- Appending entry after entry to an empty buffer makes the list of those that are not empty, if
that fits. -/
theorem foldlM_addEntry (sep : Char) (items : List (List Char)) {dst : CStr n}
    (h : dst.chars = []) : items.foldlM (addEntry sep) dst = ofList? (entries sep items) := by
  rw [← joined_filter, ← foldlM_addItem sep _ h]
  clear h
  induction items generalizing dst with
  | nil => rfl
  | cons item items ih =>
    by_cases hitem : item = []
    · subst hitem
      rw [List.foldlM_cons, addEntry_nil]
      simpa using ih
    · rw [List.foldlM_cons, addEntry_of_ne_nil hitem, List.filter_cons_of_pos (by simpa using hitem),
        List.foldlM_cons]
      congr 1
      funext dst
      exact ih

end CStr

/-! ## Words -/

/-- The C string at the start of a text: what stands before its first null character. -/
def cString (s : List Char) : List Char := s.takeWhile (· ≠ '\x00')

/-- `strncmp` with the length of the first string as the limit says that they are equal; the second
ends in a null. -/
def strncmp : List Char → List Char → Bool
  | [], _ => true
  | c :: _, [] => c = '\x00'
  | c :: s, d :: t => c = d && (c = '\x00' || strncmp s t)

/-- With such a limit a start is taken for the whole, and so is what goes on behind a null. -/
theorem strncmp_iff {s t : List Char} (h : '\x00' ∉ t) :
    strncmp s t = true ↔ s <+: t ∨ t ++ ['\x00'] <+: s := by
  induction s generalizing t with
  | nil => simp [strncmp]
  | cons c s ih =>
    cases t with
    | nil => simp [strncmp, eq_comm]
    | cons d t =>
      rw [List.mem_cons, not_or] at h
      have hne : d ≠ '\x00' := Ne.symm h.1
      by_cases hcd : c = d
      · simp [strncmp, hcd, hne, ih h.2, List.cons_prefix_cons]
      · have hdc : d ≠ c := Ne.symm hcd
        simp [strncmp, hcd, hdc, List.cons_prefix_cons]

/-- The words of a text between delimiters. -/
def words (d : Char) (s : List Char) : List (List Char) := (s.splitOn d).filter (· ≠ [])

/-- `strtok` with one delimiter: the next word and what it leaves for the next call; `none` is the
null pointer. -/
def strtok (d : Char) (s : List Char) : Option (List Char × List Char) :=
  match s.dropWhile (· = d) with
  | [] => none
  | c :: s => some ((c :: s).takeWhile (· ≠ d), ((c :: s).dropWhile (· ≠ d)).drop 1)

theorem words_delimiter (d : Char) (s : List Char) : words d (d :: s) = words d s := by
  simp [words, List.splitOn_cons_eq_if_modifyHead]

theorem words_dropWhile (d : Char) (s : List Char) :
    words d (s.dropWhile (· = d)) = words d s := by
  induction s with
  | nil => rfl
  | cons c s ih =>
    by_cases h : c = d
    · subst h
      simpa [words_delimiter] using ih
    · simp [h]

theorem words_of_not_mem {d : Char} {w : List Char} (h : d ∉ w) (hne : w ≠ []) :
    words d w = [w] := by
  simp [words, List.splitOn_eq_singleton h, hne]

theorem words_append {d : Char} {w : List Char} (h : d ∉ w) (hne : w ≠ []) (s : List Char) :
    words d (w ++ d :: s) = w :: words d s := by
  simp [words, List.splitOn_append_cons_self_of_not_mem h, hne]

theorem mem_words {d : Char} {s w : List Char} (h : w ∈ words d s) : w ≠ [] ∧ d ∉ w := by
  have hpieces : ∀ w ∈ s.splitOn d, d ∉ w := by
    clear h
    induction s with
    | nil => simp
    | cons c s ih =>
      intro w hw
      rw [List.splitOn_cons_eq_if_modifyHead] at hw
      split at hw
      · obtain rfl | hw := List.mem_cons.mp hw
        · simp
        · exact ih w hw
      · rename_i hc
        obtain ⟨first, rest, hsplit⟩ := List.exists_cons_of_ne_nil (List.splitOn_ne_nil d s)
        rw [hsplit, List.modifyHead_cons] at hw
        rw [hsplit] at ih
        obtain rfl | hw := List.mem_cons.mp hw
        · have hne : d ≠ c := fun he => hc (by simp [he])
          simpa [hne] using ih first (by simp)
        · exact ih w (by simp [hw])
  rw [words, List.mem_filter] at h
  exact ⟨by simpa using h.2, hpieces w h.1⟩

/-- What has been joined comes apart into the same words. -/
theorem words_joined {d : Char} {items : List (List Char)} (h : ∀ w ∈ items, w ≠ [] ∧ d ∉ w) :
    words d (CStr.joined d items) = items := by
  induction items with
  | nil => rfl
  | cons w items ih =>
    obtain ⟨hne, hw⟩ := h w (by simp)
    have ih := ih fun w' hw' => h w' (by simp [hw'])
    rw [CStr.joined_cons hne]
    cases items with
    | nil => simpa using words_of_not_mem hw hne
    | cons next items =>
      rw [CStr.joined_cons (h next (by simp)).1] at ih
      rw [List.flatMap_cons, List.cons_append, words_append hw hne, ih]

/-- The words of a text take no more room than it does. -/
theorem length_joined_words (d : Char) (s : List Char) :
    (CStr.joined d (words d s)).length ≤ s.length := by
  have hlength : ∀ pieces : List (List Char), pieces ≠ [] →
      ([d].intercalate pieces).length = (pieces.map List.length).sum + (pieces.length - 1) := by
    intro pieces hne
    cases pieces with
    | nil => exact absurd rfl hne
    | cons w pieces =>
      rw [CStr.intercalate_eq_flatMap]
      induction pieces with
      | nil => simp
      | cons next pieces ih =>
        have ih := ih (by simp)
        simp only [List.length_append, List.map_cons, List.sum_cons, List.length_cons,
          List.flatMap_cons] at ih ⊢
        omega
  have hs := hlength (s.splitOn d) (List.splitOn_ne_nil d s)
  rw [List.intercalate_splitOn] at hs
  have hcount := List.length_filter_le (fun n => decide (0 < n)) ((s.splitOn d).map List.length)
  rw [words, CStr.joined_filter, CStr.length_entries, CStr.entriesLength]
  simp only [List.length_map] at hcount
  omega

/-- The first word, and the words behind it. -/
theorem words_cons {c d : Char} (hc : c ≠ d) (t : List Char) :
    words d (c :: t) =
      (c :: t).takeWhile (· ≠ d) :: words d ((c :: t).dropWhile (· ≠ d)) := by
  have hw : d ∉ (c :: t).takeWhile (· ≠ d) := by
    intro hd
    simpa using List.mem_takeWhile_imp hd
  have hne : (c :: t).takeWhile (· ≠ d) ≠ [] := by simp [hc]
  have hsplit := List.takeWhile_append_dropWhile (p := (· ≠ d)) (l := c :: t)
  cases hrest : (c :: t).dropWhile (· ≠ d) with
  | nil =>
    rw [hrest, List.append_nil] at hsplit
    rw [hsplit] at hw
    rw [hsplit, words_of_not_mem hw (by simp)]
    rfl
  | cons e rest =>
    have he : e = d := by
      have hhead := List.head?_dropWhile_not (· ≠ d) (c :: t)
      rw [hrest] at hhead
      simpa using hhead
    subst he
    have hwords := words_append hw hne rest
    rw [hrest] at hsplit
    rw [words_delimiter]
    rwa [hsplit] at hwords

/-- `strtok` hands out the words one by one. -/
theorem strtok_eq (d : Char) (s : List Char) :
    (words d s = [] ∧ strtok d s = none) ∨
      ∃ w rest, words d s = w :: words d rest ∧ strtok d s = some (w, rest) := by
  rw [← words_dropWhile, strtok]
  cases hs : s.dropWhile (· = d) with
  | nil => exact .inl ⟨rfl, rfl⟩
  | cons c t =>
    have hc : c ≠ d := by
      have hhead := List.head?_dropWhile_not (· = d) s
      simpa [hs] using hhead
    refine .inr ⟨_, _, ?_, rfl⟩
    rw [words_cons hc]
    congr 1
    cases hrest : (c :: t).dropWhile (· ≠ d) with
    | nil => rfl
    | cons e rest =>
      have hhead := List.head?_dropWhile_not (· ≠ d) (c :: t)
      rw [hrest] at hhead
      obtain rfl : e = d := by simpa using hhead
      exact words_delimiter e rest

/-- What `strtok` leaves of a text when it has handed out all its words: the first one is the rest
of the C string. -/
def strtokLeft (d : Char) (s : List Char) : List Char :=
  s.takeWhile (· = d) ++ (s.dropWhile (· = d)).takeWhile (· ≠ d)

theorem length_strtokLeft (d : Char) (s : List Char) : (strtokLeft d s).length ≤ s.length := by
  have hsplit := congrArg List.length (List.takeWhile_append_dropWhile (p := (· = d)) (l := s))
  have hle := (List.takeWhile_prefix (p := (· ≠ d)) (l := s.dropWhile (· = d))).length_le
  simp only [strtokLeft, List.length_append] at hsplit ⊢
  omega

theorem words_strtokLeft (d : Char) (s : List Char) :
    words d (strtokLeft d s) = (words d s).take 1 := by
  have hskip : ∀ before w : List Char, (∀ c ∈ before, c = d) →
      words d (before ++ w) = words d w := by
    intro before w hbefore
    induction before with
    | nil => rfl
    | cons c before ih =>
      obtain rfl := hbefore c (by simp)
      rw [List.cons_append, words_delimiter, ih fun c' hc' => hbefore c' (by simp [hc'])]
  have hw : d ∉ (s.dropWhile (· = d)).takeWhile (· ≠ d) := by
    intro hd
    simpa using List.mem_takeWhile_imp hd
  rw [strtokLeft, hskip _ _ fun c hc => by simpa using List.mem_takeWhile_imp hc]
  obtain ⟨hnil, hstrtok⟩ | ⟨w, rest, hwords, hstrtok⟩ := strtok_eq d s
  · rw [strtok] at hstrtok
    cases hs : s.dropWhile (· = d) with
    | nil => rw [hnil]; rfl
    | cons c t => simp [hs] at hstrtok
  · rw [strtok] at hstrtok
    cases hs : s.dropWhile (· = d) with
    | nil => simp [hs] at hstrtok
    | cons c t =>
      rw [hs] at hstrtok hw
      have hc : c ≠ d := by
        have hhead := List.head?_dropWhile_not (· = d) s
        simpa [hs] using hhead
      obtain ⟨rfl, -⟩ := Prod.mk.inj (Option.some.inj hstrtok)
      rw [hwords, words_of_not_mem hw (by simp [hc])]
      rfl

/-! ## Lines -/

/-- What the calls of `fgets` read of a file into a buffer of `size` characters: up to the end of a
line, and at most `size - 1` characters. -/
def fgetsPieces (size : Nat) : List Char → List Char → List (List Char)
  | [], [] => []
  | piece, [] => [piece]
  | piece, c :: text =>
    if c = '\n' ∨ size ≤ piece.length + 2 then (piece ++ [c]) :: fgetsPieces size [] text
    else fgetsPieces size (piece ++ [c]) text

/-- What the calls of `getline` read of a file, when a line has begun. -/
def getlines : List Char → List Char → List (List Char)
  | line, [] => if line = [] then [] else [line]
  | line, c :: text =>
    if c = '\n' then (line ++ [c]) :: getlines [] text else getlines (line ++ [c]) text

theorem getlines_append {body : List Char} (h : '\n' ∉ body) (line text : List Char) :
    getlines line (body ++ '\n' :: text) = (line ++ body ++ ['\n']) :: getlines [] text := by
  induction body generalizing line with
  | nil => simp [getlines]
  | cons c body ih =>
    rw [List.mem_cons, not_or] at h
    rw [List.cons_append, getlines, if_neg (Ne.symm h.1), ih h.2]
    simp

/-- Lines that have been written one after the other are read again. -/
theorem getlines_flatten {bodies : List (List Char)} (h : ∀ body ∈ bodies, '\n' ∉ body) :
    getlines [] (bodies.flatMap (· ++ ['\n'])) = bodies.map (· ++ ['\n']) := by
  induction bodies with
  | nil => rfl
  | cons body bodies ih =>
    have ih := ih fun b hb => h b (by simp [hb])
    rw [List.flatMap_cons, List.append_assoc, List.singleton_append,
      getlines_append (h body (by simp)), ih, List.nil_append, List.map_cons]

/-! ## Searching -/

/-- `strstr`: the text from the first occurrence on; `none` is the null pointer. -/
def strstr (sub : List Char) : List Char → Option (List Char)
  | [] => if sub = [] then some [] else none
  | c :: s => if sub <+: c :: s then some (c :: s) else strstr sub s

theorem strstr_of_prefix {sub s : List Char} (h : sub <+: s) : strstr sub s = some s := by
  cases s with
  | nil => rw [strstr, if_pos (List.prefix_nil.mp h)]
  | cons c s => rw [strstr, if_pos h]

/-- The end of a line is not searched for. -/
theorem infix_line {sub body : List Char} (h : '\n' ∉ sub) :
    sub <:+: body ++ ['\n'] ↔ sub <:+: body := by
  rw [List.infix_concat_iff, List.suffix_concat_iff]
  constructor
  · rintro ((rfl | ⟨t, rfl, -⟩) | hbody)
    · exact List.nil_infix
    · exact absurd (List.mem_append_right t (List.mem_singleton_self _)) h
    · exact hbody
  · exact .inr

theorem strstr_eq_none {sub s : List Char} : strstr sub s = none ↔ ¬ sub <:+: s := by
  induction s with
  | nil => simp [strstr]
  | cons c s ih =>
    rw [strstr, List.infix_cons_iff]
    by_cases h : sub <+: c :: s
    · simp [h]
    · simp [h, ih]

end WanManager.Text
